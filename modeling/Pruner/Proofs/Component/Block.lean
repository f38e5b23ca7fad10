import Mathlib.Data.List.Infix
import Pruner.Component.Removal
import Pruner.Proofs.Markup.Block

/-!
# Components of one block

Where no section starts, a component goes over into the markup as it stands, and where no brace opens,
the markup goes over into the safe markup. A removal from a document of one block is a removal from
the attributes of that block.
-/

namespace Pruner.Component

open Markup

/-! ### Sections -/

namespace Section

/-- No opening tag of a section stands in a text. -/
def TagFree (name text : List Char) : Prop :=
  ∀ t, t <:+ text → openTag? name t = none

instance (name text : List Char) : Decidable (TagFree name text) :=
  decidable_of_iff (∀ t ∈ text.tails, openTag? name t = none) (by simp only [List.mem_tails, TagFree])

theorem at?_of_openTag? {name text : List Char} (h : openTag? name text = none) :
    at? name text = none := by
  rw [at?, h, Option.bind_none]

theorem openTag?_of_ne {name : List Char} {c : Char} (hc : c ≠ '<') (cs : List Char) :
    openTag? name (c :: cs) = none := by
  rw [openTag?]
  intro _ h
  exact hc (List.cons.inj h).1

end Section

theorem extract_cons_of_at? {name cs : List Char} {c : Char}
    (h : Section.at? name (c :: cs) = none) :
    extract name (c :: cs) = ⟨(extract name cs).sections, c :: (extract name cs).rest⟩ := by
  rw [extract, h]

/-- An angle is passed over if the first letter of the name does not follow it. -/
theorem extract_angle {letter d : Char} (hd : spells letter d = false) (word cs : List Char) :
    extract (letter :: word) ('<' :: d :: cs) =
      ⟨(extract (letter :: word) (d :: cs)).sections,
        '<' :: (extract (letter :: word) (d :: cs)).rest⟩ := by
  apply extract_cons_of_at?
  apply Section.at?_of_openTag?
  rw [Section.openTag?, afterWord?, if_neg (by simp [hd]), Option.bind_none]

/-- Text without an angle is passed over. -/
theorem extract_append_of_not_mem (name : List Char) {s : List Char} (hs : '<' ∉ s) (t : List Char) :
    extract name (s ++ t) = ⟨(extract name t).sections, s ++ (extract name t).rest⟩ := by
  induction s with
  | nil => rfl
  | cons c cs ih =>
      obtain ⟨hc, hcs⟩ := not_or.mp (mt List.mem_cons.mpr hs)
      rw [List.cons_append,
        extract_cons_of_at? (Section.at?_of_openTag? (Section.openTag?_of_ne (Ne.symm hc) _)), ih hcs,
        List.cons_append]

theorem extract_of_not_mem (name : List Char) {s : List Char} (hs : '<' ∉ s) :
    extract name s = ⟨[], s⟩ := by
  have happend := extract_append_of_not_mem name hs []
  rwa [List.append_nil, extract, List.append_nil] at happend

/-! ### Expressions -/

/-- Text without a brace is passed over. -/
theorem liftFrom_append_of_not_mem {s : List Char} (hs : '{' ∉ s) (count offset : Nat)
    (t : List Char) :
    liftFrom count offset (s ++ t) =
      ⟨(liftFrom count (offset + s.length) t).text.map (s ++ ·),
        (liftFrom count (offset + s.length) t).sources⟩ := by
  induction s generalizing offset with
  | nil =>
      rw [List.nil_append, List.length_nil, Nat.add_zero]
      obtain ⟨text, sources⟩ := liftFrom count offset t
      cases text <;> rfl
  | cons c cs ih =>
      obtain ⟨hc, hcs⟩ := not_or.mp (mt List.mem_cons.mpr hs)
      have hoffset : offset + 1 + cs.length = offset + (c :: cs).length := by
        rw [List.length_cons]
        omega
      rw [List.cons_append, liftFrom, if_neg (Ne.symm hc), ih hcs, hoffset]
      obtain ⟨text, sources⟩ := liftFrom count (offset + (c :: cs).length) t
      cases text <;> rfl

theorem liftFrom_of_not_mem {s : List Char} (hs : '{' ∉ s) (count offset : Nat) :
    liftFrom count offset s = ⟨.ok s, []⟩ := by
  have happend := liftFrom_append_of_not_mem hs count offset []
  rw [List.append_nil, liftFrom] at happend
  rw [happend]
  exact congrArg (Lifting.mk · []) (congrArg Except.ok (List.append_nil s))

/-! ### Documents -/

namespace Document

variable {content : List Char} (hscript : extract "script".toList content = ⟨[], content⟩)
  (hstyle : extract "style".toList content = ⟨[], content⟩)

include hscript hstyle

/-- A component without sections is all markup. -/
theorem parse_of_lift (reader : Reader) {safe : List Char} {sources : List (List Char)}
    (hlift : liftFrom 0 0 content = ⟨.ok safe, sources⟩) :
    parse reader content =
      (reader safe).map fun elements => ⟨none, none, elements, sources, []⟩ := by
  have hlifted : ExpressionTable.lift [] content = (.ok safe, sources) := by
    rw [ExpressionTable.lift, List.length_nil, hlift, List.nil_append]
  rw [parse]
  simp only [hscript, hstyle, hlifted, List.foldlM_nil]
  cases reader safe <;> rfl

theorem parse_of_lift_error (reader : Reader) {offset : Nat} {sources : List (List Char)}
    (hlift : liftFrom 0 0 content = ⟨.error offset, sources⟩) :
    parse reader content = .error (ParseError.unbalanced offset).failure := by
  have hlifted : ExpressionTable.lift [] content = (.error offset, sources) := by
    rw [ExpressionTable.lift, List.length_nil, hlift, List.nil_append]
  rw [parse]
  simp only [hscript, hstyle, hlifted, List.foldlM_nil]
  rfl

end Document

/-! ### Removal -/

/-- A document of one block, without scripts. -/
def blockDocument (attributes : List Attribute) (table : ExpressionTable)
    (removed : List Occurrence) : Document :=
  ⟨none, none, blockElements attributes, table, removed⟩

theorem remove_blockDocument (attributes : List Attribute) (table : ExpressionTable)
    (names : List String) :
    (blockDocument attributes table []).remove names =
      let removal := removeFromAttributes names.eraseDups "div" table attributes
      blockDocument removal.attributes removal.table removal.removed := by
  simp [blockDocument, blockElements, Document.remove, removeFromScript?, removeFromElements,
    removeFromAttributes]

end Pruner.Component
