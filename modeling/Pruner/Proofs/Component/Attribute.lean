import Pruner.Proofs.Component.Block
import Pruner.Proofs.Component.Frame
import Pruner.Proofs.Component.Reader

/-!
# Removing one attribute by its written name

A name that is listed as it is written meets the name in the tree, which is in lower case and has the
characters spelled out that XML does not admit. The removal takes the case into account but not the
spelling, so it misses the names of directives, which have a colon or an at sign in them.
-/

namespace Pruner.Component

open Markup Text

namespace QuotedAttribute

variable (a : QuotedAttribute)

def lowered : List Char :=
  a.name.map Char.toLower

/-- Whether the name is that of a directive. -/
def IsDirective : Prop :=
  ':' ∈ a.name ∨ '@' ∈ a.name

instance : Decidable a.IsDirective :=
  inferInstanceAs (Decidable (_ ∨ _))

variable {a}

/-! ### Reading the block -/

theorem extract_source (a : QuotedAttribute) (word : List Char) :
    extract ('s' :: word) a.source = ⟨[], a.source⟩ := by
  have hsplit : a.source = '<' :: 'd' :: ("iv ".toList ++ a.name ++ "=\"".toList ++ a.value ++
      "\">".toList ++ '<' :: '/' :: "div>".toList) := by
    unfold source quotedBlock
    simp
  have hfront : '<' ∉ 'd' :: ("iv ".toList ++ a.name ++ "=\"".toList ++ a.value ++
      "\">".toList) := by
    simp [not_mem_of_written a.written, not_mem_value]
  have hback : '<' ∉ '/' :: "div>".toList := by
    decide
  have hstop : extract ('s' :: word) ('<' :: '/' :: "div>".toList) =
      ⟨[], '<' :: '/' :: "div>".toList⟩ := by
    rw [extract_angle (by decide), extract_of_not_mem _ hback]
  rw [hsplit, extract_angle (by decide), ← List.cons_append, extract_append_of_not_mem _ hfront,
    hstop]

theorem lift_source (a : QuotedAttribute) : liftFrom 0 0 a.source = ⟨.ok a.source, []⟩ := by
  apply liftFrom_of_not_mem
  unfold source quotedBlock
  simp [not_mem_of_written a.written, not_mem_value]

theorem parse_source (reader : Reader) (a : QuotedAttribute) :
    Document.parse reader a.source =
      (reader a.source).map fun elements => ⟨none, none, elements, [], []⟩ :=
  Document.parse_of_lift (a.extract_source "cript".toList) (a.extract_source "tyle".toList) reader
    a.lift_source

/-! ### The name in the tree -/

theorem lower_name (a : QuotedAttribute) :
    lower (String.ofList a.name) = String.ofList a.lowered := by
  apply lower_ascii
  intro c hc
  exact isAscii_of_isWritten (a.written c hc)

theorem spelled_of_plain (h : ¬ a.IsDirective) : a.name.flatMap spell = a.lowered := by
  have hplain : ∀ c ∈ a.name, spell c = [c.toLower] := by
    intro c hc
    have hcolon : c ≠ ':' := by
      rintro rfl
      exact h (.inl hc)
    have hat : c ≠ '@' := by
      rintro rfl
      exact h (.inr hc)
    rw [spell, if_neg hcolon, if_neg hat]
  rw [List.flatMap_congr hplain, lowered, List.map_eq_flatMap]

/-- A character that is spelled out takes five more places than the others. -/
theorem length_flatMap_spell (name : List Char) :
    (name.flatMap spell).length = name.length + 5 * name.countP fun c => c == ':' || c == '@' := by
  induction name with
  | nil => rfl
  | cons c cs ih =>
      have hspell : (spell c).length = 1 + 5 * if c == ':' || c == '@' then 1 else 0 := by
        rw [spell]
        split_ifs <;> simp_all
      rw [List.flatMap_cons, List.length_append, ih, List.length_cons, List.countP_cons, hspell]
      omega

/-- The name of a directive is longer in the tree than where it is written. -/
theorem length_lt_spelled (h : a.IsDirective) : a.name.length < (a.name.flatMap spell).length := by
  have hcount : 0 < a.name.countP fun c => c == ':' || c == '@' := by
    rw [List.countP_pos_iff]
    rcases h with h | h
    · exact ⟨':', h, by decide⟩
    · exact ⟨'@', h, by decide⟩
  rw [length_flatMap_spell]
  omega

/-- The written name lists the name in the tree, unless it is the name of a directive. -/
theorem listed_spelled (a : QuotedAttribute) :
    Listed [String.ofList a.name] a.spelled ↔ ¬ a.IsDirective := by
  have hlisted : Listed [String.ofList a.name] a.spelled ↔
      a.name.flatMap spell = a.name ∨ a.lowered = a.name.flatMap spell := by
    simp [Listed, lower_name, spelled, String.ofList_inj]
  rw [hlisted]
  constructor
  · rintro hname hdirective
    have hlonger := length_lt_spelled hdirective
    have hlength : a.lowered.length = a.name.length := by rw [lowered, List.length_map]
    rcases hname with hname | hname
    · rw [hname] at hlonger
      omega
    · rw [← hname] at hlonger
      omega
  · intro hplain
    exact .inr (spelled_of_plain hplain).symm

theorem remove_spelled (a : QuotedAttribute) (value : String) :
    (blockDocument [⟨a.spelled, value⟩] [] []).remove [String.ofList a.name] =
      if a.IsDirective then blockDocument [⟨a.spelled, value⟩] [] []
      else blockDocument [] [] [⟨String.ofList a.lowered, .attr, "div"⟩] := by
  rw [remove_blockDocument, removeFromAttributes, isListed_eraseDups]
  by_cases h : a.IsDirective
  · have hlisted : ¬ Listed [String.ofList a.name] a.spelled :=
      mt a.listed_spelled.mp (not_not_intro h)
    rw [if_pos h, decide_eq_false hlisted]
    rfl
  · rw [if_neg h, decide_eq_true (a.listed_spelled.mpr h), spelled, spelled_of_plain h]
    rfl

end QuotedAttribute

/-- For every reader that spells names as the tree does, a listed attribute is removed whatever its case,
and its removal is recorded, exactly unless it is a directive. A directive is in the document under a name
that is not the listed one, and stays. Where the reader fails, the component cannot be taken apart; where
the document can hold the value, it can. -/
theorem parse_remove_quotedAttribute {reader : Reader} (hreader : SpellsNames reader)
    (a : QuotedAttribute) :
    (∀ failure, Document.parse reader a.source = .error failure ↔ reader a.source = .error failure) ∧
      (a.isHeld = true → ∃ doc, Document.parse reader a.source = .ok doc) ∧
      ∀ doc, Document.parse reader a.source = .ok doc →
        (∃ value, doc = blockDocument [⟨a.spelled, value⟩] [] []) ∧
          doc.remove [String.ofList a.name] =
            if a.IsDirective then doc
            else blockDocument [] [] [⟨String.ofList a.lowered, .attr, "div"⟩] := by
  refine ⟨fun failure => ?_, fun hheld => ?_, fun doc hdoc => ?_⟩
  · rw [a.parse_source]
    cases reader a.source <;> simp [Except.map]
  · obtain ⟨elements, helements⟩ := hreader.reads a hheld
    rw [a.parse_source, helements]
    exact ⟨_, rfl⟩
  · rw [a.parse_source] at hdoc
    cases helements : reader a.source with
    | error failure => simp [helements, Except.map] at hdoc
    | ok elements =>
        obtain ⟨value, rfl⟩ := hreader.spells a elements helements
        rw [helements] at hdoc
        obtain rfl : blockDocument [⟨a.spelled, value⟩] [] [] = doc := Except.ok.inj hdoc
        exact ⟨⟨value, rfl⟩, a.remove_spelled value⟩

/-- A click handler, written as a directive. -/
def clickHandler : QuotedAttribute where
  name := "on:click".toList
  value := "x".toList
  head := ⟨'o', by decide, by decide⟩
  written := by simp [isWritten]
  quiet := by simp

theorem clickHandler_kept :
    SpellsNames Markup.elements ∧ clickHandler.isHeld = true ∧
      ∃ doc, Document.parse Markup.elements clickHandler.source = .ok doc ∧
        doc.remove ["on:click"] = doc := by
  have hheld : clickHandler.isHeld = true := by decide
  have hdirective : clickHandler.IsDirective := by decide
  obtain ⟨-, hparse, hremove⟩ := parse_remove_quotedAttribute spellsNames_elements clickHandler
  obtain ⟨doc, hdoc⟩ := hparse hheld
  have hkept := (hremove doc hdoc).2
  rw [if_pos hdirective] at hkept
  exact ⟨spellsNames_elements, hheld, doc, hdoc, hkept⟩

/-- There is a reader that spells names as the tree does, and with none is the click handler removed. -/
theorem clickHandler_stays :
    SpellsNames Markup.elements ∧
      ¬ ∃ reader : Reader, SpellsNames reader ∧ ∀ a : QuotedAttribute, ∃ doc name,
        Document.parse reader a.source = .ok doc ∧
        ⟨"div", []⟩ ∈ (doc.remove [String.ofList a.name]).elements ∧
        (doc.remove [String.ofList a.name]).removed = doc.removed ++ [⟨name, .attr, "div"⟩] := by
  refine ⟨spellsNames_elements, ?_⟩
  rintro ⟨reader, hreader, h⟩
  obtain ⟨doc, name, hdoc, -, hremoved⟩ := h clickHandler
  have hheld : clickHandler.isHeld = true := by decide
  have hdirective : clickHandler.IsDirective := by decide
  obtain ⟨elements, helements⟩ := hreader.reads clickHandler hheld
  obtain ⟨value, rfl⟩ := hreader.spells clickHandler elements helements
  rw [clickHandler.parse_source, helements] at hdoc
  obtain rfl : blockDocument [⟨clickHandler.spelled, value⟩] [] [] = doc := Except.ok.inj hdoc
  rw [clickHandler.remove_spelled, if_pos hdirective] at hremoved
  simp [blockDocument] at hremoved

end Pruner.Component
