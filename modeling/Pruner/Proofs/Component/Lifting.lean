import Mathlib.Data.List.Nodup
import Pruner.Component.Expression
import Pruner.Proofs.Scan.Excerpt

/-!
# Lifting expressions out of markup

Lifting takes a markup apart into stretches without an opening brace and the expressions between them.
It goes up to the end of the markup, or up to a brace that does not close. Each expression is balanced
by itself and goes to the end of the table, where the place it gets makes its placeholder. Placeholders
differ, so no expression ever takes the place of another one.
-/

namespace Pruner.Component

open Scan

/-! ### Layouts -/

/-- A markup taken apart: stretches, each with the expression behind it, and the stretch at the end. -/
structure Layout where
  parts : List (List Char × List Char)
  last : List Char

namespace Layout

def markup (L : Layout) : List Char :=
  L.parts.flatMap (fun part => part.1 ++ part.2) ++ L.last

def sources (L : Layout) : List (List Char) :=
  L.parts.map Prod.snd

/-- The markup with placeholders, when the table holds `count` expressions already. -/
def masked (L : Layout) (count : Nat) : List Char :=
  (L.parts.zipIdx count).flatMap (fun part => part.1.1 ++ placeholder part.2) ++ L.last

/-- No stretch has an opening brace, and every expression is one balanced span. -/
structure Sound (L : Layout) : Prop where
  stretch : ∀ part ∈ L.parts, '{' ∉ part.1
  expression : ∀ part ∈ L.parts, closing? part.2 0 = some (part.2.length - 1)
  last : '{' ∉ L.last

/-- One more character in front. -/
def extend (c : Char) : Layout → Layout
  | ⟨[], last⟩ => ⟨[], c :: last⟩
  | ⟨(stretch, source) :: parts, last⟩ => ⟨(c :: stretch, source) :: parts, last⟩

/-- One more expression in front. -/
def prepend (source : List Char) (L : Layout) : Layout :=
  ⟨([], source) :: L.parts, L.last⟩

section Front

variable (L : Layout) (c : Char) (source : List Char) (count : Nat)

theorem markup_extend : (L.extend c).markup = c :: L.markup := by
  obtain ⟨_ | ⟨part, parts⟩, last⟩ := L <;> rfl

theorem sources_extend : (L.extend c).sources = L.sources := by
  obtain ⟨_ | ⟨part, parts⟩, last⟩ := L <;> rfl

theorem masked_extend : (L.extend c).masked count = c :: L.masked count := by
  obtain ⟨_ | ⟨part, parts⟩, last⟩ := L <;> rfl

theorem markup_prepend : (L.prepend source).markup = source ++ L.markup := by
  simp [prepend, markup]

theorem sources_prepend : (L.prepend source).sources = source :: L.sources := rfl

theorem masked_prepend :
    (L.prepend source).masked count = placeholder count ++ L.masked (count + 1) := by
  simp [prepend, masked, List.zipIdx_cons]

variable {L c source}

theorem Sound.extend (hL : L.Sound) (hc : c ≠ '{') : (L.extend c).Sound := by
  obtain ⟨_ | ⟨part, parts⟩, last⟩ := L
  · refine ⟨by simp [Layout.extend], by simp [Layout.extend], ?_⟩
    have hlast := hL.last
    simp only [Layout.extend, List.mem_cons, not_or]
    exact ⟨hc.symm, hlast⟩
  · obtain ⟨hfirst, hlater⟩ := List.forall_mem_cons.mp hL.stretch
    obtain ⟨hsource, hsources⟩ := List.forall_mem_cons.mp hL.expression
    refine ⟨List.forall_mem_cons.mpr ⟨?_, hlater⟩, List.forall_mem_cons.mpr ⟨hsource, hsources⟩, hL.last⟩
    simp only [List.mem_cons, not_or]
    exact ⟨hc.symm, hfirst⟩

theorem Sound.prepend (hL : L.Sound) (hsource : closing? source 0 = some (source.length - 1)) :
    (L.prepend source).Sound := by
  constructor
  · exact List.forall_mem_cons.mpr ⟨by simp, hL.stretch⟩
  · exact List.forall_mem_cons.mpr ⟨hsource, hL.expression⟩
  · exact hL.last

end Front

end Layout

/-! ### Lifting -/

/-- Lifting from `offset` on has read this layout. -/
structure Lifting.Reads (l : Lifting) (count offset : Nat) (markup : List Char) (L : Layout) :
    Prop where
  sound : L.Sound
  sources : l.sources = L.sources
  done : ∀ text, l.text = .ok text → L.markup = markup ∧ L.masked count = text
  stuck : ∀ n, l.text = .error n → ∃ rest, markup = L.markup ++ '{' :: rest ∧
    innerLength? rest = none ∧ n = offset + L.markup.length

theorem map_eq_ok {text : Except Nat (List Char)} {f : List Char → List Char} {s : List Char}
    (h : text.map f = .ok s) : ∃ t, text = .ok t ∧ f t = s := by
  cases text with
  | error n => cases h
  | ok t => exact ⟨t, rfl, Except.ok.inj h⟩

theorem map_eq_error {text : Except Nat (List Char)} {f : List Char → List Char} {n : Nat}
    (h : text.map f = .error n) : text = .error n := by
  cases text with
  | error m => exact congrArg Except.error (Except.error.inj h)
  | ok t => cases h

section Step

variable {later : Lifting} {count offset : Nat} {rest source : List Char} {c : Char} {L : Layout}

theorem Lifting.Reads.extend (h : later.Reads count (offset + 1) rest L) (hc : c ≠ '{') :
    Lifting.Reads ⟨later.text.map (c :: ·), later.sources⟩ count offset (c :: rest)
      (L.extend c) := by
  refine ⟨h.sound.extend hc, h.sources.trans (L.sources_extend c).symm, ?_, ?_⟩
  · intro text htext
    obtain ⟨t, ht, rfl⟩ := map_eq_ok htext
    obtain ⟨hmarkup, hmasked⟩ := h.done t ht
    exact ⟨(L.markup_extend c).trans (by rw [hmarkup]), (L.masked_extend c count).trans (by rw [hmasked])⟩
  · intro n hn
    obtain ⟨behind, rfl, hnone, rfl⟩ := h.stuck n (map_eq_error hn)
    refine ⟨behind, ?_, hnone, ?_⟩
    · rw [L.markup_extend, List.cons_append]
    · rw [L.markup_extend, List.length_cons]
      omega

theorem Lifting.Reads.prepend {n : Nat} (h : later.Reads (count + 1) (offset + n) rest L)
    (hlength : source.length = n) (hsource : closing? source 0 = some (source.length - 1)) :
    Lifting.Reads ⟨later.text.map (placeholder count ++ ·), source :: later.sources⟩ count offset
      (source ++ rest) (L.prepend source) := by
  refine ⟨h.sound.prepend hsource, ?_, ?_, ?_⟩
  · rw [L.sources_prepend, h.sources]
  · intro text htext
    obtain ⟨t, ht, rfl⟩ := map_eq_ok htext
    obtain ⟨hmarkup, hmasked⟩ := h.done t ht
    rw [L.markup_prepend, L.masked_prepend, hmarkup, hmasked]
    exact ⟨rfl, rfl⟩
  · intro n hn
    obtain ⟨behind, rfl, hnone, rfl⟩ := h.stuck n (map_eq_error hn)
    refine ⟨behind, ?_, hnone, ?_⟩
    · rw [L.markup_prepend, List.append_assoc]
    · rw [L.markup_prepend, List.length_append, hlength, Nat.add_assoc]

end Step

theorem exists_layout (count offset : Nat) (markup : List Char) :
    ∃ L, (liftFrom count offset markup).Reads count offset markup L := by
  have hempty : Layout.Sound ⟨[], []⟩ := ⟨by simp, by simp, by simp⟩
  fun_induction liftFrom count offset markup with
  | case1 count offset =>
      refine ⟨⟨[], []⟩, hempty, rfl, ?_, ?_⟩
      · intro text htext
        exact ⟨rfl, Except.ok.inj htext⟩
      · intro n hn
        cases hn
  | case2 count offset cs hnone =>
      refine ⟨⟨[], []⟩, hempty, rfl, ?_, ?_⟩
      · intro text htext
        cases htext
      · intro n hn
        exact ⟨cs, rfl, hnone, (Except.error.inj hn).symm⟩
  | case3 count offset cs n hn later ih =>
      obtain ⟨L, hL⟩ := ih
      have hlength : ('{' :: cs.take (n + 1)).length = n + 2 := by
        rw [List.length_cons, List.length_take, Nat.min_eq_left (innerLength?_lt hn)]
      have hstep := hL.prepend hlength (closing?_take hn)
      rw [List.cons_append, List.take_append_drop] at hstep
      exact ⟨_, hstep⟩
  | case4 count offset c cs hc later ih =>
      obtain ⟨L, hL⟩ := ih
      exact ⟨L.extend c, hL.extend hc⟩

/-! ### Tables -/

theorem placeholder_inj {i j : Nat} (h : placeholder i = placeholder j) : i = j := by
  have hdigits : ∀ n : Nat, (toString n).toList = Nat.toDigits 10 n := by
    intro n
    change n.repr.toList = Nat.toDigits 10 n
    rw [Nat.repr_eq_ofList_toDigits, String.toList_ofList]
  unfold placeholder at h
  have hmiddle := List.append_cancel_left (List.append_cancel_right h)
  rw [hdigits, hdigits] at hmiddle
  have hvalue := congrArg (Nat.ofDigitChars 10 · 0) hmiddle
  simpa [Nat.ofDigitChars_toDigits] using hvalue

/-- Values by key, in the order in which the keys were first put. -/
abbrev Dictionary := List (List Char × List Char)

namespace Dictionary

def put (dict : Dictionary) (key value : List Char) : Dictionary :=
  if dict.any (·.1 == key) then dict.map fun entry => if entry.1 = key then (key, value) else entry
  else dict ++ [(key, value)]

/-- Puts a source under the placeholder that the number of entries makes. -/
def file (dict : Dictionary) (source : List Char) : Dictionary :=
  dict.put (placeholder dict.length) source

end Dictionary

namespace ExpressionTable

theorem entries_append (table : ExpressionTable) (sources : List (List Char)) :
    entries (table ++ sources) =
      table.entries ++ (sources.zipIdx table.length).map fun entry => (placeholder entry.2, entry.1) := by
  simp [entries, List.zipIdx_append]

theorem map_fst_entries (table : ExpressionTable) :
    table.entries.map Prod.fst = (List.range table.length).map placeholder := by
  rw [entries, List.map_map, List.range_eq_range', ← List.zipIdx_map_snd 0 table, List.map_map]
  rfl

theorem nodup_keys (table : ExpressionTable) : (table.entries.map Prod.fst).Nodup := by
  rw [map_fst_entries]
  apply List.nodup_range.map
  intro i j
  exact placeholder_inj

/-- Filing overwrites nothing. -/
theorem file_entries (table : ExpressionTable) (source : List Char) :
    Dictionary.file table.entries source = entries (table ++ [source]) := by
  have hlength : table.entries.length = table.length := by simp [entries]
  have hfresh : table.entries.any (·.1 == placeholder table.length) = false := by
    rw [List.any_eq_false]
    intro entry hentry hkey
    have hmem := List.mem_map_of_mem (f := Prod.fst) hentry
    rw [map_fst_entries] at hmem
    obtain ⟨i, hi, heq⟩ := List.mem_map.mp hmem
    rw [beq_iff_eq, ← heq] at hkey
    exact absurd (List.mem_range.mp hi) (by rw [placeholder_inj hkey]; exact Nat.lt_irrefl _)
  rw [Dictionary.file, Dictionary.put, hlength, if_neg (by simp [hfresh]), entries_append]
  rfl

theorem foldl_file (table : ExpressionTable) (sources : List (List Char)) :
    sources.foldl Dictionary.file table.entries = entries (table ++ sources) := by
  induction sources generalizing table with
  | nil => rw [List.append_nil, List.foldl_nil]
  | cons source sources ih =>
      rw [List.foldl_cons, file_entries, ih, List.append_assoc]
      rfl

/-- The table after one markup after the other, whether or not lifting gets through them. -/
def liftAll (table : ExpressionTable) (markups : List (List Char)) : ExpressionTable :=
  markups.foldl (fun table markup => (table.lift markup).2) table

theorem prefix_liftAll (table : ExpressionTable) (markups : List (List Char)) :
    table <+: table.liftAll markups := by
  induction markups generalizing table with
  | nil => exact List.prefix_rfl
  | cons markup markups ih => exact (List.prefix_append _ _).trans (ih _)

theorem entries_mono {table later : ExpressionTable} (h : table <+: later) :
    table.entries <+: later.entries := by
  obtain ⟨sources, rfl⟩ := h
  rw [entries_append]
  exact List.prefix_append _ _

/-- Lifting reads a sound layout of the whole markup, or of all in front of a brace that does not close.
It puts placeholders for the expressions and adds them to the table, which comes to the same as filing
each of them by its placeholder. After any number of liftings the table still has its old entries in
front, and its keys are consecutive and distinct. -/
theorem lift_layout (table : ExpressionTable) (markup : List Char) :
    (∃ L : Layout, L.Sound ∧
      (∀ masked, (table.lift markup).1 = .ok masked →
        L.markup = markup ∧ L.masked table.length = masked) ∧
      (∀ offset, (table.lift markup).1 = .error offset →
        L.markup = markup.take offset ∧ markup[offset]? = some '{' ∧ closing? markup offset = none) ∧
      (table.lift markup).2.entries = table.entries ++
        (L.sources.zipIdx table.length).map (fun entry => (placeholder entry.2, entry.1)) ∧
      L.sources.foldl Dictionary.file table.entries = (table.lift markup).2.entries) ∧
    ∀ markups, table.entries <+: (table.liftAll markups).entries ∧
      (table.liftAll markups).entries.map Prod.fst =
        (List.range (table.liftAll markups).length).map placeholder ∧
      ((table.liftAll markups).entries.map Prod.fst).Nodup := by
  constructor
  · obtain ⟨L, hL⟩ := exists_layout table.length 0 markup
    refine ⟨L, hL.sound, hL.done, ?_, ?_, ?_⟩
    · intro offset hoffset
      obtain ⟨rest, hmarkup, hnone, hn⟩ := hL.stuck offset hoffset
      rw [Nat.zero_add] at hn
      subst hmarkup hn
      refine ⟨List.take_left.symm, by simp, ?_⟩
      simp [closing?, hnone]
    · rw [← hL.sources]
      exact entries_append table _
    · rw [foldl_file, ← hL.sources]
      rfl
  · intro markups
    exact ⟨entries_mono (table.prefix_liftAll markups), map_fst_entries _, nodup_keys _⟩

end ExpressionTable

end Pruner.Component
