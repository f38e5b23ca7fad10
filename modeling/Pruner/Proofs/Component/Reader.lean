import Mathlib.Data.List.Basic
import Pruner.Component.Document
import Pruner.Proofs.Markup.Block
import Pruner.Proofs.Markup.Name
import Pruner.Proofs.Scan.SelfClosing

/-!
# What is relied on in a reader of markup

A reader keeps attributes under their names in lower case, with the characters spelled out that XML does
not admit in a name, and it takes a value without quotes to run up to space or to the end of the tag. What
is shown of components with one attribute holds for every reader that does so on markup with one
attribute. The reader of the library does.
-/

namespace Pruner.Component

open Markup Scan Text

/-! ### Written names -/

/-- Whether a character is one of those that names of attributes and directives are made of. -/
def isWritten (c : Char) : Bool :=
  c.isAlphanum || c == '-' || c == '_' || c == '.' || c == ':' || c == '@'

/-- A written character in the tree: in lower case, unless it is one of the two that XML does not admit
in a name, which become a `U` with the five hexadecimal digits of their code. -/
def spell (c : Char) : List Char :=
  if c = ':' then "U0003A".toList else if c = '@' then "U00040".toList else [c.toLower]

theorem isAscii_of_isWritten {c : Char} (h : isWritten c = true) : isAscii c = true := by
  simp only [isWritten, Bool.or_eq_true, beq_iff_eq] at h
  rcases h with ((((h | rfl) | rfl) | rfl) | rfl) | rfl
  · exact isAscii_of_isAlphanum h
  all_goals decide

/-- What the reader of the library makes of a written character. -/
theorem isWritten_spec {c : Char} (h : isWritten c = true) :
    endsAttributeName c = false ∧ c ∉ ['\x00', '\r', '<', '{'] ∧
      (if isNameChar c.toLower then [c.toLower] else spellOut c.toLower) = spell c ∧
      (c.isAlpha = true ∨ c = '@' →
        (if isNameStart c.toLower then [c.toLower] else spellOut c.toLower) = spell c) :=
  forall_ascii (P := fun c => isWritten c = true → endsAttributeName c = false ∧
      c ∉ ['\x00', '\r', '<', '{'] ∧
      (if isNameChar c.toLower then [c.toLower] else spellOut c.toLower) = spell c ∧
      (c.isAlpha = true ∨ c = '@' →
        (if isNameStart c.toLower then [c.toLower] else spellOut c.toLower) = spell c))
    (by decide +kernel) (isAscii_of_isWritten h) h

section Written

variable {name : List Char} (hname : ∀ c ∈ name, isWritten c = true)

include hname

theorem not_mem_of_written {c : Char} (hc : c ∈ ['\x00', '\r', '<', '{']) : c ∉ name := by
  intro hmem
  exact (isWritten_spec (hname c hmem)).2.1 hc

theorem readName_of_written : readName name = String.ofList (name.map Char.toLower) := by
  rw [readName, withoutNul_of_not_mem (not_mem_of_written hname (by decide))]

end Written

/-! ### Blocks with an attribute in quotes -/

/-- A name in ASCII with a value that needs no escape. -/
structure QuotedAttribute where
  name : List Char
  value : List Char
  head : ∃ c ∈ name.head?, c.isAlpha = true ∨ c = '@'
  written : ∀ c ∈ name, isWritten c = true
  quiet : ∀ c ∈ value, c ∉ ['"', '\'', '{', '}', '&', '<', '>']

/-- A block with one attribute. -/
def quotedBlock (name value : List Char) : List Char :=
  "<div ".toList ++ name ++ "=\"".toList ++ value ++ "\"></div>".toList

namespace QuotedAttribute

variable (a : QuotedAttribute)

def source : List Char :=
  quotedBlock a.name a.value

/-- The name in the tree. -/
def spelled : String :=
  String.ofList (a.name.flatMap spell)

/-- Whether a document can hold the value. The null character counts, as another one stands in for
it. -/
def isHeld : Bool :=
  a.value.all fun c => c == '\x00' || isStorable c

variable {a}

theorem not_mem_value {c : Char} (hc : c ∈ ['"', '\'', '{', '}', '&', '<', '>']) : c ∉ a.value := by
  intro hmem
  exact a.quiet c hmem hc

theorem name_ne (a : QuotedAttribute) : a.name ≠ [] := by
  intro hnil
  obtain ⟨c, hc, -⟩ := a.head
  rw [hnil] at hc
  cases hc

end QuotedAttribute

/-- Where the reader reads a block with one attribute, the tree consists of that block, with the attribute
under its name in lower case and spelled out. It reads every block whose value a document can hold. -/
structure SpellsNames (reader : Reader) : Prop where
  spells : ∀ (a : QuotedAttribute) (elements : List Element), reader a.source = .ok elements →
    ∃ value, elements = blockElements [⟨a.spelled, value⟩]
  reads : ∀ a : QuotedAttribute, a.isHeld = true → ∃ elements, reader a.source = .ok elements

/-! ### Blocks with an attribute without quotes -/

/-- Whether a character is one of those that placeholders are made of, or a slash. -/
def isPlain (c : Char) : Bool :=
  c.isAlphanum || c == '_' || c == '/'

/-- A block with an attribute without quotes, up to the value. -/
def plainBlock (name rest : List Char) : List Char :=
  "<div ".toList ++ name ++ '=' :: rest

/-- The reader takes a value without quotes to run up to space or to the end of the tag: a slash in front
of that end belongs to the value, and one behind space does not. -/
def RunsToSpace (reader : Reader) : Prop :=
  ∀ name value rest : List Char, name ≠ [] → (∀ c ∈ name, c.isLower = true) → value ≠ [] →
    (∀ c ∈ value, isPlain c = true) → (rest = ['>'] ∨ ∃ gap, rest = selfClosing (gap + 1)) →
      reader (plainBlock name (value ++ rest)) =
        .ok (blockElements [⟨String.ofList name, String.ofList value⟩])

/-! ### The reader of the library -/

/-- What stands behind the angle of a block with an attribute in quotes. -/
def quotedTag (name value : List Char) : List Char :=
  "div".toList ++ ' ' :: (name ++ '=' :: '"' :: (value ++ '"' :: '>' :: "</div>".toList))

theorem quotedBlock_eq (name value : List Char) :
    quotedBlock name value = '<' :: quotedTag name value := by
  unfold quotedBlock quotedTag
  simp

theorem unifyLineEnds_quotedBlock {name : List Char} (hname : '\r' ∉ name) (value : List Char) :
    unifyLineEnds (quotedBlock name value) = '<' :: quotedTag name (unifyLineEnds value) := by
  have hsplit : ∀ v : List Char, '<' :: quotedTag name v =
      ("<div ".toList ++ name ++ "=\"".toList) ++ (v ++ '"' :: '>' :: "</div>".toList) := by
    intro v
    unfold quotedTag
    simp
  have hfront : '\r' ∉ "<div ".toList ++ name ++ "=\"".toList := by
    simp [hname]
  have hback : '\r' ∉ '"' :: '>' :: "</div>".toList := by
    decide
  rw [quotedBlock_eq, hsplit, hsplit, unifyLineEnds_append hfront,
    unifyLineEnds_append_cons _ (by decide), unifyLineEnds_of_not_mem hback]

namespace QuotedAttribute

/-- The value in the tree. -/
def read (a : QuotedAttribute) : String :=
  String.ofList (withoutNul (unifyLineEnds a.value))

theorem readValue_value (a : QuotedAttribute) : readValue (unifyLineEnds a.value) = a.read := by
  have hvalue : '&' ∉ withoutNul (unifyLineEnds a.value) := by
    intro hmem
    obtain ⟨c, hc, heq⟩ := List.mem_map.mp hmem
    split_ifs at heq with hnul
    · exact absurd heq (by decide)
    · subst heq
      rcases mem_of_mem_unifyLineEnds hc with h | h
      · exact absurd h (by decide)
      · exact not_mem_value (by decide) h
  rw [readValue, decodeReferences_of_not_mem hvalue, read]

theorem tag?_quotedTag (a : QuotedAttribute) :
    tag? (quotedTag a.name (unifyLineEnds a.value)) =
      some (⟨"div", [⟨String.ofList (a.name.map Char.toLower), a.read⟩], false⟩,
        "</div>".toList) := by
  have hends : ∀ c ∈ a.name, endsAttributeName c = false :=
    fun c hc => (isWritten_spec (a.written c hc)).1
  have hquote : '"' ∉ unifyLineEnds a.value := by
    intro hmem
    rcases mem_of_mem_unifyLineEnds hmem with h | h
    · exact absurd h (by decide)
    · exact not_mem_value (by decide) h
  unfold quotedTag
  rw [tag?_attribute endsTagName_div a.name_ne hends (assigned?_quoted hquote _) (tagRest?_angle _),
    readName_of_written a.written, readValue_value, readName_div]

theorem treeName_lowered (a : QuotedAttribute) :
    treeName (String.ofList (a.name.map Char.toLower)) = a.spelled := by
  obtain ⟨c, hc, hfirst⟩ := a.head
  obtain ⟨cs, hcs⟩ := List.head?_eq_some_iff.mp hc
  have hwritten := a.written
  rw [hcs] at hwritten
  obtain ⟨hcwritten, hrest⟩ := List.forall_mem_cons.mp hwritten
  rw [treeName, spelled, String.toList_ofList, hcs, List.map_cons, nameChars, List.flatMap_cons,
    (isWritten_spec hcwritten).2.2.2 hfirst, List.flatMap_map]
  congr 2
  exact List.flatMap_congr fun d hd => (isWritten_spec (hrest d hd)).2.2.1

theorem elements?_source (a : QuotedAttribute) :
    elements? a.source = if a.isHeld then some (blockElements [⟨a.spelled, a.read⟩]) else none := by
  have hheld : Construction.areStorable [⟨a.spelled, a.read⟩] = a.isHeld := by
    rw [isHeld, ← all_isStorable_value, Construction.areStorable, List.all_cons, List.all_nil,
      Bool.and_true, read, String.toList_ofList]
  have htree : Space.html.attributes [⟨String.ofList (a.name.map Char.toLower), a.read⟩] =
      [⟨a.spelled, a.read⟩] :=
    congrArg (fun name => [Attribute.mk name a.read]) a.treeName_lowered
  have hunify : unifyLineEnds a.source = '<' :: quotedTag a.name (unifyLineEnds a.value) :=
    unifyLineEnds_quotedBlock (not_mem_of_written a.written (by decide)) a.value
  have helements := elements?_div hunify a.tag?_quotedTag rfl (.inr rfl)
  rw [htree, hheld] at helements
  exact helements

end QuotedAttribute

theorem spellsNames_elements : SpellsNames Markup.elements where
  spells a elements h := by
    rw [Markup.elements, a.elements?_source] at h
    cases hheld : a.isHeld with
    | false => simp [hheld] at h
    | true =>
      rw [hheld] at h
      exact ⟨a.read, (Except.ok.inj h).symm⟩
  reads a hheld := by
    rw [Markup.elements, a.elements?_source, hheld]
    exact ⟨_, rfl⟩

/-! ### Its plain values -/

theorem isAscii_of_isPlain {c : Char} (h : isPlain c = true) : isAscii c = true := by
  simp only [isPlain, Bool.or_eq_true, beq_iff_eq] at h
  rcases h with (h | rfl) | rfl
  · exact isAscii_of_isAlphanum h
  all_goals decide

/-- What the reader of the library makes of a character of a plain value. -/
theorem isPlain_spec {c : Char} (h : isPlain c = true) :
    (isSpace c || c == '>') = false ∧ c ∉ ['"', '\'', '&', '\x00', '\r'] ∧ isStorable c = true :=
  forall_ascii (P := fun c => isPlain c = true →
      (isSpace c || c == '>') = false ∧ c ∉ ['"', '\'', '&', '\x00', '\r'] ∧ isStorable c = true)
    (by decide +kernel) (isAscii_of_isPlain h) h

/-- What it makes of a small letter in a name. -/
theorem isLower_spec {c : Char} (h : c.isLower = true) :
    isWritten c = true ∧ c.toLower = c ∧ isNameStart c = true := by
  have hascii : isAscii c = true := by
    apply isAscii_of_isAlphanum
    delta Char.isAlphanum Char.isAlpha
    simp [h]
  exact forall_ascii (P := fun c => c.isLower = true →
      isWritten c = true ∧ c.toLower = c ∧ isNameStart c = true) (by decide +kernel) hascii h

section Plain

variable {name value : List Char} (hname : ∀ c ∈ name, c.isLower = true)
  (hvalue : ∀ c ∈ value, isPlain c = true)

include hvalue in
theorem readValue_plain : readValue value = String.ofList value := by
  have hmem : ∀ c ∈ ['"', '\'', '&', '\x00', '\r'], c ∉ value :=
    fun c hc h => (isPlain_spec (hvalue c h)).2.1 hc
  rw [readValue, withoutNul_of_not_mem (hmem _ (by decide)),
    decodeReferences_of_not_mem (hmem _ (by decide))]

include hname in
theorem readName_lower : readName name = String.ofList name := by
  have hlower : name.map Char.toLower = name.map id :=
    List.map_congr_left fun c hc => (isLower_spec (hname c hc)).2.1
  rw [readName_of_written fun c hc => (isLower_spec (hname c hc)).1, hlower, List.map_id]

include hname in
theorem treeName_lower (hne : name ≠ []) : treeName (String.ofList name) = String.ofList name := by
  obtain ⟨c, cs, rfl⟩ := List.exists_cons_of_ne_nil hne
  obtain ⟨hc, hcs⟩ := List.forall_mem_cons.mp hname
  rw [treeName, String.toList_ofList, nameChars_of_legal (isLower_spec hc).2.2 fun d hd =>
    isNameChar_of_isNameStart (isLower_spec (hcs d hd)).2.2]

include hname hvalue in
theorem tag?_plain (hne : name ≠ []) (hvalue_ne : value ≠ []) {stop : Char} {rest : List Char}
    {closing : Bool} (hstop : (isSpace stop || stop == '>') = true)
    (hrest : tagRest? (stop :: rest) = some ([], closing, [])) :
    tag? ("div".toList ++ ' ' :: (name ++ '=' :: (value ++ stop :: rest))) =
      some (⟨"div", [⟨String.ofList name, String.ofList value⟩], closing⟩, []) := by
  have hends : ∀ c ∈ name, endsAttributeName c = false :=
    fun c hc => (isWritten_spec (isLower_spec (hname c hc)).1).1
  have hquote : ∀ c ∈ value.head?, c ≠ '"' ∧ c ≠ '\'' := by
    intro c hc
    have hmem := (isPlain_spec (hvalue c (List.mem_of_mem_head? hc))).2.1
    simp_all
  have hassigned : assigned? ('=' :: (value ++ stop :: rest)) = some (value, stop :: rest) :=
    assigned?_plain hvalue_ne (fun c hc => (isPlain_spec (hvalue c hc)).1) hquote hstop
  rw [tag?_attribute endsTagName_div hne hends hassigned hrest, readName_lower hname,
    readValue_plain hvalue, readName_div]

end Plain

theorem tagRest?_selfClosing (gap : Nat) : tagRest? (selfClosing gap) = some ([], true, []) := by
  induction gap with
  | zero => exact tagRest?_slash_angle []
  | succ gap ih => rw [selfClosing_succ, tagRest?_space, ih]

theorem runsToSpace_elements : RunsToSpace Markup.elements := by
  intro name value rest hname_ne hname hvalue_ne hvalue hrest
  obtain ⟨stop, left, closing, rfl, hstop, htail, hreturn⟩ : ∃ stop left closing, rest = stop :: left ∧
      (isSpace stop || stop == '>') = true ∧ tagRest? (stop :: left) = some ([], closing, []) ∧
        '\r' ∉ stop :: left := by
    rcases hrest with rfl | ⟨gap, rfl⟩
    · exact ⟨'>', [], false, rfl, by decide, tagRest?_angle [], by decide⟩
    · refine ⟨' ', selfClosing gap, true, selfClosing_succ gap, by decide, ?_, ?_⟩
      · rw [tagRest?_space, tagRest?_selfClosing]
      · simp [selfClosing]
  have hreturn_name : '\r' ∉ name :=
    not_mem_of_written (fun c hc => (isLower_spec (hname c hc)).1) (by decide)
  have hreturn_value : '\r' ∉ value :=
    fun h => (isPlain_spec (hvalue _ h)).2.1 (by decide)
  have hunify : unifyLineEnds (plainBlock name (value ++ stop :: left)) =
      '<' :: ("div".toList ++ ' ' :: (name ++ '=' :: (value ++ stop :: left))) := by
    rw [unifyLineEnds_of_not_mem]
    · unfold plainBlock
      simp
    · unfold plainBlock
      simp_all
  have hstorable : Construction.areStorable [⟨String.ofList name, String.ofList value⟩] = true := by
    rw [Construction.areStorable, List.all_cons, List.all_nil, Bool.and_true, String.toList_ofList]
    exact List.all_eq_true.mpr fun c hc => (isPlain_spec (hvalue c hc)).2.2
  have htree : Space.html.attributes [⟨String.ofList name, String.ofList value⟩] =
      [⟨String.ofList name, String.ofList value⟩] :=
    congrArg (fun name => [Attribute.mk name (String.ofList value)]) (treeName_lower hname hname_ne)
  have helements := elements?_div hunify (tag?_plain hname hvalue hname_ne hvalue_ne hstop htail) rfl
    (.inl rfl)
  rw [htree, if_pos hstorable] at helements
  rw [Markup.elements, helements]

end Pruner.Component
