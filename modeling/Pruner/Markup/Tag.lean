import Pruner.Markup.Character
import Pruner.Markup.Element
import Pruner.Markup.Reference

/-!
# Tags

A tag is read from its name on. Of two attributes of one name the first counts. A tag that the input
ends in is dropped. The functions below return the input that is left, which is never longer than
what they were given.
-/

namespace Pruner.Markup

structure Tag where
  name : String
  attributes : List Attribute
  selfClosing : Bool
  deriving DecidableEq, Repr

namespace Tag

def value? (tag : Tag) (name : String) : Option String :=
  (tag.attributes.find? (·.name == name)).map (·.value)

/-- Whether a tag is for an input that is not shown. -/
def isHidden (tag : Tag) : Bool :=
  (tag.value? "type").any fun value => value.toList.map Char.toLower == "hidden".toList

end Tag

/-- A name as it is read: ASCII letters in lower case. -/
def readName (text : List Char) : String :=
  String.ofList ((withoutNul text).map Char.toLower)

def readValue (text : List Char) : String :=
  String.ofList (decodeReferences (withoutNul text))

/-! ### Attributes -/

def endsTagName (c : Char) : Bool :=
  isSpace c || c == '/' || c == '>'

def endsAttributeName (c : Char) : Bool :=
  endsTagName c || c == '='

/-- The text up to a quote, and what follows the quote. -/
def upTo? (quote : Char) : List Char → Option (List Char × List Char)
  | [] => none
  | c :: cs => if c = quote then some ([], cs) else (upTo? quote cs).map fun (s, t) => (c :: s, t)

/-- The value that follows an equals sign. -/
def value? (text : List Char) : Option (List Char × List Char) :=
  match text.dropWhile isSpace with
  | [] => none
  | c :: cs =>
    if c = '"' ∨ c = '\'' then upTo? c cs
    else if c = '>' then some ([], c :: cs)
    else
      let plain (d : Char) : Bool := !(isSpace d || d == '>')
      some ((c :: cs).takeWhile plain, (c :: cs).dropWhile plain)

/-- The value of an attribute whose name has just been read, which is empty if there is no equals
sign. -/
def assigned? (text : List Char) : Option (List Char × List Char) :=
  match text.dropWhile isSpace with
  | '=' :: cs => value? cs
  | rest => some ([], rest)

theorem length_upTo? {quote : Char} {text s t : List Char} (h : upTo? quote text = some (s, t)) :
    t.length ≤ text.length := by
  induction text generalizing s with
  | nil => simp [upTo?] at h
  | cons c cs ih =>
    rw [upTo?] at h
    split at h
    · simp at h
      simp [h.2]
    · obtain ⟨⟨s', t'⟩, hr, heq⟩ := Option.map_eq_some_iff.mp h
      simp at heq
      have := ih (heq.2 ▸ hr)
      simp
      omega

theorem length_dropWhile_le (p : Char → Bool) (text : List Char) :
    (text.dropWhile p).length ≤ text.length :=
  (List.dropWhile_sublist p).length_le

theorem length_value? {text s t : List Char} (h : value? text = some (s, t)) :
    t.length ≤ text.length := by
  have hle := length_dropWhile_le isSpace text
  rw [value?] at h
  split at h
  · simp at h
  · rename_i c cs hd
    rw [hd] at hle
    split at h
    · have := length_upTo? h
      simp at hle
      omega
    · split at h
      · simp only [Option.some.injEq, Prod.mk.injEq] at h
        rw [← h.2]
        exact hle
      · simp only [Option.some.injEq, Prod.mk.injEq] at h
        rw [← h.2]
        exact Nat.le_trans (length_dropWhile_le _ _) hle

theorem length_assigned? {text s t : List Char} (h : assigned? text = some (s, t)) :
    t.length ≤ text.length := by
  have hle := length_dropWhile_le isSpace text
  rw [assigned?] at h
  split at h
  · rename_i cs hd
    have := length_value? h
    rw [hd] at hle
    simp at hle
    omega
  · simp only [Option.some.injEq, Prod.mk.injEq] at h
    rw [← h.2]
    exact hle

/-- The rest of a tag after its name: the attributes, whether it closes itself, and what follows
it. A slash that does not end the tag is skipped. -/
def tagRest? (text : List Char) : Option (List Attribute × Bool × List Char) :=
  match text with
  | [] => none
  | c :: cs =>
    if isSpace c then tagRest? cs
    else if c = '>' then some ([], false, cs)
    else if c = '/' then
      if cs.head? = some '>' then some ([], true, cs.tail) else tagRest? cs
    else
      match _h : assigned? (cs.dropWhile (!endsAttributeName ·)) with
      | none => none
      | some (value, rest) =>
        (tagRest? rest).map fun (attributes, closing, left) =>
          (⟨readName (c :: cs.takeWhile (!endsAttributeName ·)), readValue value⟩ :: attributes,
            closing, left)
termination_by text.length
decreasing_by
  · simp
  · simp
  · have := length_assigned? _h
    have := length_dropWhile_le (!endsAttributeName ·) cs
    simp
    omega

theorem length_tagRest? {text rest : List Char} {attributes : List Attribute} {closing : Bool}
    (h : tagRest? text = some (attributes, closing, rest)) : rest.length ≤ text.length := by
  fun_induction tagRest? text generalizing attributes closing rest with
  | case1 => simp at h
  | case2 c cs hc ih => exact Nat.le_trans (ih h) (Nat.le_succ _)
  | case3 => simp_all
  | case4 =>
    simp only [Option.some.injEq, Prod.mk.injEq] at h
    rw [← h.2.2]
    simp
    omega
  | case5 cs _ _ _ ih => exact Nat.le_trans (ih h) (Nat.le_succ _)
  | case6 => simp at h
  | case7 c cs hs hgt hsl value left ha ih =>
    obtain ⟨⟨as, cl, r⟩, hr, heq⟩ := Option.map_eq_some_iff.mp h
    simp only [Prod.mk.injEq] at heq
    have h1 := ih hr
    have h2 := length_assigned? ha
    have h3 := length_dropWhile_le (!endsAttributeName ·) cs
    rw [← heq.2.2]
    simp
    omega

/-- A tag whose name starts the text. -/
def tag? (text : List Char) : Option (Tag × List Char) :=
  (tagRest? (text.dropWhile (!endsTagName ·))).map fun (attributes, closing, rest) =>
    (⟨readName (text.takeWhile (!endsTagName ·)), Attribute.firsts attributes, closing⟩, rest)

theorem length_tag? {text rest : List Char} {tag : Tag} (h : tag? text = some (tag, rest)) :
    rest.length ≤ text.length := by
  obtain ⟨⟨as, cl, r⟩, hr, heq⟩ := Option.map_eq_some_iff.mp h
  simp only [Prod.mk.injEq] at heq
  rw [← heq.2]
  exact Nat.le_trans (length_tagRest? hr) (length_dropWhile_le _ _)

end Pruner.Markup
