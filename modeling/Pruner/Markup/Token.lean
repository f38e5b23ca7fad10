import Pruner.Markup.Doctype
import Pruner.Markup.RawText

/-!
# Tokens of markup

Markup is read as a sequence of tags, declarations and stretches of text. Nothing is an error: a tag
that the input ends in is dropped, and a `<` that opens nothing is text. Every token takes at least
one character, and the functions below return the input that is left.
-/

namespace Pruner.Markup

inductive Token where
  | start (tag : Tag)
  | stop (name : String)
  /-- A stretch of text. Space at the start of a stretch is a token of its own. -/
  | text (space : Bool) (chars : List Char)
  /-- A comment, with the mark that ends it. -/
  | comment (chars : List Char)
  | doctype (legacy : Bool)
  /-- A piece of markup that stands for nothing. -/
  | nothing
  deriving DecidableEq, Repr

namespace Token

def isTag : Token → Bool
  | start _ | stop _ => true
  | _ => false

end Token

/-- How the input is read. -/
inductive Reading where
  | markup
  /-- Text with references, up to the end tag of the given name. -/
  | replaceable (name : String)
  /-- Text as it stands, up to the end tag of the given name. -/
  | raw (name : String)
  | script
  /-- Text up to the end of the input. -/
  | plain
  deriving DecidableEq, Repr

/-! ### Comments and declarations -/

/-- What follows the end mark of a comment. -/
def afterCommentEnd : List Char → List Char
  | [] => []
  | '-' :: '-' :: '>' :: cs => cs
  | '-' :: '-' :: '!' :: '>' :: cs => cs
  | _ :: cs => afterCommentEnd cs

theorem length_afterCommentEnd (text : List Char) :
    (afterCommentEnd text).length ≤ text.length := by
  fun_induction afterCommentEnd text <;> simp_all <;> omega

/-- What follows a comment whose opening mark has just been read. -/
def afterComment : List Char → List Char
  | '>' :: cs => cs
  | '-' :: '>' :: cs => cs
  | cs => afterCommentEnd cs

theorem length_afterComment (text : List Char) : (afterComment text).length ≤ text.length := by
  unfold afterComment
  split
  · simp
  · simp
    omega
  · exact length_afterCommentEnd _

def comment (text : List Char) : Token × List Char :=
  let rest := afterComment text
  (.comment (withoutNul (text.take (text.length - rest.length))), rest)

theorem length_comment (text : List Char) : (comment text).2.length ≤ text.length :=
  length_afterComment text

/-- What follows the first `>`. -/
def afterAngle (text : List Char) : List Char :=
  (text.dropWhile (· ≠ '>')).drop 1

theorem length_afterAngle (text : List Char) : (afterAngle text).length ≤ text.length := by
  have := length_dropWhile_le (· ≠ '>') text
  simp only [afterAngle, List.length_drop]
  omega

/-- A declaration that is none: it counts as a comment. -/
def strayDeclaration (text : List Char) : Token × List Char :=
  (.comment (withoutNul (text.takeWhile (· ≠ '>'))), afterAngle text)

theorem length_strayDeclaration (text : List Char) :
    (strayDeclaration text).2.length ≤ text.length :=
  length_afterAngle text

def doctype (text : List Char) : Token × List Char :=
  let found := Doctype.read (text.contains '>') (text.takeWhile (· ≠ '>'))
  (.doctype found.isLegacy, afterAngle text)

theorem length_doctype (text : List Char) : (doctype text).2.length ≤ text.length :=
  length_afterAngle text

/-- A section of character data: its content, and what follows it. -/
def characterData : List Char → List Char × List Char
  | [] => ([], [])
  | ']' :: ']' :: '>' :: cs => ([], cs)
  | c :: cs =>
    let later := characterData cs
    (c :: later.1, later.2)

theorem length_characterData (text : List Char) :
    (characterData text).2.length ≤ text.length := by
  fun_induction characterData text with
  | case1 => simp
  | case2 cs =>
    simp
    omega
  | case3 c cs hend later ih => exact Nat.le_succ_of_le ih

/-- What opens with `<!`. Character data exists only inside foreign content. -/
def declaration (foreign : Bool) (text : List Char) : Token × List Char :=
  if "--".toList.isPrefixOf text then comment (text.drop 2)
  else if (text.take 7).map Char.toLower = "doctype".toList then doctype (text.drop 7)
  else if foreign && "[CDATA[".toList.isPrefixOf text then
    let data := characterData (text.drop 7)
    (if data.1.isEmpty then .nothing else .text false (withoutNul data.1), data.2)
  else strayDeclaration text

theorem length_declaration (foreign : Bool) (text : List Char) :
    (declaration foreign text).2.length ≤ text.length := by
  have hdrop (n : Nat) : (text.drop n).length ≤ text.length := by simp
  unfold declaration
  split
  · exact Nat.le_trans (length_comment _) (hdrop 2)
  · split
    · exact Nat.le_trans (length_doctype _) (hdrop 7)
    · split
      · exact Nat.le_trans (length_characterData _) (hdrop 7)
      · exact length_strayDeclaration text

/-! ### Tags and text -/

/-- What opens with `</`. -/
def stopToken? (text : List Char) : Option (Token × List Char) :=
  match text with
  | [] => some (.text false ['<', '/'], [])
  | c :: cs =>
    if c.isAlpha then (tag? text).map fun (tag, rest) => (.stop tag.name, rest)
    else if c = '>' then some (.nothing, cs)
    else some (strayDeclaration text)

theorem length_stopToken? {text rest : List Char} {t : Token}
    (h : stopToken? text = some (t, rest)) : rest.length ≤ text.length := by
  unfold stopToken? at h
  split at h
  · simp_all
  · rename_i c cs
    split at h
    · obtain ⟨⟨tag, r⟩, hr, heq⟩ := Option.map_eq_some_iff.mp h
      simp only [Prod.mk.injEq] at heq
      exact heq.2 ▸ length_tag? hr
    · split at h
      · simp only [Option.some.injEq, Prod.mk.injEq] at h
        exact h.2 ▸ Nat.le_succ _
      · simp only [Option.some.injEq] at h
        have := length_strayDeclaration (c :: cs)
        rw [h] at this
        exact this

/-- What opens with `<`. -/
def angleToken? (foreign : Bool) (text : List Char) : Option (Token × List Char) :=
  match text with
  | [] => some (.text false ['<'], [])
  | c :: cs =>
    if c.isAlpha then (tag? text).map fun (tag, rest) => (.start tag, rest)
    else if c = '!' then some (declaration foreign cs)
    else if c = '?' then some (strayDeclaration text)
    else if c = '/' then stopToken? cs
    else some (.text false ['<'], text)

theorem length_angleToken? {foreign : Bool} {text rest : List Char} {t : Token}
    (h : angleToken? foreign text = some (t, rest)) : rest.length ≤ text.length := by
  unfold angleToken? at h
  split at h
  · simp_all
  · rename_i c cs
    split at h
    · obtain ⟨⟨tag, r⟩, hr, heq⟩ := Option.map_eq_some_iff.mp h
      simp only [Prod.mk.injEq] at heq
      exact heq.2 ▸ length_tag? hr
    · split at h
      · simp only [Option.some.injEq] at h
        have := length_declaration foreign cs
        rw [h] at this
        exact Nat.le_succ_of_le this
      · split at h
        · simp only [Option.some.injEq] at h
          have := length_strayDeclaration (c :: cs)
          rw [h] at this
          exact this
        · split at h
          · exact Nat.le_succ_of_le (length_stopToken? h)
          · simp only [Option.some.injEq, Prod.mk.injEq] at h
            exact h.2 ▸ Nat.le_refl _

/-- Whether a character is read on its own wherever it stands in text. -/
def endsText (c : Char) : Bool :=
  c == '&' || c == '<' || c == '\x00'

def isSpaceReference (r : Reference) : Bool :=
  match r.chars with
  | [c] => isSpace c
  | _ => false

/-- The stretch of text that begins with a character. -/
def textToken (c : Char) (cs : List Char) : Token × List Char :=
  if c = '&' then
    match Reference.at? false cs with
    | some r => (.text (isSpaceReference r) r.chars, cs.drop r.length)
    | none => (.text false [c], cs)
  else if c = '\x00' then (.text false [c], cs)
  else if isSpace c then (.text true (c :: cs.takeWhile isSpace), cs.dropWhile isSpace)
  else (.text false (c :: cs.takeWhile (!endsText ·)), cs.dropWhile (!endsText ·))

theorem length_textToken (c : Char) (cs : List Char) : (textToken c cs).2.length ≤ cs.length := by
  unfold textToken
  split
  · split
    · simp
    · exact Nat.le_refl _
  · split
    · exact Nat.le_refl _
    · split
      · exact length_dropWhile_le _ _
      · exact length_dropWhile_le _ _

def markupToken? (foreign : Bool) : List Char → Option (Token × List Char)
  | [] => none
  | c :: cs => if c = '<' then angleToken? foreign cs else some (textToken c cs)

theorem length_markupToken? {foreign : Bool} {text rest : List Char} {t : Token}
    (h : markupToken? foreign text = some (t, rest)) : rest.length < text.length := by
  cases text with
  | nil => simp [markupToken?] at h
  | cons c cs =>
    rw [markupToken?] at h
    split at h
    · exact Nat.lt_succ_of_le (length_angleToken? h)
    · simp only [Option.some.injEq] at h
      have := length_textToken c cs
      rw [h] at this
      exact Nat.lt_succ_of_le this

/-! ### Text up to an end tag -/

/-- Text with references, in which nothing but the end tag is markup. -/
def replaceableToken? (name : List Char) (text : List Char) : Option (Token × List Char) :=
  match text with
  | [] => none
  | c :: cs =>
    if RawText.isEnd name text then markupToken? false text
    else if c = '<' then some (.text false [c], cs)
    else if c = '\x00' then some (.text false ['\ufffd'], cs)
    else some (textToken c cs)

theorem length_replaceableToken? {name text rest : List Char} {t : Token}
    (h : replaceableToken? name text = some (t, rest)) : rest.length < text.length := by
  unfold replaceableToken? at h
  split at h
  · simp at h
  · rename_i c cs
    split at h
    · exact length_markupToken? h
    · split at h
      · simp only [Option.some.injEq, Prod.mk.injEq] at h
        exact h.2 ▸ Nat.lt_succ_self _
      · split at h
        · simp only [Option.some.injEq, Prod.mk.injEq] at h
          exact h.2 ▸ Nat.lt_succ_self _
        · simp only [Option.some.injEq] at h
          have := length_textToken c cs
          rw [h] at this
          exact Nat.lt_succ_of_le this

/-- A stretch of raw text of the given length, or the markup that follows it. -/
def rawToken? (length : Nat) (text : List Char) : Option (Token × List Char) :=
  if text.isEmpty ∨ length = 0 then markupToken? false text
  else some (.text false (withoutNul (text.take length)), text.drop length)

theorem length_rawToken? {length : Nat} {text rest : List Char} {t : Token}
    (h : rawToken? length text = some (t, rest)) : rest.length < text.length := by
  unfold rawToken? at h
  split at h
  · exact length_markupToken? h
  · rename_i hne
    simp only [not_or, List.isEmpty_iff] at hne
    have := List.length_pos_iff.mpr hne.1
    simp only [Option.some.injEq, Prod.mk.injEq] at h
    rw [← h.2, List.length_drop]
    omega

/-- The first token of a text, with what follows it. -/
def token? (reading : Reading) (foreign : Bool) (text : List Char) : Option (Token × List Char) :=
  match reading with
  | .markup => markupToken? foreign text
  | .replaceable name => replaceableToken? name.toList text
  | .raw name => rawToken? (RawText.length name.toList text) text
  | .script => rawToken? (RawText.scriptLength .plain text) text
  | .plain => rawToken? text.length text

/-- Every token takes at least one character. -/
theorem length_token? {reading : Reading} {foreign : Bool} {text rest : List Char} {t : Token}
    (h : token? reading foreign text = some (t, rest)) : rest.length < text.length := by
  cases reading with
  | markup => exact length_markupToken? h
  | replaceable name => exact length_replaceableToken? h
  | raw name => exact length_rawToken? h
  | script => exact length_rawToken? h
  | plain => exact length_rawToken? h

end Pruner.Markup
