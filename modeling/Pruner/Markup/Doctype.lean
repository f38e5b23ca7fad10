import Pruner.Markup.Tag

/-!
# Document types

A document type declaration decides one thing: whether the document is taken to be of a legacy kind,
in which a table does not end an open paragraph. So is a document without such a declaration.
-/

namespace Pruner.Markup

/-- What a declaration says. It is `proper` if nothing is missing or misplaced in it. -/
structure Doctype where
  name : String
  publicId : Option String := none
  systemId : Option String := none
  proper : Bool
  deriving DecidableEq, Repr

namespace Doctype

/-- Public identifiers of the legacy kind, by what they begin with. -/
def legacyPublicIds : List String :=
  (["2.0 level 1", "2.0 level 2", "2.0 strict level 1", "2.0 strict level 2", "2.0 strict", "2.0",
    "2.1e", "3.0", "3.2 final", "3.2", "3", "level 0", "level 1", "level 2", "level 3",
    "strict level 0", "strict level 1", "strict level 2", "strict level 3", "strict"].map
      fun kind => "-//ietf//dtd html " ++ kind ++ "//") ++ ["-//ietf//dtd html//"] ++
  (["html 3 1995-03-24", "html 3.2 draft", "html 3.2 final", "html 3.2", "html 3.2s draft",
    "html 4.0 frameset", "html 4.0 transitional", "html experimental 19960712",
    "html experimental 970421", "w3 html"].map
      fun kind => "-//w3c//dtd " ++ kind ++ "//") ++ ["-//w3o//dtd w3 html 3.0//"]

/-- Public identifiers of the legacy kind as a whole. -/
def legacyWholeIds : List String :=
  ["-//w3o//dtd w3 html strict 3.0//en//", "-/w3c/dtd html 4.0 transitional/en", "html"]

/-- Public identifiers that are of the legacy kind unless a system identifier stands with them. -/
def partlyLegacyPublicIds : List String :=
  ["-//w3c//dtd html 4.01 frameset//", "-//w3c//dtd html 4.01 transitional//"]

def isLegacy (d : Doctype) : Bool :=
  let id := ((d.publicId.getD "").toList.map Char.toLower)
  let begins (start : String) : Bool := start.toList.isPrefixOf id
  !d.proper || d.name != "html" || legacyPublicIds.any begins ||
    legacyWholeIds.any (·.toList == id) ||
    (d.systemId.isNone && partlyLegacyPublicIds.any begins)

/-! ### Reading -/

/-- What is read after the name: identifiers, and whether all is proper. -/
structure Identifiers where
  publicId : Option String := none
  systemId : Option String := none
  proper : Bool

def readId (text : List Char) : Option String :=
  some (String.ofList (withoutNul text))

/-- A quoted identifier at the start of a text, and what follows it. -/
def quoted? (text : List Char) : Option (List Char × List Char) :=
  match text with
  | [] => none
  | c :: cs => if c = '"' ∨ c = '\'' then upTo? c cs else none

/-- A system identifier, after a public one if there is one. What follows it does no harm, but the
declaration has to be closed. -/
def systemIdentifier (closed : Bool) (publicId : Option String) (text : List Char) : Identifiers :=
  match quoted? (text.dropWhile isSpace) with
  | none => ⟨publicId, none, false⟩
  | some (id, rest) => ⟨publicId, readId id, closed || rest.any (!isSpace ·)⟩

def publicIdentifier (closed : Bool) (text : List Char) : Identifiers :=
  match quoted? (text.dropWhile isSpace) with
  | none => ⟨none, none, false⟩
  | some (id, rest) =>
    if rest.all isSpace then ⟨readId id, none, closed⟩
    else systemIdentifier closed (readId id) rest

def identifiers (closed : Bool) (text : List Char) : Identifiers :=
  if text.isEmpty then ⟨none, none, closed⟩
  else
    let keyword := (text.take 6).map Char.toLower
    if keyword = "public".toList then publicIdentifier closed (text.drop 6)
    else if keyword = "system".toList then systemIdentifier closed none (text.drop 6)
    else ⟨none, none, false⟩

/-- Reads what stands between the keyword of a declaration and its closing angle. Without that angle
it is `closed` by nothing but the end of the input. -/
def read (closed : Bool) (text : List Char) : Doctype :=
  let named := text.dropWhile isSpace
  let found := identifiers closed ((named.dropWhile (!isSpace ·)).dropWhile isSpace)
  { name := readName (named.takeWhile (!isSpace ·))
    publicId := found.publicId
    systemId := found.systemId
    proper := found.proper && !named.isEmpty }

end Doctype

end Pruner.Markup
