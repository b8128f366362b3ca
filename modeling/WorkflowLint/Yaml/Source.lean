/-
# WorkflowLint.Yaml.Source -- a YAML text as placed characters

Before anything is read, every character of a text gets its place: how many octets
of UTF-8 stand before it, its line and its column, where a column is one character.
Line ends are settled here as well: a line feed, a carriage return, the pair of both
and U+0085 are one line feed each; U+2028 and U+2029 end a line and stay what they are.

A text with a character that no YAML stream may hold has no placed form.
-/

namespace WorkflowLint.Yaml

set_option autoImplicit false

/-- Why a text is no YAML stream, or why a document has no value. -/
inductive Error where
  /-- A character that no stream may hold. -/
  | forbiddenCharacter (c : Char)
  /-- A character that starts no token. -/
  | strayCharacter (c : Char)
  /-- A tab where only spaces may indent. -/
  | tabIndentation
  /-- A text that must be a key of its block has no colon. -/
  | missingColon
  /-- An entry, a key or a value stands where none may start. -/
  | misplacedIndicator
  /-- A malformed or unknown directive. -/
  | badDirective
  /-- A directive given twice. -/
  | repeatedDirective
  /-- A language version other than 1.1 and 1.2. -/
  | unsupportedVersion
  /-- A malformed anchor or alias name. -/
  | badAnchor
  /-- A malformed tag. -/
  | badTag
  /-- A tag handle that no directive declares. -/
  | undeclaredHandle (handle : String)
  /-- A malformed first line of a block scalar. -/
  | badBlockHeader
  /-- A quoted scalar without its end. -/
  | unclosedQuote
  /-- A malformed escape in a quoted scalar. -/
  | badEscape
  /-- A colon inside a plain scalar before a flow indicator. -/
  | ambiguousColon
  /-- A token that the structure of the document does not allow here. -/
  | unexpectedToken
  /-- An alias whose name was given to no earlier node. -/
  | unknownAlias (name : String)
  /-- Collections nested too deeply. -/
  | tooDeep
  /-- Aliases followed too often. -/
  | tooManyAliases
  /-- One key twice in one mapping. -/
  | duplicateKey
  /-- A scalar that does not fit the type its tag asks for. -/
  | unfitTag
  /-- An integer that fits 128 bits but not 64. -/
  | wideInteger
  /-- Another document after the only one allowed. -/
  | severalDocuments
  deriving DecidableEq, Repr

/-- One character and its place: `index` counts octets of UTF-8 from the start of the
text, `column` characters from the start of the line. -/
structure Spot where
  char : Char
  index : Nat
  line : Nat
  column : Nat
  deriving DecidableEq, Repr

/-- The characters of a YAML stream: tab, line ends, and what is printable. -/
def isAllowed (c : Char) : Bool :=
  let n := c.toNat
  n == 0x9 || n == 0xA || n == 0xD || (0x20 ≤ n && n ≤ 0x7E) || n == 0x85 ||
    (0xA0 ≤ n && n ≤ 0xD7FF) || (0xE000 ≤ n && n ≤ 0xFFFD) || 0x10000 ≤ n

def isGap (c : Char) : Bool := c == ' ' || c == '\t'

/-- The byte order mark.  Between tokens it may start a line, where it takes the first
column and means nothing; inside a scalar it is a character like any other. -/
def byteOrderMark : Char := '\uFEFF'

/-- A line end, once carriage returns and U+0085 have become line feeds. -/
def isBreak (c : Char) : Bool := c == '\n' || c == '\u2028' || c == '\u2029'

def placeFrom (index line column : Nat) : List Char → List Spot
  | [] => []
  | '\r' :: '\n' :: rest => ⟨'\n', index, line, column⟩ :: placeFrom (index + 2) (line + 1) 0 rest
  | c :: rest =>
    let next := index + c.utf8Size
    let c := if c == '\r' || c == '\u0085' then '\n' else c
    if isBreak c then ⟨c, index, line, column⟩ :: placeFrom next (line + 1) 0 rest
    else ⟨c, index, line, column⟩ :: placeFrom next line (column + 1) rest

def place (text : String) : Except Error (List Spot) :=
  let cs := text.toList
  match cs.find? fun c => !isAllowed c with
  | some c => .error (.forbiddenCharacter c)
  | none => .ok (placeFrom 0 0 0 cs)

/-- Whether a space, a tab, a line end or the end of the text comes next. -/
def endsWord : List Spot → Bool
  | [] => true
  | s :: _ => isGap s.char || isBreak s.char

def nextIn (set : List Char) : List Spot → Bool
  | [] => false
  | s :: _ => set.contains s.char

/-- Whether a line starts here with the mark of a document's start or end. -/
def atDocumentMark : List Spot → Bool
  | a :: b :: c :: rest =>
    a.column == 0 && a.char == b.char && b.char == c.char &&
      (a.char == '-' || a.char == '.') && endsWord rest
  | _ => false

def skipGaps (spots : List Spot) : List Spot := spots.dropWhile fun s => isGap s.char

/-- The text without a comment that starts right here. -/
def skipComment : List Spot → List Spot
  | [] => []
  | s :: rest => if s.char == '#' then rest.dropWhile fun s => !isBreak s.char else s :: rest

/-- What follows on the next line, if only blanks and a comment are left on this one. -/
def restAfterLine (spots : List Spot) : Option (List Spot) :=
  match skipComment (skipGaps spots) with
  | [] => some []
  | s :: rest => if isBreak s.char then some rest else none

def charsOf (spots : List Spot) : List Char := spots.map (·.char)

end WorkflowLint.Yaml
