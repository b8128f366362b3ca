/-
# WorkflowLint.Yaml.ScalarText -- the text of a scalar

A scalar may run over several lines.  What its line ends become depends on its
style:

* in plain and quoted scalars (`Gap`) one line end is a space, and of several the
  first one is dropped; spaces and tabs around line ends are dropped;
* a literal block keeps its line ends; a folded block folds those between two
  lines that start with no blank (`BlockText`).

Each reader takes the spots behind the first indicator and returns the text and
the spots behind the scalar.
-/
import WorkflowLint.Text.Digit
import WorkflowLint.Yaml.Source

namespace WorkflowLint.Yaml

set_option autoImplicit false

/-! ## Plain and quoted scalars -/

/-- The blanks read since the last other character: spaces and tabs of one line,
or line ends.  Both lists have the last character first. -/
inductive Gap where
  | spaces (blanks : List Char)
  | breaks (first : List Char) (more : List Char)

namespace Gap

def none : Gap := .spaces []

/-- A space or tab more; beside a line end it does not count. -/
def addBlank (c : Char) : Gap → Gap
  | .spaces blanks => .spaces (c :: blanks)
  | .breaks first more => .breaks first more

/-- A line end more; it takes the place of spaces and tabs. -/
def addBreak (c : Char) : Gap → Gap
  | .spaces _ => .breaks [c] []
  | .breaks first more => .breaks first (c :: more)

/-- What the blanks become inside the scalar, last character first. -/
def folded : Gap → List Char
  | .spaces blanks => blanks
  | .breaks ['\n'] [] => [' ']
  | .breaks ['\n'] more => more
  | .breaks first more => more ++ first

def hasBreak : Gap → Bool
  | .spaces _ => false
  | .breaks _ _ => true

def isNone : Gap → Bool
  | .spaces blanks => blanks.isEmpty
  | .breaks _ _ => false

end Gap

/-- Reads on in a plain scalar: its text (last character first), whether a line
end follows it, and the rest.  `indent` is the least column of a further line. -/
def readPlain (inFlow : Bool) (indent : Nat) (text : List Char) (gap : Gap) :
    List Spot → Except Error (List Char × Bool × List Spot)
  | [] => .ok (text, gap.hasBreak, [])
  | s :: rest =>
    let c := s.char
    if isGap c then
      if gap.hasBreak && c == '\t' && s.column < indent then .error .tabIndentation
      else readPlain inFlow indent text (gap.addBlank c) rest
    else if isBreak c then readPlain inFlow indent text (gap.addBreak c) rest
    else if !gap.isNone &&
        ((!inFlow && s.column < indent) || atDocumentMark (s :: rest) || c == '#') then
      .ok (text, gap.hasBreak, s :: rest)
    else if inFlow && c == ':' && nextIn [',', '?', '[', ']', '\x7b', '\x7d'] rest then
      .error .ambiguousColon
    else if (c == ':' && endsWord rest) ||
        (inFlow && [',', '[', ']', '\x7b', '\x7d'].contains c) then
      .ok (text, gap.hasBreak, s :: rest)
    else readPlain inFlow indent (c :: (gap.folded ++ text)) .none rest

/-- Reads on between single quotes; a quote inside is written twice. -/
def readSingleQuoted (text : List Char) (gap : Gap) :
    List Spot → Except Error (List Char × List Spot)
  | [] => .error .unclosedQuote
  | s :: rest =>
    let c := s.char
    if isGap c then readSingleQuoted text (gap.addBlank c) rest
    else if isBreak c then readSingleQuoted text (gap.addBreak c) rest
    else if atDocumentMark (s :: rest) then .error .unclosedQuote
    else if c == '\'' then
      match rest with
      | [] => .ok (gap.folded ++ text, [])
      | t :: after =>
        if t.char == '\'' then readSingleQuoted ('\'' :: (gap.folded ++ text)) .none after
        else .ok (gap.folded ++ text, t :: after)
    else readSingleQuoted (c :: (gap.folded ++ text)) .none rest

/-- What an escape letter stands for: a character, or a code of so many digits. -/
inductive Escape where
  | char (c : Char)
  | code (digits : Nat)

def escapeOf (c : Char) : Option Escape :=
  match c with
  | '0' => some (.char '\x00')
  | 'a' => some (.char '\x07')
  | 'b' => some (.char '\x08')
  | 't' => some (.char '\t')
  | '\t' => some (.char '\t')
  | 'n' => some (.char '\n')
  | 'v' => some (.char '\x0b')
  | 'f' => some (.char '\x0c')
  | 'r' => some (.char '\r')
  | 'e' => some (.char '\x1b')
  | ' ' => some (.char ' ')
  | '"' => some (.char '"')
  | '/' => some (.char '/')
  | '\\' => some (.char '\\')
  | 'N' => some (.char '\u0085')
  | '_' => some (.char '\u00a0')
  | 'L' => some (.char '\u2028')
  | 'P' => some (.char '\u2029')
  | 'x' => some (.code 2)
  | 'u' => some (.code 4)
  | 'U' => some (.code 8)
  | _ => none

def charOfCode? (n : Nat) : Option Char :=
  if n.isValidChar then some (Char.ofNat n) else none

/-- Reads on between double quotes.  `code` holds the digits still missing from a
character code and its value so far.  A line end after a backslash is dropped
together with the blanks that follow it. -/
def readDoubleQuoted (text : List Char) (gap : Gap) (code : Option (Nat × Nat)) :
    List Spot → Except Error (List Char × List Spot)
  | [] => .error .unclosedQuote
  | s :: rest =>
    let c := s.char
    match code with
    | some (missing, value) =>
      match Text.digit? c with
      | none => .error .badEscape
      | some digit =>
        let value := value * 16 + digit
        if missing ≤ 1 then
          match charOfCode? value with
          | some d => readDoubleQuoted (d :: text) .none none rest
          | none => .error .badEscape
        else readDoubleQuoted text .none (some (missing - 1, value)) rest
    | none =>
      if isGap c then readDoubleQuoted text (gap.addBlank c) none rest
      else if isBreak c then readDoubleQuoted text (gap.addBreak c) none rest
      else if atDocumentMark (s :: rest) then .error .unclosedQuote
      else
        let text := gap.folded ++ text
        if c == '"' then .ok (text, rest)
        else if c == '\\' then
          match rest with
          | [] => .error .badEscape
          | e :: after =>
            if isBreak e.char then readDoubleQuoted text (.breaks [] []) none after
            else
              match escapeOf e.char with
              | some (.char d) => readDoubleQuoted (d :: text) .none none after
              | some (.code digits) => readDoubleQuoted text .none (some (digits, 0)) after
              | none => .error .badEscape
        else readDoubleQuoted (c :: text) .none none rest

/-! ## Block scalars -/

/-- What happens to the line ends after the last line of a block scalar. -/
inductive Chomping where
  | strip
  | clip
  | keep
  deriving DecidableEq, Repr

/-- The first line of a block scalar: chomping and the indentation, if given. -/
structure BlockHeader where
  chomping : Chomping
  increment : Option Nat
  deriving DecidableEq, Repr

private def chompingOf? (c : Char) : Option Chomping :=
  if c == '+' then some .keep else if c == '-' then some .strip else none

private def incrementOf? (c : Char) : Option Nat :=
  if c.isDigit then Text.digit? c else none

/-- Reads the indicators behind `|` or `>`, in either order, and the rest of
their line, which may hold a comment only. -/
def readBlockHeader (spots : List Spot) : Except Error (BlockHeader × List Spot) :=
  let (header, rest) : BlockHeader × List Spot :=
    match spots with
    | [] => (⟨.clip, none⟩, [])
    | a :: rest =>
      match chompingOf? a.char, incrementOf? a.char with
      | some chomping, _ =>
        match rest with
        | b :: after =>
          match incrementOf? b.char with
          | some n => (⟨chomping, some n⟩, after)
          | none => (⟨chomping, none⟩, rest)
        | [] => (⟨chomping, none⟩, [])
      | none, some n =>
        match rest with
        | b :: after =>
          match chompingOf? b.char with
          | some chomping => (⟨chomping, some n⟩, after)
          | none => (⟨.clip, some n⟩, rest)
        | [] => (⟨.clip, some n⟩, [])
      | none, none => (⟨.clip, none⟩, spots)
  if header.increment == some 0 then .error .badBlockHeader
  else
    match restAfterLine rest with
    | some next => .ok (header, next)
    | none => .error .badBlockHeader

/-- A block scalar as far as it is read; the lists have the last character first.
`ending` is the end of the last line, `blankLines` those of the blank lines after it. -/
structure BlockText where
  text : List Char
  ending : List Char
  blankLines : List Char
  startsBlank : Bool

namespace BlockText

def empty : BlockText := ⟨[], [], [], false⟩

def startLine (fold : Bool) (c : Char) (b : BlockText) : BlockText :=
  let blank := isGap c
  let joint :=
    if fold && b.ending == ['\n'] && !b.startsBlank && !blank then
      if b.blankLines.isEmpty then [' '] else []
    else b.ending
  { text := c :: (b.blankLines ++ (joint ++ b.text))
    ending := []
    blankLines := []
    startsBlank := blank }

def finish (chomping : Chomping) (b : BlockText) : List Char :=
  match chomping with
  | .strip => b.text.reverse
  | .clip => (b.ending ++ b.text).reverse
  | .keep => (b.blankLines ++ (b.ending ++ b.text)).reverse

end BlockText

/-- Reads the lines of a block scalar.  `indent` is its indentation once that is
known; until then `widest` is the widest blank line, and `least` bounds the
indentation from below.  `inLine` says that a line has been started. -/
def readBlockLines (fold : Bool) (least : Nat) (indent : Option Nat) (widest : Nat)
    (inLine : Bool) (b : BlockText) : List Spot → Except Error (BlockText × List Spot)
  | [] => .ok (b, [])
  | s :: rest =>
    let c := s.char
    if inLine then
      if isBreak c then readBlockLines fold least indent widest false { b with ending := [c] } rest
      else readBlockLines fold least indent widest true { b with text := c :: b.text } rest
    else
      let inside := indent.all fun n => s.column < n
      if inside && c == ' ' then readBlockLines fold least indent widest false b rest
      else
        let widest := max widest s.column
        if inside && c == '\t' then .error .tabIndentation
        else if isBreak c then
          readBlockLines fold least indent widest false
            { b with blankLines := c :: b.blankLines } rest
        else
          let column := indent.getD (max widest (max least 1))
          if s.column == column then
            readBlockLines fold least (some column) widest true (b.startLine fold c) rest
          else .ok (b, s :: rest)

/-- Reads a block scalar behind its indicator.  `parent` is the column of the
block collection around it. -/
def readBlock (fold : Bool) (parent : Option Nat) (spots : List Spot) :
    Except Error (List Char × List Spot) := do
  let (header, rest) ← readBlockHeader spots
  let least := (parent.map (· + 1)).getD 0
  let indent := header.increment.map (· + parent.getD 0)
  let (b, rest) ← readBlockLines fold least indent 0 false .empty rest
  return (b.finish header.chomping, rest)

end WorkflowLint.Yaml
