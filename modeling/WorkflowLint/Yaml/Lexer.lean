/-
# WorkflowLint.Yaml.Lexer -- from placed characters to tokens

`tokens` reads a text token by token.  Between tokens the lexer knows

* the columns of the open block collections, innermost first (`indents`): a
  token further left closes them, one further right may open another;
* whether a mapping key may start here (`keyAllowed`);
* for the current flow collection and each one around it, the place where a key
  may have started (`key`, `outer`).  A colon turns that place into a key after
  the fact, so the tokens `blockMappingStart` and `key` are then put in front of
  what was already read.  A key written this way stays on one line and is at
  most 1024 octets long.
-/
import WorkflowLint.Yaml.Token
import WorkflowLint.Yaml.ScalarText

namespace WorkflowLint.Yaml

set_option autoImplicit false

/-! ## Names, tags and directives -/

/-- The characters of anchor names, tag handles and directive names. -/
def isNameChar (c : Char) : Bool := c.isAlphanum || c == '-' || c == '_'

def readName (spots : List Spot) : List Char × List Spot :=
  let (name, rest) := spots.span fun s => isNameChar s.char
  (charsOf name, rest)

/-- The characters of a tag beside letters and digits; a verbatim tag may also
hold flow indicators. -/
def isTagChar (verbatim : Bool) (c : Char) : Bool :=
  isNameChar c ||
    [';', '/', '?', ':', '@', '&', '=', '+', '$', '.', '!', '~', '*', '\'', '(', ')'].contains c ||
    (verbatim && [',', '[', ']'].contains c)

/-- How many octets follow this leading octet of a UTF-8 sequence. -/
def octetsAfter? (lead : Nat) : Option Nat :=
  if lead < 0x80 then some 0
  else if lead / 0x20 == 6 then some 1
  else if lead / 0x10 == 14 then some 2
  else if lead / 0x08 == 30 then some 3
  else none

/-- Reads the characters of a tag; `%` and two digits denote an octet.  `missing`
octets of a UTF-8 sequence have to follow as escapes. -/
def readTagOctets (verbatim : Bool) (missing : Nat) : List Spot → Except Error (Octets × List Spot)
  | [] => if missing == 0 then .ok ([], []) else .error .badTag
  | s :: rest =>
    if s.char == '%' then
      match rest with
      | a :: b :: after =>
        match Text.digit? a.char, Text.digit? b.char with
        | some high, some low =>
          let octet := high * 16 + low
          let missing? :=
            if missing == 0 then octetsAfter? octet
            else if octet / 0x40 == 2 then some (missing - 1)
            else none
          match missing? with
          | some missing => do
            let (octets, rest) ← readTagOctets verbatim missing after
            return (octet.toUInt8 :: octets, rest)
          | none => .error .badTag
        | _, _ => .error .badTag
      | _ => .error .badTag
    else if missing != 0 then .error .badTag
    else if isTagChar verbatim s.char then do
      let (octets, rest) ← readTagOctets verbatim 0 rest
      return (s.char.toNat.toUInt8 :: octets, rest)
    else .ok ([], s :: rest)

/-- A tag text ends before its first zero octet. -/
def untilZero (octets : Octets) : Octets := octets.takeWhile (· != 0)

/-- Reads a tag text that may not be empty, `head` standing in front of it. -/
def readTagText (verbatim : Bool) (head : List Char) (spots : List Spot) :
    Except Error (Octets × List Spot) := do
  let (octets, rest) ← readTagOctets verbatim 0 spots
  if head.isEmpty && rest.length == spots.length then throw .badTag
  return (untilZero (octetsOf (.ofList (head.drop 1)) ++ octets), rest)

/-- Reads a tag handle: `!`, `!name!`, or the start `!name` of a shorthand. -/
def readHandle : List Spot → Except Error (List Char × List Spot)
  | [] => .error .badTag
  | s :: rest =>
    if s.char != '!' then .error .badTag
    else
      let (name, rest) := readName rest
      match rest with
      | t :: after =>
        if t.char == '!' then .ok ('!' :: (name ++ ['!']), after)
        else .ok ('!' :: name, t :: after)
      | [] => .ok ('!' :: name, [])

def isNamedHandle (handle : List Char) : Bool :=
  2 ≤ handle.length && handle.getLast? == some '!'

/-- Reads a tag from its exclamation mark on.  The tag `!` has an empty handle. -/
def readTag (inFlow : Bool) (spots : List Spot) : Except Error (Token × List Spot) := do
  let (token, rest) ← match spots with
    | a :: b :: inner =>
      if a.char == '!' && b.char == '<' then do
        let (octets, rest) ← readTagText true [] inner
        match rest with
        | c :: after =>
          if c.char == '>' then pure (Token.tag "" octets, after) else throw .badTag
        | [] => throw .badTag
      else readShorthand spots
    | _ => readShorthand spots
  if endsWord rest || (inFlow && nextIn [','] rest) then return (token, rest)
  throw .badTag
where
  readShorthand (spots : List Spot) : Except Error (Token × List Spot) := do
    let (handle, rest) ← readHandle spots
    if isNamedHandle handle then
      let (octets, rest) ← readTagText false [] rest
      return (.tag (.ofList handle) octets, rest)
    else
      let (octets, rest) ← readTagText false handle rest
      if octets.isEmpty then return (.tag "" (octetsOf "!"), rest)
      return (.tag "!" octets, rest)

def readAnchorName (spots : List Spot) : Except Error (String × List Spot) :=
  let (name, rest) := readName spots
  if name.isEmpty then .error .badAnchor
  else if endsWord rest || nextIn ['?', ':', ',', ']', '\x7d', '%', '@', '\x60'] rest then
    .ok (.ofList name, rest)
  else .error .badAnchor

def readVersionNumber (spots : List Spot) : Except Error (Nat × List Spot) :=
  let (digits, rest) := spots.span fun s => s.char.isDigit
  if 9 < digits.length then .error .badDirective
  else
    match Text.digits? 10 (charsOf digits) with
    | some n => .ok (n, rest)
    | none => .error .badDirective

/-- Reads the directive behind `%`, with its line. -/
def readDirective (spots : List Spot) : Except Error (Token × List Spot) := do
  let (name, rest) := readName spots
  if name.isEmpty || !endsWord rest then throw .badDirective
  let (token, rest) ←
    if name = "YAML".toList then do
      let (major, rest) ← readVersionNumber (skipGaps rest)
      match rest with
      | s :: rest =>
        if s.char != '.' then throw .badDirective
        let (minor, rest) ← readVersionNumber rest
        pure (Token.version major minor, rest)
      | [] => throw .badDirective
    else if name = "TAG".toList then do
      let (handle, rest) ← readHandle (skipGaps rest)
      if !isNamedHandle handle && handle != ['!'] then throw .badDirective
      match rest with
      | s :: rest =>
        if !isGap s.char then throw .badDirective
        let (expansion, rest) ← readTagText true [] (skipGaps rest)
        if !endsWord rest then throw .badDirective
        pure (Token.handle (.ofList handle) expansion, rest)
      | [] => throw .badDirective
    else throw .badDirective
  match restAfterLine rest with
  | some next => return (token, next)
  | none => throw .badDirective

/-! ## The state between tokens -/

/-- A place where a key may have started. -/
structure PendingKey where
  /-- How many tokens stand before it. -/
  position : Nat
  spot : Spot
  /-- Whether only a key can stand there. -/
  required : Bool

structure Lexer where
  /-- The tokens read so far, last one first. -/
  emitted : List Token
  count : Nat
  indents : List Nat
  keyAllowed : Bool
  key : Option PendingKey
  outer : List (Option PendingKey)

namespace Lexer

def start : Lexer := ⟨[], 0, [], true, none, []⟩

def inFlow (lx : Lexer) : Bool := !lx.outer.isEmpty

def emit (lx : Lexer) (t : Token) : Lexer :=
  { lx with emitted := t :: lx.emitted, count := lx.count + 1 }

/-- Puts tokens in front of the one at `position`. -/
def insert (lx : Lexer) (position : Nat) (ts : List Token) : Lexer :=
  let (after, before) := lx.emitted.splitAt (lx.count - position)
  { lx with emitted := after ++ (ts.reverse ++ before), count := lx.count + ts.length }

/-- Closes the block collections whose column satisfies `beyond`. -/
def closeBlocks (lx : Lexer) (beyond : Nat → Bool) : Lexer :=
  if lx.inFlow then lx
  else
    let (closed, left) := lx.indents.span beyond
    { lx with
      emitted := List.replicate closed.length .blockEnd ++ lx.emitted
      count := lx.count + closed.length
      indents := left }

/-- Whether a block collection at this column would be a new one. -/
def opensBlock (lx : Lexer) (column : Nat) : Bool :=
  !lx.inFlow && lx.indents.head?.all (· < column)

/-- Opens a block collection at this column, unless one is open there. -/
def openBlock (lx : Lexer) (column : Nat) (t : Token) : Lexer :=
  if lx.opensBlock column then { lx with indents := column :: lx.indents }.emit t else lx

/-- Gives up the place where a key may have started; a required key is missed. -/
def dropKey (lx : Lexer) : Except Error Lexer :=
  match lx.key with
  | some key => if key.required then .error .missingColon else .ok { lx with key := none }
  | none => .ok lx

/-- Notes that a key may start at this spot, if keys are allowed here. -/
def noteKey (lx : Lexer) (s : Spot) : Except Error Lexer := do
  if lx.keyAllowed then
    let required := !lx.inFlow && lx.indents.head? == some s.column
    let lx ← lx.dropKey
    return { lx with key := some ⟨lx.count, s, required⟩ }
  return lx

/-- A key can no longer reach up to `s`: it began on an earlier line, or more than 1024
octets ago. -/
def PendingKey.isStale (key : PendingKey) (s : Spot) : Bool :=
  key.spot.line < s.line || key.spot.index + 1024 < s.index

/-- What is left of a place for a key when the lexer has come to `s`. -/
def refreshKey (s : Spot) : Option PendingKey → Except Error (Option PendingKey)
  | some key =>
    if PendingKey.isStale key s then
      if key.required then .error .missingColon else .ok none
    else .ok (some key)
  | none => .ok none

def dropStaleKeys (lx : Lexer) (s : Spot) : Except Error Lexer := do
  let outer ← lx.outer.mapM (refreshKey s)
  let key ← refreshKey s lx.key
  return { lx with key := key, outer := outer }

/-- Skips blanks, comments and line ends, and byte order marks that start a line.  A
new line in block context may start a key; a tab may stand only where no key can start,
or in a flow collection. -/
def skipToToken (inFlow : Bool) (keyAllowed inComment : Bool) : List Spot → Bool × List Spot
  | [] => (keyAllowed, [])
  | s :: rest =>
    let c := s.char
    if isBreak c then skipToToken inFlow (keyAllowed || !inFlow) false rest
    else if inComment then skipToToken inFlow keyAllowed true rest
    else if c == ' ' || (c == '\t' && (inFlow || !keyAllowed)) then
      skipToToken inFlow keyAllowed false rest
    else if c == byteOrderMark && s.column == 0 then skipToToken inFlow keyAllowed false rest
    else if c == '#' then skipToToken inFlow keyAllowed true rest
    else (keyAllowed, s :: rest)

/-! ## One token -/

/-- A directive or a document mark ends every block. -/
def endBlocks (lx : Lexer) : Except Error Lexer := do
  let lx ← (lx.closeBlocks fun _ => true).dropKey
  return { lx with keyAllowed := false }

def openFlow (lx : Lexer) (s : Spot) (t : Token) : Except Error Lexer := do
  let lx ← lx.noteKey s
  return { lx with key := none, outer := lx.key :: lx.outer, keyAllowed := true }.emit t

def closeFlow (lx : Lexer) (t : Token) : Except Error Lexer := do
  let lx ← lx.dropKey
  let lx :=
    match lx.outer with
    | key :: outer => { lx with key := key, outer := outer }
    | [] => lx
  return { lx with keyAllowed := false }.emit t

def flowEntry (lx : Lexer) : Except Error Lexer := do
  let lx ← lx.dropKey
  return { lx with keyAllowed := true }.emit .flowEntry

def blockEntry (lx : Lexer) (s : Spot) : Except Error Lexer := do
  if !lx.inFlow && !lx.keyAllowed then throw .misplacedIndicator
  let lx ← (lx.openBlock s.column .blockSequenceStart).dropKey
  return { lx with keyAllowed := true }.emit .blockEntry

def keyEntry (lx : Lexer) (s : Spot) : Except Error Lexer := do
  if !lx.inFlow && !lx.keyAllowed then throw .misplacedIndicator
  let lx ← (lx.openBlock s.column .blockMappingStart).dropKey
  return { lx with keyAllowed := !lx.inFlow }.emit .key

/-- The colon of a value.  It makes a key of the place where one may have started. -/
def valueEntry (lx : Lexer) (s : Spot) : Except Error Lexer := do
  match lx.key with
  | some key =>
    let column := key.spot.column
    let lx :=
      if lx.opensBlock column then
        { lx with indents := column :: lx.indents }.insert key.position [.blockMappingStart, .key]
      else lx.insert key.position [.key]
    return { lx with key := none, keyAllowed := false }.emit .value
  | none =>
    if !lx.inFlow && !lx.keyAllowed then throw .misplacedIndicator
    let lx := lx.openBlock s.column .blockMappingStart
    return { lx with keyAllowed := !lx.inFlow }.emit .value

/-- A token that may be, or may begin, a key. -/
def content (lx : Lexer) (s : Spot) : Except Error Lexer := do
  let lx ← lx.noteKey s
  return { lx with keyAllowed := false }

/-- The indicators that no plain scalar may start with. -/
def indicators : List Char :=
  [',', '[', ']', '\x7b', '\x7d', '#', '&', '*', '!', '|', '>', '\'', '"', '%', '@', '\x60']

/-- Whether a plain scalar may start with `c`.  The indicators that may are not
followed by a blank here, since they would then be tokens of their own. -/
def startsPlain (inFlow : Bool) (c : Char) : Bool :=
  if isGap c || isBreak c then false
  else if c == '-' then true
  else if c == '?' || c == ':' then !inFlow
  else !indicators.contains c

def readToken (lx : Lexer) (s : Spot) (rest : List Spot) : Except Error (Lexer × List Spot) := do
  let c := s.char
  let here := s :: rest
  let flow := lx.inFlow
  if s.column == 0 && c == '%' then
    let lx ← lx.endBlocks
    let (t, rest) ← readDirective rest
    return (lx.emit t, rest)
  if atDocumentMark here then
    let lx ← lx.endBlocks
    return (lx.emit (if c == '-' then .documentStart else .documentEnd), rest.drop 2)
  match c with
  | '[' => return (← lx.openFlow s .flowSequenceStart, rest)
  | '\x7b' => return (← lx.openFlow s .flowMappingStart, rest)
  | ']' => return (← lx.closeFlow .flowSequenceEnd, rest)
  | '\x7d' => return (← lx.closeFlow .flowMappingEnd, rest)
  | ',' => return (← lx.flowEntry, rest)
  | '*' =>
    let lx ← lx.content s
    let (name, rest) ← readAnchorName rest
    return (lx.emit (.aliasTo name), rest)
  | '&' =>
    let lx ← lx.content s
    let (name, rest) ← readAnchorName rest
    return (lx.emit (.anchor name), rest)
  | '!' =>
    let lx ← lx.content s
    let (t, rest) ← readTag flow here
    return (lx.emit t, rest)
  | '\'' =>
    let lx ← lx.content s
    let (text, rest) ← readSingleQuoted [] .none rest
    return (lx.emit (.scalar .singleQuoted (.ofList text.reverse)), rest)
  | '"' =>
    let lx ← lx.content s
    let (text, rest) ← readDoubleQuoted [] .none none rest
    return (lx.emit (.scalar .doubleQuoted (.ofList text.reverse)), rest)
  | _ =>
    if c == '-' && endsWord rest then return (← lx.blockEntry s, rest)
    if c == '?' && (flow || endsWord rest) then return (← lx.keyEntry s, rest)
    if c == ':' && (flow || endsWord rest) then return (← lx.valueEntry s, rest)
    if (c == '|' || c == '>') && !flow then
      let lx ← lx.dropKey
      let (text, rest) ← readBlock (c == '>') lx.indents.head? rest
      let style := if c == '|' then Style.literal else Style.folded
      return ({ lx with keyAllowed := true }.emit (.scalar style (.ofList text)), rest)
    if startsPlain flow c then
      let lx ← lx.content s
      let indent := (lx.indents.head?.map (· + 1)).getD 0
      let (text, broken, rest) ← readPlain flow indent [] .none here
      let lx := { lx with keyAllowed := broken || lx.keyAllowed }
      return (lx.emit (.scalar .plain (.ofList text.reverse)), rest)
    throw (.strayCharacter c)

/-- The tokens from here on.  Every token takes at least one character, so as
many steps as there are characters, and one more, reach the end. -/
def run : Nat → Lexer → List Spot → Except Error (List Token)
  | 0, _, _ => .error .unexpectedToken
  | steps + 1, lx, spots => do
    let (keyAllowed, spots) := skipToToken lx.inFlow lx.keyAllowed false spots
    match spots with
    | [] =>
      let lx ← (lx.closeBlocks fun _ => true).dropKey
      return lx.emitted.reverse
    | s :: rest =>
      let lx ← { lx with keyAllowed := keyAllowed }.dropStaleKeys s
      let (lx, rest) ← (lx.closeBlocks (s.column < ·)).readToken s rest
      run steps lx rest

end Lexer

def tokens (spots : List Spot) : Except Error (List Token) :=
  Lexer.run (spots.length + 1) .start spots

end WorkflowLint.Yaml
