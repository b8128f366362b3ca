/-
# WorkflowLint.Json -- JSON texts

A value is written either on one line or with two spaces of indentation per
level.  The fields of an object keep their order, and only quotes, backslashes and
control characters are escaped.
-/

namespace WorkflowLint

set_option autoImplicit false

inductive Json where
  | null
  | bool (value : Bool)
  | number (value : Int)
  | string (text : String)
  | array (items : List Json)
  | object (fields : List (String × Json))
  deriving Repr, Inhabited

namespace Json

def hexDigit (n : Nat) : Char := (Nat.toDigits 16 n).headD '0'

def escape (c : Char) : List Char :=
  match c with
  | '"' => ['\\', '"']
  | '\\' => ['\\', '\\']
  | '\n' => ['\\', 'n']
  | '\r' => ['\\', 'r']
  | '\t' => ['\\', 't']
  | '\x08' => ['\\', 'b']
  | '\x0c' => ['\\', 'f']
  | c =>
    if c.toNat < 0x20 then ['\\', 'u', '0', '0', hexDigit (c.toNat / 16), hexDigit (c.toNat % 16)]
    else [c]

def quote (s : String) : String := .ofList ('"' :: (s.toList.flatMap escape ++ ['"']))

/-- A line break and the indentation of a level. -/
def newLine (level : Nat) : String := "\n" ++ .ofList (List.replicate (2 * level) ' ')

/-- A value that has no parts. -/
def leaf (v : Json) : String :=
  match v with
  | .bool b => if b then "true" else "false"
  | .number n => toString n
  | .string s => quote s
  | .array _ => "[]"
  | .object _ => "\x7b\x7d"
  | .null => "null"

mutual

/-- A value with line breaks, inside so many levels. -/
def prettyAt (level : Nat) : Json → String
  | .array (v :: vs) =>
    "[" ++ newLine (level + 1) ++ prettyAt (level + 1) v ++ prettyItems (level + 1) vs ++
      newLine level ++ "]"
  | .object ((k, v) :: fs) =>
    "\x7b" ++ newLine (level + 1) ++ quote k ++ ": " ++ prettyAt (level + 1) v ++
      prettyFields (level + 1) fs ++ newLine level ++ "\x7d"
  | v => leaf v

def prettyItems (level : Nat) : List Json → String
  | [] => ""
  | v :: vs => "," ++ newLine level ++ prettyAt level v ++ prettyItems level vs

def prettyFields (level : Nat) : List (String × Json) → String
  | [] => ""
  | (k, v) :: fs =>
    "," ++ newLine level ++ quote k ++ ": " ++ prettyAt level v ++ prettyFields level fs

end

def pretty (v : Json) : String := prettyAt 0 v

mutual

def compact : Json → String
  | .array (v :: vs) => "[" ++ compact v ++ compactItems vs ++ "]"
  | .object ((k, v) :: fs) => "\x7b" ++ quote k ++ ":" ++ compact v ++ compactFields fs ++ "\x7d"
  | v => leaf v

def compactItems : List Json → String
  | [] => ""
  | v :: vs => "," ++ compact v ++ compactItems vs

def compactFields : List (String × Json) → String
  | [] => ""
  | (k, v) :: fs => "," ++ quote k ++ ":" ++ compact v ++ compactFields fs

end

def ofText? : Option String → Json
  | some s => .string s
  | none => .null

def ofNat (n : Nat) : Json := .number n

/-- A field that is left out when there is nothing to say. -/
def field? (key : String) : Option Json → List (String × Json)
  | some v => [(key, v)]
  | none => []

def ofTexts (texts : List String) : Json := .array (texts.map .string)

end Json

end WorkflowLint
