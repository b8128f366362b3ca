/-
# WorkflowLint.Yaml.Value -- the values of YAML documents

A plain scalar is read as null, a boolean, a number or a string by its text; any
other scalar is a string.  The tags `!!bool`, `!!int`, `!!float` and `!!null` ask
for one of these types.  A local tag makes a tagged value, which is neither a
string nor a collection until it is looked through (`untagged`).

Mappings keep the order of the document, and no key occurs twice (`sameAs`).
Collections nest at most 128 deep, and aliases are followed at most a hundred
times per event of the document.
-/
import WorkflowLint.Yaml.Number
import WorkflowLint.Yaml.Node
import WorkflowLint.Yaml.Reader

namespace WorkflowLint.Yaml

set_option autoImplicit false

inductive Value where
  | null
  | bool (value : Bool)
  | number (value : Number)
  | string (text : String)
  | sequence (items : List Value)
  | mapping (entries : List (Value × Value))
  | tagged (tag : String) (value : Value)
  deriving Repr, Inhabited

abbrev Entries := List (Value × Value)

namespace Value

mutual

/-- Equality as data: the entries of a mapping compare in their order. -/
def decEq (v w : Value) : Decidable (v = w) :=
  match v with
  | .null =>
    match w with
    | .null => isTrue rfl
    | .bool _ | .number _ | .string _ | .sequence _ | .mapping _ | .tagged _ _ => isFalse nofun
  | .bool a =>
    match w with
    | .bool b => if h : a = b then isTrue (by rw [h]) else isFalse (by simp [h])
    | .null | .number _ | .string _ | .sequence _ | .mapping _ | .tagged _ _ => isFalse nofun
  | .number a =>
    match w with
    | .number b => if h : a = b then isTrue (by rw [h]) else isFalse (by simp [h])
    | .null | .bool _ | .string _ | .sequence _ | .mapping _ | .tagged _ _ => isFalse nofun
  | .string a =>
    match w with
    | .string b => if h : a = b then isTrue (by rw [h]) else isFalse (by simp [h])
    | .null | .bool _ | .number _ | .sequence _ | .mapping _ | .tagged _ _ => isFalse nofun
  | .sequence a =>
    match w with
    | .sequence b =>
      match decEqItems a b with
      | isTrue h => isTrue (by rw [h])
      | isFalse h => isFalse (by simp [h])
    | .null | .bool _ | .number _ | .string _ | .mapping _ | .tagged _ _ => isFalse nofun
  | .mapping a =>
    match w with
    | .mapping b =>
      match decEqEntries a b with
      | isTrue h => isTrue (by rw [h])
      | isFalse h => isFalse (by simp [h])
    | .null | .bool _ | .number _ | .string _ | .sequence _ | .tagged _ _ => isFalse nofun
  | .tagged s a =>
    match w with
    | .tagged t b =>
      match decEq a b with
      | isTrue h => if g : s = t then isTrue (by rw [g, h]) else isFalse (by simp [g])
      | isFalse h => isFalse (by simp [h])
    | .null | .bool _ | .number _ | .string _ | .sequence _ | .mapping _ => isFalse nofun

def decEqItems (vs ws : List Value) : Decidable (vs = ws) :=
  match vs, ws with
  | [], [] => isTrue rfl
  | [], _ :: _ | _ :: _, [] => isFalse nofun
  | a :: as, b :: bs =>
    match decEq a b, decEqItems as bs with
    | isTrue h, isTrue hs => isTrue (by rw [h, hs])
    | isFalse h, _ => isFalse (by simp [h])
    | _, isFalse hs => isFalse (by simp [hs])

def decEqEntries (es fs : List (Value × Value)) : Decidable (es = fs) :=
  match es, fs with
  | [], [] => isTrue rfl
  | [], _ :: _ | _ :: _, [] => isFalse nofun
  | (k, v) :: es, (l, w) :: fs =>
    match decEq k l, decEq v w, decEqEntries es fs with
    | isTrue hk, isTrue hv, isTrue h => isTrue (by rw [hk, hv, h])
    | isFalse hk, _, _ => isFalse (by simp [hk])
    | _, isFalse hv, _ => isFalse (by simp [hv])
    | _, _, isFalse h => isFalse (by simp [h])

end

instance : DecidableEq Value := decEq

mutual

/-- Equality as mapping keys: by type and value; mappings compare in any order. -/
def sameAs : Value → Value → Bool
  | .null, .null => true
  | .bool a, .bool b => a == b
  | .number a, .number b => a.same b
  | .string a, .string b => a == b
  | .sequence a, .sequence b => sameItems a b
  | .mapping a, .mapping b => a.length == b.length && entriesIn a b
  | .tagged s a, .tagged t b => s == t && a.sameAs b
  | _, _ => false

def sameItems : List Value → List Value → Bool
  | [], [] => true
  | a :: as, b :: bs => a.sameAs b && sameItems as bs
  | _, _ => false

def entriesIn : List (Value × Value) → List (Value × Value) → Bool
  | [], _ => true
  | (k, v) :: es, bs => bs.any (fun (k', v') => k.sameAs k' && v.sameAs v') && entriesIn es bs

end

def untagged : Value → Value
  | .tagged _ v => v.untagged
  | v => v

/-- The text of a string, looked at through tags. -/
def string? (v : Value) : Option String :=
  match v.untagged with
  | .string s => some s
  | _ => none

/-- The text of a scalar: a string, a number or a boolean without tag. -/
def scalarText? : Value → Option String
  | .string s => some s
  | .number n => some n.text
  | .bool b => some (if b then "true" else "false")
  | _ => none

def lookup? (entries : Entries) (key : String) : Option Value :=
  match entries with
  | [] => none
  | (.string k, v) :: es => if k = key then some v else lookup? es key
  | _ :: es => lookup? es key

/-- The value at a string key of a mapping, looked at through tags. -/
def get? (v : Value) (key : String) : Option Value :=
  match v.untagged with
  | .mapping entries => lookup? entries key
  | _ => none

def hasDuplicate : Entries → Bool
  | [] => false
  | (k, _) :: es => es.any (fun (k', _) => k.sameAs k') || hasDuplicate es

end Value

/-! ## Scalars -/

def bool? (s : String) : Option Bool :=
  if ["true", "True", "TRUE"].contains s then some true
  else if ["false", "False", "FALSE"].contains s then some false
  else none

def isNull (s : String) : Bool := ["null", "Null", "NULL", "~"].contains s

/-- The integer that a text denotes.  One too wide for 64 bits is an error, one
too wide for 128 bits is none. -/
def integerValue? (s : String) : Except Error (Option Value) :=
  match Number.integer? s.toList with
  | some n =>
    if Number.isNarrow n then .ok (some (.number (.integer n)))
    else if Number.isWide n then .error .wideInteger
    else .ok none
  | none => .ok none

/-- Whether a text, after its sign, is more than one digit with a zero in front. -/
def isPaddedText (s : String) : Bool :=
  match s.toList with
  | '-' :: cs => Number.isZeroPadded cs
  | '+' :: cs => Number.isZeroPadded cs
  | cs => Number.isZeroPadded cs

def plainValue (s : String) : Except Error Value := do
  if s.isEmpty || isNull s then return .null
  if let some b := bool? s then return .bool b
  if let some v ← integerValue? s then return v
  if !isPaddedText s then
    if let some x := Number.float? s.toList then return .number (.float x)
  return .string s

/-- The value of a scalar whose tag asks for nothing. -/
def scalarValue (style : Style) (s : String) : Except Error Value :=
  if style = .plain then plainValue s else .ok (.string s)

/-- The types that a tag can ask for. -/
inductive CoreTag where
  | bool
  | int
  | float
  | null
  deriving DecidableEq, Repr

def coreTag? (tag : Octets) : Option CoreTag :=
  if tag = octetsOf "tag:yaml.org,2002:bool" then some .bool
  else if tag = octetsOf "tag:yaml.org,2002:int" then some .int
  else if tag = octetsOf "tag:yaml.org,2002:float" then some .float
  else if tag = octetsOf "tag:yaml.org,2002:null" then some .null
  else none

/-- The value of a text as the type its tag asks for, however it is quoted. -/
def coreValue (tag : CoreTag) (s : String) : Except Error Value :=
  match tag with
  | .bool =>
    match bool? s with
    | some b => .ok (.bool b)
    | none => .error .unfitTag
  | .int => do
    match ← integerValue? s with
    | some v => return v
    | none => throw .unfitTag
  | .float =>
    match Number.float? s.toList with
    | some x => .ok (.number (.float x))
    | none => .error .unfitTag
  | .null => if isNull s then .ok .null else .error .unfitTag

/-- A tag text without the exclamation mark in front, unless it is nothing else. -/
def withoutMark (s : String) : String :=
  match s.toList with
  | '!' :: c :: cs => .ofList (c :: cs)
  | _ => s

/-- The name of a local tag: one that starts with an exclamation mark and is text. -/
def localTag? (tag : Octets) : Option String :=
  if tag.head? == some '!'.toNat.toUInt8 then
    (String.fromUTF8? ⟨tag.toArray⟩).map fun s => withoutMark (withoutMark s)
  else none

def taggedScalar (tag : Option Octets) (style : Style) (s : String) : Except Error Value :=
  match tag with
  | none => scalarValue style s
  | some tag =>
    match localTag? tag with
    | some name => (scalarValue style s).map (.tagged name)
    | none =>
      match coreTag? tag with
      | some core => coreValue core s
      | none =>
        if tag.head? == some '!'.toNat.toUInt8 then scalarValue style s else .ok (.string s)

/-! ## Documents -/

def withLocalTag (tag : Option Octets) (v : Value) : Value :=
  match tag.bind localTag? with
  | some name => .tagged name v
  | none => v

def maxDepth : Nat := 128

/-- How often aliases may be followed, for each event of a document. -/
def followsPerEvent : Nat := 100

/-- A computation that may follow only so many aliases more. -/
abbrev Following := StateT Nat (Except Error)

/-- The node that is meant; following an alias is counted. -/
def Document.followCounted (d : Document) (n : Node Nat) : Following (Node Nat) := do
  match n with
  | .aliasTo target =>
    match ← get with
    | 0 => throw .tooManyAliases
    | left + 1 =>
      set left
      match d.targets[target]? with
      | some n => return n
      | none => throw .unexpectedToken
  | n => return n

/-- The value of a node that may hold collections `depth` deep. -/
def Document.nodeValue (d : Document) : Nat → Node Nat → Following Value
  | depth, n => do
    match ← d.followCounted n with
    | .aliasTo _ => throw .unexpectedToken
    | .scalar p style text => taggedScalar p.tag style text
    | .sequence p items =>
      match depth with
      | 0 => throw .tooDeep
      | depth + 1 =>
        let items ← items.mapM (d.nodeValue depth)
        return withLocalTag p.tag (.sequence items)
    | .mapping p entries =>
      match depth with
      | 0 => throw .tooDeep
      | depth + 1 =>
        let entries ← entries.mapM fun (k, v) => do
          let k ← d.nodeValue depth k
          let v ← d.nodeValue depth v
          return (k, v)
        if Value.hasDuplicate entries then throw .duplicateKey
        return withLocalTag p.tag (.mapping entries)

/-- The value of a document; an empty stream is null. -/
def Document.value (d : Document) : Except Error Value :=
  match d.root with
  | some root => (·.1) <$> (d.nodeValue maxDepth root).run (d.size * followsPerEvent)
  | none => .ok .null

def values (text : String) : Except Error (List Value) := do
  (← read text).mapM Document.value

def value (text : String) : Except Error Value := do
  (← readOne text).value

end WorkflowLint.Yaml
