/-
# WorkflowLint.Yaml.Reader -- from tokens to documents

A reader takes the tokens that are left and returns a node and the tokens behind
it.  Each reader returns fewer tokens than it was given, and says so in its type;
this is why the mutual recursion ends.  A reader that hands on all of its tokens
hands them to one of a lower rank, and the ranks are less than six.  Where the text
leaves a node out, the reader that expects it puts a blank node without taking a
token.
-/
import WorkflowLint.Yaml.Lexer
import WorkflowLint.Yaml.Node

namespace WorkflowLint.Yaml

set_option autoImplicit false

/-- Tokens left by a reader that took at least one of `ts`. -/
abbrev Fewer (ts : List Token) := { rest : List Token // rest.length < ts.length }

/-- Tokens left by a reader that may have taken none of `ts`. -/
abbrev NoMore (ts : List Token) := { rest : List Token // rest.length ≤ ts.length }

/-- The handles that tags may use, with their expansions. -/
abbrev Handles := List (String × Octets)

def defaultHandles : Handles := [("!", octetsOf "!"), ("!!", octetsOf "tag:yaml.org,2002:")]

def resolveTag (handles : Handles) (handle : String) (suffix : Octets) : Except Error Octets :=
  if handle.isEmpty then .ok suffix
  else
    match handles.lookup handle with
    | some expansion => .ok (expansion ++ suffix)
    | none => .error (.undeclaredHandle handle)

def endsItem : List Token → Bool
  | .blockEntry :: _ => true
  | .blockEnd :: _ => true
  | _ => false

/-- Whether the next token ends an item of a sequence that has no block of its own. -/
def endsDashItem : List Token → Bool
  | .blockEntry :: _ => true
  | .key :: _ => true
  | .value :: _ => true
  | .blockEnd :: _ => true
  | _ => false

def endsBlockPart : List Token → Bool
  | .key :: _ => true
  | .value :: _ => true
  | .blockEnd :: _ => true
  | _ => false

def endsFlowItem : List Token → Bool
  | .flowEntry :: _ => true
  | .flowSequenceEnd :: _ => true
  | _ => false

def endsFlowValue : List Token → Bool
  | .flowEntry :: _ => true
  | .flowMappingEnd :: _ => true
  | _ => false

def endsFlowKey : List Token → Bool
  | .value :: _ => true
  | ts => endsFlowValue ts

mutual

/-- Reads a node with its properties.  In block context block collections may
start; `dashes` allows a sequence that shares the column of the mapping around it. -/
def readNode (handles : Handles) (block dashes : Bool) (ts : List Token) :
    Except Error (Node String × Fewer ts) :=
  match ts with
  | .aliasTo name :: rest => .ok (.aliasTo name, ⟨rest, by simp⟩)
  | .anchor name :: .tag handle suffix :: rest => do
    let tag ← resolveTag handles handle suffix
    let (n, ⟨left, _⟩) ← readBehind handles block dashes ⟨some name, some tag⟩ rest
    return (n, ⟨left, by simp; omega⟩)
  | .tag handle suffix :: .anchor name :: rest => do
    let tag ← resolveTag handles handle suffix
    let (n, ⟨left, _⟩) ← readBehind handles block dashes ⟨some name, some tag⟩ rest
    return (n, ⟨left, by simp; omega⟩)
  | .anchor name :: rest => do
    let (n, ⟨left, _⟩) ← readBehind handles block dashes ⟨some name, none⟩ rest
    return (n, ⟨left, by simp; omega⟩)
  | .tag handle suffix :: rest => do
    let tag ← resolveTag handles handle suffix
    let (n, ⟨left, _⟩) ← readBehind handles block dashes ⟨none, some tag⟩ rest
    return (n, ⟨left, by simp; omega⟩)
  | bare => do
    match ← readContent handles block dashes .none bare with
    | some found => return found
    | none => throw .unexpectedToken
termination_by 6 * ts.length + 2

/-- Reads what follows the properties of a node; if nothing does, the node is blank. -/
def readBehind (handles : Handles) (block dashes : Bool) (properties : Properties)
    (ts : List Token) : Except Error (Node String × NoMore ts) := do
  match ← readContent handles block dashes properties ts with
  | some (n, ⟨left, _⟩) => return (n, ⟨left, by omega⟩)
  | none => return (.blank properties, ⟨ts, Nat.le_refl _⟩)
termination_by 6 * ts.length + 2

/-- Reads a scalar or a collection; `none` if no such thing starts here. -/
def readContent (handles : Handles) (block dashes : Bool) (properties : Properties)
    (ts : List Token) : Except Error (Option (Node String × Fewer ts)) :=
  match ts with
  | .scalar style text :: rest => .ok (some (.scalar properties style text, ⟨rest, by simp⟩))
  | .flowSequenceStart :: rest => do
    let (items, ⟨left, _⟩) ← readFlowItems handles rest
    return some (.sequence properties items, ⟨left, by simp; omega⟩)
  | .flowMappingStart :: rest => do
    let (entries, ⟨left, _⟩) ← readFlowEntries handles rest
    return some (.mapping properties entries, ⟨left, by simp; omega⟩)
  | .blockEntry :: rest =>
    if dashes then do
      let (items, ⟨left, _⟩) ← readDashItems handles rest
      return some (.sequence properties items, ⟨left, by simp; omega⟩)
    else .ok none
  | .blockSequenceStart :: rest =>
    if block then do
      let (items, ⟨left, _⟩) ← readBlockItems handles rest
      return some (.sequence properties items, ⟨left, by simp; omega⟩)
    else .ok none
  | .blockMappingStart :: rest =>
    if block then do
      let (entries, ⟨left, _⟩) ← readBlockEntries handles rest
      return some (.mapping properties entries, ⟨left, by simp; omega⟩)
    else .ok none
  | _ => .ok none
termination_by 6 * ts.length + 1

def readBlockItems (handles : Handles) (ts : List Token) :
    Except Error (List (Node String) × Fewer ts) :=
  match ts with
  | .blockEnd :: rest => .ok ([], ⟨rest, by simp⟩)
  | .blockEntry :: rest =>
    if endsItem rest then do
      let (items, ⟨left, _⟩) ← readBlockItems handles rest
      return (.blank .none :: items, ⟨left, by simp; omega⟩)
    else do
      let (item, ⟨next, _⟩) ← readNode handles true false rest
      let (items, ⟨left, _⟩) ← readBlockItems handles next
      return (item :: items, ⟨left, by simp; omega⟩)
  | _ => .error .unexpectedToken
termination_by 6 * ts.length

/-- Reads the items of a sequence without a block of its own, behind a dash. -/
def readDashItems (handles : Handles) (ts : List Token) :
    Except Error (List (Node String) × NoMore ts) :=
  if endsDashItem ts then do
    let (items, left) ← readMoreDashItems handles ts
    return (.blank .none :: items, left)
  else do
    let (item, ⟨next, _⟩) ← readNode handles true false ts
    let (items, ⟨left, _⟩) ← readMoreDashItems handles next
    return (item :: items, ⟨left, by omega⟩)
termination_by 6 * ts.length + 4

def readMoreDashItems (handles : Handles) (ts : List Token) :
    Except Error (List (Node String) × NoMore ts) :=
  match ts with
  | .blockEntry :: rest => do
    let (items, ⟨left, _⟩) ← readDashItems handles rest
    return (items, ⟨left, by simp; omega⟩)
  | _ => .ok ([], ⟨_, Nat.le_refl _⟩)
termination_by 6 * ts.length + 3

def readBlockEntries (handles : Handles) (ts : List Token) :
    Except Error (List (Node String × Node String) × Fewer ts) :=
  match ts with
  | .blockEnd :: rest => .ok ([], ⟨rest, by simp⟩)
  | .key :: rest => do
    let (key, ⟨next, _⟩) ← readBlockPart handles rest
    let (value, ⟨next, _⟩) ← readBlockValue handles next
    let (entries, ⟨left, _⟩) ← readBlockEntries handles next
    return ((key, value) :: entries, ⟨left, by simp; omega⟩)
  | _ => .error .unexpectedToken
termination_by 6 * ts.length + 5

/-- Reads a key or a value of a block mapping, which may be left out. -/
def readBlockPart (handles : Handles) (ts : List Token) :
    Except Error (Node String × NoMore ts) :=
  if endsBlockPart ts then .ok (.blank .none, ⟨ts, Nat.le_refl _⟩)
  else do
    let (n, ⟨left, _⟩) ← readNode handles true true ts
    return (n, ⟨left, by omega⟩)
termination_by 6 * ts.length + 3

def readBlockValue (handles : Handles) (ts : List Token) :
    Except Error (Node String × NoMore ts) :=
  match ts with
  | .value :: rest => do
    let (value, ⟨left, _⟩) ← readBlockPart handles rest
    return (value, ⟨left, by simp; omega⟩)
  | _ => .ok (.blank .none, ⟨_, Nat.le_refl _⟩)
termination_by 6 * ts.length + 4

/-- Reads the items of a flow sequence and its end, from where an item may stand.
An item with a key is a mapping of one entry. -/
def readFlowItems (handles : Handles) (ts : List Token) :
    Except Error (List (Node String) × Fewer ts) :=
  match ts with
  | .flowSequenceEnd :: rest => .ok ([], ⟨rest, by simp⟩)
  | .key :: rest => do
    let (key, ⟨next, _⟩) ← readPairKey handles rest
    let (value, ⟨next, _⟩) ← readPairValue handles next
    let (items, ⟨left, _⟩) ← readMoreFlowItems handles next
    return (.mapping .none [(key, value)] :: items, ⟨left, by simp; omega⟩)
  | item => do
    let (n, ⟨next, _⟩) ← readNode handles false false item
    let (items, ⟨left, _⟩) ← readMoreFlowItems handles next
    return (n :: items, ⟨left, by omega⟩)
termination_by 6 * ts.length + 4

def readMoreFlowItems (handles : Handles) (ts : List Token) :
    Except Error (List (Node String) × Fewer ts) :=
  match ts with
  | .flowSequenceEnd :: rest => .ok ([], ⟨rest, by simp⟩)
  | .flowEntry :: rest => do
    let (items, ⟨left, _⟩) ← readFlowItems handles rest
    return (items, ⟨left, by simp; omega⟩)
  | _ => .error .unexpectedToken
termination_by 6 * ts.length + 3

/-- Reads the key of a pair in a flow sequence.  A token that ends the item at
once is taken together with the missing key. -/
def readPairKey (handles : Handles) (ts : List Token) :
    Except Error (Node String × NoMore ts) :=
  match ts with
  | .value :: rest => .ok (.blank .none, ⟨rest, by simp⟩)
  | .flowEntry :: rest => .ok (.blank .none, ⟨rest, by simp⟩)
  | .flowSequenceEnd :: rest => .ok (.blank .none, ⟨rest, by simp⟩)
  | other => do
    let (key, ⟨left, _⟩) ← readNode handles false false other
    return (key, ⟨left, by omega⟩)
termination_by 6 * ts.length + 3

def readPairValue (handles : Handles) (ts : List Token) :
    Except Error (Node String × NoMore ts) :=
  match ts with
  | .value :: rest =>
    if endsFlowItem rest then .ok (.blank .none, ⟨rest, by simp⟩)
    else do
      let (value, ⟨left, _⟩) ← readNode handles false false rest
      return (value, ⟨left, by simp; omega⟩)
  | _ => .ok (.blank .none, ⟨_, Nat.le_refl _⟩)
termination_by 6 * ts.length + 3

/-- Reads the entries of a flow mapping and its end, from where an entry may
stand.  An entry without a key indicator has a blank value. -/
def readFlowEntries (handles : Handles) (ts : List Token) :
    Except Error (List (Node String × Node String) × Fewer ts) :=
  match ts with
  | .flowMappingEnd :: rest => .ok ([], ⟨rest, by simp⟩)
  | .key :: rest => do
    let (key, ⟨next, _⟩) ← readFlowKey handles rest
    let (value, ⟨next, _⟩) ← readFlowValue handles next
    let (entries, ⟨left, _⟩) ← readMoreFlowEntries handles next
    return ((key, value) :: entries, ⟨left, by simp; omega⟩)
  | entry => do
    let (key, ⟨next, _⟩) ← readNode handles false false entry
    let (entries, ⟨left, _⟩) ← readMoreFlowEntries handles next
    return ((key, .blank .none) :: entries, ⟨left, by omega⟩)
termination_by 6 * ts.length + 4

def readMoreFlowEntries (handles : Handles) (ts : List Token) :
    Except Error (List (Node String × Node String) × Fewer ts) :=
  match ts with
  | .flowMappingEnd :: rest => .ok ([], ⟨rest, by simp⟩)
  | .flowEntry :: rest => do
    let (entries, ⟨left, _⟩) ← readFlowEntries handles rest
    return (entries, ⟨left, by simp; omega⟩)
  | _ => .error .unexpectedToken
termination_by 6 * ts.length + 3

def readFlowKey (handles : Handles) (ts : List Token) :
    Except Error (Node String × NoMore ts) :=
  if endsFlowKey ts then .ok (.blank .none, ⟨ts, Nat.le_refl _⟩)
  else do
    let (key, ⟨left, _⟩) ← readNode handles false false ts
    return (key, ⟨left, by omega⟩)
termination_by 6 * ts.length + 3

def readFlowValue (handles : Handles) (ts : List Token) :
    Except Error (Node String × NoMore ts) :=
  match ts with
  | .value :: rest =>
    if endsFlowValue rest then .ok (.blank .none, ⟨rest, by simp⟩)
    else do
      let (value, ⟨left, _⟩) ← readNode handles false false rest
      return (value, ⟨left, by simp; omega⟩)
  | _ => .ok (.blank .none, ⟨_, Nat.le_refl _⟩)
termination_by 6 * ts.length + 3

end

/-! ## Documents -/

/-- Reads the directives in front of a document.  A version may be given once and
a handle may be declared once. -/
def readDirectives (versioned : Bool) (handles : Handles) (ts : List Token) :
    Except Error (Handles × NoMore ts) :=
  match ts with
  | .version major minor :: rest => do
    if versioned then throw .repeatedDirective
    if major != 1 || (minor != 1 && minor != 2) then throw .unsupportedVersion
    let (handles, ⟨left, _⟩) ← readDirectives true handles rest
    return (handles, ⟨left, by simp; omega⟩)
  | .handle name expansion :: rest => do
    if (handles.lookup name).isSome then throw .repeatedDirective
    let (handles, ⟨left, _⟩) ← readDirectives versioned (handles ++ [(name, expansion)]) rest
    return (handles, ⟨left, by simp; omega⟩)
  | _ => .ok (handles, ⟨_, Nat.le_refl _⟩)

/-- Whether the document that starts here is announced: by a directive or a mark. -/
def isAnnounced : List Token → Bool
  | .version _ _ :: _ => true
  | .handle _ _ :: _ => true
  | .documentStart :: _ => true
  | _ => false

/-- Whether nothing stands between the mark of a document's start and what
follows the document. -/
def endsDocument : List Token → Bool
  | [] => true
  | .documentEnd :: _ => true
  | ts => isAnnounced ts

def readMarked (handles : Handles) (ts : List Token) :
    Except Error (Node String × Fewer ts) :=
  match ts with
  | .documentStart :: body =>
    if endsDocument body then .ok (.blank .none, ⟨body, by simp⟩)
    else do
      let (n, ⟨left, _⟩) ← readNode handles true false body
      return (n, ⟨left, by simp; omega⟩)
  | _ => .error .unexpectedToken

/-- Reads one document.  Only the first one may start without announcement. -/
def readDocument (first : Bool) (ts : List Token) : Except Error (Node String × Fewer ts) :=
  if first && !isAnnounced ts then readNode defaultHandles true false ts
  else do
    let (handles, ⟨next, _⟩) ← readDirectives false [] ts
    let (n, ⟨left, _⟩) ← readMarked (handles ++ defaultHandles) next
    return (n, ⟨left, by omega⟩)

def skipEndMarks (ts : List Token) : NoMore ts :=
  ⟨ts.dropWhile (· == .documentEnd), (List.dropWhile_sublist _).length_le⟩

/-- Reads the documents that are left.  Between two documents any number of end
marks may stand. -/
def readDocuments (first : Bool) (ts : List Token) : Except Error (List (Node String)) :=
  match ts with
  | [] => .ok []
  | t :: more => do
    let (n, ⟨left, _⟩) ← readDocument first (t :: more)
    let ⟨next, _⟩ := skipEndMarks left
    return n :: (← readDocuments false next)
termination_by ts.length
decreasing_by simp_all; omega

/-- The documents of a stream, in order; an empty stream is one empty document. -/
def read (text : String) : Except Error (List Document) := do
  let spots ← place text
  let ts ← tokens spots
  let roots ← readDocuments true ts
  if roots.isEmpty then return [.empty]
  roots.mapM Document.ofNode

def readOne (text : String) : Except Error Document := do
  match ← read text with
  | [d] => return d
  | _ => throw .severalDocuments

end WorkflowLint.Yaml
