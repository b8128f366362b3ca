/-
# WorkflowLint.Yaml.Node -- the tree a document is written as

A `Node` keeps what the text says: anchors, tags, styles, aliases.  The type of
what an alias holds is a parameter, since a reader first sees a name
(`Node String`) and later knows the node that is meant (`Node Nat`).

`Document.ofNode` finds that node.  Each anchor gets a number, the count of
distinct names used before it; an alias means the last node of the document that
bears the number its name had when the alias was read.
-/
import WorkflowLint.Yaml.Token
import WorkflowLint.Yaml.Source

namespace WorkflowLint.Yaml

set_option autoImplicit false

structure Properties where
  anchor : Option String
  tag : Option Octets
  deriving DecidableEq, Repr, Inhabited

def Properties.none : Properties := ⟨.none, .none⟩

/-- A node of a document; `α` is what an alias holds. -/
inductive Node (α : Type) where
  | aliasTo (target : α)
  | scalar (properties : Properties) (style : Style) (text : String)
  | sequence (properties : Properties) (items : List (Node α))
  | mapping (properties : Properties) (entries : List (Node α × Node α))
  deriving Repr, Inhabited

namespace Node

variable {α : Type}

def blank (properties : Properties) : Node α := .scalar properties .plain ""

mutual

/-- How many events the node is: one for a scalar or an alias, and for a
collection its start, its end and those inside. -/
def size : Node α → Nat
  | .aliasTo _ => 1
  | .scalar _ _ _ => 1
  | .sequence _ items => 2 + sizeOfItems items
  | .mapping _ entries => 2 + sizeOfEntries entries

def sizeOfItems : List (Node α) → Nat
  | [] => 0
  | n :: ns => n.size + sizeOfItems ns

def sizeOfEntries : List (Node α × Node α) → Nat
  | [] => 0
  | (k, v) :: es => k.size + v.size + sizeOfEntries es

end

def ifAnchored (n : Node α) (properties : Properties) : List (String × Node α) :=
  match properties.anchor with
  | some name => [(name, n)]
  | none => []

mutual

/-- The nodes with an anchor, in the order in which they start. -/
def anchored : Node α → List (String × Node α)
  | .aliasTo _ => []
  | .scalar p style text => (Node.scalar p style text).ifAnchored p
  | .sequence p items => (Node.sequence p items).ifAnchored p ++ anchoredItems items
  | .mapping p entries => (Node.mapping p entries).ifAnchored p ++ anchoredEntries entries

def anchoredItems : List (Node α) → List (String × Node α)
  | [] => []
  | n :: ns => n.anchored ++ anchoredItems ns

def anchoredEntries : List (Node α × Node α) → List (String × Node α)
  | [] => []
  | (k, v) :: es => k.anchored ++ v.anchored ++ anchoredEntries es

end

end Node

/-! ## The node that an alias means -/

/-- The last position below `limit` whose element satisfies `p`. -/
def lastPosition? {α : Type} (p : α → Bool) (limit : Nat) (xs : List α) : Option Nat :=
  (((xs.take limit).zipIdx).filter fun (x, _) => p x).getLast?.map (·.2)

/-- The number of each anchor, `before` being the distinct names in front of it:
how many these are. -/
def anchorNumbers (before : List String) : List String → List Nat
  | [] => []
  | name :: names =>
    before.length ::
      anchorNumbers (if before.contains name then before else name :: before) names

/-- The anchors of a document, in the order in which they start. -/
structure Anchors where
  names : List String
  numbers : List Nat

def Anchors.ofNames (names : List String) : Anchors := ⟨names, anchorNumbers [] names⟩

/-- The position, among the anchored nodes, of the node that the alias `name`
means when `seen` anchors stand before it. -/
def Anchors.target? (anchors : Anchors) (seen : Nat) (name : String) : Option Nat := do
  let position ← lastPosition? (· == name) seen anchors.names
  let number ← anchors.numbers[position]?
  lastPosition? (· == number) anchors.numbers.length anchors.numbers

namespace Node

def passAnchor (seen : Nat) (properties : Properties) : Nat :=
  if properties.anchor.isSome then seen + 1 else seen

mutual

/-- Replaces the names of aliases by the positions of the nodes they mean.  `seen`
counts the anchors before this node; the count behind it is returned as well. -/
def link (anchors : Anchors) (seen : Nat) : Node String → Except Error (Node Nat × Nat)
  | .aliasTo name =>
    match anchors.target? seen name with
    | some target => .ok (.aliasTo target, seen)
    | none => .error (.unknownAlias name)
  | .scalar p style text => .ok (.scalar p style text, passAnchor seen p)
  | .sequence p items => do
    let (items, seen) ← linkItems anchors (passAnchor seen p) items
    return (.sequence p items, seen)
  | .mapping p entries => do
    let (entries, seen) ← linkEntries anchors (passAnchor seen p) entries
    return (.mapping p entries, seen)

def linkItems (anchors : Anchors) (seen : Nat) :
    List (Node String) → Except Error (List (Node Nat) × Nat)
  | [] => .ok ([], seen)
  | n :: ns => do
    let (n, seen) ← n.link anchors seen
    let (ns, seen) ← linkItems anchors seen ns
    return (n :: ns, seen)

def linkEntries (anchors : Anchors) (seen : Nat) :
    List (Node String × Node String) → Except Error (List (Node Nat × Node Nat) × Nat)
  | [] => .ok ([], seen)
  | (k, v) :: es => do
    let (k, seen) ← k.link anchors seen
    let (v, seen) ← v.link anchors seen
    let (es, seen) ← linkEntries anchors seen es
    return ((k, v) :: es, seen)

end

end Node

/-- A document: its root, if the stream holds anything at all, and the nodes that
aliases mean. -/
structure Document where
  root : Option (Node Nat)
  targets : Array (Node Nat)

namespace Document

def empty : Document := ⟨none, #[]⟩

def ofNode (n : Node String) : Except Error Document := do
  let (root, _) ← n.link (.ofNames (n.anchored.map (·.1))) 0
  return ⟨some root, (root.anchored.map (·.2)).toArray⟩

def size (d : Document) : Nat :=
  match d.root with
  | some root => root.size
  | none => 1

/-- The node that is meant: an alias stands for its target. -/
def follow (d : Document) (n : Node Nat) : Option (Node Nat) :=
  match n with
  | .aliasTo target => d.targets[target]?
  | n => some n

end Document

end WorkflowLint.Yaml
