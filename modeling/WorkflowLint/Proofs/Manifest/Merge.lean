/-
# WorkflowLint.Proofs.Manifest.Merge -- the manifest that documents make up

A manifest is made up document by document and entry by entry.  `Merges documents m` says what
it comes to: the name and the description are each the first scalar one, and the inputs are
those that the declarations of all documents come to (`Gathers`).  A stream with a mapping has
one such manifest and is read as it (`ofDocuments_eq_some_iff`).

The rules do not ask in which portions the documents come (`Merges.append`), so the manifest of
two streams in a row is that of the second laid over that of the first (`Manifest.merge`).
-/
import WorkflowLint.Proofs.Manifest.Inputs

namespace WorkflowLint.Manifest

set_option autoImplicit false

open Yaml (Value Entries)

/-! ## Declarations -/

/-- An entry declares an input: its key is a scalar with a text, and its value a mapping. -/
inductive Declares : Value × Value → Input → Prop
  | entry (key : Value) (name : String) (fields : Entries) (text : key.scalarText? = some name)
      (given : name ≠ "") :
      Declares (key, .mapping fields)
        { name
          description := scalarAt fields "description"
          defaultValue := scalarAt fields "default"
          required := (Value.lookup? fields "required").any saysTrue
          deprecation := scalarAt fields "deprecationMessage" }

theorem Declares.name_ne {entry : Value × Value} {i : Input} (declares : Declares entry i) :
    i.name ≠ "" := by
  cases declares with
  | entry key name fields text given => exact given

theorem inputOf_eq_some_iff {entry : Value × Value} {i : Input} :
    inputOf entry = some i ↔ Declares entry i := by
  constructor
  · intro read
    obtain ⟨key, value⟩ := entry
    cases value with
    | mapping fields =>
        cases text : key.scalarText? with
        | none => simp [inputOf, text] at read
        | some name =>
            by_cases given : name = ""
            · simp [inputOf, text, given] at read
            · simp only [inputOf, text, String.isEmpty_iff, given, if_false] at read
              cases read
              exact .entry key name fields text given
    | null | bool _ | number _ | string _ | sequence _ | tagged _ _ =>
        exact absurd read (Option.some_ne_none i).symm
  · rintro ⟨key, name, fields, text, given⟩
    simp [inputOf, text, given]

/-- An input whose key is a string is named by that string. -/
theorem Declares.name_of_string {entry : Value × Value} {i : Input} {s : String}
    (declares : Declares entry i) (key : entry.1 = .string s) : i.name = s := by
  cases declares with
  | entry k name fields text given =>
      obtain rfl : k = .string s := key
      exact (Option.some.inj text).symm

/-- The entries of the `inputs` mapping of a document that is a mapping. -/
def inputEntries : Value → Entries
  | .mapping root =>
    match Value.lookup? root "inputs" with
    | some (.mapping inputs) => inputs
    | _ => []
  | _ => []

def declared (documents : List Value) : List Input :=
  (documents.flatMap inputEntries).filterMap inputOf

theorem Declares.mem_declared {documents : List Value} {entry : Value × Value} {i : Input}
    (declares : Declares entry i) (among : entry ∈ documents.flatMap inputEntries) :
    i ∈ declared documents :=
  List.mem_filterMap.2 ⟨entry, among, inputOf_eq_some_iff.2 declares⟩

theorem declared_append (documents later : List Value) :
    declared (documents ++ later) = declared documents ++ declared later := by
  rw [declared, List.flatMap_append, List.filterMap_append]
  rfl

theorem declared_mapping (root : Entries) : declared [.mapping root] = declarations root := by
  rw [declared, List.flatMap_singleton]
  cases found : Value.lookup? root "inputs" with
  | none => simp [inputEntries, declarations, found]
  | some value => cases value <;> simp [inputEntries, declarations, found]

theorem declared_of_not_mapping {document : Value} (other : mappingOf? document = none) :
    declared [document] = [] := by
  cases document with
  | mapping root => exact absurd other (Option.some_ne_none root)
  | null | bool _ | number _ | string _ | sequence _ | tagged _ _ => rfl

theorem name_ne_of_mem_declared {documents : List Value} {i : Input}
    (member : i ∈ declared documents) : i.name ≠ "" := by
  obtain ⟨entry, -, read⟩ := List.mem_filterMap.1 member
  exact (inputOf_eq_some_iff.1 read).name_ne

/-! ## What documents come to -/

def mappings (documents : List Value) : List Entries := documents.filterMap mappingOf?

theorem mappings_eq_nil_iff {documents : List Value} :
    mappings documents = [] ↔ ¬ ∃ root, Value.mapping root ∈ documents := by
  rw [mappings, List.filterMap_eq_nil_iff]
  constructor
  · rintro none ⟨root, member⟩
    exact Option.some_ne_none root (none _ member)
  · intro none document member
    cases document with
    | mapping root => exact absurd ⟨root, member⟩ none
    | null | bool _ | number _ | string _ | sequence _ | tagged _ _ => rfl

/-- The first scalar that a mapping among documents has at a key. -/
def firstScalar (documents : List Value) (key : String) : Option String :=
  (mappings documents).findSome? (scalarAt · key)

theorem firstScalar_append (documents later : List Value) (key : String) :
    firstScalar (documents ++ later) key =
      (firstScalar documents key <|> firstScalar later key) := by
  simp [firstScalar, mappings, List.findSome?_append]

theorem firstScalar_mapping (root : Entries) (key : String) :
    firstScalar [.mapping root] key = scalarAt root key := by
  simp [firstScalar, mappings, mappingOf?]

theorem firstScalar_of_not_mapping {document : Value} (other : mappingOf? document = none)
    (key : String) : firstScalar [document] key = none := by
  simp [firstScalar, mappings, other]

/-- The manifest that documents come to. -/
structure Merges (documents : List Value) (m : Manifest) : Prop where
  name : m.name = firstScalar documents "name"
  description : m.description = firstScalar documents "description"
  inputs : Gathers (declared documents) m.inputs

/-- A manifest with a later one laid over it. -/
def merge (m later : Manifest) : Manifest :=
  { name := m.name <|> later.name
    description := m.description <|> later.description
    inputs := overlay m.inputs later.inputs }

namespace Merges

variable {documents later : List Value} {m n : Manifest}

theorem name_ne (merges : Merges documents m) : "" ∉ names m.inputs := by
  rw [merges.inputs.mem_iff, mem_names]
  rintro ⟨i, member, none⟩
  exact name_ne_of_mem_declared member none

/-- Documents come to one manifest only. -/
theorem unique (merges : Merges documents m) (merges' : Merges documents n) : m = n := by
  obtain ⟨name, description, inputs⟩ := m
  obtain ⟨name', description', inputs'⟩ := n
  obtain rfl : name = name' := merges.name.trans merges'.name.symm
  obtain rfl : description = description' := merges.description.trans merges'.description.symm
  obtain rfl : inputs = inputs' := merges.inputs.unique merges'.inputs
  rfl

theorem append (merges : Merges documents m) (merges' : Merges later n) :
    Merges (documents ++ later) (m.merge n) where
  name := by rw [firstScalar_append, ← merges.name, ← merges'.name, merge]
  description := by rw [firstScalar_append, ← merges.description, ← merges'.description, merge]
  inputs := by
    rw [declared_append]
    exact merges.inputs.append merges'.inputs

theorem nil : Merges [] empty := ⟨rfl, rfl, .nil⟩

theorem addDocument (merges : Merges documents m) (root : Entries) :
    Merges (documents ++ [.mapping root]) (m.addDocument root) where
  name := by rw [firstScalar_append, firstScalar_mapping, ← merges.name, Manifest.addDocument]
  description := by
    rw [firstScalar_append, firstScalar_mapping, ← merges.description, Manifest.addDocument]
  inputs := by
    rw [declared_append, declared_mapping]
    exact merges.inputs.foldl (declarations root)

/-- A document that is no mapping does not count. -/
theorem skip (merges : Merges documents m) {document : Value}
    (other : mappingOf? document = none) : Merges (documents ++ [document]) m where
  name := by simp [firstScalar_append, firstScalar_of_not_mapping other, merges.name]
  description := by
    simp [firstScalar_append, firstScalar_of_not_mapping other, merges.description]
  inputs := by
    rw [declared_append, declared_of_not_mapping other, List.append_nil]
    exact merges.inputs

/-- Reading documents in turn comes to what the rules say. -/
theorem foldl (merges : Merges documents m) (later : List Value) :
    Merges (documents ++ later) ((mappings later).foldl Manifest.addDocument m) := by
  induction later generalizing documents m with
  | nil => rwa [List.append_nil]
  | cons document later ih =>
      rw [← List.singleton_append, ← List.append_assoc, mappings, List.filterMap_append]
      cases document with
      | mapping root => exact ih (merges.addDocument root)
      | null | bool _ | number _ | string _ | sequence _ | tagged _ _ => exact ih (merges.skip rfl)

end Merges

/-! ## The manifest that is read -/

variable {documents later : List Value} {m n : Manifest}

theorem ofDocuments_of_nil (none : mappings documents = []) : ofDocuments documents = .none := by
  rw [mappings] at none
  simp only [ofDocuments, none]

theorem ofDocuments_of_ne_nil (given : mappings documents ≠ []) :
    ofDocuments documents = some ((mappings documents).foldl addDocument empty) := by
  unfold ofDocuments
  split
  · rename_i none
    exact absurd none given
  · rfl

theorem ofDocuments_eq_none_iff :
    ofDocuments documents = none ↔ ¬ ∃ root, Value.mapping root ∈ documents := by
  rw [← mappings_eq_nil_iff]
  refine ⟨fun read => ?_, ofDocuments_of_nil⟩
  by_contra given
  exact Option.some_ne_none _ ((ofDocuments_of_ne_nil given).symm.trans read)

/-- A stream with a mapping is read as the manifest that its documents come to. -/
theorem ofDocuments_eq_some_iff :
    ofDocuments documents = some m ↔
      (∃ root, Value.mapping root ∈ documents) ∧ Merges documents m := by
  have merges : Merges documents ((mappings documents).foldl addDocument empty) :=
    Merges.nil.foldl documents
  constructor
  · intro read
    have given : ∃ root, Value.mapping root ∈ documents := by
      by_contra noMapping
      exact Option.some_ne_none m (read.symm.trans (ofDocuments_eq_none_iff.2 noMapping))
    rw [ofDocuments_of_ne_nil fun none => mappings_eq_nil_iff.1 none given] at read
    exact ⟨given, Option.some.inj read ▸ merges⟩
  · rintro ⟨given, merges'⟩
    rw [ofDocuments_of_ne_nil fun none => mappings_eq_nil_iff.1 none given,
      merges.unique merges']

section Reader

variable {reader : String → Except Yaml.Error (List Value)} {text : String}

theorem parseWith_of_read (read : reader text = .ok documents) :
    parseWith reader text = (ofDocuments documents).elim (.error .noMapping) .ok := by
  simp only [parseWith, read]
  cases ofDocuments documents <;> rfl

/-- Whatever reads the stream, the manifest is settled by its documents. -/
theorem parseWith_iff (read : reader text = .ok documents) :
    (parseWith reader text = .error .noMapping ↔ ¬ ∃ root, Value.mapping root ∈ documents) ∧
      ∀ m, parseWith reader text = .ok m ↔
        (∃ root, Value.mapping root ∈ documents) ∧ Merges documents m := by
  rw [parseWith_of_read read, ← ofDocuments_eq_none_iff]
  refine ⟨?_, fun m => ?_⟩
  · cases ofDocuments documents <;> simp
  · rw [← ofDocuments_eq_some_iff]
    cases ofDocuments documents <;> simp

/-- A manifest that is read comes from the documents of its stream. -/
theorem merges_of_parseWith (parsed : parseWith reader text = .ok m) :
    ∃ documents, reader text = .ok documents ∧ Merges documents m := by
  cases read : reader text with
  | error problem => simp [parseWith, read] at parsed
  | ok documents => exact ⟨documents, rfl, (((parseWith_iff read).2 m).1 parsed).2⟩

end Reader

/-- **The manifest of a stream is settled by the declarations of its documents.**  A stream
without a mapping is no manifest.  Any other one is, and there is one manifest that it can be:
name and description are each the first scalar one, and the inputs have the names that are
declared, each once and none of them empty, in the order of the first declarations, and are the
last declarations of their names.  So the manifest of two streams in a row is that of the one
with that of the other laid over it, whose inputs are to those of the two manifests as inputs
are to declarations. -/
theorem documents_merge (documents : List Value) :
    (∀ entry i, inputOf entry = some i ↔ Declares entry i) ∧
    (ofDocuments documents = none ↔ ¬ ∃ root, Value.mapping root ∈ documents) ∧
    (∀ m, ofDocuments documents = some m ↔
      (∃ root, Value.mapping root ∈ documents) ∧ Merges documents m) ∧
    (∀ m, Merges documents m → (names m.inputs).Nodup ∧ "" ∉ names m.inputs) ∧
    (∀ text, Yaml.values text = .ok documents →
      (parse text = .error .noMapping ↔ ¬ ∃ root, Value.mapping root ∈ documents) ∧
        ∀ m, parse text = .ok m ↔ (∃ root, Value.mapping root ∈ documents) ∧ Merges documents m) ∧
    (∀ later m n, ofDocuments documents = some m → ofDocuments later = some n →
      ofDocuments (documents ++ later) = some (m.merge n) ∧
        Gathers (m.inputs ++ n.inputs) (m.merge n).inputs) := by
  refine ⟨fun _ _ => inputOf_eq_some_iff, ofDocuments_eq_none_iff, fun _ => ofDocuments_eq_some_iff,
    fun m merges => ⟨merges.inputs.distinct, merges.name_ne⟩, fun text read => parseWith_iff read,
    fun later m n read read' => ?_⟩
  obtain ⟨⟨root, member⟩, merges⟩ := ofDocuments_eq_some_iff.1 read
  obtain ⟨-, merges'⟩ := ofDocuments_eq_some_iff.1 read'
  refine ⟨ofDocuments_eq_some_iff.2 ⟨⟨root, ?_⟩, merges.append merges'⟩, ?_⟩
  · exact List.mem_append_left later member
  · exact (Gathers.self merges.inputs.distinct).append (.self merges'.inputs.distinct)

/-- A number and a string for one name: the second declaration takes the place of the first,
and a malformed one changes nothing. -/
theorem documents_merge_colliding_keys :
    let documents : List Value :=
      [.mapping
        [(.string "name", .string "first"),
          (.string "inputs", .mapping
            [(.number (.integer 1), .mapping [(.string "default", .string "a")]),
              (.string "b", .mapping [])])]]
    let later : List Value :=
      [.null,
        .mapping
          [(.string "description", .string "later"),
            (.string "inputs", .mapping
              [(.string "c", .mapping []),
                (.string "1", .mapping [(.string "required", .bool true)]),
                (.string "b", .null)])]]
    ofDocuments (documents ++ later) =
      some ⟨some "first", some "later",
        [⟨"1", none, none, true, none⟩, ⟨"b", none, none, false, none⟩,
          ⟨"c", none, none, false, none⟩]⟩ := by
  intro documents later
  have read : ofDocuments documents =
      some ⟨some "first", none,
        [⟨"1", none, some "a", false, none⟩, ⟨"b", none, none, false, none⟩]⟩ := by decide
  have read' : ofDocuments later =
      some ⟨none, some "later",
        [⟨"c", none, none, false, none⟩, ⟨"1", none, none, true, none⟩]⟩ := by decide
  obtain ⟨-, -, -, -, -, inRow⟩ := documents_merge documents
  exact (inRow later _ _ read read').1

end WorkflowLint.Manifest
