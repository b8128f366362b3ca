/-
# WorkflowLint.Proofs.Check.PassedKeys -- which keys of a step pass an input

A manifest names an input by the text of any scalar, so a number or a boolean names one.  A step
passes only what it names by a string (`mem_withKeysOf`).  So an input is never unknown where its
key is passed as the manifest writes it, and it is not missing if that key is a string
(`declared_input_missing_iff`); a mandatory input that is named by a number is missing even where
the same number is a key of the step (`number_key_is_missing`).
-/
import WorkflowLint.Proofs.Check.Inputs
import WorkflowLint.Proofs.Workflow.Scan

namespace WorkflowLint

set_option autoImplicit false

open Yaml (Value Entries)
open Manifest (Declares declared inputEntries lastOf?)

namespace Workflow

variable {document job step passed : Entries} {id key : String} {n : Nat} {e : UsesEntry}

/-- The keys that a step passes are the strings among the keys of its `with`. -/
theorem mem_withKeysOf (given : Value.lookup? step "with" = some (.mapping passed)) :
    key ∈ withKeysOf step ↔ ∃ p ∈ passed, p.1.string? = some key := by
  simp only [withKeysOf, given, List.mem_filterMap]

theorem mem_uses_of_step (ofJob : (id, job) ∈ jobsOf document) (ofStep : (n, step) ∈ stepsOf job)
    (extracted : usesOfStep id n step = some e) : e ∈ (ofDocument document).uses := by
  rw [uses_ofDocument, List.mem_flatMap]
  refine ⟨(id, job), ofJob, List.mem_append_right _ ?_⟩
  exact List.mem_filterMap.2 ⟨(n, step), ofStep, extracted⟩

theorem withKeys_of_usesOfStep (extracted : usesOfStep id n step = some e) :
    e.withKeys = withKeysOf step := by
  obtain ⟨uses, -, rfl⟩ := Option.map_eq_some_iff.1 extracted
  rfl

end Workflow

namespace Check

/-- **An input is passed by a string only.**  Whatever the scalar is that declares an input in one
of the documents of a manifest, and whatever the step: the input is not unknown in the keys that
the step passes, and it is missing in them if and only if its last declaration is mandatory and no
key of the `with` of the step is its name as a string.  In particular it is not missing where its
key is a string and stands in the `with` as well. -/
theorem declared_input_missing_iff {documents : List Value} {m : Manifest}
    (merged : Manifest.ofDocuments documents = some m) {entry : Value × Value} {i : Input}
    (among : entry ∈ documents.flatMap inputEntries) (declares : Declares entry i)
    {document job step passed : Entries} {id : String} {n : Nat} {e : UsesEntry}
    (ofJob : (id, job) ∈ Workflow.jobsOf document) (ofStep : (n, step) ∈ Workflow.stepsOf job)
    (extracted : Workflow.usesOfStep id n step = some e)
    (given : Value.lookup? step "with" = some (.mapping passed)) :
    e ∈ (Workflow.ofDocument document).uses ∧
      .unknown i.name ∉ inputs m e.withKeys ∧
      (.missing i.name ∈ inputs m e.withKeys ↔
        (∀ p ∈ passed, p.1.string? ≠ some i.name) ∧
          (lastOf? (declared documents) i.name).any Input.isMandatory = true) ∧
      ∀ s v, entry.1 = .string s → (entry.1, v) ∈ passed →
        .missing i.name ∉ inputs m e.withKeys := by
  have gathers : Manifest.Gathers (declared documents) m.inputs :=
    (Manifest.ofDocuments_eq_some_iff.1 merged).2.inputs
  have known : i.name ∈ Manifest.names (declared documents) :=
    Manifest.mem_names.2 ⟨i, declares.mem_declared among, rfl⟩
  have missing : .missing i.name ∈ inputs m e.withKeys ↔
      (∀ p ∈ passed, p.1.string? ≠ some i.name) ∧
        (lastOf? (declared documents) i.name).any Input.isMandatory = true := by
    rw [missing_mem_iff gathers, Workflow.withKeys_of_usesOfStep extracted,
      Workflow.mem_withKeysOf given]
    simp only [not_exists, not_and, ne_eq]
  refine ⟨Workflow.mem_uses_of_step ofJob ofStep extracted, fun unknown => ?_, missing,
    fun s v key stands absent => ?_⟩
  · exact ((unknown_mem_iff gathers).1 unknown).2 known
  · have named : entry.1.string? = some i.name := by
      rw [key, declares.name_of_string key]
      rfl
    exact (missing.1 absent).1 _ stands named

/-! ## An input that is named by a number -/

def mandatoryFields : Entries := [(.string "required", .bool true)]

/-- An action with two mandatory inputs, one of them named by a number. -/
def numberedAction : Value :=
  .mapping [(.string "inputs", .mapping
    [(.number (.integer 1), .mapping mandatoryFields), (.string "a", .mapping mandatoryFields)])]

def numberedInput : Input := ⟨"1", none, none, true, none⟩

def namedInput : Input := ⟨"a", none, none, true, none⟩

theorem numberedAction_read :
    Manifest.ofDocuments [numberedAction] = some ⟨none, none, [numberedInput, namedInput]⟩ := by
  decide

/-- Both inputs as keys, written as the action writes them. -/
def numberedKeys : Entries :=
  [(.number (.integer 1), .string "x"), (.string "a", .string "y")]

def numberedStep : Entries :=
  [(.string "uses", .string "./act"), (.string "with", .mapping numberedKeys)]

def numberedJob : Entries := [(.string "steps", .sequence [.mapping numberedStep])]

def numberedWorkflow : Entries :=
  [(.string "jobs", .mapping [(.string "j", .mapping numberedJob)])]

/-- The key that is a number does not pass the input that it declares, and the string does. -/
theorem declared_input_missing_iff_numbered :
    let m : Manifest := ⟨none, none, [numberedInput, namedInput]⟩
    let e : UsesEntry := ⟨"j", some 0, none, "./act", ["a"]⟩
    Manifest.ofDocuments [numberedAction] = some m ∧
      e ∈ (Workflow.ofDocument numberedWorkflow).uses ∧
      .missing "1" ∈ inputs m e.withKeys ∧ .missing "a" ∉ inputs m e.withKeys := by
  intro m e
  have ofJob : ("j", numberedJob) ∈ Workflow.jobsOf numberedWorkflow := List.mem_cons_self
  have ofStep : (0, numberedStep) ∈ Workflow.stepsOf numberedJob := List.mem_cons_self
  have extracted : Workflow.usesOfStep "j" 0 numberedStep = some e := by decide
  have given : Value.lookup? numberedStep "with" = some (.mapping numberedKeys) := rfl
  have ofNumber : Declares (.number (.integer 1), .mapping mandatoryFields) numberedInput :=
    .entry _ _ _ rfl (by decide)
  have ofString : Declares (.string "a", .mapping mandatoryFields) namedInput :=
    .entry _ _ _ rfl (by decide)
  obtain ⟨used, -, missing, -⟩ := declared_input_missing_iff numberedAction_read
    List.mem_cons_self ofNumber ofJob ofStep extracted given
  obtain ⟨-, -, -, passed⟩ := declared_input_missing_iff numberedAction_read
    (List.mem_cons_of_mem _ List.mem_cons_self) ofString ofJob ofStep extracted given
  exact ⟨numberedAction_read, used, missing.2 ⟨by decide, by decide⟩,
    passed "a" (.string "y") rfl (List.mem_cons_of_mem _ List.mem_cons_self)⟩

/-- **An input that is named by a number is missing although it is passed**, so the two sides do
not read their keys alike. -/
theorem number_key_is_missing :
    ¬ ∀ (documents : List Value) (m : Manifest) (key : Value) (fields : Entries) (name : String),
      Manifest.ofDocuments documents = some m →
      (key, .mapping fields) ∈ documents.flatMap inputEntries →
      key.scalarText? = some name → name ≠ "" →
      ∀ (document job step passed : Entries) (id : String) (n : Nat) (e : UsesEntry) (v : Value),
        (id, job) ∈ Workflow.jobsOf document → (n, step) ∈ Workflow.stepsOf job →
        Workflow.usesOfStep id n step = some e →
        Value.lookup? step "with" = some (.mapping passed) → (key, v) ∈ passed →
        .unknown name ∉ inputs m e.withKeys ∧ .missing name ∉ inputs m e.withKeys := by
  intro alike
  obtain ⟨-, passed⟩ := alike [numberedAction] _ _ _ "1" numberedAction_read List.mem_cons_self rfl
    (by decide) numberedWorkflow numberedJob numberedStep numberedKeys "j" 0 _ _ List.mem_cons_self
    List.mem_cons_self rfl rfl List.mem_cons_self
  exact passed (by decide)

end Check

end WorkflowLint
