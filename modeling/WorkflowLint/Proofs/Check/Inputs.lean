/-
# WorkflowLint.Proofs.Check.Inputs -- what a check of inputs reports

A check looks the keys up one after the other and then goes through the inputs that have to be
set.  How often each finding is reported can be said without either loop: a key that is not
declared, or whose last declaration is deprecated, is reported as often as it is passed
(`count_unknown`, `count_deprecated`), and a mandatory input that is not passed is reported once
(`count_missing`), for its name stands only once among the inputs of a manifest.

So a key is unknown or an input missing exactly where it should be, and acting on these findings
(`follow`) leaves none of them (`satisfied_of_follow`).
-/
import Mathlib.Data.List.Count
import WorkflowLint.Check.Inputs
import WorkflowLint.Proofs.Manifest.Merge

namespace WorkflowLint

set_option autoImplicit false

open Manifest (Gathers IsLast DeclaredBefore names declared)

/-! ## The last declaration of a name -/

namespace Manifest

/-- The last declaration of a name. -/
def lastOf? (declared : List Input) (name : String) : Option Input :=
  declared.reverse.find? (·.name == name)

variable {declared inputs : List Input} {name : String} {i : Input}

theorem lastOf?_eq_some_iff :
    lastOf? declared name = some i ↔ IsLast declared i ∧ i.name = name := by
  rw [lastOf?, List.find?_eq_some_iff_append]
  constructor
  · rintro ⟨named, after, before, split, others⟩
    have same : i.name = name := beq_iff_eq.1 named
    refine ⟨⟨before.reverse, after.reverse, ?_, ?_⟩, same⟩
    · rw [← List.reverse_reverse declared, split]
      simp
    · intro held
      obtain ⟨j, member, again⟩ := mem_names.1 held
      have other := others j (List.mem_reverse.1 member)
      simp [again, same] at other
  · rintro ⟨⟨before, after, rfl, missing⟩, rfl⟩
    refine ⟨beq_self_eq_true _, after.reverse, before.reverse, by simp, ?_⟩
    intro j member
    have other : j.name ≠ i.name := fun same =>
      missing (mem_names.2 ⟨j, List.mem_reverse.1 member, same⟩)
    simp [other]

theorem lastOf?_eq_none_iff : lastOf? declared name = none ↔ name ∉ names declared := by
  rw [lastOf?, List.find?_eq_none, mem_names]
  simp

/-- An input is looked up as the last declaration of its name. -/
theorem Gathers.find?_eq_lastOf? (gathers : Gathers declared inputs) (name : String) :
    inputs.find? (·.name == name) = lastOf? declared name := by
  cases found : inputs.find? (·.name == name) with
  | none =>
      symm
      rw [lastOf?_eq_none_iff, ← gathers.mem_iff, mem_names]
      rintro ⟨j, member, same⟩
      exact List.find?_eq_none.1 found j member (beq_iff_eq.2 same)
  | some i =>
      symm
      rw [lastOf?_eq_some_iff]
      refine ⟨gathers.last i (List.mem_of_find?_eq_some found), ?_⟩
      simpa using List.find?_some found

end Manifest

def InputFinding.missing? : InputFinding → Option String
  | .missing input => some input
  | _ => none

namespace Check

open Manifest (lastOf?)

variable {m : Manifest} {declared : List Input} {keys : List String} {key k n message : String}

/-! ## The findings on the keys -/

theorem inputKey_eq_unknown_iff :
    inputKey m key = some (.unknown k) ↔ key = k ∧ m.input? k = none := by
  unfold inputKey
  cases found : m.input? key with
  | none =>
      constructor
      · intro reported
        cases reported
        exact ⟨rfl, found⟩
      · rintro ⟨rfl, -⟩
        rfl
  | some i =>
      constructor
      · intro reported
        simp at reported
      · rintro ⟨rfl, missing⟩
        simp [found] at missing

theorem inputKey_eq_deprecated_iff :
    inputKey m key = some (.deprecated k message) ↔
      key = k ∧ (m.input? k).bind (·.deprecation) = some message := by
  unfold inputKey
  cases found : m.input? key with
  | none =>
      constructor
      · intro reported
        simp at reported
      · rintro ⟨rfl, deprecated⟩
        simp [found] at deprecated
  | some i =>
      constructor
      · intro reported
        obtain ⟨text, given, same⟩ := Option.map_eq_some_iff.1 reported
        cases same
        exact ⟨rfl, by simp [found, given]⟩
      · rintro ⟨rfl, deprecated⟩
        have given : i.deprecation = some message := by simpa [found] using deprecated
        simp [given]

theorem inputKey_ne_missing : inputKey m key ≠ some (.missing n) := by
  unfold inputKey
  cases m.input? key with
  | none => simp
  | some i => simp

/-- A finding that one key alone can bring about comes as often as that key. -/
theorem count_filterMap_inputKey {f : InputFinding} {p : Prop} [Decidable p]
    (only : ∀ key, inputKey m key = some f ↔ key = k ∧ p) :
    (keys.filterMap (inputKey m)).count f = if p then keys.count k else 0 := by
  induction keys with
  | nil => simp
  | cons key keys ih =>
      have head : (inputKey m key == some f) = decide (key = k ∧ p) := by
        rw [Bool.eq_iff_iff]
        simp [only]
      rw [List.count_filterMap] at ih ⊢
      rw [List.countP_cons, ih, head, List.count_cons]
      by_cases holds : p <;> simp [holds]

/-! ## The findings on what is not set -/

/-- The names of the mandatory inputs that are not among the keys. -/
def missingNames (m : Manifest) (keys : List String) : List String :=
  names (m.mandatory.filter fun i => !keys.contains i.name)

theorem inputs_eq (m : Manifest) (keys : List String) :
    inputs m keys = keys.filterMap (inputKey m) ++ (missingNames m keys).map .missing := by
  rw [inputs, missingNames, names, List.map_map]
  rfl

theorem missingNames_sublist (m : Manifest) (keys : List String) :
    (missingNames m keys).Sublist (names m.inputs) :=
  (List.filter_sublist.trans List.filter_sublist).map _

theorem mem_missingNames (gathers : Gathers declared m.inputs) :
    n ∈ missingNames m keys ↔
      n ∉ keys ∧ (lastOf? declared n).any Input.isMandatory = true := by
  rw [← gathers.find?_eq_lastOf?, missingNames, Manifest.mem_names]
  constructor
  · rintro ⟨i, member, rfl⟩
    obtain ⟨among, absent⟩ := List.mem_filter.1 member
    obtain ⟨listed, mandatory⟩ := List.mem_filter.1 among
    have found : m.inputs.find? (·.name == i.name) = some i := by
      rw [gathers.find?_eq_lastOf?, Manifest.lastOf?_eq_some_iff]
      exact ⟨gathers.last i listed, rfl⟩
    exact ⟨by simpa using absent, by simpa [found] using mandatory⟩
  · rintro ⟨absent, mandatory⟩
    obtain ⟨i, found, mandatory⟩ := Option.any_eq_true .. |>.1 mandatory
    have same : i.name = n := by simpa using List.find?_some found
    have listed : i ∈ m.mandatory :=
      List.mem_filter.2 ⟨List.mem_of_find?_eq_some found, mandatory⟩
    refine ⟨i, List.mem_filter.2 ⟨listed, ?_⟩, same⟩
    simpa [same] using absent

/-! ## How often each finding comes -/

section Counts

variable (gathers : Gathers declared m.inputs)

include gathers

theorem input?_eq_lastOf? (name : String) : m.input? name = lastOf? declared name :=
  gathers.find?_eq_lastOf? name

theorem count_unknown (keys : List String) (k : String) :
    (inputs m keys).count (.unknown k) = if k ∈ names declared then 0 else keys.count k := by
  have only : ∀ key, inputKey m key = some (.unknown k) ↔ key = k ∧ k ∉ names declared := by
    intro key
    rw [inputKey_eq_unknown_iff, input?_eq_lastOf? gathers, Manifest.lastOf?_eq_none_iff]
  have behind : ((missingNames m keys).map InputFinding.missing).count (.unknown k) = 0 := by
    rw [List.count_eq_zero]
    simp
  rw [inputs_eq, List.count_append, count_filterMap_inputKey only, behind]
  by_cases known : k ∈ names declared <;> simp [known]

theorem count_deprecated (keys : List String) (k message : String) :
    (inputs m keys).count (.deprecated k message) =
      if (lastOf? declared k).bind (·.deprecation) = some message then keys.count k else 0 := by
  have only : ∀ key, inputKey m key = some (.deprecated k message) ↔
      key = k ∧ (lastOf? declared k).bind (·.deprecation) = some message := by
    intro key
    rw [inputKey_eq_deprecated_iff, input?_eq_lastOf? gathers]
  have behind :
      ((missingNames m keys).map InputFinding.missing).count (.deprecated k message) = 0 := by
    rw [List.count_eq_zero]
    simp
  rw [inputs_eq, List.count_append, count_filterMap_inputKey only, behind, Nat.add_zero]

/-- A name stands once among the inputs, so it is missing once at most. -/
theorem count_missing (keys : List String) (n : String) :
    (inputs m keys).count (.missing n) =
      if n ∉ keys ∧ (lastOf? declared n).any Input.isMandatory = true then 1 else 0 := by
  have front : (keys.filterMap (inputKey m)).count (.missing n) = 0 := by
    rw [List.count_eq_zero]
    simp [inputKey_ne_missing]
  have injective : Function.Injective InputFinding.missing := fun _ _ => InputFinding.missing.inj
  have distinct : (missingNames m keys).Nodup :=
    gathers.distinct.sublist (missingNames_sublist m keys)
  rw [inputs_eq, List.count_append, front, List.count_map_of_injective _ _ injective,
    distinct.count, Nat.zero_add]
  simp only [mem_missingNames gathers]

theorem unknown_mem_iff : .unknown k ∈ inputs m keys ↔ k ∈ keys ∧ k ∉ names declared := by
  rw [← List.count_pos_iff, count_unknown gathers]
  by_cases known : k ∈ names declared <;> simp [known, List.count_pos_iff]

theorem missing_mem_iff :
    .missing n ∈ inputs m keys ↔
      n ∉ keys ∧ (lastOf? declared n).any Input.isMandatory = true := by
  rw [← List.count_pos_iff, count_missing gathers]
  split <;> simp_all

/-! ## The order of the findings -/

/-- The findings on the keys are on those that are not declared or deprecated, in their order. -/
theorem keys_of_findings (keys : List String) :
    (keys.filterMap (inputKey m)).map InputFinding.input =
      keys.filter fun k => (lastOf? declared k).all (·.deprecation.isSome) := by
  induction keys with
  | nil => rfl
  | cons key keys ih =>
      have found : m.input? key = lastOf? declared key := input?_eq_lastOf? gathers key
      cases last : lastOf? declared key with
      | none => simp [inputKey, found, last, ih, InputFinding.input]
      | some i =>
          cases given : i.deprecation with
          | none => simp [inputKey, found, last, given, ih]
          | some message => simp [inputKey, found, last, given, ih, InputFinding.input]

/-- The missing inputs come in the order of their declarations. -/
theorem missingNames_ordered (keys : List String) :
    (missingNames m keys).Pairwise (DeclaredBefore declared) :=
  gathers.ordered.sublist (missingNames_sublist m keys)

end Counts

/-! ## Acting on the findings -/

/-- No key is unknown and no input is missing. -/
def Satisfied (found : List InputFinding) : Prop :=
  ∀ name, .unknown name ∉ found ∧ .missing name ∉ found

/-- The keys without those that are unknown, and with those that are missing. -/
def follow (found : List InputFinding) (keys : List String) : List String :=
  keys.filter (fun key => .unknown key ∉ found) ++ found.filterMap InputFinding.missing?

theorem mem_follow {found : List InputFinding} :
    k ∈ follow found keys ↔ (k ∈ keys ∧ .unknown k ∉ found) ∨ .missing k ∈ found := by
  have named : ∀ f : InputFinding, f.missing? = some k ↔ f = .missing k := by
    intro f
    cases f <;> simp [InputFinding.missing?]
  simp [follow, named]

/-- Whatever has a last declaration is declared. -/
theorem declared_of_mandatory (mandatory : (lastOf? declared n).any Input.isMandatory = true) :
    n ∈ names declared := by
  by_contra undeclared
  rw [← Manifest.lastOf?_eq_none_iff] at undeclared
  simp [undeclared] at mandatory

section Acting

variable (gathers : Gathers declared m.inputs)

include gathers

theorem satisfied_iff :
    Satisfied (inputs m keys) ↔
      (∀ n, (lastOf? declared n).any Input.isMandatory = true → n ∈ keys) ∧
        ∀ k ∈ keys, k ∈ names declared := by
  constructor
  · intro satisfied
    refine ⟨fun n mandatory => ?_, fun k passed => ?_⟩
    · by_contra absent
      exact (satisfied n).2 ((missing_mem_iff gathers).2 ⟨absent, mandatory⟩)
    · by_contra undeclared
      exact (satisfied k).1 ((unknown_mem_iff gathers).2 ⟨passed, undeclared⟩)
  · rintro ⟨set, known⟩ name
    rw [unknown_mem_iff gathers, missing_mem_iff gathers]
    exact ⟨fun unknown => unknown.2 (known name unknown.1),
      fun missing => missing.1 (set name missing.2)⟩

/-- Acting on the findings leaves none to act upon, in whichever order and however often the
keys are then written. -/
theorem satisfied_of_follow {keys' : List String}
    (followed : ∀ k, k ∈ keys' ↔ k ∈ follow (inputs m keys) keys) :
    Satisfied (inputs m keys') := by
  rw [satisfied_iff gathers]
  constructor
  · intro n mandatory
    rw [followed, mem_follow, unknown_mem_iff gathers, missing_mem_iff gathers]
    have known : n ∈ names declared := declared_of_mandatory mandatory
    by_cases passed : n ∈ keys
    · exact Or.inl ⟨passed, fun unknown => unknown.2 known⟩
    · exact Or.inr ⟨passed, mandatory⟩
  · intro k member
    rw [followed, mem_follow, unknown_mem_iff gathers, missing_mem_iff gathers] at member
    rcases member with ⟨passed, expected⟩ | ⟨-, mandatory⟩
    · by_contra undeclared
      exact expected ⟨passed, undeclared⟩
    · exact declared_of_mandatory mandatory

end Acting

/-! ## What is reported -/

/-- **A check of inputs reports what it should, as often as it should.**  For every manifest that
is read, with the declarations of its documents, and for every list of keys: a key that is not
declared is unknown as often as it is passed, a key whose last declaration is deprecated is
reported with that message as often as it is passed, and an input whose last declaration is
mandatory and that is not passed is missing once; no other finding is there.  The findings on the
keys come first, in the order of the keys, and those on missing inputs behind them, in the order
of the declarations; no name is both unknown and missing.  So nothing is unknown or missing if and
only if all mandatory inputs are passed and all keys declared, and that is where it leads to leave
out what is unknown and to add what is missing. -/
theorem findings_exact {text : String} {m : Manifest} (read : Manifest.parse text = .ok m)
    (keys : List String) :
    ∃ documents, Yaml.values text = .ok documents ∧
      let declared := Manifest.declared documents
      let found := inputs m keys
      (∀ k, found.count (.unknown k) = if k ∈ names declared then 0 else keys.count k) ∧
      (∀ k message, found.count (.deprecated k message) =
        if (lastOf? declared k).bind (·.deprecation) = some message then keys.count k else 0) ∧
      (∀ n, found.count (.missing n) =
        if n ∉ keys ∧ (lastOf? declared n).any Input.isMandatory = true then 1 else 0) ∧
      (∃ (onKeys : List InputFinding) (missing : List String),
        found = onKeys ++ missing.map InputFinding.missing ∧
        (∀ f ∈ onKeys, f.missing? = none) ∧
        onKeys.map InputFinding.input =
          keys.filter (fun k => (lastOf? declared k).all (·.deprecation.isSome)) ∧
        missing.Pairwise (DeclaredBefore declared)) ∧
      (∀ name, ¬ (.unknown name ∈ found ∧ .missing name ∈ found)) ∧
      (Satisfied found ↔
        (∀ n, (lastOf? declared n).any Input.isMandatory = true → n ∈ keys) ∧
          ∀ k ∈ keys, k ∈ names declared) ∧
      ∀ keys', (∀ k, k ∈ keys' ↔ k ∈ follow found keys) → Satisfied (inputs m keys') := by
  obtain ⟨documents, values, merged⟩ := Manifest.merges_of_parseWith read
  have gathers : Gathers (Manifest.declared documents) m.inputs := merged.inputs
  refine ⟨documents, values, count_unknown gathers keys, count_deprecated gathers keys,
    count_missing gathers keys, ⟨_, _, inputs_eq m keys, ?_, keys_of_findings gathers keys,
      missingNames_ordered gathers keys⟩, ?_, satisfied_iff gathers, ?_⟩
  · intro f member
    obtain ⟨key, -, reported⟩ := List.mem_filterMap.1 member
    cases f with
    | missing n => exact absurd reported inputKey_ne_missing
    | unknown k | deprecated k message => rfl
  · rintro name ⟨unknown, missing⟩
    exact ((missing_mem_iff gathers).1 missing).1 ((unknown_mem_iff gathers).1 unknown).1
  · intro keys' followed
    exact satisfied_of_follow gathers followed

/-- The second declaration makes the input mandatory. -/
theorem findings_exact_redeclared :
    ∃ m, Manifest.parse "inputs: {a: {}}\n--- {inputs: {a: {required: true}}}" = .ok m ∧
      inputs m ["b", "b"] = [.unknown "b", .unknown "b", .missing "a"] ∧
      follow (inputs m ["b", "b"]) ["b", "b"] = ["a"] ∧ Satisfied (inputs m ["a", "a"]) := by
  have read : Manifest.parse "inputs: {a: {}}\n--- {inputs: {a: {required: true}}}" =
      .ok ⟨none, none, [⟨"a", none, none, true, none⟩]⟩ := by decide +kernel
  obtain ⟨documents, -, -, -, -, -, -, -, followed⟩ := findings_exact read ["b", "b"]
  have corrected : follow (inputs ⟨none, none, [⟨"a", none, none, true, none⟩]⟩ ["b", "b"])
      ["b", "b"] = ["a"] := by decide
  refine ⟨_, read, by decide, corrected, followed ["a", "a"] fun k => ?_⟩
  rw [corrected]
  simp

end Check

end WorkflowLint
