/-
# WorkflowLint.Proofs.Workflow.Scan -- what a scan finds, and where

What a document uses and runs can be said by what stands in it: a job is a mapping under a string
key of its `jobs` (`JobAt`), and a step a mapping in the `steps` of a job, known by its position
among all that stands there (`StepAt`).  A scan finds just that (`mem_uses_iff`, `mem_runs_iff`),
in the order of the document (`Precedes`), and so one entry for each site.

The location of a step names its site, whatever text the job identifier is: the position stands
behind the last bracket that opens (`stepLocation_inj`).
-/
import WorkflowLint.Proofs.Text.Split
import WorkflowLint.Proofs.Yaml.Distinct
import WorkflowLint.Workflow

namespace WorkflowLint

set_option autoImplicit false

open Yaml (Value Entries)

/-! ## Sites -/

/-- Where an entry stands: the job, and the position of the step in it, or none for the job
itself. -/
abbrev Site := String × Option Nat

def UsesEntry.site (e : UsesEntry) : Site := (e.job, e.step)

def RunEntry.site (e : RunEntry) : Site := (e.job, some e.step)

def UsesEntry.said (e : UsesEntry) : Site × String := (e.site, e.uses)

def RunEntry.said (e : RunEntry) : Site × String := (e.site, e.script)

theorem toList_toString (n : Nat) : (toString n).toList = Nat.toDigits 10 n := by
  rw [Nat.toString_eq_ofList_toDigits, String.toList_ofList]

theorem not_mem_toString (n : Nat) : '[' ∉ (toString n).toList := by
  intro member
  rw [toList_toString] at member
  have digit : Char.isDigit '[' = true :=
    Nat.isDigit_of_mem_toDigits (by decide) (by decide) member
  exact absurd digit (by decide)

/-- A number can be read off its text. -/
theorem eq_of_toList_toString {n n' : Nat} (same : (toString n).toList = (toString n').toList) :
    n = n' := by
  rw [toList_toString, toList_toString] at same
  calc
    n = Nat.ofDigitChars 10 (Nat.toDigits 10 n) 0 := Nat.ofDigitChars_ten_toDigits.symm
    _ = Nat.ofDigitChars 10 (Nat.toDigits 10 n') 0 := by rw [same]
    _ = n' := Nat.ofDigitChars_ten_toDigits

/-- The location of a step names the job and the position: read backwards, the digits of the
position end at the first bracket that opens. -/
theorem stepLocation_inj {id id' : String} {n n' : Nat} :
    stepLocation id n = stepLocation id' n' ↔ id = id' ∧ n = n' := by
  constructor
  · intro same
    have backwards : (stepLocation id n).toList.reverse = (stepLocation id' n').toList.reverse :=
      congrArg (fun s => s.toList.reverse) same
    have clean : ∀ k : Nat, '[' ∉ ']' :: (toString k).toList.reverse := by
      intro k
      simpa using not_mem_toString k
    have cut : ∀ (id : String) (k : Nat), (stepLocation id k).toList.reverse =
        (']' :: (toString k).toList.reverse) ++ '[' :: (id ++ ".steps").toList.reverse := by
      intro id k
      simp [stepLocation]
    rw [cut, cut] at backwards
    obtain ⟨digits, ids⟩ := Text.append_cons_inj_of_not_mem (clean n) (clean n') backwards
    have numerals : (toString n).toList = (toString n').toList := by
      simpa only [List.cons.injEq, List.reverse_inj, true_and] using digits
    exact ⟨String.toList_inj.1 (by simpa using ids), eq_of_toList_toString numerals⟩
  · rintro ⟨rfl, rfl⟩
    rfl

namespace Workflow

/-! ## What stands in a document -/

def TextAt (entries : Entries) (key text : String) : Prop :=
  (Value.string key, Value.string text) ∈ entries

/-- A job: a mapping under a string key of the jobs. -/
def JobAt (document : Entries) (id : String) (job : Entries) : Prop :=
  ∃ jobs, (Value.string "jobs", Value.mapping jobs) ∈ document ∧
    (Value.string id, Value.mapping job) ∈ jobs

/-- A step: a mapping in the sequence of the steps of a job. -/
def StepAt (document : Entries) (id : String) (n : Nat) (step : Entries) : Prop :=
  ∃ job steps, JobAt document id job ∧ (Value.string "steps", Value.sequence steps) ∈ job ∧
    steps[n]? = some (.mapping step)

/-- A job has a text at a key, which stands at the site of the job. -/
inductive JobText (document : Entries) (key : String) : Site → String → Prop
  | job {id text : String} {job : Entries} (found : JobAt document id job)
      (given : TextAt job key text) : JobText document key (id, none) text

/-- A step has a text at a key, which stands at the site of the step. -/
inductive StepText (document : Entries) (key : String) : Site → String → Prop
  | step {id text : String} {n : Nat} {step : Entries} (found : StepAt document id n step)
      (given : TextAt step key text) : StepText document key (id, some n) text

/-- The order of a document: that of its jobs, and in a job first what is its own and then that of
its steps. -/
inductive Precedes (document : Entries) : Site → Site → Prop
  | job {jobs : Entries} {id id' : String} {job job' : Value} {n n' : Option Nat}
      (among : (Value.string "jobs", Value.mapping jobs) ∈ document)
      (earlier : [(Value.string id, job), (Value.string id', job')].Sublist jobs) :
      Precedes document (id, n) (id', n')
  | own {id : String} {n : Nat} : Precedes document (id, none) (id, some n)
  | step {id : String} {n n' : Nat} (earlier : n < n') :
      Precedes document (id, some n) (id, some n')

/-! ## Documents without equal keys and without tags -/

/-- No key stands twice in a mapping of the document, and no value in it bears a tag. -/
structure Regular (entries : Entries) : Prop where
  distinct : (Value.mapping entries).Distinct
  untagged : (Value.mapping entries).Untagged

section Regular

variable {entries inner document job : Entries} {items : List Value} {key id text : String}
  {k v : Value} {n : Nat} {step : Entries}

theorem Regular.lookup?_iff (regular : Regular entries) :
    Value.lookup? entries key = some v ↔ (.string key, v) ∈ entries :=
  Value.lookup?_eq_some_iff regular.distinct.here

/-- A string key has one value. -/
theorem Regular.value_unique {w : Value} (regular : Regular entries)
    (first : (.string key, v) ∈ entries) (second : (.string key, w) ∈ entries) : v = w :=
  Option.some.inj ((regular.lookup?_iff.2 first).symm.trans (regular.lookup?_iff.2 second))

theorem Regular.untagged_of_mem (regular : Regular entries) (member : (k, v) ∈ entries) :
    k.Untagged ∧ v.Untagged :=
  (Value.throughout_mapping.1 regular.untagged).2 (k, v) member

theorem Regular.of_mem (regular : Regular entries) (member : (k, .mapping inner) ∈ entries) :
    Regular inner :=
  ⟨((Value.throughout_mapping.1 regular.distinct).2 _ member).2,
    (regular.untagged_of_mem member).2⟩

theorem Regular.of_item (regular : Regular entries) (member : (k, .sequence items) ∈ entries)
    (item : .mapping inner ∈ items) : Regular inner := by
  have distinct : (Value.sequence items).Distinct :=
    ((Value.throughout_mapping.1 regular.distinct).2 _ member).2
  have untagged : (Value.sequence items).Untagged := (regular.untagged_of_mem member).2
  exact ⟨(Value.throughout_sequence.1 distinct).2 _ item,
    (Value.throughout_sequence.1 untagged).2 _ item⟩

theorem Regular.of_job (regular : Regular document) (found : JobAt document id job) :
    Regular job := by
  obtain ⟨jobs, among, member⟩ := found
  exact (regular.of_mem among).of_mem member

theorem Regular.of_step (regular : Regular document) (found : StepAt document id n step) :
    Regular step := by
  obtain ⟨job, steps, foundJob, among, there⟩ := found
  exact (regular.of_job foundJob).of_item among (List.mem_of_getElem? there)

theorem stringAt_eq_some_iff (regular : Regular entries) :
    stringAt entries key = some text ↔ TextAt entries key text := by
  rw [stringAt, Option.bind_eq_some_iff]
  constructor
  · rintro ⟨v, found, read⟩
    have member : (.string key, v) ∈ entries := regular.lookup?_iff.1 found
    rwa [(Value.string?_eq_some_iff (regular.untagged_of_mem member).2).1 read] at member
  · intro given
    exact ⟨.string text, regular.lookup?_iff.2 given, rfl⟩

end Regular

/-! ## Jobs and steps -/

def jobOf? : Value × Value → Option (String × Entries)
  | (.string id, .mapping job) => some (id, job)
  | _ => none

def stepOf? : Value × Nat → Option (Nat × Entries)
  | (.mapping step, n) => some (n, step)
  | _ => none

section Parts

variable {document job step jobs : Entries} {id : String} {n : Nat}

theorem jobOf?_eq_some_iff {e : Value × Value} :
    jobOf? e = some (id, job) ↔ e = (.string id, .mapping job) := by
  obtain ⟨k, v⟩ := e
  cases k <;> cases v <;> simp [jobOf?]

theorem stepOf?_eq_some_iff {e : Value × Nat} :
    stepOf? e = some (n, step) ↔ e = (.mapping step, n) := by
  obtain ⟨v, m⟩ := e
  cases v <;> simp [stepOf?, and_comm]

/-- The jobs are the mappings under string keys of the one mapping that `jobs` is. -/
theorem jobsOf_cases (regular : Regular document) :
    (∃ jobs, (Value.string "jobs", Value.mapping jobs) ∈ document ∧
      jobsOf document = jobs.filterMap jobOf?) ∨
    (∀ jobs, (Value.string "jobs", Value.mapping jobs) ∉ document) ∧ jobsOf document = [] := by
  unfold jobsOf
  split
  · rename_i jobs found
    have among := regular.lookup?_iff.1 found
    refine Or.inl ⟨jobs, among, List.filterMap_congr fun e member => ?_⟩
    obtain ⟨k, v⟩ := e
    have plain : k.Untagged := ((regular.of_mem among).untagged_of_mem member).1
    cases v with
    | mapping job =>
        cases k with
        | tagged tag k => exact plain.here.elim
        | null | bool _ | number _ | string _ | sequence _ | mapping _ => rfl
    | null | bool _ | number _ | string _ | sequence _ | tagged _ _ => cases k <;> rfl
  · rename_i other
    exact Or.inr ⟨fun jobs among => other jobs (regular.lookup?_iff.2 among), rfl⟩

theorem mem_jobsOf (regular : Regular document) :
    (id, job) ∈ jobsOf document ↔ JobAt document id job := by
  rcases jobsOf_cases regular with ⟨jobs, among, listed⟩ | ⟨missing, none⟩
  · have held : (id, job) ∈ jobsOf document ↔ (Value.string id, Value.mapping job) ∈ jobs := by
      simp [listed, List.mem_filterMap, jobOf?_eq_some_iff]
    rw [held]
    constructor
    · intro member
      exact ⟨jobs, among, member⟩
    · rintro ⟨jobs', among', member⟩
      cases regular.value_unique among among'
      exact member
  · constructor
    · intro member
      rw [none] at member
      exact absurd member List.not_mem_nil
    · rintro ⟨jobs, among, -⟩
      exact absurd among (missing jobs)

/-- The jobs come in the order of the document. -/
theorem jobsOf_pairwise (regular : Regular document) :
    (jobsOf document).Pairwise fun a b =>
      ∀ n n', Precedes document (a.1, n) (b.1, n') := by
  rcases jobsOf_cases regular with ⟨jobs, among, listed⟩ | ⟨-, none⟩
  · rw [listed, List.pairwise_filterMap, List.pairwise_iff_forall_sublist]
    rintro e e' earlier ⟨id, job⟩ first ⟨id', job'⟩ second n n'
    rw [jobOf?_eq_some_iff] at first second
    subst first second
    exact .job among earlier
  · rw [none]
    exact List.Pairwise.nil

/-- The steps are the mappings in the one sequence that `steps` is, with their positions in it. -/
theorem stepsOf_cases (regular : Regular job) :
    (∃ steps, (Value.string "steps", Value.sequence steps) ∈ job ∧
      stepsOf job = steps.zipIdx.filterMap stepOf?) ∨
    (∀ steps, (Value.string "steps", Value.sequence steps) ∉ job) ∧ stepsOf job = [] := by
  unfold stepsOf
  split
  · rename_i steps found
    refine Or.inl ⟨steps, regular.lookup?_iff.1 found, List.filterMap_congr fun e _ => ?_⟩
    obtain ⟨v, n⟩ := e
    cases v <;> rfl
  · rename_i other
    exact Or.inr ⟨fun steps among => other steps (regular.lookup?_iff.2 among), rfl⟩

theorem mem_stepsOf (regular : Regular job) :
    (n, step) ∈ stepsOf job ↔
      ∃ steps, (Value.string "steps", Value.sequence steps) ∈ job ∧
        steps[n]? = some (.mapping step) := by
  rcases stepsOf_cases regular with ⟨steps, among, listed⟩ | ⟨missing, none⟩
  · have held : (n, step) ∈ stepsOf job ↔ steps[n]? = some (.mapping step) := by
      simp [listed, List.mem_filterMap, stepOf?_eq_some_iff, List.mem_zipIdx_iff_getElem?]
    rw [held]
    constructor
    · intro there
      exact ⟨steps, among, there⟩
    · rintro ⟨steps', among', there⟩
      cases regular.value_unique among among'
      exact there
  · constructor
    · intro member
      rw [none] at member
      exact absurd member List.not_mem_nil
    · rintro ⟨steps, among, -⟩
      exact absurd among (missing steps)

/-- The positions of the steps increase. -/
theorem stepsOf_pairwise (regular : Regular job) :
    (stepsOf job).Pairwise fun a b => a.1 < b.1 := by
  rcases stepsOf_cases regular with ⟨steps, -, listed⟩ | ⟨-, none⟩
  · have increasing : steps.zipIdx.Pairwise fun a b => a.2 < b.2 := by
      have positions : (steps.zipIdx.map Prod.snd).Pairwise (· < ·) := by
        rw [List.zipIdx_map_snd]
        exact List.pairwise_lt_range' ..
      exact List.pairwise_map.1 positions
    rw [listed, List.pairwise_filterMap]
    refine increasing.imp fun earlier => ?_
    rintro ⟨n, step⟩ first ⟨n', step'⟩ second
    rw [stepOf?_eq_some_iff] at first second
    subst first second
    exact earlier
  · rw [none]
    exact List.Pairwise.nil

end Parts

/-! ## The entries of a document -/

/-- A document uses and runs what its jobs do, in their order. -/
theorem ofDocument_eq (document : Entries) :
    ofDocument document =
      { uses := (jobsOf document).flatMap fun (id, job) => (ofJob id job).uses
        runs := (jobsOf document).flatMap fun (id, job) => (ofJob id job).runs } := by
  simp only [ofDocument]
  induction jobsOf document with
  | nil => rfl
  | cons job jobs ih =>
      rw [List.map_cons, List.foldr_cons, ih]
      rfl

theorem uses_ofDocument (document : Entries) :
    (ofDocument document).uses =
      (jobsOf document).flatMap fun (id, job) => (ofJob id job).uses :=
  congrArg Workflow.uses (ofDocument_eq document)

theorem runs_ofDocument (document : Entries) :
    (ofDocument document).runs =
      (jobsOf document).flatMap fun (id, job) => (ofJob id job).runs :=
  congrArg Workflow.runs (ofDocument_eq document)

def textOfJob (key id : String) (job : Entries) : List (Site × String) :=
  ((stringAt job key).map fun text => ((id, none), text)).toList

/-- The texts that the steps of a job have at a key, with their sites. -/
def textsOfSteps (key id : String) (job : Entries) : List (Site × String) :=
  (stepsOf job).filterMap fun (n, step) =>
    (stringAt step key).map fun text => ((id, some n), text)

theorem uses_ofJob (id : String) (job : Entries) :
    (ofJob id job).uses.map UsesEntry.said =
      textOfJob "uses" id job ++ textsOfSteps "uses" id job := by
  have own : (usesOfJob id job).toList.map UsesEntry.said = textOfJob "uses" id job := by
    rw [textOfJob, usesOfJob]
    cases stringAt job "uses" <;> rfl
  have ofSteps : ((stepsOf job).filterMap fun (n, step) => usesOfStep id n step).map
      UsesEntry.said = textsOfSteps "uses" id job := by
    rw [List.map_filterMap, textsOfSteps]
    refine List.filterMap_congr fun e _ => ?_
    simp only [usesOfStep, Option.map_map]
    rfl
  rw [ofJob, List.map_append, own, ofSteps]

theorem runs_ofJob (id : String) (job : Entries) :
    (ofJob id job).runs.map RunEntry.said = textsOfSteps "run" id job := by
  rw [ofJob, List.map_filterMap, textsOfSteps]
  refine List.filterMap_congr fun e _ => ?_
  simp only [runOfStep, Option.map_map]
  rfl

section Texts

variable {document job : Entries} {key id text : String} {site : Site}

theorem exists_textOfJob_iff (regular : Regular document) :
    (∃ e ∈ jobsOf document, (site, text) ∈ textOfJob key e.1 e.2) ↔
      JobText document key site text := by
  constructor
  · rintro ⟨⟨id, job⟩, listed, member⟩
    have found : JobAt document id job := (mem_jobsOf regular).1 listed
    obtain ⟨given, read, same⟩ := Option.map_eq_some_iff.1 (Option.mem_toList.1 member)
    cases same
    exact .job found ((stringAt_eq_some_iff (regular.of_job found)).1 read)
  · intro own
    cases own with
    | @job id _ job found given =>
        have read : stringAt job key = some text :=
          (stringAt_eq_some_iff (regular.of_job found)).2 given
        exact ⟨(id, job), (mem_jobsOf regular).2 found, by simp [textOfJob, read]⟩

theorem exists_textsOfSteps_iff (regular : Regular document) :
    (∃ e ∈ jobsOf document, (site, text) ∈ textsOfSteps key e.1 e.2) ↔
      StepText document key site text := by
  constructor
  · rintro ⟨⟨id, job⟩, listed, member⟩
    have found : JobAt document id job := (mem_jobsOf regular).1 listed
    obtain ⟨⟨n, step⟩, among, ofStep⟩ := List.mem_filterMap.1 member
    obtain ⟨given, read, same⟩ := Option.map_eq_some_iff.1 ofStep
    cases same
    obtain ⟨steps, stands, there⟩ := (mem_stepsOf (regular.of_job found)).1 among
    have foundStep : StepAt document id n step := ⟨job, steps, found, stands, there⟩
    exact .step foundStep ((stringAt_eq_some_iff (regular.of_step foundStep)).1 read)
  · intro ofStep
    cases ofStep with
    | @step id _ n step found given =>
        have read : stringAt step key = some text :=
          (stringAt_eq_some_iff (regular.of_step found)).2 given
        obtain ⟨job, steps, foundJob, stands, there⟩ := found
        have among : (n, step) ∈ stepsOf job :=
          (mem_stepsOf (regular.of_job foundJob)).2 ⟨steps, stands, there⟩
        refine ⟨(id, job), (mem_jobsOf regular).2 foundJob, ?_⟩
        exact List.mem_filterMap.2 ⟨(n, step), among, by simp [read]⟩

/-- A scan finds what jobs and steps use, and nothing else. -/
theorem mem_uses_iff (regular : Regular document) :
    (site, text) ∈ (ofDocument document).uses.map UsesEntry.said ↔
      JobText document "uses" site text ∨ StepText document "uses" site text := by
  rw [uses_ofDocument, List.map_flatMap, List.mem_flatMap, ← exists_textOfJob_iff regular,
    ← exists_textsOfSteps_iff regular, ← exists_or]
  simp only [uses_ofJob, List.mem_append, and_or_left]

/-- A scan finds what steps run, and nothing else. -/
theorem mem_runs_iff (regular : Regular document) :
    (site, text) ∈ (ofDocument document).runs.map RunEntry.said ↔
      StepText document "run" site text := by
  rw [runs_ofDocument, List.map_flatMap, List.mem_flatMap, ← exists_textsOfSteps_iff regular]
  simp only [runs_ofJob]

/-! ## The order of the entries -/

/-- One site does not stand before itself, for no key stands twice among the jobs. -/
theorem Precedes.ne {site' : Site} (regular : Regular document)
    (precedes : Precedes document site site') : site ≠ site' := by
  cases precedes with
  | job among earlier =>
      intro same
      obtain ⟨rfl, -⟩ := Prod.mk.inj same
      exact Value.not_sublist_of_hasDuplicate (regular.of_mem among).distinct.here earlier
  | own => exact fun same => nomatch same
  | step earlier =>
      intro same
      cases same
      exact Nat.lt_irrefl _ earlier

theorem textsOfSteps_pairwise (regular : Regular job) (document : Entries) (key id : String) :
    (textsOfSteps key id job).Pairwise fun p q => Precedes document p.1 q.1 := by
  rw [textsOfSteps, List.pairwise_filterMap]
  refine (stepsOf_pairwise regular).imp fun {a b} earlier p first q second => ?_
  obtain ⟨text, -, rfl⟩ := Option.map_eq_some_iff.1 first
  obtain ⟨text', -, rfl⟩ := Option.map_eq_some_iff.1 second
  exact .step earlier

theorem fst_of_mem_textsOfSteps {p : Site × String} (member : p ∈ textsOfSteps key id job) :
    ∃ n, p.1 = (id, some n) := by
  obtain ⟨⟨n, step⟩, -, read⟩ := List.mem_filterMap.1 member
  obtain ⟨text, -, rfl⟩ := Option.map_eq_some_iff.1 read
  exact ⟨n, rfl⟩

theorem fst_of_mem_textOfJob {p : Site × String} (member : p ∈ textOfJob key id job) :
    p.1 = (id, none) := by
  obtain ⟨text, -, rfl⟩ := Option.map_eq_some_iff.1 (Option.mem_toList.1 member)
  rfl

/-- What jobs come to stands in the order of the document if it does in each job. -/
theorem pairwise_flatMap_jobsOf (regular : Regular document)
    (part : String → Entries → List (Site × String))
    (own : ∀ id job, ∀ p ∈ part id job, p.1.1 = id)
    (inner : ∀ id job, Regular job →
      (part id job).Pairwise fun p q => Precedes document p.1 q.1) :
    ((jobsOf document).flatMap fun e => part e.1 e.2).Pairwise
      fun p q => Precedes document p.1 q.1 := by
  rw [List.pairwise_flatMap]
  constructor
  · rintro ⟨id, job⟩ member
    exact inner id job (regular.of_job ((mem_jobsOf regular).1 member))
  · refine (jobsOf_pairwise regular).imp fun {a b} earlier p first q second => ?_
    have before := earlier p.1.2 q.1.2
    rwa [← own _ _ p first, ← own _ _ q second] at before

theorem uses_pairwise (regular : Regular document) :
    ((ofDocument document).uses.map UsesEntry.said).Pairwise
      fun p q => Precedes document p.1 q.1 := by
  rw [uses_ofDocument, List.map_flatMap]
  simp only [uses_ofJob]
  refine pairwise_flatMap_jobsOf regular
    (fun id job => textOfJob "uses" id job ++ textsOfSteps "uses" id job) ?_ ?_
  · intro id job p member
    rcases List.mem_append.1 member with ofJob | ofSteps
    · rw [fst_of_mem_textOfJob ofJob]
    · obtain ⟨n, same⟩ := fst_of_mem_textsOfSteps ofSteps
      rw [same]
  · intro id job regularJob
    have atMostOne : (textOfJob "uses" id job).Pairwise fun p q => Precedes document p.1 q.1 := by
      rw [textOfJob]
      cases stringAt job "uses" <;> simp
    refine List.pairwise_append.2 ⟨atMostOne, textsOfSteps_pairwise regularJob document _ id, ?_⟩
    · intro p ofJob q ofSteps
      obtain ⟨n, same⟩ := fst_of_mem_textsOfSteps ofSteps
      rw [fst_of_mem_textOfJob ofJob, same]
      exact .own

theorem runs_pairwise (regular : Regular document) :
    ((ofDocument document).runs.map RunEntry.said).Pairwise
      fun p q => Precedes document p.1 q.1 := by
  rw [runs_ofDocument, List.map_flatMap]
  simp only [runs_ofJob]
  refine pairwise_flatMap_jobsOf regular (textsOfSteps "run") ?_ ?_
  · intro id job p member
    obtain ⟨n, same⟩ := fst_of_mem_textsOfSteps member
    rw [same]
  · intro id job regularJob
    exact textsOfSteps_pairwise regularJob document _ id

end Texts

/-! ## Steps and their locations -/

/-- What the steps of a workflow use, in order. -/
def stepUses (w : Workflow) : List UsesEntry := w.uses.filter (·.step.isSome)

/-- The sites of all that steps use and run, with their locations. -/
def stepPlaces (w : Workflow) : List (Site × String) :=
  w.stepUses.map (fun e => (e.site, e.location)) ++ w.runs.map fun e => (e.site, e.location)

variable {w : Workflow}

theorem stepPlaces_eq {p : Site × String} (member : p ∈ w.stepPlaces) :
    ∃ id n, p = ((id, some n), stepLocation id n) := by
  rcases List.mem_append.1 member with used | run
  · obtain ⟨e, among, rfl⟩ := List.mem_map.1 used
    obtain ⟨n, ofStep⟩ := Option.isSome_iff_exists.1 (List.mem_filter.1 among).2
    exact ⟨e.job, n, by simp [UsesEntry.site, UsesEntry.location, ofStep]⟩
  · obtain ⟨e, -, rfl⟩ := List.mem_map.1 run
    exact ⟨e.job, e.step, rfl⟩

/-- What stands at one location stands at one site. -/
theorem stepPlaces_inj {p q : Site × String} (first : p ∈ w.stepPlaces)
    (second : q ∈ w.stepPlaces) (same : p.2 = q.2) : p.1 = q.1 := by
  obtain ⟨id, n, rfl⟩ := stepPlaces_eq first
  obtain ⟨id', n', rfl⟩ := stepPlaces_eq second
  obtain ⟨rfl, rfl⟩ := stepLocation_inj.1 same
  rfl

/-! ## What a scan finds -/

/-- Entries whose sites stand in the order of the document have sites of their own. -/
theorem ordered_and_nodup {document : Entries} (regular : Regular document)
    {said : List (Site × String)}
    (ordered : said.Pairwise fun p q => Precedes document p.1 q.1) :
    (said.map Prod.fst).Pairwise (Precedes document) ∧ (said.map Prod.fst).Nodup := by
  have sites : (said.map Prod.fst).Pairwise (Precedes document) := List.pairwise_map.2 ordered
  exact ⟨sites, sites.imp fun before => before.ne regular⟩

/-- A workflow holds what a document uses and runs, each once and where it stands. -/
structure Covers (document : Entries) (w : Workflow) : Prop where
  uses_iff : ∀ site used, (site, used) ∈ w.uses.map UsesEntry.said ↔
    JobText document "uses" site used ∨ StepText document "uses" site used
  runs_iff : ∀ site script, (site, script) ∈ w.runs.map RunEntry.said ↔
    StepText document "run" site script
  uses_ordered : (w.uses.map UsesEntry.site).Pairwise (Precedes document) ∧
    (w.uses.map UsesEntry.site).Nodup
  runs_ordered : (w.runs.map RunEntry.site).Pairwise (Precedes document) ∧
    (w.runs.map RunEntry.site).Nodup
  located : ∀ p ∈ w.stepPlaces, ∀ q ∈ w.stepPlaces, p.2 = q.2 → p.1 = q.1

theorem ofDocument_covers {document : Entries} (regular : Regular document) :
    Covers document (ofDocument document) where
  uses_iff _ _ := mem_uses_iff regular
  runs_iff _ _ := mem_runs_iff regular
  uses_ordered := by
    have ordered := ordered_and_nodup regular (uses_pairwise regular)
    rwa [List.map_map] at ordered
  runs_ordered := by
    have ordered := ordered_and_nodup regular (runs_pairwise regular)
    rwa [List.map_map] at ordered
  located _ first _ second := stepPlaces_inj first second

/-- Whatever reads the documents, a scan is exact as long as no key stands twice in them. -/
theorem scanWith_covers {reader : String → Except Yaml.Error Value}
    (apart : Yaml.KeepsKeysApart reader) {text : String} {document : Entries}
    (read : reader text = .ok (.mapping document)) (plain : (Value.mapping document).Untagged) :
    scanWith reader text = .ok (ofDocument document) ∧ Covers document (ofDocument document) := by
  have regular : Regular document := ⟨apart text _ read, plain⟩
  exact ⟨by rw [scanWith, read], ofDocument_covers regular⟩

/-- **A scan finds what is used and run, each once and where it stands.**  Every text of a
mapping without tags is scanned.  The entries on what is used are the `uses` texts of the jobs
and of their steps, and those on scripts the `run` texts of the steps, where a job is a mapping
under a string key of `jobs` and a step a mapping in the sequence `steps` of a job, at its
position among all that stands there.  No site has two entries, and the entries stand in the
order of the document, that of a job before those of its steps.  Steps with one location are one
step. -/
theorem scan_exact {text : String} {document : Entries}
    (read : Yaml.value text = .ok (.mapping document))
    (plain : (Value.mapping document).Untagged) :
    ∃ w, scan text = .ok w ∧
      (∀ site used, (site, used) ∈ w.uses.map UsesEntry.said ↔
        JobText document "uses" site used ∨ StepText document "uses" site used) ∧
      (∀ site script, (site, script) ∈ w.runs.map RunEntry.said ↔
        StepText document "run" site script) ∧
      ((w.uses.map UsesEntry.site).Pairwise (Precedes document) ∧
        (w.uses.map UsesEntry.site).Nodup) ∧
      ((w.runs.map RunEntry.site).Pairwise (Precedes document) ∧
        (w.runs.map RunEntry.site).Nodup) ∧
      ∀ p ∈ w.stepPlaces, ∀ q ∈ w.stepPlaces, p.2 = q.2 → p.1 = q.1 := by
  obtain ⟨scanned, covers⟩ := scanWith_covers Yaml.value_keepsKeysApart read plain
  exact ⟨ofDocument document, scanned, covers.uses_iff, covers.runs_iff, covers.uses_ordered,
    covers.runs_ordered, covers.located⟩

/-- The identifier of the first job reads like the location of a step of the second one, whose
first item is no step. -/
def bracketedText : String :=
  "jobs:\n a.steps[1]: {uses: w}\n a: {steps: [x, {uses: y, run: z}]}"

def bracketedDocument : Entries :=
  [(.string "jobs", .mapping
    [(.string "a.steps[1]", .mapping [(.string "uses", .string "w")]),
      (.string "a", .mapping [(.string "steps", .sequence
        [.string "x", .mapping [(.string "uses", .string "y"), (.string "run", .string "z")]])])])]

set_option maxRecDepth 2000 in
theorem scan_exact_bracketed :
    ∃ w, scan bracketedText = .ok w ∧
      w.uses.map UsesEntry.said = [(("a.steps[1]", none), "w"), (("a", some 1), "y")] ∧
      w.runs.map RunEntry.said = [(("a", some 1), "z")] ∧
      StepText bracketedDocument "run" ("a", some 1) "z" ∧
      ∀ p ∈ w.stepPlaces, ∀ q ∈ w.stepPlaces, p.2 = q.2 → p.1 = q.1 := by
  have read : Yaml.value bracketedText = .ok (.mapping bracketedDocument) := by decide +kernel
  have plain : (Value.mapping bracketedDocument).Untagged := by
    simp [Value.Untagged, Value.throughout_mapping, Value.throughout_sequence,
      Value.throughout_string, Value.IsUntagged, bracketedDocument]
  obtain ⟨w, scanned, -, ran, -, -, injective⟩ := scan_exact read plain
  obtain rfl : ofDocument bracketedDocument = w := by
    rw [scan, scanWith, read] at scanned
    exact Except.ok.inj scanned
  exact ⟨_, scanned, by decide, by decide, (ran _ _).1 (by decide), injective⟩

end Workflow

end WorkflowLint
