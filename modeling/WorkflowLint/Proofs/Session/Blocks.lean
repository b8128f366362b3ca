/-
# WorkflowLint.Proofs.Session.Blocks -- a check says of each step what it says of it alone

A check takes one step after the other, and each leaves the downloads in another state than it
found them.  As long as every address answers at once and its answer stays, all these states are
alike, whatever was asked before (`run_alike_of_prompt`), so each step is found what it would be
found if it were the first to be looked up: a block of diagnostics that depends on its text and
its keys, and on where it stands for the location (`Check.block`).  A check is the blocks of the
steps in their order, and then those of the scripts, which are never looked up
(`check_is_blockwise`).
-/
import WorkflowLint.Proofs.Session.CheckEffects
import WorkflowLint.Proofs.Session.Transparency
import WorkflowLint.Proofs.Workflow.Scan

namespace WorkflowLint

set_option autoImplicit false

open Fetch (Op Outcome State)

/-! ## Addresses that answer at once -/

namespace Fetch

/-- Every address answers at once, and no download is under way. -/
structure State.Prompt (s : State) : Prop where
  answers : ∀ url, (s.answers url).isSome = true
  pending : s.pending = []

variable {s : State}

theorem State.Prompt.start_pending (prompt : s.Prompt) (url : String) (generation : Nat) :
    (s.start url generation).pending = [] := by
  obtain ⟨outcome, answer⟩ := Option.isSome_iff_exists.1 (prompt.answers url)
  rw [State.start_of_answer answer]
  exact prompt.pending

theorem State.Prompt.await_pending (prompt : s.Prompt) (url : String) (subscriber : Option Nat) :
    (s.await url subscriber).pending = [] := by
  cases subscriber <;> exact prompt.pending

theorem Op.apply_prompt {op : Op} (quiet : op.isQuiet = true) (prompt : s.Prompt) :
    (op.apply s).Prompt := by
  refine ⟨fun url => by rw [Op.apply_answers quiet]; exact prompt.answers url, ?_⟩
  cases op with
  | ensure url =>
      by_cases due : (s.record url).isDue s.generation = true
      · rw [apply, State.ensureStarted_of_due due]
        exact prompt.start_pending url s.generation
      · rw [apply, State.ensureStarted_of_not_due due]
        exact prompt.pending
  | restart url => exact prompt.start_pending url s.generation
  | await url subscriber => exact prompt.await_pending url subscriber
  | bump | unsubscribe id => exact prompt.pending
  | answer url outcome | close d outcome => exact Bool.noConfusion quiet

theorem State.run_prompt {ops : List Op} (quiet : ∀ op ∈ ops, op.isQuiet = true)
    (prompt : s.Prompt) : (s.run ops).Prompt := by
  induction ops generalizing s with
  | nil => exact prompt
  | cons op ops ih =>
      refine ih (fun op member => quiet op (List.mem_cons_of_mem _ member)) ?_
      exact Op.apply_prompt (quiet op List.mem_cons_self) prompt

/-- Where no download is under way, none is meant. -/
theorem State.chosen_eq_nil (none : s.pending = []) (url : String) (nth : Option Nat) :
    s.chosen url nth = [] := by
  cases nth <;> simp [State.chosen, none]

end Fetch

namespace Session

/-- Whether a request leaves the answers of all addresses as they are. -/
def keepsAnswers : Step → Bool
  | .answer _ _ | .unanswer _ => false
  | _ => true

variable {sources : Sources} {s t : State}

theorem closeOps_eq_nil (none : s.pending = []) (url : String) (nth : Option Nat)
    (outcome : Outcome) : closeOps s url nth outcome = [] := by
  rw [closeOps, State.chosen_eq_nil none, List.map_nil]

/-- Where every download ends in the step that starts it, there is none for a request to end. -/
theorem isQuiet_of_keepsAnswers (prompt : s.Prompt) {request : Step}
    (keeps : keepsAnswers request = true) {op : Op} (member : op ∈ ops sources s request) :
    op.isQuiet = true := by
  cases request with
  | answer url outcome | unanswer url => exact Bool.noConfusion keeps
  | complete url nth outcome | drop url nth =>
      rw [ops, closeOps_eq_nil prompt.pending] at member
      exact absurd member List.not_mem_nil
  | await url subscriber mode arriving =>
      have waited : (s.await url subscriber).pending = [] := prompt.await_pending url subscriber
      have alone : op = .await url subscriber := by
        cases arriving with
        | none => simpa [ops, awaitOps] using member
        | some outcome =>
            cases mode <;>
              simpa [ops, awaitOps, closeOps_eq_nil prompt.pending, closeOps_eq_nil waited]
                using member
      rw [alone]
      rfl
  | _ => exact isQuiet_of_isCall rfl member

/-- Whatever is asked where every address answers at once, the state stays alike. -/
theorem run_alike_of_prompt (prompt : s.Prompt) (alike : s.Alike t) {requests : List Step}
    (keep : ∀ request ∈ requests, keepsAnswers request = true) :
    (run sources s requests).Alike t := by
  induction requests generalizing s with
  | nil => exact alike
  | cons request requests ih =>
      have quiet : ∀ op ∈ ops sources s request, op.isQuiet = true := fun op =>
        isQuiet_of_keepsAnswers prompt (keep request List.mem_cons_self)
      rw [run_cons, step_eq_run]
      refine ih (State.run_prompt quiet prompt) ?_
        fun other among => keep other (List.mem_cons_of_mem _ among)
      exact alike.run quiet fun op (among : op ∈ []) => absurd among List.not_mem_nil

end Session

/-! ## Blocks -/

namespace Workflow

theorem step_of_usesOfStep {job : String} {n : Nat} {step : Yaml.Entries} {e : UsesEntry}
    (used : usesOfStep job n step = some e) : e.step = some n := by
  obtain ⟨uses, -, rfl⟩ := Option.map_eq_some_iff.1 used
  rfl

theorem step_of_usesOfJob {id : String} {job : Yaml.Entries} {e : UsesEntry}
    (used : usesOfJob id job = some e) : e.step = none := by
  obtain ⟨uses, -, rfl⟩ := Option.map_eq_some_iff.1 used
  rfl

/-- What a job itself uses is used by none of its steps. -/
theorem stepUses_ofJob (id : String) (job : Yaml.Entries) :
    (ofJob id job).stepUses = (stepsOf job).filterMap fun (n, step) => usesOfStep id n step := by
  have ofSteps : ∀ e ∈ (stepsOf job).filterMap fun (n, step) => usesOfStep id n step,
      e.step.isSome = true := by
    intro e member
    obtain ⟨⟨n, step⟩, -, used⟩ := List.mem_filterMap.1 member
    rw [step_of_usesOfStep used]
    rfl
  have ofJobs : (usesOfJob id job).toList.filter (·.step.isSome) = [] := by
    refine List.filter_eq_nil_iff.2 fun e member => ?_
    rw [step_of_usesOfJob (Option.mem_toList.1 member)]
    exact Bool.false_ne_true
  simp only [stepUses, ofJob, List.filter_append, ofJobs, List.nil_append]
  exact List.filter_eq_self.2 ofSteps

/-- The uses of the steps stand in the order of the jobs, and in each job in that of its steps. -/
theorem stepUses_ofDocument (document : Yaml.Entries) :
    (ofDocument document).stepUses = (jobsOf document).flatMap fun (id, job) =>
      (stepsOf job).filterMap fun (n, step) => usesOfStep id n step := by
  rw [stepUses, uses_ofDocument, List.filter_flatMap]
  exact List.flatMap_congr fun (id, job) _ => stepUses_ofJob id job

end Workflow

namespace Check

/-- What is found of the keys passed with a text when nothing was looked up before. -/
def inputFindings (sources : Sources) (asker : Asker) (answers : String → Option Outcome)
    (text : String) (keys : List String) : List InputFinding :=
  if text.isEmpty || (Reference.parse text).isImage then []
  else
    match (Cache.manifest sources asker (.parse text) (.initial answers)).1 with
    | some m => inputs m keys
    | none => []

/-- What is found of a text and of the keys passed with it when nothing was looked up before. -/
def findings (sources : Sources) (asker : Asker) (answers : String → Option Outcome)
    (text : String) (keys : List String) : List Finding :=
  match uses text fun r => (Cache.status sources asker r (.initial answers)).1 with
  | some f => [.uses f]
  | none => (inputFindings sources asker answers text keys).map .input

/-- The diagnostics of a step by itself. -/
def block (sources : Sources) (asker : Asker) (answers : String → Option Outcome)
    (e : UsesEntry) : List Diagnostic :=
  (findings sources asker answers e.uses e.withKeys).map (ofEntry e)

/-- The diagnostics of a workflow: the blocks of its steps in order, and then, if it stands where
workflows stand, those of its scripts. -/
def blocks (sources : Sources) (path : Path) (answers : String → Option Outcome)
    (w : Workflow) : List Diagnostic :=
  w.stepUses.flatMap (block sources (.of path) answers) ++
    if isWorkflowPath path then scripts w.runs else []

variable {sources : Sources} {asker : Asker} {answers : String → Option Outcome} {e : UsesEntry}
  {s : State}

theorem entryUses_fst (sources : Sources) (asker : Asker) (e : UsesEntry) (s : State) :
    (entryUses sources asker e s).1 =
      uses e.uses fun r => (Cache.status sources asker r s).1 := by
  unfold entryUses uses
  cases examine e.uses <;> rfl

/-- The inputs of a step are found what they are found by themselves. -/
theorem entryInputs_of_fresh (alike : s.Alike (.initial answers)) :
    (entryInputs sources asker e s).1 =
      inputFindings sources asker answers e.uses e.withKeys := by
  rw [entryInputs_of_alike alike]
  simp only [entryInputs, inputFindings]
  split
  · rfl
  · cases Cache.manifest sources asker (.parse e.uses) (.initial answers) with
    | mk found next => cases found <;> rfl

theorem entry_of_job (ofJob : e.step.isSome = false) : entry sources asker e s = ([], s) := by
  rw [entry, if_pos (Option.isSome_eq_false_iff.1 ofJob)]

theorem entry_of_step (ofStep : e.step.isSome = true) :
    (entry sources asker e s).1 =
      match (entryUses sources asker e s).1 with
      | some f => [ofEntry e (.uses f)]
      | none =>
        (entryInputs sources asker e (entryUses sources asker e s).2).1.map
          fun f => ofEntry e (.input f) := by
  have present : e.step.isNone = false := by simpa [Option.isSome_iff_ne_none] using ofStep
  simp only [entry, present]
  cases entryUses sources asker e s with
  | mk found next => cases found <;> rfl

/-- A step is found what it is found by itself. -/
theorem entry_of_fresh (alike : s.Alike (.initial answers)) (ofStep : e.step.isSome = true) :
    (entry sources asker e s).1 = block sources asker answers e := by
  have alikeAfterUses : (entryUses sources asker e s).2.Alike (.initial answers) := by
    rw [entryUses_snd]
    exact Cache.lookAll_alike alike asker _ []
  rw [entry_of_step ofStep, entryInputs_of_fresh alikeAfterUses, entryUses_of_alike alike,
    entryUses_fst]
  unfold block findings
  cases uses e.uses fun r => (Cache.status sources asker r (.initial answers)).1 with
  | some f => rfl
  | none => exact (List.map_map ..).symm

/-- Each step is found what it is found by itself, whatever comes before it. -/
theorem entries_of_fresh (alike : s.Alike (.initial answers)) (es : List UsesEntry) :
    (entries sources asker es s).1 =
      (es.filter (·.step.isSome)).flatMap (block sources asker answers) := by
  induction es generalizing s with
  | nil => rfl
  | cons e es ih =>
      have left : (entry sources asker e s).2.Alike (.initial answers) := by
        rw [entry_snd]
        exact Cache.lookAll_alike alike asker _ []
      have rest := ih left
      simp only [entries, rest]
      cases ofStep : e.step.isSome with
      | true => simp [ofStep, entry_of_fresh alike ofStep]
      | false => simp [ofStep, entry_of_job ofStep]

theorem steps_of_fresh (alike : s.Alike (.initial answers)) (path : Path) (w : Workflow) :
    (steps sources path w s).1 = blocks sources path answers w := by
  simp only [steps, blocks, Workflow.stepUses, entries_of_fresh alike]

theorem file_of_fresh (alike : s.Alike (.initial answers)) (path : Path) :
    (file sources path s).1 =
      (scanFile sources.files path).map (blocks sources path answers) := by
  unfold file
  cases scanFile sources.files path with
  | error problem => rfl
  | ok w => exact congrArg Except.ok (steps_of_fresh alike path w)

/-- What is found of a step is one finding on its reference, or else findings on its inputs
only. -/
theorem findings_cases (sources : Sources) (asker : Asker) (answers : String → Option Outcome)
    (text : String) (keys : List String) :
    let found := uses text fun r => (Cache.status sources asker r (.initial answers)).1
    (∃ f, found = some f ∧ findings sources asker answers text keys = [.uses f]) ∨
      (found = none ∧ ∀ f ∈ findings sources asker answers text keys, ∃ i, f = .input i) := by
  unfold findings
  cases uses text fun r => (Cache.status sources asker r (.initial answers)).1 with
  | some f => exact .inl ⟨f, rfl, rfl⟩
  | none =>
      refine .inr ⟨rfl, fun f member => ?_⟩
      obtain ⟨i, -, rfl⟩ := List.mem_map.1 member
      exact ⟨i, rfl⟩

/-- Steps with the same text and the same keys have the same diagnostics, each at its place. -/
theorem block_congr {e e' : UsesEntry} (text : e'.uses = e.uses) (keys : e'.withKeys = e.withKeys) :
    block sources asker answers e' =
      (block sources asker answers e).map fun d => { d with location := e'.location } := by
  simp only [block, text, keys, List.map_map]
  refine List.map_congr_left fun f _ => ?_
  simp only [Function.comp, ofEntry, text]

/-- The block of a step stands in one piece in the diagnostics of its workflow. -/
theorem block_infix {w : Workflow} {e : UsesEntry} (member : e ∈ w.stepUses) (sources : Sources)
    (path : Path) (answers : String → Option Outcome) :
    block sources (.of path) answers e <:+: blocks sources path answers w := by
  obtain ⟨before, after, split⟩ := List.append_of_mem member
  refine List.IsInfix.trans ?_ (List.prefix_append _ _).isInfix
  rw [split, List.flatMap_append, List.flatMap_cons]
  exact List.infix_append' ..

/-- Scripts with the same text, shell and runner have the same diagnostics, each at its place. -/
theorem script_congr {e e' : RunEntry} (text : e'.script = e.script) (shell : e'.shell = e.shell)
    (runsOn : e'.runsOn = e.runsOn) :
    script e' = (script e).map fun d => { d with location := e'.location } := by
  simp only [script, text, shell, runsOn, List.map_map]
  rfl

/-- The diagnostics of a script stand in one piece in those of its workflow. -/
theorem script_infix {w : Workflow} {e : RunEntry} (member : e ∈ w.runs) {path : Path}
    (workflow : isWorkflowPath path = true) (sources : Sources)
    (answers : String → Option Outcome) : script e <:+: blocks sources path answers w := by
  obtain ⟨before, after, split⟩ := List.append_of_mem member
  rw [blocks, if_pos workflow]
  refine List.IsInfix.trans ?_ (List.suffix_append _ _).isInfix
  rw [scripts, split, List.flatMap_append, List.flatMap_cons]
  exact List.infix_append' ..

end Check

namespace Session

theorem initial_prompt (answers : String → Outcome) :
    (State.initial fun url => some (answers url)).Prompt := ⟨fun _ => rfl, rfl⟩

/-- **A check is the blocks of its steps.**  Where every address answers at once and its answer
stays, a check says the same whatever came before: for each step that uses something, in the
order of the file, a block that depends on its text and its keys, with its job and position for
the location; and then what is found of the scripts, if the file stands where workflows stand.
What a job itself uses adds nothing.  A block is one finding on the reference, or else findings
on inputs only, which there are only where nothing is found of the reference.  So a step has the
same block, at another location, in every workflow that it is part of; and the deprecated commands
of a script are reported in one piece, which depends on its text, its shell and its runner, and on
where its step stands for the location. -/
theorem check_is_blockwise (sources : Sources) (answers : String → Outcome) (before : List Step)
    (keep : ∀ request ∈ before, keepsAnswers request = true) (path : Path) :
    let table : String → Option Outcome := fun url => some (answers url)
    let s := run sources (.initial table) before
    let block := Check.block sources (.of path) table
    (Check.file sources path s).1 =
        (Check.scanFile sources.files path).map (Check.blocks sources path table) ∧
      (∀ w : Workflow, (Check.steps sources path w s).1 =
        w.stepUses.flatMap block ++
          if isWorkflowPath path then Check.scripts w.runs else []) ∧
      (∀ document : Yaml.Entries,
        (Workflow.ofDocument document).stepUses =
          ((Workflow.jobsOf document).flatMap fun (id, job) =>
            (Workflow.stepsOf job).filterMap fun (n, step) => Workflow.usesOfStep id n step) ∧
        (Workflow.ofDocument document).runs =
          (Workflow.jobsOf document).flatMap fun (id, job) =>
            (Workflow.stepsOf job).filterMap fun (n, step) =>
              Workflow.runOfStep id (Workflow.defaultShellOf job)
                (Workflow.stringAt job "runs-on") n step) ∧
      (∀ e : UsesEntry,
        let found := Check.uses e.uses fun r => (Cache.status sources (.of path) r s).1
        (∃ f, found = some f ∧ block e = [Check.ofEntry e (.uses f)]) ∨
          (found = none ∧ ∀ d ∈ block e, ∃ i, d = Check.ofEntry e (.input i))) ∧
      (∀ (w w' : Workflow) (e e' : UsesEntry), e ∈ w.stepUses → e' ∈ w'.stepUses →
        e'.uses = e.uses → e'.withKeys = e.withKeys →
          block e <:+: (Check.steps sources path w s).1 ∧
          block e' <:+: (Check.steps sources path w' s).1 ∧
          block e' = (block e).map fun d => { d with location := e'.location }) ∧
      ∀ (w w' : Workflow) (e e' : RunEntry), isWorkflowPath path = true →
        e ∈ w.runs → e' ∈ w'.runs →
        e'.script = e.script → e'.shell = e.shell → e'.runsOn = e.runsOn →
          let commands := Script.deprecatedCommands e.script (.guess e.shell e.runsOn)
          Check.script e = commands.map (Check.ofScript e) ∧
          Check.script e <:+: (Check.steps sources path w s).1 ∧
          Check.script e' <:+: (Check.steps sources path w' s).1 ∧
          Check.script e' = (Check.script e).map fun d => { d with location := e'.location } := by
  intro table s block
  have alike : s.Alike (.initial table) :=
    run_alike_of_prompt (initial_prompt answers) (State.initial_alike table) keep
  have steps : ∀ w, (Check.steps sources path w s).1 = Check.blocks sources path table w :=
    Check.steps_of_fresh alike path
  refine ⟨Check.file_of_fresh alike path, steps,
    fun document => ⟨Workflow.stepUses_ofDocument document, Workflow.runs_ofDocument document⟩,
    fun e => ?_, fun w w' e e' member member' text keys => ?_,
    fun w w' e e' workflow member member' text shell runsOn => ⟨rfl, ?_⟩⟩
  · have asked : (fun r => (Cache.status sources (.of path) r s).1) =
        fun r => (Cache.status sources (.of path) r (.initial table)).1 :=
      funext fun _ => Cache.status_of_alike alike
    simp only [asked, block, Check.block]
    rcases Check.findings_cases sources (.of path) table e.uses e.withKeys with
      ⟨f, found, alone⟩ | ⟨clean, ofInputs⟩
    · exact .inl ⟨f, found, by rw [alone]; rfl⟩
    · refine .inr ⟨clean, fun d member => ?_⟩
      obtain ⟨f, among, rfl⟩ := List.mem_map.1 member
      obtain ⟨i, rfl⟩ := ofInputs f among
      exact ⟨i, rfl⟩
  · rw [steps, steps]
    exact ⟨Check.block_infix member sources path table,
      Check.block_infix member' sources path table, Check.block_congr text keys⟩
  · rw [steps, steps]
    exact ⟨Check.script_infix member workflow sources table,
      Check.script_infix member' workflow sources table, Check.script_congr text shell runsOn⟩

/-- Nothing is found at `v1`, and no other address can be downloaded. -/
private def unavailable (url : String) : Outcome :=
  if url = actionUrl then notFound else .failure ⟨some 500, "server error"⟩

/-- Both steps are found the same after a lookup that was made again, and the job nothing. -/
theorem check_is_blockwise_sample :
    let before : List Step := [.status "o/r@v1" ⟨none, some 7⟩ .blocking, .bump, .refresh "o/w@v1"]
    (∀ request ∈ before, keepsAnswers request = true) ∧
      (Check.file sampleSources samplePath
          (run sampleSources (.initial fun url => some (unavailable url)) before)).1 =
        .ok [⟨"j.steps[0]", some "o/r@v1", none, .uses (.notFetched "o/r")⟩,
          ⟨"j.steps[1]", some "o/r@v1", none, .uses (.notFetched "o/r")⟩] := by
  intro before
  have keep : ∀ request ∈ before, keepsAnswers request = true := by decide
  refine ⟨keep, ?_⟩
  rw [(check_is_blockwise sampleSources unavailable before keep samplePath).1, sample_scanned]
  exact congrArg Except.ok (by decide)

end Session

end WorkflowLint
