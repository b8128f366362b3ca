/-
# WorkflowLint.Proofs.Session.CheckEffects -- what the check of a file may start

A check asks only about actions that a step refers to by a text that is trimmed and valid as
it stands (`UsesEntry.RefersTo`); every other entry leaves the downloads as they were
(`Check.entry_of_no_reference`).  Each look of a check has a `Reason` in the state that it is
made in: the address is that of such an action, or that of the default branch of one whose
manifest is missing at that moment (`Check.fileLooks_meet`).  However many steps mention an
address, a check starts it once at most.
-/
import WorkflowLint.Proofs.Check.Verdicts
import WorkflowLint.Proofs.Effects
import WorkflowLint.Proofs.Session.RetryBudget

namespace WorkflowLint

set_option autoImplicit false

open Fetch (Outcome State)

/-- An entry refers to an action that a check asks about: it belongs to a step, and its text is
trimmed and stands for a hosted action that is valid. -/
structure UsesEntry.RefersTo (e : UsesEntry) (a : HostedAction) : Prop where
  ofStep : e.step.isSome = true
  trimmed : Text.IsTrimmed e.uses
  read : Reference.parse e.uses = .hosted a
  valid : (Reference.hosted a).isValid = true

/-- Entries that refer to no action: those of jobs, and those whose text is empty, untrimmed or
malformed, means an image or a local path or names no revision. -/
theorem UsesEntry.not_refersTo {e : UsesEntry}
    (idle : e.step = none ∨ e.uses = "" ∨ ¬ Text.IsTrimmed e.uses ∨
      (Reference.parse e.uses).isImage = true ∨ (Reference.parse e.uses).isLocal = true ∨
      (Reference.parse e.uses).revision = none ∨ (Reference.parse e.uses).isValid = false)
    (a : HostedAction) : ¬ e.RefersTo a := by
  intro refers
  have valid := refers.valid
  rw [← refers.read] at valid
  rcases idle with ofJob | empty | untrimmed | image | path | noRevision | invalid
  · simpa [ofJob] using refers.ofStep
  · rw [empty] at valid
    exact absurd valid (by decide)
  · exact untrimmed refers.trimmed
  · rw [refers.read] at image
    exact Bool.noConfusion image
  · rw [refers.read] at path
    exact Bool.noConfusion path
  · have given : a.revision = none := by
      rw [refers.read] at noRevision
      exact noRevision
    have wellFormed := (a.isValid_false_iff.1 refers.valid).2
    simp [HostedAction.isRevisionValid, given] at wellFormed
  · rw [invalid] at valid
    exact Bool.noConfusion valid

namespace Check

open Cache (LooksMeet hostedLooks_meet look lookAll)

/-- Why a check of some entries looks at an address: an entry refers to the action there, or to
one whose default branch is there and whose own manifest is missing. -/
inductive Reason (host : ManifestHost) (es : List UsesEntry) (s : State) : String → Prop where
  | referred {e : UsesEntry} {a : HostedAction} {url : String} : e ∈ es → e.RefersTo a →
      host.actionUrl a = some url → Reason host es s url
  | missing {e : UsesEntry} {a : HostedAction} {own url : String} : e ∈ es → e.RefersTo a →
      host.actionUrl a = some own → host.actionUrl (a.atRevision headRevision) = some url →
      (s.record own).phase.IsMissing → Reason host es s url

variable {sources : Sources} {host : ManifestHost} {asker : Asker} {e : UsesEntry} {s : State}

theorem Reason.mono {es es' : List UsesEntry} (subset : es ⊆ es') {url : String}
    (reason : Reason host es s url) : Reason host es' s url := by
  cases reason with
  | referred member refers own => exact .referred (subset member) refers own
  | missing member refers own head missing =>
      exact .missing (subset member) refers own head missing

theorem Reason.exists_refersTo {url : String} (reason : Reason host [e] s url) :
    ∃ a, e.RefersTo a := by
  cases reason with
  | referred member refers => exact ⟨_, List.mem_singleton.1 member ▸ refers⟩
  | missing member refers => exact ⟨_, List.mem_singleton.1 member ▸ refers⟩

/-! ## The looks of an entry -/

theorem isNamed_of_isValid {a : HostedAction} (valid : (Reference.hosted a).isValid = true) :
    (Reference.hosted a).isNamed = true :=
  (a.isValid_false_iff.1 valid).1

/-- An entry that leaves a question, if it belongs to a step, refers to the action in question. -/
theorem refersTo_of_ask {a : HostedAction} {revision : String} (ofStep : e.step.isSome = true)
    (asked : examine e.uses = .ask a revision) : e.RefersTo a := by
  obtain ⟨trimmed, read, valid, -⟩ := examine_eq_ask_iff.1 asked
  exact ⟨ofStep, trimmed, read, valid⟩

theorem usesLooks_meet (ofStep : e.step.isSome = true) (asker : Asker) (s : State) :
    LooksMeet (Reason sources.host [e]) asker (usesLooks sources asker e s) s := by
  unfold usesLooks
  cases asked : examine e.uses with
  | finding f => trivial
  | clean => trivial
  | ask a revision =>
      have refers := refersTo_of_ask ofStep asked
      have named := isNamed_of_isValid refers.valid
      obtain ⟨own, head, addresses⟩ := ManifestHost.Addresses.of_isNamed sources.host named
      simp only [Cache.statusLooks, named, if_true, addresses.own_eq]
      refine hostedLooks_meet addresses (fun t => ?_) (fun t missing => ?_) s
      · exact .referred (List.mem_singleton_self e) refers addresses.own_eq
      · exact .missing (List.mem_singleton_self e) refers addresses.own_eq addresses.head_eq missing

/-- The inputs are looked up where the reference was, and nowhere when it left no question. -/
theorem inputLooks_meet (ofStep : e.step.isSome = true)
    (noFinding : ∀ f, examine e.uses ≠ .finding f) (asker : Asker) (s : State) :
    LooksMeet (Reason host [e]) asker (inputLooks host e) s := by
  unfold inputLooks
  split
  · trivial
  rename_i looked
  cases asked : examine e.uses with
  | finding f => exact absurd asked (noFinding f)
  | clean =>
      have unhosted : (Reference.parse e.uses).hosted? = none :=
        (unhosted_of_examine_eq_clean asked).resolve_left fun empty => looked (by simp [empty])
      simp [Cache.manifestLooks, ManifestHost.url, unhosted, LooksMeet]
  | ask a revision =>
      have refers := refersTo_of_ask ofStep asked
      obtain ⟨own, head, addresses⟩ :=
        ManifestHost.Addresses.of_isNamed host (isNamed_of_isValid refers.valid)
      have found : host.url (.hosted a) = some own := addresses.own_eq
      simp only [Cache.manifestLooks, refers.read, isNamed_of_isValid refers.valid, if_true, found,
        Option.toList_some]
      exact ⟨.referred (List.mem_singleton_self e) refers addresses.own_eq, trivial⟩

theorem entryUses_of_finding {f : UsesFinding} (found : examine e.uses = .finding f) :
    entryUses sources asker e s = (some f, s) := by
  simp only [entryUses, found]

/-- Each look at the addresses of an entry has a reason. -/
theorem entryLooks_meet (sources : Sources) (asker : Asker) (e : UsesEntry) (s : State) :
    LooksMeet (Reason sources.host [e]) asker (entryLooks sources asker e s) s := by
  unfold entryLooks
  split
  · trivial
  rename_i step
  have ofStep : e.step.isSome = true := by simpa [Option.isSome_iff_ne_none] using step
  split
  · exact usesLooks_meet ofStep asker s
  · rename_i clean
    refine (usesLooks_meet ofStep asker s).append (inputLooks_meet ofStep (fun f found => ?_) _ _)
    rw [entryUses_of_finding found] at clean
    cases clean

/-- An entry that refers to no action leaves the downloads as they were. -/
theorem entry_of_no_reference (noReference : ∀ a, ¬ e.RefersTo a) (sources : Sources)
    (asker : Asker) (s : State) : (entry sources asker e s).2 = s := by
  have meets := entryLooks_meet sources asker e s
  rw [entry_snd]
  cases looks : entryLooks sources asker e s with
  | nil => rfl
  | cons url urls =>
      rw [looks] at meets
      obtain ⟨a, refers⟩ := meets.1.exists_refersTo
      exact absurd refers (noReference a)

/-! ## The looks of a file -/

theorem entriesLooks_meet (sources : Sources) (asker : Asker) (es : List UsesEntry) (s : State) :
    LooksMeet (Reason sources.host es) asker (entriesLooks sources asker es s) s := by
  induction es generalizing s with
  | nil => trivial
  | cons e es ih =>
      have first := (entryLooks_meet sources asker e s).mono fun t url reason =>
        reason.mono (List.cons_subset_cons e (List.nil_subset es))
      refine first.append ?_
      rw [← entry_snd]
      exact (ih _).mono fun t url reason => reason.mono (List.subset_cons_self e es)

theorem fileLooks_meet {path : Path} {w : Workflow} (scanned : scanFile sources.files path = .ok w)
    (s : State) :
    LooksMeet (Reason sources.host w.uses) (.of path) (fileLooks sources path s) s := by
  simp only [fileLooks, scanned]
  exact entriesLooks_meet sources (.of path) w.uses s

end Check

namespace Session

open Cache (look lookAll)
open Check (Reason)

/-- **What the check of a file may download.**  After every session, a check of a file does
nothing to the downloads but look at addresses.  It starts an address once at most, and only
when the file is a workflow and there is a reason at the moment of the look that starts it: a
step refers, by a trimmed text that is valid as it stands, to the action of this address, or
to an action that has its default branch there and whose own manifest is missing at that
moment.  An entry that belongs to a job, is empty, untrimmed or malformed, means an image or a
local path or names no revision leaves the downloads as they were. -/
theorem check_effects (sources : Sources) (answers : String → Option Outcome)
    (requests : List Step) (path : Path) :
    let s := run sources (.initial answers) requests
    let t := (step sources s (.check path)).2
    let urls := looks sources s (.check path)
    t = lookAll (.of path) urls s ∧
      (∀ url, s.starts url < t.starts url → t.starts url = s.starts url + 1 ∧
        ∃ w before after, Check.scanFile sources.files path = .ok w ∧
          urls = before ++ url :: after ∧
          let now := lookAll (.of path) before s
          now.starts url = s.starts url ∧
            (look (.of path) url now).starts url = s.starts url + 1 ∧
            Reason sources.host w.uses now url) ∧
      ∀ (e : UsesEntry) (asker : Asker) (u : State),
        (e.step = none ∨ e.uses = "" ∨ ¬ Text.IsTrimmed e.uses ∨
          (Reference.parse e.uses).isImage = true ∨ (Reference.parse e.uses).isLocal = true ∨
          (Reference.parse e.uses).revision = none ∨ (Reference.parse e.uses).isValid = false) →
        (Check.entry sources asker e u).2 = u := by
  intro s t urls
  have left : t = lookAll (.of path) urls s := Check.file_snd sources path s
  refine ⟨left, fun url started => ?_, fun e asker u idle => ?_⟩
  · have coherent : s.Coherent := run_coherent sources (State.initial_coherent answers) requests
    have once : t.starts url = s.starts url + 0 + if url ∈ urls ∧ s.Due url then 1 else 0 :=
      step_starts sources coherent (.check path) (run_budget sources answers requests url)
    have looked : s.starts url < (lookAll (.of path) urls s).starts url := left ▸ started
    obtain ⟨before, after, split, unstarted, first⟩ := Cache.exists_look_of_started looked
    refine ⟨?_, ?_⟩
    · split_ifs at once
      · exact once
      · omega
    · cases scanned : Check.scanFile sources.files path with
      | error problem =>
          have noLooks : urls = [] := by simp only [urls, looks, Check.fileLooks, scanned]
          rw [noLooks] at split
          simp at split
      | ok w =>
          have meets : Cache.LooksMeet _ _ urls s := Check.fileLooks_meet scanned s
          rw [split] at meets
          exact ⟨w, before, after, rfl, split, unstarted, first, meets.at_moment⟩
  · exact Check.entry_of_no_reference (UsesEntry.not_refersTo idle) sources asker u

/-! ## A small workflow -/

/-- A job that uses a reusable workflow, with two steps that use the same action. -/
def sampleText : String := "jobs: {j: {uses: o/w@v1, steps: [uses: o/r@v1, uses: o/r@v1]}}"

def samplePath : Path := ⟨".github/workflows/w.yml"⟩

/-- The small host, and the workflow as the only file. -/
def sampleSources : Sources :=
  ⟨silentSources.host,
    ⟨fun p => if p = samplePath then .ok (.file sampleText.toByteArray) else .error .notFound⟩⟩

def sampleWorkflow : Workflow :=
  ⟨[⟨"j", none, none, "o/w@v1", []⟩, ⟨"j", some 0, none, "o/r@v1", []⟩,
    ⟨"j", some 1, none, "o/r@v1", []⟩], []⟩

theorem sample_scanned : Check.scanFile sampleSources.files samplePath = .ok sampleWorkflow := by
  have whole : String.fromUTF8? sampleText.toByteArray = some sampleText := by
    rw [String.fromUTF8?, dif_pos sampleText.isValidUTF8]
    rfl
  have read : sampleSources.files.readText samplePath = .ok sampleText := by
    simp only [FileTree.readText, sampleSources, if_true, whole]
  have scanned : Workflow.scan sampleText = .ok sampleWorkflow := by decide +kernel
  simp only [Check.scanFile, read, scanned]

/-- Both steps refer to the missing version, and its default branch is started once. -/
theorem check_effects_missing_version :
    let s := run sampleSources (.initial missingVersion) [.ensure actionUrl, .bump]
    let t := (step sampleSources s (.check samplePath)).2
    s.starts headUrl < t.starts headUrl ∧ t.starts headUrl = s.starts headUrl + 1 ∧
      (∃ before, (lookAll (.of samplePath) before s).starts headUrl = s.starts headUrl ∧
        Reason sampleSources.host sampleWorkflow.uses (lookAll (.of samplePath) before s)
          headUrl) ∧
      ∀ e ∈ sampleWorkflow.uses, e.step = none →
        (Check.entry sampleSources (.of samplePath) e s).2 = s := by
  intro s t
  obtain ⟨-, starts, idle⟩ :=
    check_effects sampleSources missingVersion [.ensure actionUrl, .bump] samplePath
  have entries : t = (Check.entries sampleSources (.of samplePath) sampleWorkflow.uses s).2 := by
    simp only [t, step, Check.file, sample_scanned, Check.steps]
  have started : s.starts headUrl < t.starts headUrl := by
    rw [entries]
    decide
  obtain ⟨once, w, before, after, scanned, -, unstarted, -, reason⟩ := starts headUrl started
  obtain rfl : sampleWorkflow = w := Except.ok.inj (sample_scanned.symm.trans scanned)
  exact ⟨started, once, ⟨before, unstarted, reason⟩, fun e _ ofJob => idle e _ s (Or.inl ofJob)⟩

end Session

end WorkflowLint
