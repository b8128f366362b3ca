/-
# WorkflowLint.Proofs.Session.Transparency -- what was asked before makes no difference

While the answers stay and no download under way ends, a session only calls the cache.
Such a session leaves every address answered, so its state and a fresh one with the same
answers are `Alike`.  Alike states give the same statuses and manifests, and whatever is
looked up in each of them leaves alike states again; so the check of a whole file, which
looks up one reference after the other, says the same in both.  Restarts, bumps and looks
at the default branch leave records that differ in attempts and stamps, but not in what
is seen of them (`transparent`).

A session looks references up by their texts.  A lookup of a reference that no text stands
for is covered as well: like every lookup it comes down to an `ensure` and an `await` of
each address that it looks at.
-/
import WorkflowLint.Proofs.Look
import WorkflowLint.Proofs.Session.Trace

namespace WorkflowLint

set_option autoImplicit false

open Fetch (Op Outcome State)

/-! ## Alike states -/

namespace Fetch.State

/-- Two states with the same answers, and of every address nothing else is known in either. -/
structure Alike (s t : State) : Prop where
  answers : s.answers = t.answers
  left : ∀ url, s.Answered url
  right : ∀ url, t.Answered url

variable {s t : State}

/-- Alike states stay alike whatever is done to each of them, as long as the answers stay and
no download under way ends. -/
theorem Alike.run (alike : s.Alike t) {ops ops' : List Op}
    (quiet : ∀ op ∈ ops, op.isQuiet = true) (quiet' : ∀ op ∈ ops', op.isQuiet = true) :
    (s.run ops).Alike (t.run ops') where
  answers := by rw [run_answers quiet, run_answers quiet', alike.answers]
  left url := run_answered quiet (alike.left url)
  right url := run_answered quiet' (alike.right url)

theorem initial_alike (answers : String → Option Outcome) :
    (initial answers).Alike (initial answers) where
  answers := rfl
  left := initial_answered answers
  right := initial_answered answers

end Fetch.State

namespace Cache

variable {sources : Sources} {asker : Asker} {r : Reference} {s t : State}

theorem isQuiet_of_mem_lookOps {asker : Asker} {urls : List String} {op : Op}
    (member : op ∈ urls.flatMap (lookOps asker)) : op.isQuiet = true :=
  Op.isQuiet_of_isLook (isLook_of_mem_lookOps member)

theorem lookAll_alike (alike : s.Alike t) (asker : Asker) (urls urls' : List String) :
    (lookAll asker urls s).Alike (lookAll asker urls' t) := by
  rw [lookAll_eq_run, lookAll_eq_run]
  exact alike.run (fun _ => isQuiet_of_mem_lookOps) (fun _ => isQuiet_of_mem_lookOps)

theorem status_of_alike (alike : s.Alike t) :
    (status sources asker r s).1 = (status sources asker r t).1 :=
  status_congr alike.answers (fun url _ => alike.left url) (fun url _ => alike.right url)

theorem manifest_of_alike (alike : s.Alike t) :
    (manifest sources asker r s).1 = (manifest sources asker r t).1 :=
  manifest_congr alike.answers (fun url _ => alike.left url) (fun url _ => alike.right url)

end Cache

/-! ## The check of a file in alike states -/

namespace Check

variable {sources : Sources} {asker : Asker} {e : UsesEntry} {s t : State}

theorem entryUses_of_alike (alike : s.Alike t) :
    (entryUses sources asker e s).1 = (entryUses sources asker e t).1 := by
  unfold entryUses
  cases examine e.uses with
  | finding f => rfl
  | clean => rfl
  | ask a revision => exact congrArg (judge a revision) (Cache.status_of_alike alike)

theorem entryInputs_of_alike (alike : s.Alike t) :
    (entryInputs sources asker e s).1 = (entryInputs sources asker e t).1 := by
  have same : (Cache.manifest sources asker (.parse e.uses) s).1 =
      (Cache.manifest sources asker (.parse e.uses) t).1 := Cache.manifest_of_alike alike
  simp only [entryInputs]
  split
  · rfl
  · cases found : Cache.manifest sources asker (.parse e.uses) s with
    | mk m next =>
        cases found' : Cache.manifest sources asker (.parse e.uses) t with
        | mk m' next' =>
            rw [found, found'] at same
            obtain rfl : m = m' := same
            cases m <;> rfl

theorem entry_of_alike (alike : s.Alike t) :
    (entry sources asker e s).1 = (entry sources asker e t).1 := by
  have same : (entryUses sources asker e s).1 = (entryUses sources asker e t).1 :=
    entryUses_of_alike alike
  have left : (entryUses sources asker e s).2.Alike (entryUses sources asker e t).2 := by
    rw [entryUses_snd, entryUses_snd]
    exact Cache.lookAll_alike alike asker _ _
  unfold entry
  split
  · rfl
  · cases asked : entryUses sources asker e s with
    | mk found next =>
        cases asked' : entryUses sources asker e t with
        | mk found' next' =>
            rw [asked, asked'] at same left
            obtain rfl : found = found' := same
            cases found with
            | some f => rfl
            | none =>
                exact congrArg (List.map fun f => ofEntry e (.input f)) (entryInputs_of_alike left)

theorem entries_of_alike (alike : s.Alike t) (es : List UsesEntry) :
    (entries sources asker es s).1 = (entries sources asker es t).1 := by
  induction es generalizing s t with
  | nil => rfl
  | cons e es ih =>
      have alikeAfterEntry : (entry sources asker e s).2.Alike (entry sources asker e t).2 := by
        rw [entry_snd, entry_snd]
        exact Cache.lookAll_alike alike asker _ _
      simp only [entries]
      rw [entry_of_alike alike, ih alikeAfterEntry]

theorem file_of_alike (alike : s.Alike t) (path : Path) :
    (file sources path s).1 = (file sources path t).1 := by
  simp only [file, steps]
  cases scanFile sources.files path with
  | error e => rfl
  | ok w => simp only [entries_of_alike alike w.uses]

end Check

/-! ## Sessions -/

namespace Session

/-- Whether a request only calls the cache: no address begins or ceases to answer, and no
download under way ends. -/
def isCall : Step → Bool
  | .answer _ _ | .unanswer _ | .complete _ _ _ | .drop _ _ => false
  | .await _ _ _ arriving => arriving.isNone
  | _ => true

/-- Every lookup and every check is answered in the one state as in the other. -/
structure SameReplies (sources : Sources) (s t : State) : Prop where
  status : ∀ asker r,
    (Cache.status sources asker r s).1 = (Cache.status sources asker r t).1
  manifest : ∀ asker r,
    (Cache.manifest sources asker r s).1 = (Cache.manifest sources asker r t).1
  check : ∀ path, (Check.file sources path s).1 = (Check.file sources path t).1

theorem isQuiet_of_isCall {sources : Sources} {s : State} {request : Step}
    (call : isCall request = true) {op : Op} (member : op ∈ ops sources s request) :
    op.isQuiet = true := by
  cases request with
  | status uses asker mode | manifest uses asker mode | check path =>
      exact Cache.isQuiet_of_mem_lookOps member
  | refresh uses =>
      obtain ⟨url, -, rfl⟩ := List.mem_map.1 member
      rfl
  | await url subscriber mode arriving =>
      cases arriving with
      | none =>
          rw [List.mem_singleton.1 member]
          rfl
      | some outcome => exact Bool.noConfusion call
  | bump | ensure url | restart url | unsubscribe id =>
      rw [List.mem_singleton.1 member]
      rfl
  | snapshot url => exact absurd member List.not_mem_nil
  | answer url outcome | unanswer url | complete url nth outcome | drop url nth =>
      exact Bool.noConfusion call

theorem isQuiet_of_mem_trace {sources : Sources} {s : State} {requests : List Step}
    (calls : ∀ request ∈ requests, isCall request = true) {op : Op}
    (member : op ∈ trace sources s requests) : op.isQuiet = true := by
  induction requests generalizing s with
  | nil => exact absurd member List.not_mem_nil
  | cons request requests ih =>
      rw [trace, List.mem_append] at member
      rcases member with first | later
      · exact isQuiet_of_isCall (calls request List.mem_cons_self) first
      · exact ih (fun other among => calls other (List.mem_cons_of_mem _ among)) later

theorem run_alike (sources : Sources) {s t : State} (alike : s.Alike t)
    {requests requests' : List Step} (calls : ∀ request ∈ requests, isCall request = true)
    (calls' : ∀ request ∈ requests', isCall request = true) :
    (run sources s requests).Alike (run sources t requests') := by
  rw [run_eq_run_trace, run_eq_run_trace]
  exact alike.run (fun _ => isQuiet_of_mem_trace calls) (fun _ => isQuiet_of_mem_trace calls')

theorem sameReplies_of_alike (sources : Sources) {s t : State} (alike : s.Alike t) :
    SameReplies sources s t where
  status _ _ := Cache.status_of_alike alike
  manifest _ _ := Cache.manifest_of_alike alike
  check path := Check.file_of_alike alike path

/-- **The cache is transparent.**  Whatever calls come first, every status, every manifest and
every check of a file is answered as by a fresh cache with the same answers; so it makes no
difference which references were looked up before, nor in which order. -/
theorem transparent (sources : Sources) (answers : String → Option Outcome) (before : List Step)
    (calls : ∀ request ∈ before, isCall request = true) :
    SameReplies sources (run sources (.initial answers) before) (.initial answers) ∧
      ∀ others, (∀ request ∈ others, isCall request = true) →
        SameReplies sources (run sources (.initial answers) before)
          (run sources (.initial answers) others) := by
  have asInOthers : ∀ others, (∀ request ∈ others, isCall request = true) →
      SameReplies sources (run sources (.initial answers) before)
        (run sources (.initial answers) others) := by
    intro others otherCalls
    have alike := run_alike sources (State.initial_alike answers) calls otherCalls
    exact sameReplies_of_alike sources alike
  have asInFresh : SameReplies sources (run sources (.initial answers) before)
      (.initial answers) := asInOthers [] fun _ member => absurd member List.not_mem_nil
  exact ⟨asInFresh, asInOthers⟩

/-- Nothing is found at `v1`, and the default branch cannot be downloaded. -/
private def brokenHead : String → Option Outcome :=
  answersOf (some notFound) (some (.failure ⟨some 500, "server error"⟩))

/-- Two lookups with a retry between them, and a refresh. -/
private def retried : List Step :=
  [.status "o/r@v1" ⟨none, some 7⟩ .blocking, .bump,
    .manifest "o/r@HEAD" ⟨none, none⟩ .nonBlocking, .refresh "o/r@v1"]

theorem transparent_after_retry :
    let aged := run silentSources (.initial brokenHead) retried
    (∀ request ∈ retried, isCall request = true) ∧ (aged.record actionUrl).attempt = 2 ∧
      (Cache.status silentSources ⟨none, none⟩ (.parse "o/r@v1") aged).1 = .failed := by
  have calls : ∀ request ∈ retried, isCall request = true := by decide
  have replies := (transparent silentSources brokenHead retried calls).1
  refine ⟨calls, by decide, ?_⟩
  rw [replies.status]
  decide

end Session

end WorkflowLint
