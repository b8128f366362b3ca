/-
# WorkflowLint.Proofs.Fetch.Coherence -- records and downloads fit together

`Record.Coherent` says how the fields of one record fit together, `Record.Tracks`
how a record fits the downloads under way: it is in progress exactly when the
download of its newest attempt is.  Every operation keeps both of all records
(`Op.apply_coherent`), so every run does (`State.run_coherent`).

No conjunct is kept alone.  That a stale outcome is ignored needs the numbers of
the downloads to be distinct; that a settled record has no download of its newest
attempt needs them to be at most that attempt; that a new attempt starts without a
failure needs `begin` to clear what the last one left.
-/
import Mathlib.Data.List.Nodup
import WorkflowLint.Proofs.Fetch.Op
import WorkflowLint.Proofs.Fetch.Record

namespace WorkflowLint.Fetch

set_option autoImplicit false

/-! ## All records and downloads -/

/-- How a record fits the downloads that are under way: those of its address are some of
the attempts it counts, and it is in progress exactly when the newest one is among them,
so that it can always settle. -/
structure Record.Tracks (r : Record) (url : String) (pending : List Download) : Prop where
  attempt_le : ∀ n, ⟨url, n⟩ ∈ pending → 1 ≤ n ∧ n ≤ r.attempt
  inProgress_iff : r.stage = .inProgress ↔ ⟨url, r.attempt⟩ ∈ pending

/-- How the records and the downloads under way fit together. -/
structure State.Coherent (s : State) : Prop where
  record : ∀ url, (s.record url).Coherent s.generation
  tracks : ∀ url, (s.record url).Tracks url s.pending
  /-- Two downloads of one address are downloads of two attempts. -/
  distinct : s.pending.Pairwise fun d e => d.url = e.url → d.attempt ≠ e.attempt

theorem distinct_iff_nodup {pending : List Download} :
    (pending.Pairwise fun d e => d.url = e.url → d.attempt ≠ e.attempt) ↔ pending.Nodup := by
  refine List.Pairwise.iff fun {d e} => ?_
  cases d
  cases e
  simp

/-- A record only tracks the downloads of its own address. -/
theorem Record.Tracks.congr {r : Record} {url : String} {pending pending' : List Download}
    (tracks : r.Tracks url pending) (same : ∀ n, ⟨url, n⟩ ∈ pending' ↔ ⟨url, n⟩ ∈ pending) :
    r.Tracks url pending' where
  attempt_le n member := tracks.attempt_le n ((same n).1 member)
  inProgress_iff := by rw [same, tracks.inProgress_iff]

namespace State

theorem Coherent.nodup {s : State} (coherent : s.Coherent) : s.pending.Nodup :=
  distinct_iff_nodup.1 coherent.distinct

theorem initial_coherent (answers : String → Option Outcome) : (initial answers).Coherent where
  record _ := Record.fresh_coherent _
  tracks _ := ⟨fun _ member => by simp [initial] at member, by simp [initial, Record.fresh]⟩
  distinct := List.Pairwise.nil

theorem await_coherent {s : State} (coherent : s.Coherent) (url : String)
    (subscriber : Option Nat) : (s.await url subscriber).Coherent := by
  cases subscriber with
  | none => exact coherent
  | some id =>
      have old := coherent.tracks url
      refine ⟨?_, ?_, coherent.distinct⟩
      · exact forall_setRecord (p := fun _ r => r.Coherent s.generation)
          (Record.subscribe_coherent (coherent.record url) id) fun v _ => coherent.record v
      · refine forall_setRecord (p := fun v r => r.Tracks v s.pending) ?_
          fun v _ => coherent.tracks v
        constructor
        · rw [Record.subscribe_attempt]
          exact old.attempt_le
        · rw [Record.subscribe_stage, Record.subscribe_attempt]
          exact old.inProgress_iff

theorem unsubscribe_coherent {s : State} (coherent : s.Coherent) (id : Nat) :
    (s.unsubscribe id).Coherent where
  record url := Record.unsubscribe_coherent (coherent.record url) id
  tracks url := ⟨(coherent.tracks url).attempt_le, (coherent.tracks url).inProgress_iff⟩
  distinct := coherent.distinct

theorem bump_coherent {s : State} (coherent : s.Coherent) : s.bump.Coherent where
  record url := (coherent.record url).mono (Nat.le_succ _)
  tracks := coherent.tracks
  distinct := coherent.distinct

theorem setAnswer_coherent {s : State} (coherent : s.Coherent) (url : String)
    (answer : Option Outcome) : (s.setAnswer url answer).Coherent :=
  ⟨coherent.record, coherent.tracks, coherent.distinct⟩

/-! ### A new attempt -/

theorem start_coherent {s : State} (coherent : s.Coherent) (url : String) :
    (s.start url s.generation).Coherent := by
  have begun := Record.begin_coherent (coherent.record url)
  have old : ∀ n, ⟨url, n⟩ ∈ s.pending → 1 ≤ n ∧ n < (s.record url).attempt + 1 := by
    intro n member
    have := (coherent.tracks url).attempt_le n member
    omega
  cases answers : s.answers url with
  | none =>
      rw [start_of_silent answers]
      refine ⟨?_, ?_, ?_⟩
      · exact forall_setRecord (p := fun _ r => r.Coherent s.generation) begun
          fun v _ => coherent.record v
      · refine forall_setRecord (p := fun v r => r.Tracks v (s.pending ++ [_])) ⟨?_, ?_⟩ ?_
        · intro n member
          rw [Record.begin_attempt]
          rcases List.mem_append.1 member with member | last
          · have := old n member
            omega
          · have := congrArg Download.attempt (List.mem_singleton.1 last)
            simp only at this
            omega
        · simp
        · intro v other
          exact (coherent.tracks v).congr fun n => by simp [other]
      · refine List.pairwise_append.2 ⟨coherent.distinct, List.pairwise_singleton _ _, ?_⟩
        rintro ⟨v, n⟩ member e last rfl
        rw [List.mem_singleton.1 last] at member ⊢
        exact Nat.ne_of_lt (old n member).2
  | some outcome =>
      rw [start_of_answer answers]
      refine ⟨?_, ?_, coherent.distinct⟩
      · exact forall_setRecord (p := fun _ r => r.Coherent s.generation)
          (Record.settle_coherent begun rfl outcome) fun v _ => coherent.record v
      · refine forall_setRecord (p := fun v r => r.Tracks v s.pending) ⟨?_, ?_⟩
          fun v _ => coherent.tracks v
        · intro n member
          have := old n member
          rw [Record.settle_attempt, Record.begin_attempt]
          omega
        · have idle := Record.settle_stage_ne ((s.record url).begin s.generation) outcome
          refine iff_of_false idle fun member => ?_
          exact Nat.lt_irrefl _ (old _ member).2

theorem ensureStarted_coherent {s : State} (coherent : s.Coherent) (url : String) :
    (s.ensureStarted url).Coherent := by
  by_cases due : (s.record url).isDue s.generation = true
  · rw [ensureStarted_of_due due]
    exact start_coherent coherent url
  · rwa [ensureStarted_of_not_due due]

/-! ### The end of a download -/

/-- A download whose outcome does not count is not the newest attempt of its address. -/
theorem Coherent.attempt_ne_of_not_accepts {s : State} (coherent : s.Coherent) {d : Download}
    (underWay : d ∈ s.pending) (stale : (s.record d.url).accepts d.attempt = false) :
    (s.record d.url).attempt ≠ d.attempt := by
  intro newest
  have awaited : (s.record d.url).stage = .inProgress := by
    rw [(coherent.tracks d.url).inProgress_iff, newest]
    exact underWay
  rw [Record.accepts_iff.2 ⟨newest, awaited⟩] at stale
  exact Bool.noConfusion stale

theorem close_coherent {s : State} (coherent : s.Coherent) (d : Download) (outcome : Outcome) :
    (s.close d outcome).Coherent := by
  have fewer : ∀ e ∈ s.pending.erase d, e ∈ s.pending := fun _ => List.mem_of_mem_erase
  have distinct := coherent.distinct.sublist (List.erase_sublist (a := d))
  rcases s.close_cases d outcome with same | ⟨underWay, stale, same⟩ | ⟨-, counts, same⟩
  · rwa [same]
  · rw [same]
    refine ⟨coherent.record, fun v => ⟨fun n member => ?_, ?_⟩, distinct⟩
    · exact (coherent.tracks v).attempt_le n (fewer _ member)
    · have notNewest : (⟨v, (s.record v).attempt⟩ : Download) ≠ d := by
        rintro rfl
        exact coherent.attempt_ne_of_not_accepts underWay stale rfl
      rw [(coherent.tracks v).inProgress_iff, List.mem_erase_of_ne notNewest]
  · obtain ⟨newest, awaited⟩ := Record.accepts_iff.1 counts
    rw [same]
    refine ⟨?_, ?_, distinct⟩
    · exact forall_setRecord (p := fun _ r => r.Coherent s.generation)
        (Record.settle_coherent (coherent.record d.url) awaited outcome)
        fun v _ => coherent.record v
    · refine forall_setRecord (p := fun v r => r.Tracks v (s.pending.erase d)) ⟨?_, ?_⟩ ?_
      · intro n member
        exact (coherent.tracks d.url).attempt_le n (fewer _ member)
      · refine iff_of_false (Record.settle_stage_ne _ outcome) ?_
        rw [Record.settle_attempt, newest]
        exact coherent.nodup.not_mem_erase
      · intro v other
        refine (coherent.tracks v).congr fun n => List.mem_erase_of_ne ?_
        rintro rfl
        exact other rfl

end State

/-! ## Runs -/

theorem Op.apply_coherent {s : State} (coherent : s.Coherent) (op : Op) :
    (op.apply s).Coherent := by
  cases op with
  | answer url outcome => exact State.setAnswer_coherent coherent url outcome
  | close d outcome => exact State.close_coherent coherent d outcome
  | ensure url => exact State.ensureStarted_coherent coherent url
  | restart url => exact State.start_coherent coherent url
  | await url subscriber => exact State.await_coherent coherent url subscriber
  | bump => exact State.bump_coherent coherent
  | unsubscribe id => exact State.unsubscribe_coherent coherent id

theorem State.run_coherent {s : State} (coherent : s.Coherent) (ops : List Op) :
    (s.run ops).Coherent := by
  induction ops generalizing s with
  | nil => exact coherent
  | cons op ops ih => exact ih (op.apply_coherent coherent)

end WorkflowLint.Fetch
