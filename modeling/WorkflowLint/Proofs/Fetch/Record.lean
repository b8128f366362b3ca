/-
# WorkflowLint.Proofs.Fetch.Record -- how the fields of one record fit together

`Record.Coherent` is kept by a new attempt, by its outcome, and by those who come to
wait or cease to; the other lemmas say what each of these does to each field.
-/
import Mathlib.Tactic.Tauto
import WorkflowLint.Fetch.Record

namespace WorkflowLint.Fetch

set_option autoImplicit false

/-! ## Subscribers -/

theorem mem_insertId {x id : Nat} {ids : List Nat} : x ∈ insertId id ids ↔ x = id ∨ x ∈ ids := by
  induction ids with
  | nil => simp [insertId]
  | cons y ys ih =>
      simp only [insertId]
      split
      · simp
      · split
        · rename_i same
          simp [same]
        · simp only [List.mem_cons, ih]
          tauto

theorem insertId_ascending {id : Nat} {ids : List Nat} (ascending : ids.Pairwise (· < ·)) :
    (insertId id ids).Pairwise (· < ·) := by
  induction ids with
  | nil => simp [insertId]
  | cons y ys ih =>
      obtain ⟨first, rest⟩ := List.pairwise_cons.1 ascending
      simp only [insertId]
      split
      · rename_i below
        refine List.pairwise_cons.2 ⟨fun z member => ?_, ascending⟩
        rcases List.mem_cons.1 member with rfl | inRest
        · exact below
        · exact Nat.lt_trans below (first z inRest)
      · split
        · exact ascending
        · refine List.pairwise_cons.2 ⟨fun z member => ?_, ih rest⟩
          rcases mem_insertId.1 member with rfl | inRest
          · omega
          · exact first z inRest

/-! ## One record -/

/-- How the fields of a record fit together when the retry generation is `generation`. -/
structure Record.Coherent (r : Record) (generation : Nat) : Prop where
  attempt_eq_zero_iff : r.attempt = 0 ↔ r.stage = .notStarted
  failure_isSome_iff : r.failure?.isSome ↔ r.stage = .failed
  downloaded_of_manifest : r.manifest?.isSome → r.stage = .downloaded
  subscribers_eq_nil : r.stage ≠ .inProgress → r.subscribers = []
  ascending : r.subscribers.Pairwise (· < ·)
  generation_le : r.generation ≤ generation

namespace Record

theorem fresh_coherent (generation : Nat) : fresh.Coherent generation := by
  constructor <;> simp [fresh]

theorem Coherent.mono {r : Record} {g g' : Nat} (coherent : r.Coherent g) (le : g ≤ g') :
    r.Coherent g' :=
  { coherent with generation_le := Nat.le_trans coherent.generation_le le }

theorem begin_coherent {r : Record} {g : Nat} (coherent : r.Coherent g) :
    (r.begin g).Coherent g where
  attempt_eq_zero_iff := by simp [begin]
  failure_isSome_iff := by simp [begin]
  downloaded_of_manifest := by simp [begin]
  subscribers_eq_nil := by simp [begin]
  ascending := coherent.ascending
  generation_le := Nat.le_refl g

theorem isInProgress_iff {r : Record} : r.isInProgress = true ↔ r.stage = .inProgress := by
  simp [Phase.isInProgress]

theorem isSettled_iff {r : Record} :
    r.isSettled = true ↔ r.stage = .downloaded ∨ r.stage = .failed := by
  simp [Phase.isSettled]

theorem accepts_iff {r : Record} {attempt : Nat} :
    r.accepts attempt = true ↔ r.attempt = attempt ∧ r.stage = .inProgress := by
  simp [accepts, isInProgress_iff]

theorem isDue_iff {r : Record} {g : Nat} :
    r.isDue g = true ↔ r.stage = .notStarted ∨ (r.stage = .failed ∧ r.generation ≠ g) := by
  unfold isDue
  cases r.stage <;> simp

@[simp] theorem begin_stage (r : Record) (g : Nat) : (r.begin g).stage = .inProgress := rfl

@[simp] theorem begin_attempt (r : Record) (g : Nat) : (r.begin g).attempt = r.attempt + 1 := rfl

@[simp] theorem begin_generation (r : Record) (g : Nat) : (r.begin g).generation = g := rfl

@[simp] theorem settle_attempt (r : Record) (outcome : Outcome) :
    (r.settle outcome).attempt = r.attempt := rfl

@[simp] theorem settle_generation (r : Record) (outcome : Outcome) :
    (r.settle outcome).generation = r.generation := rfl

@[simp] theorem settle_subscribers (r : Record) (outcome : Outcome) :
    (r.settle outcome).subscribers = [] := by
  cases outcome <;> rfl

theorem settle_stage_ne (r : Record) (outcome : Outcome) :
    (r.settle outcome).stage ≠ .inProgress := by
  cases outcome <;> simp [settle, Phase.afterOutcome]

theorem settle_isSettled (r : Record) (outcome : Outcome) :
    (r.settle outcome).isSettled = true := by
  cases outcome <;> rfl

theorem stage_ne_of_isSettled {r : Record} (settled : r.isSettled = true) :
    r.stage ≠ .inProgress ∧ r.stage ≠ .notStarted := by
  rcases isSettled_iff.1 settled with stage | stage <;> simp [stage]

/-- What an outcome leaves of an attempt under way: its body or its failure, never both. -/
theorem settle_coherent {r : Record} {g : Nat} (coherent : r.Coherent g)
    (awaited : r.stage = .inProgress) (outcome : Outcome) : (r.settle outcome).Coherent g := by
  have started : r.attempt ≠ 0 := fun zero => by
    simp [coherent.attempt_eq_zero_iff.1 zero] at awaited
  have noFailure : ¬ r.failure?.isSome = true := fun some => by
    simp [coherent.failure_isSome_iff.1 some] at awaited
  have noManifest : ¬ r.manifest?.isSome = true := fun some => by
    simp [coherent.downloaded_of_manifest some] at awaited
  have le := coherent.generation_le
  cases outcome with
  | body text => constructor <;> simp_all [settle, Phase.afterOutcome]
  | failure f => constructor <;> simp_all [settle, Phase.afterOutcome]

@[simp] theorem subscribe_stage (r : Record) (id : Nat) : (r.subscribe id).stage = r.stage := by
  unfold subscribe
  split <;> rfl

@[simp] theorem subscribe_attempt (r : Record) (id : Nat) :
    (r.subscribe id).attempt = r.attempt := by
  unfold subscribe
  split <;> rfl

@[simp] theorem subscribe_generation (r : Record) (id : Nat) :
    (r.subscribe id).generation = r.generation := by
  unfold subscribe
  split <;> rfl

/-- Only a wait that finds the record in progress registers the subscriber. -/
theorem mem_subscribe {r : Record} {id x : Nat} :
    x ∈ (r.subscribe id).subscribers ↔
      x ∈ r.subscribers ∨ (x = id ∧ r.stage = .inProgress) := by
  unfold subscribe
  split
  · rename_i awaited
    simp [mem_insertId, isInProgress_iff.1 awaited, or_comm]
  · rename_i idle
    have stage : r.stage ≠ .inProgress := fun stage => idle (isInProgress_iff.2 stage)
    simp [stage]

theorem subscribe_coherent {r : Record} {g : Nat} (coherent : r.Coherent g) (id : Nat) :
    (r.subscribe id).Coherent g := by
  unfold subscribe
  split
  · rename_i awaited
    exact { coherent with
      subscribers_eq_nil := fun idle => absurd (isInProgress_iff.1 awaited) idle
      ascending := insertId_ascending coherent.ascending }
  · exact coherent

theorem unsubscribe_coherent {r : Record} {g : Nat} (coherent : r.Coherent g) (id : Nat) :
    (r.unsubscribe id).Coherent g :=
  { coherent with
    subscribers_eq_nil := fun idle => by simp [unsubscribe, coherent.subscribers_eq_nil idle]
    ascending := coherent.ascending.filter _ }

end Record

end WorkflowLint.Fetch
