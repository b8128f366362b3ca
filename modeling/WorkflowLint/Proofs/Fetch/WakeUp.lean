/-
# WorkflowLint.Proofs.Fetch.WakeUp -- who is woken, and when

An operation either settles an address, and then wakes everyone who waits for it and
leaves no one waiting (`State.Settles`), or it wakes no one for that address
(`State.Spares`); `Op.settles_or_spares` says which operations add or remove who
waits.  Along a run this gives the three parts of `WokenOnce`: a subscriber that
waits is not woken before the address settles, once when it does, and not again
until it waits anew.

A new attempt that supersedes the one awaited is no special case: `begin` keeps the
subscribers, so it spares them.
-/
import Mathlib.Data.List.Count
import WorkflowLint.Proofs.Fetch.Coherence

namespace WorkflowLint.Fetch

set_option autoImplicit false

/-! ## One operation -/

/-- A wait of `id` for an address that finds it in progress. -/
def Op.Waits (id : Nat) (url : String) (s : State) (op : Op) : Prop :=
  op = .await url (some id) ∧ (s.record url).stage = .inProgress

instance (id : Nat) (url : String) (s : State) (op : Op) : Decidable (op.Waits id url s) :=
  inferInstanceAs (Decidable (_ ∧ _))

namespace State

/-- From `s` to `t` an address settles: everyone who waits for it is woken as often as
they are on its list, and no one waits any longer. -/
structure Settles (s t : State) (url : String) : Prop where
  isSettled : (t.record url).isSettled = true
  subscribers : (t.record url).subscribers = []
  wakeUps : ∀ id, t.wakeUps id url = s.wakeUps id url + (s.record url).subscribers.count id

/-- From `s` to `t` no one is woken for an address, and it does not settle. -/
structure Spares (s t : State) (url : String) : Prop where
  isSettled : (t.record url).isSettled = true → (s.record url).isSettled = true
  wakeUps : ∀ id, t.wakeUps id url = s.wakeUps id url

theorem spares_of_same {s t : State} {url : String} (record : t.record url = s.record url)
    (log : t.log = s.log) : s.Spares t url :=
  ⟨fun settled => record ▸ settled, fun id => by rw [wakeUps, log, wakeUps]⟩

theorem count_wakeUpsOf_self (s : State) (url : String) (id : Nat) :
    (s.wakeUpsOf url).count (.notified id url) = (s.record url).subscribers.count id :=
  List.count_map_of_injective _ (fun id => Event.notified id url)
    (fun _ _ same => by injection same) id

theorem count_wakeUpsOf_ne (s : State) {url v : String} (ne : v ≠ url) (id : Nat) :
    (s.wakeUpsOf v).count (.notified id url) = 0 := by
  refine List.count_eq_zero_of_not_mem fun member => ?_
  obtain ⟨x, -, same⟩ := List.mem_map.1 member
  injection same with _ sameUrl
  exact ne sameUrl

/-- An outcome that counts settles its address and spares everyone who waits elsewhere. -/
theorem settles_or_spares_of_outcome {s t : State} {v url : String} {r : Record}
    {outcome : Outcome} {events : List Event}
    (record : t.record = (s.setRecord v (r.settle outcome)).record)
    (log : t.log = s.log ++ events ++ s.wakeUpsOf v)
    (noWakeUp : ∀ id, events.count (.notified id url) = 0) :
    s.Settles t url ∨
      (s.Spares t url ∧ (t.record url).subscribers = (s.record url).subscribers) := by
  by_cases same : url = v
  · subst same
    have settled : t.record url = r.settle outcome := by rw [record, setRecord_record_self]
    refine Or.inl ⟨?_, ?_, fun id => ?_⟩
    · rw [settled, Record.settle_isSettled]
    · rw [settled, Record.settle_subscribers]
    · simp only [wakeUps, log, List.count_append, noWakeUp, count_wakeUpsOf_self, Nat.add_zero]
  · have kept : t.record url = s.record url := by rw [record, setRecord_record_ne s _ same]
    refine Or.inr ⟨⟨fun settled => kept ▸ settled, fun id => ?_⟩, by rw [kept]⟩
    simp only [wakeUps, log, List.count_append, noWakeUp, count_wakeUpsOf_ne s (Ne.symm same),
      Nat.add_zero]

/-- A new attempt spares everyone, and they go on waiting, unless it ends at once. -/
theorem start_settles_or_spares (s : State) (v : String) (generation : Nat) (url : String) :
    s.Settles (s.start v generation) url ∨
      (s.Spares (s.start v generation) url ∧
        ((s.start v generation).record url).subscribers = (s.record url).subscribers) := by
  cases answers : s.answers v with
  | none =>
      rw [start_of_silent answers]
      refine Or.inr ⟨⟨?_, fun id => by simp [wakeUps]⟩, ?_⟩
      · refine forall_setRecord
          (p := fun u r => r.isSettled = true → (s.record u).isSettled = true) ?_ ?_ url
        · exact fun settled => absurd rfl (Record.stage_ne_of_isSettled settled).1
        · exact fun u _ settled => settled
      · exact forall_setRecord (r := (s.record v).begin generation)
          (p := fun u r => r.subscribers = (s.record u).subscribers) rfl (fun _ _ => rfl) url
  | some outcome =>
      rw [start_of_answer answers]
      have log : ((s.setRecord v (((s.record v).begin generation).settle outcome)).note
          (.started v :: s.wakeUpsOf v)).log = s.log ++ [.started v] ++ s.wakeUpsOf v := by simp
      exact settles_or_spares_of_outcome rfl log (by simp)

/-- The end of a download settles its address, or spares everyone. -/
theorem close_settles_or_spares (s : State) (d : Download) (outcome : Outcome) (url : String) :
    s.Settles (s.close d outcome) url ∨
      (s.Spares (s.close d outcome) url ∧
        ((s.close d outcome).record url).subscribers = (s.record url).subscribers) := by
  rcases s.close_cases d outcome with same | ⟨-, -, same⟩ | ⟨-, -, same⟩
  · rw [same]
    exact Or.inr ⟨spares_of_same rfl rfl, rfl⟩
  · rw [same]
    exact Or.inr ⟨spares_of_same rfl rfl, rfl⟩
  · rw [same]
    have log : s.log ++ s.wakeUpsOf d.url = s.log ++ [] ++ s.wakeUpsOf d.url := by simp
    exact settles_or_spares_of_outcome rfl log (by simp)

end State

/-- What an operation means for those who wait for an address: it settles, or no one is
woken, and whoever waits goes on waiting unless they cease to. -/
theorem Op.settles_or_spares (s : State) (op : Op) (url : String) :
    s.Settles (op.apply s) url ∨
      (s.Spares (op.apply s) url ∧ ∀ id, id ∈ ((op.apply s).record url).subscribers ↔
        (id ∈ (s.record url).subscribers ∧ op ≠ .unsubscribe id) ∨ op.Waits id url s) := by
  cases op with
  | answer v outcome =>
      exact Or.inr ⟨State.spares_of_same rfl rfl, by simp [apply, Waits, State.setAnswer]⟩
  | bump => exact Or.inr ⟨State.spares_of_same rfl rfl, by simp [apply, Waits, State.bump]⟩
  | close d outcome =>
      refine (State.close_settles_or_spares s d outcome url).imp_right fun ⟨spares, same⟩ => ?_
      exact ⟨spares, by simp [apply, same, Waits]⟩
  | restart v =>
      refine (State.start_settles_or_spares s v s.generation url).imp_right fun ⟨spares, same⟩ => ?_
      exact ⟨spares, by simp [apply, State.restart, same, Waits]⟩
  | ensure v =>
      simp only [apply]
      by_cases due : (s.record v).isDue s.generation = true
      · rw [State.ensureStarted_of_due due]
        refine (State.start_settles_or_spares s v s.generation url).imp_right
          fun ⟨spares, same⟩ => ?_
        exact ⟨spares, by simp [same, Waits]⟩
      · rw [State.ensureStarted_of_not_due due]
        exact Or.inr ⟨State.spares_of_same rfl rfl, by simp [Waits]⟩
  | unsubscribe x =>
      refine Or.inr ⟨⟨fun settled => settled, fun id => rfl⟩, fun id => ?_⟩
      simp only [apply, State.unsubscribe, Record.unsubscribe, List.mem_filter, bne_iff_ne, ne_eq,
        Waits, reduceCtorEq, false_and, or_false, Op.unsubscribe.injEq]
      rw [eq_comm]
  | await v subscriber =>
      cases subscriber with
      | none => exact Or.inr ⟨State.spares_of_same rfl rfl, by simp [apply, State.await, Waits]⟩
      | some x =>
          refine Or.inr ⟨⟨?_, fun id => rfl⟩, fun id => ?_⟩
          · refine State.forall_setRecord
              (p := fun u r => r.isSettled = true → (s.record u).isSettled = true) ?_
              (fun _ _ settled => settled) url
            simp [Record.isSettled_iff]
          · refine State.forall_setRecord (p := fun u r => id ∈ r.subscribers ↔
              (id ∈ (s.record u).subscribers ∧ Op.await v (some x) ≠ .unsubscribe id) ∨
                (Op.await v (some x)).Waits id u s) ?_ ?_ url
            · simp [Record.mem_subscribe, Waits, eq_comm]
            · intro u other
              simp [Waits, Ne.symm other]

/-- Only a wait that finds an address in progress registers a subscriber there. -/
theorem Op.mem_subscribers_or_waits {s : State} {op : Op} {id : Nat} {url : String}
    (member : id ∈ ((op.apply s).record url).subscribers) :
    id ∈ (s.record url).subscribers ∨ op.Waits id url s := by
  rcases op.settles_or_spares s url with settles | ⟨-, waiting⟩
  · rw [settles.subscribers] at member
    exact absurd member List.not_mem_nil
  · exact ((waiting id).1 member).imp_left And.left

/-! ## Runs -/

namespace State

/-- Every operation of a run satisfies `p` in the state in which it is applied. -/
def Along (p : State → Op → Prop) : State → List Op → Prop
  | _, [] => True
  | s, op :: ops => p s op ∧ Along p (op.apply s) ops

/-- Whether a property holds along a run can be found out by running it. -/
instance decidableAlong (p : State → Op → Prop) [∀ s op, Decidable (p s op)] :
    ∀ s ops, Decidable (Along p s ops)
  | _, [] => isTrue trivial
  | s, op :: ops =>
    have := decidableAlong p (op.apply s) ops
    inferInstanceAs (Decidable (_ ∧ _))

def LeavesSettled (url : String) (s : State) (op : Op) : Prop :=
  ((op.apply s).record url).isSettled = true

instance (url : String) (s : State) (op : Op) : Decidable (LeavesSettled url s op) :=
  inferInstanceAs (Decidable (_ = _))

/-- What a run brings to a subscriber that waits for an address in its first state. -/
structure WokenOnce (s : State) (id : Nat) (url : String) (ops : List Op) : Prop where
  /-- No wake-up before the address settles. -/
  before : ∀ wait rest, ops = wait ++ rest →
    s.Along (fun s op => ¬ LeavesSettled url s op) wait →
    (s.run wait).wakeUps id url = s.wakeUps id url
  /-- One from the first operation that leaves it settled. -/
  once : ∀ wait op rest, ops = wait ++ op :: rest →
    s.Along (fun s op => ¬ LeavesSettled url s op) wait → LeavesSettled url (s.run wait) op →
    (op.apply (s.run wait)).wakeUps id url = (s.run wait).wakeUps id url + 1
  /-- None after that, until it waits again and finds the address in progress. -/
  after : ∀ wait op quiet rest, ops = wait ++ op :: (quiet ++ rest) →
    s.Along (fun s op => ¬ LeavesSettled url s op) wait → LeavesSettled url (s.run wait) op →
    (op.apply (s.run wait)).Along (fun s op => ¬ op.Waits id url s) quiet →
    ((op.apply (s.run wait)).run quiet).wakeUps id url = (op.apply (s.run wait)).wakeUps id url

/-- There is something to wait for. -/
theorem Coherent.stage_of_mem {s : State} (coherent : s.Coherent) {id : Nat} {url : String}
    (waits : id ∈ (s.record url).subscribers) : (s.record url).stage = .inProgress := by
  by_contra idle
  rw [(coherent.record url).subscribers_eq_nil idle] at waits
  exact List.not_mem_nil waits

theorem Coherent.not_isSettled_of_mem {s : State} (coherent : s.Coherent) {id : Nat} {url : String}
    (waits : id ∈ (s.record url).subscribers) : ¬ (s.record url).isSettled = true :=
  fun settled => (Record.stage_ne_of_isSettled settled).1 (coherent.stage_of_mem waits)

/-- Whoever waits goes on waiting, and sleeps, until the address settles. -/
theorem run_of_waiting {s : State} (coherent : s.Coherent) {id : Nat} {url : String}
    (waits : id ∈ (s.record url).subscribers) {ops : List Op} (stays : .unsubscribe id ∉ ops)
    (unsettled : s.Along (fun s op => ¬ LeavesSettled url s op) ops) :
    id ∈ ((s.run ops).record url).subscribers ∧
      (s.run ops).wakeUps id url = s.wakeUps id url := by
  induction ops generalizing s with
  | nil => exact ⟨waits, rfl⟩
  | cons op ops ih =>
      obtain ⟨notNow, later⟩ := unsettled
      have other := List.ne_of_not_mem_cons stays
      have staysLater := List.not_mem_of_not_mem_cons stays
      rcases op.settles_or_spares s url with settles | ⟨spares, waiting⟩
      · exact absurd settles.isSettled notNow
      · have still := (waiting id).2 (Or.inl ⟨waits, Ne.symm other⟩)
        obtain ⟨member, asleep⟩ := ih (op.apply_coherent coherent) still staysLater later
        exact ⟨member, asleep.trans (spares.wakeUps id)⟩

/-- The operation that settles an address wakes whoever waits for it once, and ends the
wait. -/
theorem apply_of_settling {s : State} (coherent : s.Coherent) {id : Nat} {url : String}
    (waits : id ∈ (s.record url).subscribers) {op : Op} (settled : LeavesSettled url s op) :
    id ∉ ((op.apply s).record url).subscribers ∧
      (op.apply s).wakeUps id url = s.wakeUps id url + 1 := by
  rcases op.settles_or_spares s url with settles | ⟨spares, -⟩
  · have once : (s.record url).subscribers.count id = 1 :=
      List.count_eq_one_of_mem (coherent.record url).ascending.nodup waits
    rw [settles.subscribers, settles.wakeUps, once]
    exact ⟨List.not_mem_nil, rfl⟩
  · exact absurd (spares.isSettled settled) (coherent.not_isSettled_of_mem waits)

/-- Whoever does not wait sleeps until they wait and find the address in progress. -/
theorem run_of_not_waiting {s : State} {id : Nat} {url : String}
    (idle : id ∉ (s.record url).subscribers) {ops : List Op}
    (quiet : s.Along (fun s op => ¬ op.Waits id url s) ops) :
    (s.run ops).wakeUps id url = s.wakeUps id url := by
  induction ops generalizing s with
  | nil => rfl
  | cons op ops ih =>
      obtain ⟨notNow, later⟩ := quiet
      rcases op.settles_or_spares s url with settles | ⟨spares, waiting⟩
      · have idleLater : id ∉ ((op.apply s).record url).subscribers := by
          rw [settles.subscribers]
          exact List.not_mem_nil
        rw [run_cons, ih idleLater later, settles.wakeUps,
          List.count_eq_zero_of_not_mem idle, Nat.add_zero]
      · have idleLater : id ∉ ((op.apply s).record url).subscribers := fun member =>
          ((waiting id).1 member).elim (fun waited => idle waited.1) notNow
        rw [run_cons, ih idleLater later, spares.wakeUps]

theorem wokenOnce_of_waiting {s : State} (coherent : s.Coherent) {id : Nat} {url : String}
    (waits : id ∈ (s.record url).subscribers) {ops : List Op} (stays : .unsubscribe id ∉ ops) :
    s.WokenOnce id url ops := by
  have settling : ∀ wait op rest, ops = wait ++ op :: rest →
      s.Along (fun s op => ¬ LeavesSettled url s op) wait → LeavesSettled url (s.run wait) op →
      id ∉ ((op.apply (s.run wait)).record url).subscribers ∧
        (op.apply (s.run wait)).wakeUps id url = (s.run wait).wakeUps id url + 1 := by
    rintro wait op rest rfl unsettled settled
    have staysWaiting : Op.unsubscribe id ∉ wait := fun member =>
      stays (List.mem_append_left _ member)
    obtain ⟨still, -⟩ := run_of_waiting coherent waits staysWaiting unsettled
    exact apply_of_settling (run_coherent coherent wait) still settled
  refine ⟨?_, ?_, ?_⟩
  · rintro wait rest rfl unsettled
    exact (run_of_waiting coherent waits
      (fun member => stays (List.mem_append_left _ member)) unsettled).2
  · intro wait op rest split unsettled settled
    exact (settling wait op rest split unsettled settled).2
  · intro wait op quiet rest split unsettled settled sleeping
    exact run_of_not_waiting (settling wait op _ split unsettled settled).1 sleeping

theorem mem_subscribers_await {s : State} {url : String}
    (awaited : (s.record url).stage = .inProgress) (id : Nat) :
    id ∈ ((s.await url (some id)).record url).subscribers := by
  simp [await, Record.mem_subscribe, awaited]

theorem not_mem_subscribers_unsubscribe (s : State) (id : Nat) (url : String) :
    id ∉ ((s.unsubscribe id).record url).subscribers := by
  simp [unsubscribe, Record.unsubscribe]

end State

end WorkflowLint.Fetch
