/-
# WorkflowLint.Proofs.Fetch.Settled -- a settled record is left alone

Once the newest attempt at an address has ended, only a start touches its record: no one
can come to wait for it, no one waits who could cease to, and no download under way counts
any more (`Op.apply_record_of_settled`).  A record that is downloaded is never due, so
nothing but a restart starts it; one that failed is due exactly when the generation is not
the one on its stamp.  A run in which no look comes to the address while it is due, and no
restart at all, therefore leaves the record as it is (`run_of_settled`).
-/
import WorkflowLint.Proofs.Fetch.Answers
import WorkflowLint.Proofs.Fetch.WakeUp

namespace WorkflowLint.Fetch

set_option autoImplicit false

/-! ## One record -/

namespace Record

/-- There is nothing to wait for. -/
theorem subscribe_of_settled {r : Record} (settled : r.isSettled = true) (id : Nat) :
    r.subscribe id = r := by
  refine if_neg fun awaited => ?_
  exact (stage_ne_of_isSettled settled).1 (isInProgress_iff.1 awaited)

/-- There is no one to cease to wait. -/
theorem unsubscribe_of_settled {r : Record} {g : Nat} (coherent : r.Coherent g)
    (settled : r.isSettled = true) (id : Nat) : r.unsubscribe id = r := by
  have none := coherent.subscribers_eq_nil (stage_ne_of_isSettled settled).1
  have still : r.subscribers.filter (· != id) = r.subscribers := by simp [none]
  rw [unsubscribe, still]

theorem not_due_of_downloaded {r : Record} (downloaded : r.stage = .downloaded) (g : Nat) :
    r.isDue g = false := by
  simp [isDue, downloaded]

theorem isDue_of_failed {r : Record} (failed : r.stage = .failed) (g : Nat) :
    r.isDue g = true ↔ r.generation ≠ g := by
  simp [isDue, failed]

end Record

/-! ## One operation -/

/-- Only a start changes a settled record. -/
theorem Op.apply_record_of_settled {s : State} (coherent : s.Coherent) {url : String}
    (settled : (s.record url).isSettled = true) {op : Op} (rests : ¬ op.Starts url s) :
    (op.apply s).record url = s.record url := by
  cases op with
  | answer v outcome | bump => rfl
  | unsubscribe id => exact Record.unsubscribe_of_settled (coherent.record url) settled id
  | close d outcome =>
      rcases s.close_cases d outcome with same | ⟨-, -, same⟩ | ⟨-, counts, -⟩
      · rw [apply, same]
      · rw [apply, same]
      · refine s.close_record_ne d outcome ?_
        rintro rfl
        rw [State.not_accepts_of_settled settled] at counts
        exact Bool.noConfusion counts
  | restart v =>
      have other : url ≠ v := fun same => rests (starts_restart.2 same.symm)
      exact s.start_record_ne s.generation other
  | ensure v =>
      by_cases here : url = v
      · subst here
        have idle : ¬ (s.record url).isDue s.generation = true := fun due =>
          rests (starts_ensure.2 ⟨rfl, due⟩)
        rw [apply, State.ensureStarted_of_not_due idle]
      · exact s.ensureStarted_record_ne here
  | await v subscriber =>
      by_cases here : url = v
      · subst here
        cases subscriber with
        | none => rfl
        | some id =>
            simp only [apply, State.await, State.setRecord_record_self]
            exact Record.subscribe_of_settled settled id
      · exact s.await_record_ne subscriber here

/-! ## Runs -/

namespace State

/-- A property of all states and operations holds along every run. -/
theorem along_of_forall {p : State → Op → Prop} (all : ∀ s op, p s op) (s : State)
    (ops : List Op) : s.Along p ops := by
  induction ops generalizing s with
  | nil => trivial
  | cons op ops ih => exact ⟨all s op, ih _⟩

theorem Along.mono {p q : State → Op → Prop} (weaker : ∀ s op, p s op → q s op) {s : State}
    {ops : List Op} (along : s.Along p ops) : s.Along q ops := by
  induction ops generalizing s with
  | nil => trivial
  | cons op ops ih => exact ⟨weaker s op along.1, ih along.2⟩

/-- From `s` to `t` nothing happens to an address. -/
structure Untouched (s t : State) (url : String) : Prop where
  record : t.record url = s.record url
  starts : t.starts url = s.starts url

/-- Without a restart, and without a look while it is due, a settled record stays as it is. -/
theorem run_of_settled {s : State} (coherent : s.Coherent) {url : String} {r : Record}
    (first : s.record url = r) (settled : r.isSettled = true) {ops : List Op}
    (noRestart : .restart url ∉ ops)
    (idle : s.Along (fun t op => op = .ensure url → r.isDue t.generation = false) ops) :
    s.Untouched (s.run ops) url := by
  induction ops generalizing s with
  | nil => exact ⟨rfl, rfl⟩
  | cons op ops ih =>
      rw [List.mem_cons, not_or] at noRestart
      have rests : ¬ op.Starts url s := by
        rintro (restart | ⟨look, due⟩)
        · exact noRestart.1 restart.symm
        · rw [first, idle.1 look] at due
          exact Bool.noConfusion due
      have kept := Op.apply_record_of_settled coherent (first ▸ settled) rests
      have counted := (op.apply_counts s url).starts
      rw [if_neg rests, Nat.add_zero] at counted
      have later := ih (op.apply_coherent coherent) (kept.trans first) noRestart.2 idle.2
      exact ⟨later.record.trans kept, later.starts.trans counted⟩

/-- What is downloaded stays, whoever looks and however often the generation changes. -/
theorem run_of_downloaded {s : State} (coherent : s.Coherent) {url : String}
    (downloaded : (s.record url).stage = .downloaded) {ops : List Op}
    (noRestart : .restart url ∉ ops) : s.Untouched (s.run ops) url := by
  refine run_of_settled coherent rfl (Record.isSettled_iff.2 (Or.inl downloaded)) noRestart ?_
  exact along_of_forall (fun t _ _ => Record.not_due_of_downloaded downloaded t.generation) s ops

/-- What failed stays until a look comes in another generation than its own. -/
theorem run_of_failed {s : State} (coherent : s.Coherent) {url : String}
    (failed : (s.record url).stage = .failed) {ops : List Op} (noRestart : .restart url ∉ ops)
    (own : s.Along (fun t op => op = .ensure url → t.generation = (s.record url).generation)
      ops) : s.Untouched (s.run ops) url := by
  refine run_of_settled coherent rfl (Record.isSettled_iff.2 (Or.inr failed)) noRestart ?_
  refine own.mono fun t op same look => ?_
  rw [← Bool.not_eq_true, Record.isDue_of_failed failed, not_not]
  exact (same look).symm

/-- That look starts it. -/
theorem Untouched.ensure_starts {s t : State} {url : String} (untouched : s.Untouched t url)
    (failed : (s.record url).stage = .failed)
    (other : t.generation ≠ (s.record url).generation) :
    (Op.apply t (.ensure url)).starts url = s.starts url + 1 := by
  have due : (t.record url).isDue t.generation = true := by
    rw [untouched.record]
    exact (Record.isDue_of_failed failed _).2 (Ne.symm other)
  rw [(Op.apply_counts t (.ensure url) url).starts, if_pos (Op.starts_ensure.2 ⟨rfl, due⟩),
    untouched.starts]

end State

end WorkflowLint.Fetch
