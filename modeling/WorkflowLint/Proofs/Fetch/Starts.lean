/-
# WorkflowLint.Proofs.Fetch.Starts -- which operations start a download

`Op.Starts` says when an operation starts a download of an address, and
`Op.apply_counts` what follows for the three numbers that a run leaves: the starts in
the log, the attempts of the record, and the generation on its stamp.  Starts and
attempts are the same number (`starts_eq_attempt`).

Between bumps an address that was started in the current generation (`State.Current`)
is not started by a look again.  Across bumps each start of a look raises the stamp,
so the stamp pays for it (`attempt_le`).
-/
import Mathlib.Tactic.SplitIfs
import WorkflowLint.Proofs.Fetch.Coherence

namespace WorkflowLint.Fetch

set_option autoImplicit false

/-- An operation that starts a download of an address: a restart, or a look that finds it
due. -/
def Op.Starts (url : String) (s : State) (op : Op) : Prop :=
  op = .restart url ∨ (op = .ensure url ∧ (s.record url).isDue s.generation = true)

instance (url : String) (s : State) (op : Op) : Decidable (op.Starts url s) :=
  inferInstanceAs (Decidable (_ ∨ _))

namespace State

/-! ## One operation -/

@[simp] theorem count_started_wakeUpsOf (s : State) (url v : String) :
    (s.wakeUpsOf v).count (.started url) = 0 := by
  refine List.count_eq_zero_of_not_mem fun member => ?_
  obtain ⟨id, -, same⟩ := List.mem_map.1 member
  exact Event.noConfusion same

/-- How the numbers that belong to an address change from `s` to `t` when `n` downloads of
it are started. -/
structure Counts (s t : State) (url : String) (n : Nat) : Prop where
  starts : t.starts url = s.starts url + n
  attempt : (t.record url).attempt = (s.record url).attempt + n
  stamp : (t.record url).generation = if n = 0 then (s.record url).generation else s.generation

theorem Counts.of_same {s t : State} {url : String} (log : t.log = s.log)
    (attempt : (t.record url).attempt = (s.record url).attempt)
    (generation : (t.record url).generation = (s.record url).generation) :
    s.Counts t url 0 := ⟨by simp [State.starts, log], attempt, by simpa using generation⟩

/-- An attempt is noted once, whether or not it ends in the step that starts it. -/
theorem start_starts (s : State) (v : String) (generation : Nat) (url : String) :
    (s.start v generation).starts url = s.starts url + if v = url then 1 else 0 := by
  cases answers : s.answers v with
  | none =>
      rw [start_of_silent answers]
      by_cases same : v = url <;> simp [State.starts, same]
  | some outcome =>
      rw [start_of_answer answers]
      by_cases same : v = url <;> simp [State.starts, same]

/-- An attempt is counted and stamped, whether or not it ends in the step that starts it. -/
theorem start_attempt (s : State) (url : String) (generation : Nat) :
    ((s.start url generation).record url).attempt = (s.record url).attempt + 1 ∧
      ((s.start url generation).record url).generation = generation := by
  cases answers : s.answers url with
  | none =>
      rw [start_of_silent answers]
      simp
  | some outcome =>
      rw [start_of_answer answers]
      simp

theorem start_counts (s : State) (v url : String) :
    s.Counts (s.start v s.generation) url (if v = url then 1 else 0) := by
  have starts := start_starts s v s.generation url
  by_cases same : v = url
  · subst same
    obtain ⟨attempt, stamp⟩ := start_attempt s v s.generation
    rw [if_pos rfl] at starts ⊢
    exact ⟨starts, attempt, stamp⟩
  · have record := start_record_ne s s.generation (Ne.symm same)
    rw [if_neg same] at starts ⊢
    exact ⟨starts, by rw [record, Nat.add_zero], by rw [record, if_pos rfl]⟩

theorem close_counts (s : State) (d : Download) (outcome : Outcome) (url : String) :
    s.Counts (s.close d outcome) url 0 := by
  rcases s.close_cases d outcome with same | ⟨-, -, same⟩ | ⟨-, -, same⟩
  · rw [same]
    exact .of_same rfl rfl rfl
  · rw [same]
    exact .of_same rfl rfl rfl
  · rw [same]
    by_cases here : url = d.url
    · subst here
      constructor <;> simp [State.starts]
    · have record := setRecord_record_ne s ((s.record d.url).settle outcome) here
      constructor <;> simp [State.starts, record]

theorem await_counts (s : State) (v : String) (subscriber : Option Nat) (url : String) :
    s.Counts (s.await v subscriber) url 0 := by
  cases subscriber with
  | none => exact .of_same rfl rfl rfl
  | some id =>
      refine forall_setRecord (p := fun u r => r.attempt = (s.record u).attempt ∧
        r.generation = (s.record u).generation) ⟨?_, ?_⟩ (fun _ _ => ⟨rfl, rfl⟩) url
          |> fun same => .of_same rfl same.1 same.2
      · exact Record.subscribe_attempt _ _
      · exact Record.subscribe_generation _ _

end State

theorem Op.starts_restart {v url : String} {s : State} : (restart v).Starts url s ↔ v = url := by
  simp [Starts]

theorem Op.starts_ensure {v url : String} {s : State} :
    (ensure v).Starts url s ↔ v = url ∧ (s.record url).isDue s.generation = true := by
  simp [Starts]

theorem Op.apply_counts (s : State) (op : Op) (url : String) :
    s.Counts (op.apply s) url (if op.Starts url s then 1 else 0) := by
  cases op with
  | restart v =>
      simp only [starts_restart]
      exact s.start_counts v url
  | ensure v =>
      simp only [apply]
      by_cases due : (s.record v).isDue s.generation = true
      · have counts := s.start_counts v url
        rw [State.ensureStarted_of_due due]
        by_cases same : v = url
        · subst same
          rw [if_pos rfl] at counts
          rwa [if_pos (starts_ensure.2 ⟨rfl, due⟩)]
        · rw [if_neg same] at counts
          rwa [if_neg fun starts => same (starts_ensure.1 starts).1]
      · have notStarted : ¬ (Op.ensure v).Starts url s := by
          rw [starts_ensure]
          rintro ⟨rfl, dueUrl⟩
          exact due dueUrl
        rw [State.ensureStarted_of_not_due due, if_neg notStarted]
        exact .of_same rfl rfl rfl
  | close d outcome =>
      rw [if_neg (by simp [Starts])]
      exact s.close_counts d outcome url
  | await v subscriber =>
      rw [if_neg (by simp [Starts])]
      exact s.await_counts v subscriber url
  | answer v outcome =>
      rw [if_neg (by simp [Starts])]
      exact .of_same rfl rfl rfl
  | bump =>
      rw [if_neg (by simp [Starts])]
      exact .of_same rfl rfl rfl
  | unsubscribe id =>
      rw [if_neg (by simp [Starts])]
      exact .of_same rfl rfl rfl

theorem Op.apply_generation (s : State) (op : Op) :
    (op.apply s).generation = s.generation + if op = .bump then 1 else 0 := by
  cases op with
  | bump => rfl
  | close d outcome => simp [apply]
  | restart v => simp [apply, State.restart]
  | ensure v =>
      by_cases due : (s.record v).isDue s.generation = true
      · simp [apply, State.ensureStarted_of_due due]
      · simp [apply, State.ensureStarted_of_not_due due]
  | await v subscriber => cases subscriber <;> rfl
  | answer v outcome => rfl
  | unsubscribe id => rfl

theorem State.run_generation (s : State) (ops : List Op) :
    (s.run ops).generation = s.generation + ops.count .bump := by
  induction ops generalizing s with
  | nil => rfl
  | cons op ops ih =>
      rw [run_cons, ih, op.apply_generation, List.count_cons]
      simp only [beq_iff_eq]
      omega

/-! ## The budget of an address -/

/-- What the starts of an address are paid with after `restarts` restarts of it: a look
pays with a generation that the stamp has not reached. -/
structure State.Budget (s : State) (url : String) (restarts : Nat) : Prop where
  starts_eq_attempt : s.starts url = (s.record url).attempt
  attempt_le : (s.record url).attempt ≤ restarts + (s.record url).generation + 1

theorem State.initial_budget (answers : String → Option Outcome) (url : String) :
    (initial answers).Budget url 0 := ⟨rfl, Nat.zero_le _⟩

theorem Op.apply_budget {s : State} (coherent : s.Coherent) {url : String} {restarts : Nat}
    (budget : s.Budget url restarts) (op : Op) :
    (op.apply s).Budget url (restarts + if op = .restart url then 1 else 0) := by
  have counts := op.apply_counts s url
  have le := budget.attempt_le
  have notAhead := (coherent.record url).generation_le
  refine ⟨?_, ?_⟩
  · rw [counts.starts, counts.attempt, budget.starts_eq_attempt]
  · have attempt := counts.attempt
    have stamp := counts.stamp
    by_cases starts : op.Starts url s
    swap
    · simp only [if_neg starts, if_true] at attempt stamp
      omega
    simp only [if_pos starts, Nat.one_ne_zero, if_false] at attempt stamp
    rcases starts with rfl | ⟨rfl, due⟩
    · rw [if_pos rfl]
      omega
    · rcases Record.isDue_iff.1 due with fresh | ⟨-, old⟩
      · have noneBefore := (coherent.record url).attempt_eq_zero_iff.2 fresh
        omega
      · omega

theorem State.run_budget {s : State} (coherent : s.Coherent) {url : String} {restarts : Nat}
    (budget : s.Budget url restarts) (ops : List Op) :
    (s.run ops).Budget url (restarts + ops.count (.restart url)) := by
  induction ops generalizing s restarts with
  | nil => exact budget
  | cons op ops ih =>
      have rest := ih (op.apply_coherent coherent) (op.apply_budget coherent budget)
      rw [run_cons, List.count_cons, Nat.add_comm (ops.count _), ← Nat.add_assoc]
      simpa only [beq_iff_eq] using rest

/-! ## Looks between bumps -/

/-- An address whose newest attempt was started in the current generation. -/
def State.Current (s : State) (url : String) : Prop :=
  (s.record url).attempt ≠ 0 ∧ (s.record url).generation = s.generation

theorem State.Current.not_due {s : State} {url : String} (current : s.Current url)
    (coherent : s.Coherent) : (s.record url).isDue s.generation = false := by
  rw [← Bool.not_eq_true, Record.isDue_iff]
  rintro (fresh | ⟨-, old⟩)
  · exact current.1 ((coherent.record url).attempt_eq_zero_iff.2 fresh)
  · exact old current.2

theorem Op.current_of_starts {s : State} {op : Op} {url : String} (starts : op.Starts url s) :
    (op.apply s).Current url := by
  have counts := op.apply_counts s url
  have noBump : op ≠ .bump := by
    rintro rfl
    simp [Starts] at starts
  rw [if_pos starts] at counts
  refine ⟨?_, ?_⟩
  · rw [counts.attempt]
    exact Nat.succ_ne_zero _
  · rw [counts.stamp, op.apply_generation, if_neg noBump]
    rfl

theorem Op.apply_current {s : State} {op : Op} {url : String} (current : s.Current url)
    (noBump : op ≠ .bump) : (op.apply s).Current url := by
  by_cases starts : op.Starts url s
  · exact current_of_starts starts
  · have counts := op.apply_counts s url
    rw [if_neg starts] at counts
    refine ⟨?_, ?_⟩
    · rw [counts.attempt]
      exact current.1
    · rw [counts.stamp, op.apply_generation, if_neg noBump]
      exact current.2

namespace State

theorem run_current {s : State} {url : String} {ops : List Op} (current : s.Current url)
    (noBump : .bump ∉ ops) : (s.run ops).Current url := by
  induction ops generalizing s with
  | nil => exact current
  | cons op ops ih =>
      rw [List.mem_cons, not_or] at noBump
      exact ih (op.apply_current current (Ne.symm noBump.1)) noBump.2

/-- An address that is started between two bumps is current until the second. -/
theorem current_of_run_starts {s : State} {url : String} {ops : List Op} (noBump : .bump ∉ ops)
    (started : s.starts url < (s.run ops).starts url) : (s.run ops).Current url := by
  induction ops generalizing s with
  | nil => exact absurd started (Nat.lt_irrefl _)
  | cons op ops ih =>
      rw [List.mem_cons, not_or] at noBump
      by_cases starts : op.Starts url s
      · exact run_current (s := op.apply s) (Op.current_of_starts starts) noBump.2
      · refine ih noBump.2 ?_
        have counts := (op.apply_counts s url).starts
        rw [if_neg starts] at counts
        rwa [counts]

/-- An operation that starts an address only as a restart of it adds to the starts what it
takes from the restarts to come. -/
theorem apply_starts_of_restart {s : State} {url : String} {op : Op}
    (restart : op.Starts url s ↔ op = .restart url) (ops : List Op) :
    (op.apply s).starts url + ops.count (.restart url) =
      s.starts url + (op :: ops).count (.restart url) := by
  rw [(op.apply_counts s url).starts, List.count_cons]
  simp only [restart, beq_iff_eq]
  omega

/-- Without a look, an address is only started by its restarts. -/
theorem run_starts_of_unseen {s : State} {url : String} {ops : List Op}
    (unseen : .ensure url ∉ ops) :
    (s.run ops).starts url = s.starts url + ops.count (.restart url) := by
  induction ops generalizing s with
  | nil => rfl
  | cons op ops ih =>
      rw [List.mem_cons, not_or] at unseen
      have starts : op.Starts url s ↔ op = .restart url :=
        or_iff_left fun look => unseen.1 look.1.symm
      rw [run_cons, ih unseen.2]
      exact apply_starts_of_restart starts ops

/-- A look does not start a current address. -/
theorem run_starts_of_current {s : State} (coherent : s.Coherent) {url : String} {ops : List Op}
    (current : s.Current url) (noBump : .bump ∉ ops) :
    (s.run ops).starts url = s.starts url + ops.count (.restart url) := by
  induction ops generalizing s with
  | nil => rfl
  | cons op ops ih =>
      rw [List.mem_cons, not_or] at noBump
      have starts : op.Starts url s ↔ op = .restart url :=
        or_iff_left fun look => by simp [current.not_due coherent] at look
      have still := op.apply_current current (Ne.symm noBump.1)
      rw [run_cons, ih (op.apply_coherent coherent) still noBump.2]
      exact apply_starts_of_restart starts ops

end State

/-! ## Lookups -/

/-- The operations of a lookup: it looks at an address and waits for it. -/
def Op.isLook : Op → Bool
  | .ensure _ | .await _ _ => true
  | _ => false

/-- Until a lookup comes to an address, the address stays due, or not. -/
theorem Op.apply_isDue {s : State} {op : Op} {url : String} (look : op.isLook = true)
    (other : op ≠ .ensure url) :
    ((op.apply s).record url).isDue (op.apply s).generation =
      (s.record url).isDue s.generation := by
  cases op with
  | ensure v =>
      have ne : url ≠ v := fun same => other (same ▸ rfl)
      simp only [apply]
      by_cases due : (s.record v).isDue s.generation = true
      · rw [State.ensureStarted_of_due due, State.start_record_ne s _ ne, State.start_generation]
      · rw [State.ensureStarted_of_not_due due]
  | await v subscriber =>
      cases subscriber with
      | none => rfl
      | some id =>
          refine State.forall_setRecord
            (p := fun u r => r.isDue s.generation = (s.record u).isDue s.generation) ?_
            (fun _ _ => rfl) url
          simp only [Record.isDue, Record.subscribe_stage, Record.subscribe_generation]
  | _ => exact Bool.noConfusion look

/-- However often a lookup comes to an address, it starts it once if it was due, and not at
all if it was not. -/
theorem State.run_starts_of_looks {s : State} (coherent : s.Coherent) {url : String}
    {ops : List Op} (looks : ∀ op ∈ ops, op.isLook = true) :
    (s.run ops).starts url = s.starts url +
      if .ensure url ∈ ops ∧ (s.record url).isDue s.generation = true then 1 else 0 := by
  induction ops generalizing s with
  | nil => simp
  | cons op ops ih =>
      have look : op.isLook = true := looks op List.mem_cons_self
      have later : ∀ op ∈ ops, op.isLook = true := fun op member =>
        looks op (List.mem_cons_of_mem _ member)
      have counts := (op.apply_counts s url).starts
      by_cases starts : op.Starts url s
      · have noBump : .bump ∉ ops := fun member => Bool.noConfusion (later _ member)
        have noRestart : .restart url ∉ ops := fun member => Bool.noConfusion (later _ member)
        rw [run_cons, run_starts_of_current (op.apply_coherent coherent)
          (Op.current_of_starts starts) noBump, List.count_eq_zero_of_not_mem noRestart, counts,
          if_pos starts]
        rcases starts with rfl | ⟨rfl, due⟩
        · exact Bool.noConfusion look
        · rw [if_pos ⟨List.mem_cons_self, due⟩]
      · rw [if_neg starts] at counts
        rw [run_cons, ih (op.apply_coherent coherent) later, counts]
        by_cases here : op = .ensure url
        · subst here
          have idle : ¬ (s.record url).isDue s.generation = true := fun due =>
            starts (Op.starts_ensure.2 ⟨rfl, due⟩)
          have unchanged : (Op.ensure url).apply s = s := ensureStarted_of_not_due idle
          simp [unchanged, idle]
        · simp only [Op.apply_isDue look here, List.mem_cons, Ne.symm here, false_or, Nat.add_zero]

end WorkflowLint.Fetch
