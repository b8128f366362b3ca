/-
# WorkflowLint.Proofs.Fetch.Endings -- how often a subscriber can be woken

Without a bump and without a restart of it, an address settles twice at most: once when the
attempt under way ends, and once more when that attempt was from an older generation and a
look starts another.  `Record.endings` counts what is left of this; every operation keeps
within the count and every wake-up takes one off it, so what a subscriber was woken so far
and what is left never grow together (`run_wakeUps_add_endings_le`).
-/
import WorkflowLint.Proofs.Fetch.Settled

namespace WorkflowLint.Fetch

set_option autoImplicit false

/-! ## One record -/

namespace Record

/-- How many attempts may still end before the record settles for good, in a generation that
stays and without a restart: the one under way, and the one that a look may yet start. -/
def endings (r : Record) (generation : Nat) : Nat :=
  match r.stage with
  | .notStarted => 1
  | .inProgress => if r.generation = generation then 1 else 2
  | .downloaded => 0
  | .failed => if r.generation = generation then 0 else 1

variable {r r' : Record} {g : Nat}

theorem endings_le (r : Record) (g : Nat) : r.endings g ≤ 2 := by
  cases stage : r.stage with
  | notStarted | downloaded => simp [endings, stage]
  | inProgress | failed =>
      simp only [endings, stage]
      split <;> omega

theorem endings_of_due (due : r.isDue g = true) : r.endings g = 1 := by
  rcases isDue_iff.1 due with unknown | ⟨failed, old⟩
  · simp [endings, unknown]
  · simp [endings, failed, old]

/-- A look starts no attempt from the current generation again. -/
theorem endings_le_of_current (current : r.generation = g) : r.endings g ≤ 1 := by
  unfold endings
  cases r.stage <;> simp [current]

theorem endings_pos (awaited : r.stage = .inProgress) : 0 < r.endings g := by
  simp only [endings, awaited]
  split <;> omega

theorem endings_lt_of_settled (awaited : r.stage = .inProgress) (settled : r'.isSettled = true)
    (stamp : r'.generation = r.generation) : r'.endings g < r.endings g := by
  simp only [endings, awaited]
  rcases isSettled_iff.1 settled with stage | stage
  · simp only [stage]
    split <;> omega
  · simp only [stage, stamp]
    split <;> omega

end Record

/-! ## One operation -/

def State.endings (s : State) (url : String) : Nat := (s.record url).endings s.generation

variable {s : State} {op : Op} {url : String}

/-- What does not start an attempt leaves the stage, unless the attempt under way ends. -/
theorem Op.apply_stage_or_settled (coherent : s.Coherent) (rests : ¬ op.Starts url s) :
    ((op.apply s).record url).stage = (s.record url).stage ∨
      ((s.record url).stage = .inProgress ∧ ((op.apply s).record url).isSettled = true) := by
  have counted := (op.apply_counts s url).attempt
  rw [if_neg rests, Nat.add_zero] at counted
  have known : ((op.apply s).record url).stage = .notStarted ↔
      (s.record url).stage = .notStarted := by
    rw [← ((op.apply_coherent coherent).record url).attempt_eq_zero_iff, counted,
      (coherent.record url).attempt_eq_zero_iff]
  cases stage : (s.record url).stage with
  | notStarted => exact Or.inl (known.2 stage)
  | inProgress =>
      cases next : ((op.apply s).record url).stage with
      | notStarted =>
          rw [known.1 next] at stage
          exact Stage.noConfusion stage
      | inProgress => exact Or.inl rfl
      | downloaded => exact Or.inr ⟨rfl, Record.isSettled_iff.2 (Or.inl next)⟩
      | failed => exact Or.inr ⟨rfl, Record.isSettled_iff.2 (Or.inr next)⟩
  | downloaded | failed =>
      have settled : (s.record url).isSettled = true := by simp [Record.isSettled_iff, stage]
      rw [Op.apply_record_of_settled coherent settled rests, stage]
      exact Or.inl rfl

/-- No operation but a bump and a restart lets more attempts end, and the end of one leaves
one fewer. -/
theorem Op.apply_endings (coherent : s.Coherent) (noBump : op ≠ .bump)
    (noRestart : op ≠ .restart url) :
    (op.apply s).endings url ≤ s.endings url ∧
      ((s.record url).stage = .inProgress → ((op.apply s).record url).isSettled = true →
        (op.apply s).endings url < s.endings url) := by
  have generation : (op.apply s).generation = s.generation := by
    rw [op.apply_generation, if_neg noBump, Nat.add_zero]
  have stamp := (op.apply_counts s url).stamp
  simp only [State.endings, generation]
  by_cases starts : op.Starts url s
  · obtain ⟨-, due⟩ := starts.resolve_left noRestart
    rw [if_pos starts] at stamp
    rw [Record.endings_of_due due]
    refine ⟨Record.endings_le_of_current stamp, fun awaited => ?_⟩
    rcases Record.isDue_iff.1 due with unknown | ⟨failed, -⟩
    · exact Stage.noConfusion (unknown.symm.trans awaited)
    · exact Stage.noConfusion (failed.symm.trans awaited)
  · rw [if_neg starts, if_pos rfl] at stamp
    refine ⟨?_, fun awaited settled => Record.endings_lt_of_settled awaited settled stamp⟩
    rcases Op.apply_stage_or_settled coherent starts with same | ⟨awaited, settled⟩
    · exact Nat.le_of_eq (by simp only [Record.endings, same, stamp])
    · exact Nat.le_of_lt (Record.endings_lt_of_settled awaited settled stamp)

/-- A wake-up is paid with an end. -/
theorem Op.apply_wakeUps_add_endings_le (coherent : s.Coherent) (noBump : op ≠ .bump)
    (noRestart : op ≠ .restart url) (id : Nat) :
    (op.apply s).wakeUps id url + (op.apply s).endings url ≤
      s.wakeUps id url + s.endings url := by
  obtain ⟨le, lt⟩ := Op.apply_endings coherent noBump noRestart
  rcases op.settles_or_spares s url with settles | ⟨spares, -⟩
  · by_cases waits : id ∈ (s.record url).subscribers
    · have once := (State.apply_of_settling coherent waits settles.isSettled).2
      have fewer := lt (coherent.stage_of_mem waits) settles.isSettled
      omega
    · rw [settles.wakeUps id, List.count_eq_zero_of_not_mem waits]
      omega
  · rw [spares.wakeUps id]
    omega

/-! ## Runs -/

/-- What no operation but a bump and a restart lets grow does not grow in a run without them. -/
theorem State.run_le {f : State → Nat}
    (step : ∀ {s : State} {op : Op}, s.Coherent → op ≠ .bump → op ≠ .restart url →
      f (op.apply s) ≤ f s)
    (coherent : s.Coherent) {ops : List Op} (noBump : .bump ∉ ops)
    (noRestart : .restart url ∉ ops) : f (s.run ops) ≤ f s := by
  induction ops generalizing s with
  | nil => exact Nat.le_refl _
  | cons op ops ih =>
      rw [List.mem_cons, not_or] at noBump noRestart
      have first := step coherent (Ne.symm noBump.1) (Ne.symm noRestart.1)
      exact Nat.le_trans (ih (op.apply_coherent coherent) noBump.2 noRestart.2) first

/-- Without bumps and restarts, what a subscriber was woken and what may still wake it never
grow together. -/
theorem State.run_wakeUps_add_endings_le (coherent : s.Coherent) {ops : List Op}
    (noBump : .bump ∉ ops) (noRestart : .restart url ∉ ops) (id : Nat) :
    (s.run ops).wakeUps id url + (s.run ops).endings url ≤ s.wakeUps id url + s.endings url :=
  State.run_le (f := fun s => s.wakeUps id url + s.endings url)
    (fun coherent notBump notRestart =>
      Op.apply_wakeUps_add_endings_le coherent notBump notRestart id)
    coherent noBump noRestart

theorem State.run_endings_le (coherent : s.Coherent) {ops : List Op} (noBump : .bump ∉ ops)
    (noRestart : .restart url ∉ ops) : (s.run ops).endings url ≤ s.endings url :=
  State.run_le (f := fun s => s.endings url)
    (fun coherent notBump notRestart => (Op.apply_endings coherent notBump notRestart).1)
    coherent noBump noRestart

end WorkflowLint.Fetch
