/-
# WorkflowLint.Proofs.Fetch.Callers -- the retry budget when several callers look

Between the two steps of a visit a bump and the retry of another caller may come.  A
visit that then comes to a record stamped after its own reading, and failed, starts an
attempt all the same, because the stamps differ, and sets the stamp back
(`Move.Overtaken`).  So the budget of one caller after the other, a start and one more
for each bump, does not hold here (`overtaken_visit_exceeds_budget`).

What holds is that nothing else exceeds it: a schedule pays for each start with a bump
or with what an overtaken visit sets the stamp back (`Shared.lag`), and only an
overtaken visit lowers a stamp (`starts_le_of_schedule`).
-/
import WorkflowLint.Fetch.Callers
import WorkflowLint.Proofs.Addresses
import WorkflowLint.Proofs.Fetch.Answers

namespace WorkflowLint.Fetch

set_option autoImplicit false

namespace Shared

@[simp] theorem run_nil (s : Shared) : s.run [] = s := rfl

@[simp] theorem run_cons (s : Shared) (move : Move) (schedule : List Move) :
    s.run (move :: schedule) = (move.apply s).run schedule := rfl

end Shared

namespace Move

theorem enter_of_mem {s : Shared} {visit : Visit} (there : visit ∈ s.visits) :
    (enter visit).apply s =
      ⟨s.state.ensureStartedIn visit.url visit.generation, s.visits.erase visit⟩ := if_pos there

theorem enter_of_not_mem {s : Shared} {visit : Visit} (gone : visit ∉ s.visits) :
    (enter visit).apply s = s := if_neg gone

/-- A visit that nothing comes between is a look. -/
theorem enter_read (s : Shared) (url : String) :
    (enter ⟨url, s.state.generation⟩).apply ((read url).apply s) =
      { s with state := s.state.ensureStarted url } := by
  rw [enter_of_mem (s := (read url).apply s) List.mem_cons_self]
  simp only [apply, List.erase_cons_head, State.ensureStarted]

end Move

/-! ## One move -/

namespace Move

/-- A visit comes to a record that failed, in a generation after the one it has read. -/
def Overtaken (url : String) (s : Shared) : Move → Prop
  | enter visit =>
    visit ∈ s.visits ∧ visit.url = url ∧ (s.state.record url).stage = .failed ∧
      visit.generation < (s.state.record url).generation
  | _ => False

instance (url : String) (s : Shared) : DecidablePred (Overtaken url s)
  | enter _ => inferInstanceAs (Decidable (_ ∧ _))
  | read _ | bump | close _ _ => inferInstanceAs (Decidable False)

/-- What an overtaken visit takes from the budget of an address: its start, and the
generations by which it sets the stamp back. -/
def lag (url : String) (s : Shared) : Move → Nat
  | enter visit =>
    if (enter visit).Overtaken url s then
      (s.state.record url).generation - visit.generation + 1
    else 0
  | _ => 0

def isBump : Move → Bool
  | bump => true
  | _ => false

def bumps (schedule : List Move) : Nat := schedule.countP isBump

end Move

/-- What the overtaken visits of a schedule take from the budget of an address. -/
def Shared.lag (url : String) : Shared → List Move → Nat
  | _, [] => 0
  | s, move :: schedule => move.lag url s + Shared.lag url (move.apply s) schedule

/-- How the numbers of an address fit together when several callers look, after overtaken
visits have taken `lag`. -/
structure Shared.Paid (s : Shared) (url : String) (lag : Nat) : Prop where
  starts_eq_attempt : s.state.starts url = (s.state.record url).attempt
  unknown : (s.state.record url).stage = .notStarted →
    (s.state.record url).attempt = 0 ∧ (s.state.record url).generation = 0
  attempt_le : (s.state.record url).attempt ≤ (s.state.record url).generation + 1 + lag
  stamp_le : (s.state.record url).generation ≤ s.state.generation
  visit_le : ∀ visit ∈ s.visits, visit.generation ≤ s.state.generation

namespace State

/-- The end of a download does not make an address one of which nothing is known. -/
theorem close_stage_ne (s : State) (d : Download) (outcome : Outcome) {url : String}
    (known : (s.record url).stage ≠ .notStarted) :
    ((s.close d outcome).record url).stage ≠ .notStarted := by
  rcases s.close_cases d outcome with same | ⟨-, -, same⟩ | ⟨-, -, same⟩
  · rwa [same]
  · rwa [same]
  · rw [same]
    by_cases here : url = d.url
    · subst here
      have settled := Record.settle_isSettled (s.record d.url) outcome
      have stage := (Record.stage_ne_of_isSettled settled).2
      intro unknown
      refine stage ?_
      simpa using unknown
    · have record := setRecord_record_ne s ((s.record d.url).settle outcome) here
      simpa [record] using known

end State

theorem Shared.Paid.mono {s : Shared} {url : String} {lag lag' : Nat} (paid : s.Paid url lag)
    (le : lag ≤ lag') : s.Paid url lag' :=
  { paid with attempt_le := Nat.le_trans paid.attempt_le (Nat.add_le_add_left le _) }

theorem Shared.initial_paid (answers : String → Option Outcome) (url : String) :
    (initial answers).Paid url 0 where
  starts_eq_attempt := rfl
  unknown _ := ⟨rfl, rfl⟩
  attempt_le := Nat.zero_le _
  stamp_le := Nat.le_refl _
  visit_le _ member := absurd member List.not_mem_nil

/-- The attempt that a visit starts is paid with the generation it has read, or counts as
overtaken. -/
theorem Move.start_paid {s : Shared} {url : String} {lag : Nat} (paid : s.Paid url lag)
    {visit : Visit} (there : visit ∈ s.visits)
    (due : (s.state.record visit.url).isDue visit.generation = true) :
    Shared.Paid ⟨s.state.start visit.url visit.generation, s.visits.erase visit⟩ url
      (lag + (enter visit).lag url s) := by
  have starts := s.state.start_starts visit.url visit.generation url
  have fewer : ∀ other ∈ s.visits.erase visit, other.generation ≤ s.state.generation :=
    fun other member => paid.visit_le other (List.mem_of_mem_erase member)
  by_cases here : visit.url = url
  · subst here
    obtain ⟨attempt, stamp⟩ := s.state.start_attempt visit.url visit.generation
    rw [if_pos rfl, paid.starts_eq_attempt] at starts
    refine ⟨starts.trans attempt.symm, fun unknown => ?_, ?_, ?_, ?_⟩
    · exact absurd unknown (s.state.start_stage_ne visit.url visit.generation)
    · have le := paid.attempt_le
      show ((s.state.start visit.url visit.generation).record visit.url).attempt ≤
        ((s.state.start visit.url visit.generation).record visit.url).generation + 1 + _
      rw [attempt, stamp]
      rcases Record.isDue_iff.1 due with unknown | ⟨failed, other⟩
      · have none := (paid.unknown unknown).1
        omega
      · by_cases overtaken : visit.generation < (s.state.record visit.url).generation
        · have counted : (enter visit).lag visit.url s =
              (s.state.record visit.url).generation - visit.generation + 1 :=
            if_pos ⟨there, rfl, failed, overtaken⟩
          omega
        · omega
    · show ((s.state.start visit.url visit.generation).record visit.url).generation ≤
        (s.state.start visit.url visit.generation).generation
      rw [stamp, State.start_generation]
      exact paid.visit_le visit there
    · simpa using fewer
  · have record := s.state.start_record_ne visit.generation (Ne.symm here)
    rw [if_neg here, Nat.add_zero] at starts
    have still : Shared.Paid
        ⟨s.state.start visit.url visit.generation, s.visits.erase visit⟩ url lag := by
      refine ⟨?_, ?_, ?_, ?_, ?_⟩
      · simpa only [starts, record] using paid.starts_eq_attempt
      · simpa only [record] using paid.unknown
      · simpa only [record] using paid.attempt_le
      · simpa only [record, State.start_generation] using paid.stamp_le
      · simpa using fewer
    exact still.mono (Nat.le_add_right _ _)

/-- A move pays for what it starts. -/
theorem Move.apply_paid {s : Shared} {url : String} {lag : Nat} (paid : s.Paid url lag)
    (move : Move) : (move.apply s).Paid url (lag + move.lag url s) := by
  cases move with
  | read v =>
      refine { paid with visit_le := fun visit member => ?_ }
      rcases List.mem_cons.1 member with rfl | member
      · exact Nat.le_refl _
      · exact paid.visit_le visit member
  | bump =>
      exact { paid with
        stamp_le := Nat.le_succ_of_le paid.stamp_le
        visit_le := fun visit member => Nat.le_succ_of_le (paid.visit_le visit member) }
  | close d outcome =>
      have counts := s.state.close_counts d outcome url
      have stamp : ((s.state.close d outcome).record url).generation =
        (s.state.record url).generation := counts.stamp
      refine ⟨?_, fun unknown => ?_, ?_, ?_, ?_⟩
      · show (s.state.close d outcome).starts url = _
        rw [counts.starts, paid.starts_eq_attempt]
        exact counts.attempt.symm
      · have before : (s.state.record url).stage = .notStarted := by
          by_contra known
          exact s.state.close_stage_ne d outcome known unknown
        obtain ⟨attempt, generation⟩ := paid.unknown before
        exact ⟨counts.attempt.trans attempt, stamp.trans generation⟩
      · show ((s.state.close d outcome).record url).attempt ≤
          ((s.state.close d outcome).record url).generation + 1 + _
        rw [counts.attempt, stamp]
        exact paid.attempt_le
      · show ((s.state.close d outcome).record url).generation ≤
          (s.state.close d outcome).generation
        rw [stamp, State.close_generation]
        exact paid.stamp_le
      · simpa [apply] using paid.visit_le
  | enter visit =>
      by_cases there : visit ∈ s.visits
      · rw [enter_of_mem there]
        by_cases due : (s.state.record visit.url).isDue visit.generation = true
        · rw [State.ensureStartedIn, if_pos due]
          exact start_paid paid there due
        · rw [State.ensureStartedIn, if_neg due]
          refine { paid.mono (Nat.le_add_right _ _) with visit_le := fun other member => ?_ }
          exact paid.visit_le other (List.mem_of_mem_erase member)
      · rw [enter_of_not_mem there]
        exact paid.mono (Nat.le_add_right _ _)

theorem Move.apply_generation (s : Shared) (move : Move) :
    (move.apply s).state.generation = s.state.generation + if move.isBump then 1 else 0 := by
  cases move with
  | read url => rfl
  | bump => rfl
  | close d outcome => exact s.state.close_generation d outcome
  | enter visit =>
      by_cases there : visit ∈ s.visits
      · rw [enter_of_mem there, State.ensureStartedIn]
        split
        · exact s.state.start_generation visit.url visit.generation
        · rfl
      · rw [enter_of_not_mem there]
        rfl

/-- Only an overtaken visit sets a stamp back. -/
theorem Move.stamp_lt_iff {s : Shared} {url : String} {lag : Nat} (paid : s.Paid url lag)
    (move : Move) :
    ((move.apply s).state.record url).generation < (s.state.record url).generation ↔
      move.Overtaken url s := by
  constructor
  · intro lower
    cases move with
    | read v => exact absurd lower (Nat.lt_irrefl _)
    | bump => exact absurd lower (Nat.lt_irrefl _)
    | close d outcome =>
        have stamp : ((s.state.close d outcome).record url).generation =
          (s.state.record url).generation := (s.state.close_counts d outcome url).stamp
        simp only [apply, stamp, Nat.lt_irrefl] at lower
    | enter visit =>
        by_cases there : visit ∈ s.visits
        swap
        · rw [enter_of_not_mem there] at lower
          exact absurd lower (Nat.lt_irrefl _)
        rw [enter_of_mem there, State.ensureStartedIn] at lower
        by_cases due : (s.state.record visit.url).isDue visit.generation = true
        swap
        · rw [if_neg due] at lower
          exact absurd lower (Nat.lt_irrefl _)
        rw [if_pos due] at lower
        by_cases here : visit.url = url
        swap
        · simp only [s.state.start_record_ne visit.generation (Ne.symm here),
            Nat.lt_irrefl] at lower
        subst here
        simp only [(s.state.start_attempt visit.url visit.generation).2] at lower
        refine ⟨there, rfl, ?_, lower⟩
        rcases Record.isDue_iff.1 due with unknown | ⟨failed, -⟩
        · have none := (paid.unknown unknown).2
          omega
        · exact failed
  · intro overtaken
    cases move with
    | read v | bump | close d outcome => exact overtaken.elim
    | enter visit =>
        obtain ⟨there, rfl, failed, behind⟩ := overtaken
        have due : (s.state.record visit.url).isDue visit.generation = true :=
          Record.isDue_iff.2 (Or.inr ⟨failed, Nat.ne_of_gt behind⟩)
        rw [enter_of_mem there, State.ensureStartedIn, if_pos due]
        simpa only [(s.state.start_attempt visit.url visit.generation).2] using behind

/-! ## Schedules -/

namespace Shared

theorem run_paid {s : Shared} {url : String} {lag : Nat} (paid : s.Paid url lag)
    (schedule : List Move) : (s.run schedule).Paid url (lag + s.lag url schedule) := by
  induction schedule generalizing s lag with
  | nil => exact paid
  | cons move schedule ih =>
      have rest := ih (move.apply_paid paid)
      rwa [Nat.add_assoc] at rest

theorem run_generation (s : Shared) (schedule : List Move) :
    (s.run schedule).state.generation = s.state.generation + Move.bumps schedule := by
  induction schedule generalizing s with
  | nil => rfl
  | cons move schedule ih =>
      rw [run_cons, ih, move.apply_generation, Move.bumps, Move.bumps, List.countP_cons]
      omega

/-- **What several callers start.**  In every schedule an address is started at most once,
once more for each bump, and beyond that only for overtaken visits: each of them takes its
own start and the generations by which it sets the stamp back.  A move sets the stamp of an
address back exactly when it is such a visit.  A schedule that overtakes no visit therefore
keeps the budget of one caller after the other.  A visit that nothing comes between is the look
of a single caller. -/
theorem starts_le_of_schedule (answers : String → Option Outcome) (schedule : List Move)
    (url : String) :
    let s := (initial answers).run schedule
    s.state.starts url ≤ 1 + Move.bumps schedule + (initial answers).lag url schedule ∧
      (∀ move : Move,
        ((move.apply s).state.record url).generation < (s.state.record url).generation ↔
          move.Overtaken url s) ∧
      s.run [.read url, .enter ⟨url, s.state.generation⟩] =
        { s with state := s.state.ensureStarted url } := by
  intro s
  have paid : s.Paid url (0 + (initial answers).lag url schedule) :=
    run_paid (initial_paid answers url) schedule
  have generation : s.state.generation = Move.bumps schedule :=
    (run_generation _ schedule).trans (Nat.zero_add _)
  refine ⟨?_, fun move => move.stamp_lt_iff paid, Move.enter_read s url⟩
  have attempt := paid.attempt_le
  have stamp := paid.stamp_le
  rw [paid.starts_eq_attempt]
  omega

/-! ## An overtaken visit -/

private def offline : Outcome := .failure ⟨none, "offline"⟩

/-- Two callers read the same generation; one of them comes to the record at once, the
other only after a bump, when a third has retried the address in vain. -/
private def overtaking : List Move :=
  [.read actionUrl, .read actionUrl, .enter ⟨actionUrl, 0⟩, .close ⟨actionUrl, 1⟩ offline,
    .bump, .read actionUrl, .enter ⟨actionUrl, 1⟩, .close ⟨actionUrl, 2⟩ offline]

/-- **An overtaken visit exceeds the budget.**  After one bump the last visit starts a third
attempt and sets the stamp of the record from the newer generation back to the older one. -/
theorem overtaken_visit_exceeds_budget :
    let s := (initial fun _ => none).run overtaking
    let last : Move := .enter ⟨actionUrl, 0⟩
    Move.bumps (overtaking ++ [last]) = 1 ∧
      (last.apply s).state.starts actionUrl = 3 ∧
      (s.state.record actionUrl).generation = 1 ∧
      ((last.apply s).state.record actionUrl).generation = 0 ∧
      (¬ ∀ schedule url, ((initial fun _ => none).run schedule).state.starts url ≤
        1 + Move.bumps schedule) ∧
      ¬ ∀ schedule (move : Move) url,
        (((initial fun _ => none).run schedule).state.record url).generation ≤
          ((move.apply ((initial fun _ => none).run schedule)).state.record url).generation := by
  refine ⟨by decide, by decide, by decide, by decide, fun budget => ?_, fun monotone => ?_⟩
  · have kept := budget (overtaking ++ [.enter ⟨actionUrl, 0⟩]) actionUrl
    revert kept
    decide
  · have kept := monotone overtaking (.enter ⟨actionUrl, 0⟩) actionUrl
    revert kept
    decide

end Shared

end WorkflowLint.Fetch
