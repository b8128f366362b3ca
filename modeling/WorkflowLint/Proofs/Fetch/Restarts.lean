/-
# WorkflowLint.Proofs.Fetch.Restarts -- addresses that are started afresh

Restarts start their addresses in order, whatever is known of them
(`run_restarts_started`), and touch no other record (`run_restarts_record_ne`).  What was
under way at one of them stays under way, but its attempt is no longer the newest one, so
its end changes nothing any more (`Coherent.close_of_restarted`).  What is seen of a
restarted address afterwards is its answer alone (`run_restarts_answered`).
-/
import WorkflowLint.Proofs.Fetch.Answers

namespace WorkflowLint.Fetch

set_option autoImplicit false

/-! ## What was started -/

def Event.started? : Event → Option String
  | .started url => some url
  | .notified _ _ => none

namespace State

/-- The addresses that were started, in order. -/
def started (s : State) : List String := s.log.filterMap Event.started?

theorem count_started (s : State) (url : String) : s.started.count url = s.starts url := by
  rw [started, starts]
  induction s.log with
  | nil => rfl
  | cons event events ih =>
      cases event with
      | started v => simp [Event.started?, List.count_cons, ih]
      | notified id v =>
          have skipped : Event.started? (.notified id v) = none := rfl
          rw [List.filterMap_cons_none skipped, ih]
          simp

@[simp] theorem filterMap_wakeUpsOf (s : State) (url : String) :
    (s.wakeUpsOf url).filterMap Event.started? = [] := by
  rw [List.filterMap_eq_nil_iff]
  intro event member
  obtain ⟨id, -, rfl⟩ := List.mem_map.1 member
  rfl

theorem start_started (s : State) (url : String) (generation : Nat) :
    (s.start url generation).started = s.started ++ [url] := by
  cases answers : s.answers url with
  | none =>
      rw [start_of_silent answers]
      simp [started, Event.started?]
  | some outcome =>
      rw [start_of_answer answers]
      simp [started, Event.started?]

/-- A start lets go of no download. -/
theorem mem_pending_start {s : State} {d : Download} (underWay : d ∈ s.pending) (url : String)
    (generation : Nat) : d ∈ (s.start url generation).pending := by
  cases answers : s.answers url with
  | none =>
      rw [start_of_silent answers]
      exact List.mem_append_left _ underWay
  | some outcome =>
      rw [start_of_answer answers]
      exact underWay

/-! ## Some restarts -/

variable {s : State} {urls : List String}

theorem isQuiet_of_mem_restarts {op : Op} (member : op ∈ urls.map Op.restart) :
    op.isQuiet = true := by
  obtain ⟨url, -, rfl⟩ := List.mem_map.1 member
  rfl

theorem bump_not_mem_restarts (urls : List String) : .bump ∉ urls.map Op.restart := by
  intro member
  obtain ⟨url, -, same⟩ := List.mem_map.1 member
  exact Op.noConfusion same

theorem run_restarts_started (s : State) (urls : List String) :
    (s.run (urls.map .restart)).started = s.started ++ urls := by
  induction urls generalizing s with
  | nil => exact (List.append_nil _).symm
  | cons url urls ih =>
      have first : (Op.apply s (.restart url)).started = s.started ++ [url] :=
        start_started s url s.generation
      rw [List.map_cons, run_cons, ih, first, List.append_assoc, List.singleton_append]

theorem run_restarts_starts (s : State) (urls : List String) (url : String) :
    (s.run (urls.map .restart)).starts url = s.starts url + urls.count url := by
  rw [← count_started, run_restarts_started, List.count_append, count_started]

theorem run_restarts_record_ne {url : String} (other : url ∉ urls) :
    (s.run (urls.map .restart)).record url = s.record url := by
  induction urls generalizing s with
  | nil => rfl
  | cons v urls ih =>
      rw [List.mem_cons, not_or] at other
      rw [List.map_cons, run_cons, ih other.2]
      exact start_record_ne s s.generation other.1

theorem run_restarts_generation (s : State) (urls : List String) :
    (s.run (urls.map .restart)).generation = s.generation := by
  rw [run_generation, List.count_eq_zero_of_not_mem (bump_not_mem_restarts urls), Nat.add_zero]

/-- Each restart of an address is one more attempt at it. -/
theorem run_restarts_attempt (s : State) (urls : List String) (url : String) :
    ((s.run (urls.map .restart)).record url).attempt =
      (s.record url).attempt + urls.count url := by
  induction urls generalizing s with
  | nil => rfl
  | cons v urls ih =>
      have counts := (start_counts s v url).attempt
      rw [List.map_cons, run_cons, ih]
      show ((s.start v s.generation).record url).attempt + _ = _
      rw [counts, List.count_cons]
      simp only [beq_iff_eq]
      omega

theorem run_restarts_answered {url : String} (member : url ∈ urls) :
    (s.run (urls.map .restart)).Answered url := by
  induction urls generalizing s with
  | nil => exact absurd member List.not_mem_nil
  | cons v urls ih =>
      by_cases later : url ∈ urls
      · exact ih later
      · obtain rfl : url = v := (List.mem_cons.1 member).resolve_right later
        refine run_answered (s := Op.apply s (.restart url))
          (fun _ => isQuiet_of_mem_restarts) ?_
        exact start_answered s url s.generation

theorem run_restarts_current {url : String} (member : url ∈ urls) :
    (s.run (urls.map .restart)).Current url := by
  refine current_of_run_starts (bump_not_mem_restarts urls) ?_
  rw [run_restarts_starts]
  exact Nat.lt_add_of_pos_right (List.count_pos_iff.2 member)

theorem mem_pending_run_restarts {d : Download} (underWay : d ∈ s.pending) (urls : List String) :
    d ∈ (s.run (urls.map .restart)).pending := by
  induction urls generalizing s with
  | nil => exact underWay
  | cons url urls ih => exact ih (mem_pending_start underWay url s.generation)

/-- However a download ends that was under way when its address was restarted, nothing but
the download itself goes. -/
theorem Coherent.close_of_restarted (coherent : s.Coherent) {d : Download}
    (underWay : d ∈ s.pending) (restarted : d.url ∈ urls) (outcome : Outcome) :
    let t := s.run (urls.map .restart)
    t.close d outcome = { t with pending := t.pending.erase d } := by
  intro t
  have counted := ((coherent.tracks d.url).attempt_le d.attempt underWay).2
  have newer := run_restarts_attempt s urls d.url
  have again := List.count_pos_iff.2 restarted
  refine close_of_not_accepts (mem_pending_run_restarts underWay urls) ?_ outcome
  exact not_accepts_of_superseded (by omega)

end State

end WorkflowLint.Fetch
