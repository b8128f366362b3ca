/-
# WorkflowLint.Proofs.Effects -- what looking at addresses starts

A look starts its address when it is due and nothing else (`look_started`), and it leaves
alone all there is about any other address (`look_elsewhere`).  What a lookup has started can
therefore be read off the addresses it looks at: whatever was started was due when one of
these looks came to it (`exists_look_of_started`).

Which looks there are depends on what the earlier ones found.  `LooksMeet` says of a list of
looks that each of them meets a condition in the state that it is made in.
-/
import WorkflowLint.Proofs.Fetch.Isolation
import WorkflowLint.Proofs.Fetch.Restarts
import WorkflowLint.Proofs.Session.StatusTable

namespace WorkflowLint

set_option autoImplicit false

open Fetch (Phase State)

namespace Fetch.State

theorem ensureStarted_started (s : State) (url : String) :
    (s.ensureStarted url).started =
      s.started ++ if (s.record url).isDue s.generation = true then [url] else [] := by
  by_cases due : (s.record url).isDue s.generation = true
  · rw [if_pos due, ensureStarted_of_due due, start_started]
  · rw [if_neg due, ensureStarted_of_not_due due, List.append_nil]

@[simp] theorem await_log (s : State) (url : String) (subscriber : Option Nat) :
    (s.await url subscriber).log = s.log := by
  cases subscriber <;> rfl

end Fetch.State

namespace Cache

instance (p : Phase) : Decidable p.IsMissing :=
  decidable_of_iff (statusOfPhase p = .actionNotFound)
    ⟨isMissing_of_statusOfPhase, statusOfPhase_of_isMissing⟩

variable {asker : Asker} {s : State} {url v : String} {urls : List String}

/-! ## One look -/

theorem look_started (asker : Asker) (url : String) (s : State) :
    (look asker url s).started =
      s.started ++ if (s.record url).isDue s.generation = true then [url] else [] := by
  rw [← State.ensureStarted_started]
  simp only [look, State.started, State.await_log]

/-- A look leaves all there is about another address. -/
theorem look_elsewhere (asker : Asker) (s : State) (other : v ≠ url) :
    (look asker v s).SameAt s url :=
  (State.await_elsewhere _ other _).trans (State.ensureStarted_elsewhere s other)

theorem look_generation (asker : Asker) (url : String) (s : State) :
    (look asker url s).generation = s.generation :=
  State.run_generation s [.ensure url, .await url asker.subscriber]

/-- A look starts its own address at most. -/
theorem look_starts (asker : Asker) (v : String) (s : State) (url : String) :
    (look asker v s).starts url = s.starts url ∨
      (v = url ∧ (look asker v s).starts url = s.starts url + 1) := by
  rw [← State.count_started, ← State.count_started, look_started]
  by_cases due : (s.record v).isDue s.generation = true
  · rw [if_pos due, List.count_append, List.count_singleton]
    by_cases here : v = url
    · exact Or.inr ⟨here, by rw [if_pos (beq_iff_eq.2 here)]⟩
    · exact Or.inl (by rw [if_neg (mt beq_iff_eq.1 here), Nat.add_zero])
  · exact Or.inl (by rw [if_neg due, List.append_nil])

/-! ## Some looks -/

theorem lookAll_generation (asker : Asker) (urls : List String) (s : State) :
    (lookAll asker urls s).generation = s.generation := by
  induction urls generalizing s with
  | nil => rfl
  | cons v urls ih => exact (ih _).trans (look_generation asker v s)

/-- What some looks have started was started by one of them, and the earlier ones had not
started it. -/
theorem exists_look_of_started (started : s.starts url < (lookAll asker urls s).starts url) :
    ∃ before after, urls = before ++ url :: after ∧
      (lookAll asker before s).starts url = s.starts url ∧
      (look asker url (lookAll asker before s)).starts url = s.starts url + 1 := by
  induction urls generalizing s with
  | nil => exact absurd started (Nat.lt_irrefl _)
  | cons v urls ih =>
      rcases look_starts asker v s url with idle | ⟨rfl, first⟩
      · obtain ⟨before, after, split, unstarted, starts⟩ :=
          ih (s := look asker v s) (idle.symm ▸ started)
        refine ⟨v :: before, after, by rw [split, List.cons_append], ?_, ?_⟩
        · exact unstarted.trans idle
        · exact starts.trans (congrArg (· + 1) idle)
      · exact ⟨[], urls, rfl, rfl, first⟩

/-- Each of some looks meets a condition on the state that it is made in. -/
def LooksMeet (p : State → String → Prop) (asker : Asker) : List String → State → Prop
  | [], _ => True
  | url :: urls, s => p s url ∧ LooksMeet p asker urls (look asker url s)

variable {p : State → String → Prop}

theorem LooksMeet.mono {q : State → String → Prop} (weaker : ∀ s url, p s url → q s url)
    (meets : LooksMeet p asker urls s) : LooksMeet q asker urls s := by
  induction urls generalizing s with
  | nil => trivial
  | cons v urls ih => exact ⟨weaker s v meets.1, ih meets.2⟩

theorem LooksMeet.append (first : LooksMeet p asker urls s) {urls' : List String}
    (rest : LooksMeet p asker urls' (lookAll asker urls s)) :
    LooksMeet p asker (urls ++ urls') s := by
  induction urls generalizing s with
  | nil => exact rest
  | cons v urls ih => exact ⟨first.1, ih first.2 rest⟩

theorem LooksMeet.at_moment {before after : List String}
    (meets : LooksMeet p asker (before ++ url :: after) s) :
    p (lookAll asker before s) url := by
  induction before generalizing s with
  | nil => exact meets.1
  | cons v before ih => exact ih meets.2

/-- A status looks at the address of its action, and at that of the default branch only in a
state where the manifest is missing. -/
theorem hostedLooks_meet {sources : Sources} {a : HostedAction} {own head : String}
    (addresses : sources.host.Addresses a own head) (atOwn : ∀ t, p t own)
    (atHead : ∀ t, (t.record own).phase.IsMissing → p t head) (s : State) :
    LooksMeet p asker (hostedLooks sources asker a own s) s := by
  simp only [hostedLooks, addresses.head_eq, Option.toList_some]
  split
  · rename_i below
    rw [Bool.and_eq_true, decide_eq_true_eq] at below
    exact ⟨atOwn s, atHead _ (isMissing_of_statusOfPhase below.1), trivial⟩
  · exact ⟨atOwn s, trivial⟩

end Cache

end WorkflowLint
