/-
# WorkflowLint.Proofs.Check.Verdicts -- which texts leave a question

A text leaves a question exactly when it is free of blanks at its ends and reads as a hosted
action that is valid as it stands (`examine_eq_ask_iff`).  When it is clean without one, it is
empty or means no hosted action (`unhosted_of_examine_eq_clean`).
-/
import Mathlib.Tactic.Tauto
import WorkflowLint.Check.Uses

namespace WorkflowLint

set_option autoImplicit false

/-- A hosted action is valid when it is named well and its revision is well formed. -/
theorem HostedAction.isValid_false_iff (a : HostedAction) :
    a.isValid false = true ↔ a.isValid true = true ∧ a.isRevisionValid = true := by
  cases repo : a.repo with
  | none => simp [isValid, repo]
  | some r =>
      simp only [isValid, repo, Bool.and_eq_true, Bool.true_or, Bool.false_or, and_true]
      tauto

namespace Check

variable {r : Reference} {a : HostedAction} {revision text : String}

theorem examineReference_hosted_eq_ask_iff {b : HostedAction} :
    examineReference (.hosted b) = .ask a revision ↔
      b = a ∧ a.isValid false = true ∧ a.revision = some revision := by
  have revisionOf : (Reference.hosted b).revision = b.revision := rfl
  have wellFormed : (Reference.hosted b).isRevisionValid = b.isRevisionValid := rfl
  have tagValid : (Reference.hosted b).isTagValid = true := rfl
  have named : (Reference.hosted b).isNamed = b.isValid true := rfl
  simp only [examineReference, revisionOf, wellFormed, tagValid, named]
  constructor
  · intro asked
    split at asked
    · cases asked
    rename_i namedWell
    split at asked
    · cases asked
    rename_i noMalformed
    cases given : b.revision with
    | none => simp [given] at asked
    | some text =>
        simp only [given, Bool.not_true, Bool.false_eq_true, if_false, Verdict.ask.injEq] at asked
        obtain ⟨rfl, rfl⟩ := asked
        refine ⟨rfl, b.isValid_false_iff.2 ⟨by simpa using namedWell, ?_⟩, given⟩
        simpa [given] using noMalformed
  · rintro ⟨rfl, valid, given⟩
    obtain ⟨namedWell, revisionValid⟩ := b.isValid_false_iff.1 valid
    simp [namedWell, revisionValid, given]

/-- Only hosted actions leave a question. -/
theorem examineReference_ne_ask (unhosted : r.hosted? = none) :
    examineReference r ≠ .ask a revision := by
  cases r with
  | hosted b => exact absurd unhosted (Option.some_ne_none b)
  | image i | localPath path =>
      simp only [examineReference]
      repeat' split
      all_goals exact Verdict.noConfusion

/-- A hosted action is never clean without one. -/
theorem examineReference_hosted_ne_clean {b : HostedAction} :
    examineReference (.hosted b) ≠ .clean := by
  simp only [examineReference]
  repeat' split
  all_goals exact Verdict.noConfusion

/-- A text leaves a question when it is trimmed and stands for a valid hosted action. -/
theorem examine_eq_ask_iff :
    examine text = .ask a revision ↔
      Text.IsTrimmed text ∧ Reference.parse text = .hosted a ∧
        (Reference.hosted a).isValid = true ∧ a.revision = some revision := by
  constructor
  · intro asked
    unfold examine at asked
    split at asked
    · cases asked
    split at asked
    · rename_i trimmed
      cases read : Reference.parse text with
      | hosted b =>
          rw [read] at asked
          obtain ⟨rfl, valid, given⟩ := examineReference_hosted_eq_ask_iff.1 asked
          exact ⟨trimmed, rfl, valid, given⟩
      | image i | localPath path =>
          rw [read] at asked
          exact absurd asked (examineReference_ne_ask rfl)
    · cases asked
  · rintro ⟨trimmed, read, valid, given⟩
    have nonempty : ¬ text.isEmpty = true := by
      intro empty
      obtain rfl : text = "" := String.isEmpty_iff.1 empty
      have invalid : (Reference.parse "").isValid = false := by decide
      rw [read, valid] at invalid
      exact Bool.noConfusion invalid
    rw [examine, if_neg nonempty, if_pos trimmed, read]
    exact examineReference_hosted_eq_ask_iff.2 ⟨rfl, valid, given⟩

theorem unhosted_of_examine_eq_clean (clean : examine text = .clean) :
    text.isEmpty = true ∨ (Reference.parse text).hosted? = none := by
  unfold examine at clean
  split at clean
  · exact Or.inl ‹_›
  split at clean
  · cases read : Reference.parse text with
    | hosted b =>
        rw [read] at clean
        exact absurd clean examineReference_hosted_ne_clean
    | image i | localPath path => exact Or.inr rfl
  · cases clean

end Check

end WorkflowLint
