/-
# WorkflowLint.Proofs.Check.Validity -- a check faults the text of what is not valid

A check tries its rules one after the other and asks for the status of the action where none of
them fails; the validity of a reference is one condition on its parts.  The two agree: a
reference is valid when it is named well, its revision is well formed and its tag is
(`Reference.isValid_iff`), and these are what the rules test, so a rule fails exactly when the
reference is not valid (`fault_iff`), and the status that is asked for is that of the valid
hosted action that the text means (`examine_eq_ask_iff`).

What a check asks is seen once the status is looked up by a computation (`usesBy`), such as one
that writes down what it is asked about (`logged`).
-/
import WorkflowLint.Check.Steps
import WorkflowLint.Proofs.Check.Verdicts
import WorkflowLint.Proofs.Reference.Grammar

namespace WorkflowLint

set_option autoImplicit false

/-! ## Validity by parts -/

namespace Reference

/-- A reference is valid when its name, its revision and its tag each are. -/
theorem isValid_iff (r : Reference) :
    r.isValid = true ↔ r.isNamed = true ∧ r.isRevisionValid = true ∧ r.isTagValid = true := by
  cases r with
  | hosted a =>
      show a.isValid false = true ↔
        a.isValid true = true ∧ a.isRevisionValid = true ∧ true = true
      simp [a.isValid_false_iff]
  | image i =>
      show i.isValid false = true ↔ i.isValid true = true ∧ true = true ∧ i.isTagValid = true
      simp [ContainerImage.isValid]
  | localPath path => simp [isValid, isNamed, isValidWith, isRevisionValid, hosted?, isTagValid]

/-- A hosted action without a revision has no well-formed one. -/
theorem isRevisionValid_of_none {a : HostedAction} (none : a.revision = .none) :
    (Reference.hosted a).isRevisionValid = false := by
  show a.isRevisionValid = false
  simp [HostedAction.isRevisionValid, none]

end Reference

/-- The findings on a text, whatever is known about the action that it means. -/
def UsesFinding.faults : List UsesFinding :=
  [.untrimmed, .invalid, .invalidRevision, .invalidTag, .missingRevision]

namespace Check

variable {r : Reference} {a : HostedAction} {f : UsesFinding} {revision text : String}

/-! ## The verdict on a reference -/

theorem examineReference_eq_finding (found : examineReference r = .finding f) :
    f ∈ UsesFinding.faults ∧ r.isValid = false := by
  rw [← Bool.not_eq_true, Reference.isValid_iff]
  unfold examineReference at found
  split at found
  · rename_i unnamed
    cases found
    exact ⟨by decide, fun valid => by simp [valid.1] at unnamed⟩
  split at found
  · rename_i malformed
    cases found
    exact ⟨by decide, fun valid => by simp [valid.2.1] at malformed⟩
  split at found
  · rename_i badTag
    cases found
    exact ⟨by decide, fun valid => by simp [valid.2.2] at badTag⟩
  split at found
  · rename_i action
    split at found
    · cases found
    · rename_i unpinned
      cases found
      refine ⟨by decide, fun valid => ?_⟩
      rw [Reference.isRevisionValid_of_none unpinned] at valid
      exact Bool.noConfusion valid.2.1
  · cases found

/-- What is clean without a question is valid, and no hosted action. -/
theorem examineReference_eq_clean (clean : examineReference r = .clean) :
    r.isValid = true ∧ r.hosted? = none := by
  have unhosted : r.hosted? = none := by
    cases r with
    | hosted a => exact absurd clean examineReference_hosted_ne_clean
    | image i | localPath path => rfl
  refine ⟨r.isValid_iff.2 ⟨?_, ?_, ?_⟩, unhosted⟩
  · cases named : r.isNamed with
    | true => rfl
    | false => simp [examineReference, named] at clean
  · simp [Reference.isRevisionValid, unhosted]
  · cases tagged : r.isTagValid with
    | true => rfl
    | false =>
        simp only [examineReference, tagged, Bool.not_false, if_true] at clean
        split at clean
        · cases clean
        · split at clean <;> cases clean

/-! ## The verdict on a text -/

theorem examine_of_trimmed (given : text ≠ "") (trimmed : Text.IsTrimmed text) :
    examine text = examineReference (.parse text) := by
  simp [examine, given, trimmed]

/-- A text with a blank at one of its ends is not read. -/
theorem examine_of_untrimmed (untrimmed : ¬ Text.IsTrimmed text) :
    examine text = .finding .untrimmed := by
  have given : text ≠ "" := by
    intro empty
    subst empty
    exact untrimmed rfl
  simp [examine, given, untrimmed]

/-- A question is about an action with a repository and a revision. -/
theorem named_of_isValid (valid : (Reference.hosted a).isValid = true) :
    ∃ repo revision, a.repo = some repo ∧ a.revision = some revision ∧
      a.fullName.getD a.owner = a.owner ++ "/" ++ repo := by
  have whole : a.isValid false = true := valid
  obtain ⟨repo, revision, named, pinned, -⟩ := a.isValid_iff.1 whole
  exact ⟨repo, revision, named, pinned, by simp [HostedAction.fullName, named]⟩

/-- What the status gives rise to is on the action and not on the text. -/
theorem judge_notMem_faults {status : Status} (judged : judge a revision status = some f) :
    f ∉ UsesFinding.faults := by
  cases status with
  | failed | actionNotFound | revisionNotFound =>
      obtain rfl := Option.some.inj judged
      simp [UsesFinding.faults]
  | unknown | inProgress | available => exact absurd judged.symm (Option.some_ne_none f)

/-! ## Looking the status up -/

/-- Checks a `uses` text with the status looked up by a computation. -/
def usesBy {m : Type → Type} [Monad m] (text : String) (status : Reference → m Status) :
    m (Option UsesFinding) :=
  match examine text with
  | .finding f => pure (some f)
  | .clean => pure none
  | .ask a revision => judge a revision <$> status (.hosted a)

/-- The check of a step is that of its text, with the status looked up among the downloads. -/
theorem entryUses_eq_usesBy (sources : Sources) (asker : Asker) (e : UsesEntry)
    (s : Fetch.State) :
    entryUses sources asker e s =
      (usesBy (m := StateM Fetch.State) e.uses (Cache.status sources asker)).run s := by
  unfold entryUses usesBy
  cases examine e.uses <;> rfl

/-- Looks a status up and writes down what it was asked about. -/
def logged (status : Reference → Status) (r : Reference) : StateM (List Reference) Status := do
  modify (· ++ [r])
  return status r

/-- What a check asks about, read off its verdict. -/
theorem usesBy_logged (text : String) (status : Reference → Status) :
    (usesBy text (logged status)).run [] =
      (uses text status,
        match examine text with
        | .ask a _ => [.hosted a]
        | _ => []) := by
  unfold usesBy uses
  cases examine text <;> rfl

/-! ## Agreement -/

variable {status : Reference → Status}

/-- One of the rules on the text fails exactly when the reference is not valid. -/
theorem fault_iff (given : text ≠ "") (trimmed : Text.IsTrimmed text) :
    (∃ f ∈ UsesFinding.faults, uses text status = some f) ↔
      (Reference.parse text).isValid = false := by
  have read := examine_of_trimmed given trimmed
  cases verdict : examineReference (.parse text) with
  | finding f =>
      obtain ⟨fault, invalid⟩ := examineReference_eq_finding verdict
      have reported : uses text status = some f := by simp only [uses, read, verdict]
      exact iff_of_true ⟨f, fault, reported⟩ invalid
  | clean =>
      have unreported : uses text status = none := by simp only [uses, read, verdict]
      simp [unreported, (examineReference_eq_clean verdict).1]
  | ask a revision =>
      obtain ⟨-, same, valid, -⟩ := examine_eq_ask_iff.1 (read.trans verdict)
      have judged : uses text status = judge a revision (status (.hosted a)) := by
        simp only [uses, read, verdict]
      rw [judged, same, valid]
      refine iff_of_false ?_ (by decide)
      rintro ⟨f, fault, reported⟩
      exact judge_notMem_faults reported fault

/-- There is one question on a valid hosted action, and none otherwise. -/
theorem usesBy_logged_of_trimmed (given : text ≠ "") (trimmed : Text.IsTrimmed text) :
    (usesBy text (logged status)).run [] =
      (uses text status,
        if (Reference.parse text).hosted?.isSome = true ∧ (Reference.parse text).isValid = true
        then [.parse text] else []) := by
  have read := examine_of_trimmed given trimmed
  rw [usesBy_logged]
  cases verdict : examineReference (.parse text) with
  | finding f => simp [read, verdict, (examineReference_eq_finding verdict).2]
  | clean => simp [read, verdict, (examineReference_eq_clean verdict).2]
  | ask a revision =>
      have question := read.trans verdict
      obtain ⟨-, same, valid, -⟩ := examine_eq_ask_iff.1 question
      simp [question, same, valid, Reference.hosted?]

/-- A valid hosted action is judged by its status. -/
theorem uses_of_valid (trimmed : Text.IsTrimmed text) (hosted : Reference.parse text = .hosted a)
    (valid : (Reference.hosted a).isValid = true) :
    ∃ repo revision, a.repo = some repo ∧ a.revision = some revision ∧
      uses text status =
        match status (.hosted a) with
        | .failed => some (.notFetched (a.owner ++ "/" ++ repo))
        | .actionNotFound => some (.actionNotFound (a.owner ++ "/" ++ repo))
        | .revisionNotFound => some (.revisionNotFound (a.owner ++ "/" ++ repo) revision)
        | .available | .inProgress | .unknown => none := by
  obtain ⟨repo, revision, named, pinned, name⟩ := named_of_isValid valid
  refine ⟨repo, revision, named, pinned, ?_⟩
  have question : examine text = .ask a revision :=
    examine_eq_ask_iff.2 ⟨trimmed, hosted, valid, pinned⟩
  simp only [uses, question, judge, name]
  cases status (.hosted a) <;> rfl

/-- **A check finds fault with a text exactly when its reference is not valid.**  For every text
without blanks at its ends, the empty one apart: one of the findings that are on the text alone
is reported if and only if the reference is not valid.  The status is looked up if and only if
the text means a hosted action and is valid, then once and for that very action, and the finding
is the one for the status, on `owner/repo` and the revision of the action.  A text with a blank
at one of its ends is reported for that, and nothing is looked up.  The check of a step is this
check of its text, with the status looked up among the downloads. -/
theorem faulted_iff_not_valid (text : String) (status : Reference → Status) :
    let r := Reference.parse text
    (text ≠ "" → Text.IsTrimmed text →
      ((∃ f ∈ UsesFinding.faults, uses text status = some f) ↔ r.isValid = false) ∧
      (usesBy text (logged status)).run [] =
        (uses text status, if r.hosted?.isSome = true ∧ r.isValid = true then [r] else []) ∧
      (∀ a, r = .hosted a → r.isValid = true →
        ∃ repo revision, a.repo = some repo ∧ a.revision = some revision ∧
          uses text status =
            match status r with
            | .failed => some (.notFetched (a.owner ++ "/" ++ repo))
            | .actionNotFound => some (.actionNotFound (a.owner ++ "/" ++ repo))
            | .revisionNotFound => some (.revisionNotFound (a.owner ++ "/" ++ repo) revision)
            | .available | .inProgress | .unknown => none)) ∧
    (¬ Text.IsTrimmed text →
      (usesBy text (logged status)).run [] = (uses text status, []) ∧
        uses text status = some .untrimmed) ∧
    ∀ (sources : Sources) (asker : Asker) (e : UsesEntry) (s : Fetch.State), e.uses = text →
      entryUses sources asker e s =
        (usesBy (m := StateM Fetch.State) text (Cache.status sources asker)).run s := by
  intro r
  refine ⟨?_, ?_, ?_⟩
  · intro given trimmed
    refine ⟨fault_iff given trimmed, usesBy_logged_of_trimmed given trimmed, ?_⟩
    intro a hosted valid
    rw [hosted] at valid ⊢
    exact uses_of_valid trimmed hosted valid
  · intro untrimmed
    have found := examine_of_untrimmed untrimmed
    rw [usesBy_logged]
    simp only [uses, found, and_self]
  · rintro sources asker e s rfl
    exact entryUses_eq_usesBy sources asker e s

/-- A blank inside the whole but at the end of a part; a path with a blank; a tag that is empty
and so not there; and a blank that stands at the end, where all that is read would be valid. -/
theorem faulted_iff_not_valid_blanks :
    (∃ f ∈ UsesFinding.faults, uses "o /r@v1" (fun _ => .failed) = some f) ∧
      (usesBy "o/r/a b@v9" (logged fun _ => .revisionNotFound)).run [] =
        (some (.revisionNotFound "o/r" "v9"), [.parse "o/r/a b@v9"]) ∧
      (usesBy "docker://alpine:" (logged fun _ => .failed)).run [] = (none, []) ∧
      (Reference.parse "o/r@v1@ ").isValid = true ∧
      uses "o/r@v1@ " (fun _ => .failed) = some .untrimmed := by
  obtain ⟨fault, -, -⟩ :=
    (faulted_iff_not_valid "o /r@v1" fun _ => .failed).1 (by decide) (by decide)
  obtain ⟨-, path, -⟩ :=
    (faulted_iff_not_valid "o/r/a b@v9" fun _ => .revisionNotFound).1 (by decide) (by decide)
  obtain ⟨-, image, -⟩ :=
    (faulted_iff_not_valid "docker://alpine:" fun _ => .failed).1 (by decide) (by decide)
  have untrimmed := (faulted_iff_not_valid "o/r@v1@ " fun _ => .failed).2.1 (by decide)
  refine ⟨fault.2 (by decide), ?_, ?_, by decide, untrimmed.2⟩
  · rw [path]
    exact Prod.ext (by decide) (by decide)
  · rw [image]
    exact Prod.ext (by decide) (by decide)

end Check

end WorkflowLint
