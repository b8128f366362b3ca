/-
# WorkflowLint.Proofs.Reference.Grammar -- which hosted references are valid

A hosted reference that can be used as it stands is written `owner/repo@revision` or
`owner/repo/path@revision` (`HostedAction.Grammar`): two words of reference characters, a
path that is any trimmed text without `@`, and a word of revision characters, which is all
that follows the first `@`.

Every text of the grammar is valid (`Grammar.isValid`).  Not every valid text is of the
grammar: reading stops at a second `@` (`parse_second_mark`), so whatever follows it is
accepted with the rest.  These are the only ones (`isValid_iff_grammar`).
-/
import WorkflowLint.Proofs.Reference.Reading
import WorkflowLint.Proofs.Text.Blank

namespace WorkflowLint

set_option autoImplicit false

open Text (nonempty splitAll)

/-! ## Words -/

theorem isWord_iff {p : Char → Bool} {s : String} :
    isWord p s = true ↔ s ≠ "" ∧ ∀ c ∈ s.toList, p c = true := by
  simp [isWord]

theorem not_mem_of_isWord {p : Char → Bool} {s : String} {c : Char} (word : isWord p s = true)
    (excluded : p c = false) : c ∉ s.toList := by
  intro member
  have allowed := (isWord_iff.1 word).2 c member
  rw [excluded] at allowed
  cases allowed

/-- A word of reference characters holds no separator. -/
theorem clean_of_isWord {s : String} (word : isWord isReferenceChar s = true) :
    '/' ∉ s.toList ∧ '@' ∉ s.toList :=
  ⟨not_mem_of_isWord word (by decide), not_mem_of_isWord word (by decide)⟩

theorem isReferenceChar_eq (c : Char) :
    isReferenceChar c = (decide ('A' ≤ c ∧ c ≤ 'Z') || ('a' ≤ c && c ≤ 'z') ||
      ('0' ≤ c && c ≤ '9') || c == '.' || c == '_' || c == '-') :=
  rfl

theorem isReferenceChar_range {c : Char} (allowed : isReferenceChar c = true) :
    32 < c.toNat ∧ c.toNat < 128 := by
  simp [isReferenceChar_eq, Char.le_def, UInt32.le_iff_toNat_le] at allowed
  rcases allowed with ((alphanum | rfl) | rfl) | rfl
  · omega
  · decide
  · decide
  · decide

/-- The characters of references are no blanks. -/
theorem isBlank_of_isReferenceChar {c : Char} (allowed : isReferenceChar c = true) :
    Text.isBlank c = false := by
  have range := isReferenceChar_range allowed
  simp [Text.isBlank]
  omega

theorem isTrimmed_of_isWord {s : String} (word : isWord isReferenceChar s = true) :
    Text.IsTrimmed s :=
  Text.trim_of_no_blank fun c member => isBlank_of_isReferenceChar ((isWord_iff.1 word).2 c member)

namespace HostedAction

/-! ## The grammar -/

/-- How a hosted action that can be used as it stands is written. -/
inductive Grammar : String → Prop where
  | repository {owner repo revision : String} (ownerWord : isWord isReferenceChar owner = true)
      (repoWord : isWord isReferenceChar repo = true)
      (revisionWord : isWord isRevisionChar revision = true) :
      Grammar (owner ++ "/" ++ repo ++ "@" ++ revision)
  | below {owner repo path revision : String} (ownerWord : isWord isReferenceChar owner = true)
      (repoWord : isWord isReferenceChar repo = true) (pathUnmarked : '@' ∉ path.toList)
      (pathTrimmed : Text.IsTrimmed path) (revisionWord : isWord isRevisionChar revision = true) :
      Grammar (owner ++ "/" ++ repo ++ "/" ++ path ++ "@" ++ revision)

/-- A valid action has an owner, a repository and a revision of the right characters, and a
trimmed path if any. -/
theorem isValid_iff (a : HostedAction) :
    a.isValid false = true ↔
      ∃ repo revision, a.repo = some repo ∧ a.revision = some revision ∧
        isWord isReferenceChar a.owner = true ∧ isWord isReferenceChar repo = true ∧
        isWord isRevisionChar revision = true ∧
        ∀ path, a.path = some path → Text.IsTrimmed path := by
  cases a with
  | mk owner repo path revision =>
      cases repo with
      | none => simp [isValid]
      | some repo =>
          simp only [isValid, isRevisionValid, Bool.and_eq_true, Bool.false_or, decide_eq_true_eq,
            Option.any_eq_true, Option.all_eq_true]
          constructor
          · rintro ⟨⟨⟨⟨-, pathTrimmed⟩, text, rfl, revisionWord⟩, ownerWord⟩, repoWord⟩
            exact ⟨repo, text, rfl, rfl, ownerWord, repoWord, revisionWord, pathTrimmed⟩
          · rintro ⟨_, text, same, rfl, ownerWord, repoWord, revisionWord, pathTrimmed⟩
            cases same
            exact ⟨⟨⟨⟨⟨isTrimmed_of_isWord ownerWord, isTrimmed_of_isWord repoWord⟩, pathTrimmed⟩,
              text, rfl, revisionWord⟩, ownerWord⟩, repoWord⟩

/-- What follows a second `@` is not read. -/
theorem parse_second_mark {name revision : List Char} (unmarked : '@' ∉ name)
    (revisionClean : '@' ∉ revision) (rest : List Char) :
    parse (name ++ '@' :: (revision ++ '@' :: rest)) = parse (name ++ '@' :: revision) := by
  rw [parse_revision unmarked, parse_revision unmarked, Text.splitAll_append_cons revisionClean,
    Text.splitAll_of_not_mem revisionClean]
  rfl

/-- A text of the grammar holds one `@`, and it is valid. -/
theorem Grammar.spelling {t : String} (grammar : Grammar t) :
    ∃ name revision, '@' ∉ name ∧ '@' ∉ revision ∧ t.toList = name ++ '@' :: revision ∧
      (parse (name ++ '@' :: revision)).isValid false = true := by
  cases grammar with
  | @repository owner repo revision ownerWord repoWord revisionWord =>
      obtain ⟨ownerClean, ownerUnmarked⟩ := clean_of_isWord ownerWord
      obtain ⟨repoClean, repoUnmarked⟩ := clean_of_isWord repoWord
      have unmarked : '@' ∉ owner.toList ++ '/' :: repo.toList := by
        simp [ownerUnmarked, repoUnmarked]
      have revisionClean : '@' ∉ revision.toList := not_mem_of_isWord revisionWord (by decide)
      refine ⟨_, _, unmarked, revisionClean, by simp, ?_⟩
      rw [parse_revision unmarked, parse_repository unmarked ownerClean repoClean,
        Text.splitAll_of_not_mem revisionClean, isValid_iff]
      exact ⟨repo, revision, Text.nonempty_toList (isWord_iff.1 repoWord).1,
        Text.nonempty_toList (isWord_iff.1 revisionWord).1, by simpa using ownerWord, repoWord,
        revisionWord, nofun⟩
  | @below owner repo path revision ownerWord repoWord pathUnmarked pathTrimmed revisionWord =>
      obtain ⟨ownerClean, ownerUnmarked⟩ := clean_of_isWord ownerWord
      obtain ⟨repoClean, repoUnmarked⟩ := clean_of_isWord repoWord
      have unmarked : '@' ∉ owner.toList ++ '/' :: (repo.toList ++ '/' :: path.toList) := by
        simp [ownerUnmarked, repoUnmarked, pathUnmarked]
      have revisionClean : '@' ∉ revision.toList := not_mem_of_isWord revisionWord (by decide)
      refine ⟨_, _, unmarked, revisionClean, by simp, ?_⟩
      rw [parse_revision unmarked, parse_below unmarked ownerClean repoClean,
        Text.splitAll_of_not_mem revisionClean, isValid_iff]
      refine ⟨repo, revision, Text.nonempty_toList (isWord_iff.1 repoWord).1,
        Text.nonempty_toList (isWord_iff.1 revisionWord).1, by simpa using ownerWord, repoWord,
        revisionWord, fun part given => ?_⟩
      rwa [String.toList_inj.1 (part_of_nonempty given).2]

/-- A text with one `@` is of the grammar if it is valid. -/
theorem grammar_of_isValid {name revision : List Char} (unmarked : '@' ∉ name)
    (revisionClean : '@' ∉ revision)
    (valid : (parse (name ++ '@' :: revision)).isValid false = true) :
    Grammar (.ofList (name ++ '@' :: revision)) := by
  rw [parse_revision unmarked, Text.splitAll_of_not_mem revisionClean, isValid_iff] at valid
  obtain ⟨repo, text, named, given, ownerWord, repoWord, revisionWord, pathTrimmed⟩ := valid
  have sameRevision : text.toList = revision := (part_of_nonempty given).2
  cases shape name with
  | owner ownerClean =>
      rw [parse_owner unmarked ownerClean] at named
      cases named
  | @repository owner repo' ownerClean repoClean =>
      rw [parse_repository unmarked ownerClean repoClean] at named ownerWord
      have sameRepo : repo.toList = repo' := (part_of_nonempty named).2
      have grammar := Grammar.repository ownerWord repoWord revisionWord
      have written : (String.ofList owner ++ "/" ++ repo ++ "@" ++ text).toList =
          owner ++ '/' :: repo' ++ '@' :: revision := by simp [sameRepo, sameRevision]
      rwa [← written, String.ofList_toList]
  | @below owner repo' path ownerClean repoClean =>
      rw [parse_below unmarked ownerClean repoClean] at named ownerWord pathTrimmed
      have sameRepo : repo.toList = repo' := (part_of_nonempty named).2
      have trimmed : Text.IsTrimmed (.ofList path) := by
        cases path with
        | nil => rfl
        | cons c cs => exact pathTrimmed _ rfl
      have pathUnmarked : '@' ∉ (String.ofList path).toList := by
        simp only [List.mem_append, List.mem_cons, not_or] at unmarked
        rw [String.toList_ofList]
        exact unmarked.2.2.2.2
      have grammar := Grammar.below ownerWord repoWord pathUnmarked trimmed revisionWord
      have written :
          (String.ofList owner ++ "/" ++ repo ++ "/" ++ .ofList path ++ "@" ++ text).toList =
            owner ++ '/' :: (repo' ++ '/' :: path) ++ '@' :: revision := by
        simp [sameRepo, sameRevision]
      rwa [← written, String.ofList_toList]

/-- A text of the grammar has one `@`. -/
theorem Grammar.count_mark {t : String} (grammar : Grammar t) : t.toList.count '@' = 1 := by
  obtain ⟨name, revision, unmarked, revisionClean, same, -⟩ := grammar.spelling
  rw [same, List.count_append, List.count_cons_self, List.count_eq_zero.2 unmarked,
    List.count_eq_zero.2 revisionClean]

/-- What is valid is a text of the grammar, and perhaps a second `@` and anything after it. -/
theorem isValid_parse_iff (text : String) :
    (parse text.toList).isValid false = true ↔
      ∃ t, Grammar t ∧ (text = t ∨ ∃ rest, text = t ++ "@" ++ rest) := by
  constructor
  · intro valid
    rcases Text.not_mem_or_cut '@' text.toList with unmarked | ⟨name, tail, unmarked, same⟩
    · obtain ⟨-, revision, -, given, -⟩ := (isValid_iff _).1 valid
      rw [parse_name_revision unmarked] at given
      cases given
    · rw [same] at valid
      rcases Text.not_mem_or_cut '@' tail with clean | ⟨revision, rest, clean, rfl⟩
      · refine ⟨_, grammar_of_isValid unmarked clean valid, Or.inl ?_⟩
        rw [← same, String.ofList_toList]
      · rw [parse_second_mark unmarked clean] at valid
        refine ⟨_, grammar_of_isValid unmarked clean valid, Or.inr ⟨.ofList rest, ?_⟩⟩
        rw [← String.toList_inj, same]
        simp
  · rintro ⟨t, grammar, written⟩
    obtain ⟨name, revision, unmarked, revisionClean, same, valid⟩ := grammar.spelling
    rcases written with rfl | ⟨rest, rfl⟩
    · rwa [same]
    · have twice : (t ++ "@" ++ rest).toList = name ++ '@' :: (revision ++ '@' :: rest.toList) := by
        simp [same]
      rwa [twice, parse_second_mark unmarked revisionClean]

end HostedAction

namespace Reference

open HostedAction (Grammar)

/-- **Which hosted references are valid.**  A text that is marked neither as an image nor as
a local path is valid exactly when it is of the grammar, or of the grammar up to a second
`@`.  So it is where a second `@` follows a text of the grammar, and nowhere else, that
validity and the grammar differ. -/
theorem isValid_iff_grammar (text : String)
    (notImage : ¬ ContainerImage.mark.toList <+: text.toList)
    (notLocal : ¬ localMark.toList <+: text.toList) :
    ((parse text).isValid = true ↔
        ∃ t, Grammar t ∧ (text = t ∨ ∃ rest, text = t ++ "@" ++ rest)) ∧
      (((parse text).isValid = true ↔ Grammar text) ↔
        ¬ ∃ t rest, Grammar t ∧ text = t ++ "@" ++ rest) := by
  have hosted : parse text = .hosted (.parse text.toList) :=
    parse_eq_hosted_iff.2 ⟨notImage, notLocal, rfl⟩
  have valid : (parse text).isValid = true ↔
      ∃ t, Grammar t ∧ (text = t ∨ ∃ rest, text = t ++ "@" ++ rest) := by
    rw [hosted]
    exact HostedAction.isValid_parse_iff text
  refine ⟨valid, ?_⟩
  rw [valid]
  constructor
  · rintro same ⟨t, rest, grammar, rfl⟩
    have oneMark := (same.1 ⟨t, grammar, Or.inr ⟨rest, rfl⟩⟩).count_mark
    simp [List.count_append, grammar.count_mark] at oneMark
  · intro alone
    constructor
    · rintro ⟨t, grammar, rfl | ⟨rest, same⟩⟩
      · exact grammar
      · exact absurd ⟨t, rest, grammar, same⟩ alone
    · exact fun grammar => ⟨text, grammar, Or.inl rfl⟩

/-- Slashes and blanks in the path, slashes in the revision. -/
theorem isValid_iff_grammar_below :
    let text := "my-owner/my.action/a//path with spaces@versions/v1-2.3"
    (¬ ContainerImage.mark.toList <+: text.toList ∧ ¬ localMark.toList <+: text.toList) ∧
      (parse text).isValid = true ∧ Grammar text := by
  intro text
  have marks : ¬ ContainerImage.mark.toList <+: text.toList ∧ ¬ localMark.toList <+: text.toList := by
    decide
  have grammar : Grammar text :=
    @Grammar.below "my-owner" "my.action" "a//path with spaces" "versions/v1-2.3" (by decide)
      (by decide) (by decide) (by decide) (by decide)
  refine ⟨marks, ?_, grammar⟩
  exact (isValid_iff_grammar text marks.1 marks.2).1.2 ⟨text, grammar, Or.inl rfl⟩

/-- **What follows a second `@` is accepted unread**, a blank at the end of the text
included; so not every valid text is of the grammar. -/
theorem second_mark_is_accepted :
    let text := "owner/action@main@v2 "
    (¬ ContainerImage.mark.toList <+: text.toList ∧ ¬ localMark.toList <+: text.toList) ∧
      (parse text).isValid = true ∧ ¬ Grammar text ∧
      ¬ ∀ text : String, ¬ ContainerImage.mark.toList <+: text.toList →
        ¬ localMark.toList <+: text.toList → ((parse text).isValid = true ↔ Grammar text) := by
  intro text
  have marks : ¬ ContainerImage.mark.toList <+: text.toList ∧ ¬ localMark.toList <+: text.toList := by
    decide
  have valid : (parse text).isValid = true := by decide
  have other : ¬ Grammar text := by
    intro grammar
    have once := grammar.count_mark
    revert once
    decide
  exact ⟨marks, valid, other, fun same => other ((same text marks.1 marks.2).1 valid)⟩

end Reference

end WorkflowLint
