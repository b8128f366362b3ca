/-
# WorkflowLint.Proofs.Reference.Reading -- what a `uses` text is read as

What stands before the first `@` is the name of a hosted action.  A name has one of three
shapes: an owner, a repository of it, or a path below that (`Shape`), and reading it takes
it apart at just these slashes (`parse_owner`, `parse_repository`, `parse_below`).  What
follows the `@` is the revision up to a further `@` (`parse_revision`).

Whatever the text, the parts that are read hold no separator of their own and are never
empty (`parse_clean`).
-/
import WorkflowLint.Proofs.Text.Split
import WorkflowLint.Reference

namespace WorkflowLint

set_option autoImplicit false

open Text (nonempty splitAll)

namespace HostedAction

/-! ## Names -/

/-- The shapes of a name.  Neither an owner nor a repository holds a slash. -/
inductive Shape : List Char → Prop where
  | owner {owner : List Char} (ownerClean : '/' ∉ owner) : Shape owner
  | repository {owner repo : List Char} (ownerClean : '/' ∉ owner) (repoClean : '/' ∉ repo) :
      Shape (owner ++ '/' :: repo)
  | below {owner repo : List Char} (path : List Char) (ownerClean : '/' ∉ owner)
      (repoClean : '/' ∉ repo) : Shape (owner ++ '/' :: (repo ++ '/' :: path))

/-- Every text has one of the shapes. -/
theorem shape (name : List Char) : Shape name := by
  rcases Text.not_mem_or_cut '/' name with clean | ⟨owner, tail, ownerClean, rfl⟩
  · exact .owner clean
  · rcases Text.not_mem_or_cut '/' tail with clean | ⟨repo, path, repoClean, rfl⟩
    · exact .repository ownerClean clean
    · exact .below path ownerClean repoClean

section Parse

variable {name owner repo path : List Char}

theorem parse_owner (unmarked : '@' ∉ owner) (ownerClean : '/' ∉ owner) :
    parse owner = ⟨.ofList owner, none, none, none⟩ := by
  simp [parse, Text.splitAll_of_not_mem unmarked, Text.splitAll_of_not_mem ownerClean,
    Text.joinWith]

theorem parse_repository (unmarked : '@' ∉ owner ++ '/' :: repo) (ownerClean : '/' ∉ owner)
    (repoClean : '/' ∉ repo) :
    parse (owner ++ '/' :: repo) = ⟨.ofList owner, nonempty repo, none, none⟩ := by
  simp [parse, Text.splitAll_of_not_mem unmarked, Text.splitAll_append_cons ownerClean,
    Text.splitAll_of_not_mem repoClean, Text.joinWith]

theorem parse_below (unmarked : '@' ∉ owner ++ '/' :: (repo ++ '/' :: path))
    (ownerClean : '/' ∉ owner) (repoClean : '/' ∉ repo) :
    parse (owner ++ '/' :: (repo ++ '/' :: path)) =
      ⟨.ofList owner, nonempty repo, nonempty path, none⟩ := by
  simp [parse, Text.splitAll_of_not_mem unmarked, Text.splitAll_append_cons ownerClean,
    Text.splitAll_append_cons repoClean, Text.joinWith_splitAll]

/-- A name alone has no revision. -/
theorem parse_name_revision (unmarked : '@' ∉ name) : (parse name).revision = none := by
  simp [parse, Text.splitAll_of_not_mem unmarked]

/-- What follows a name after an `@` is the revision, up to a further `@`. -/
theorem parse_revision (unmarked : '@' ∉ name) (rest : List Char) :
    parse (name ++ '@' :: rest) =
      { parse name with revision := nonempty ((splitAll '@' rest).headD []) } := by
  have first : (splitAll '@' rest)[0]? = some ((splitAll '@' rest).headD []) := by
    cases pieces : splitAll '@' rest with
    | nil => exact absurd pieces (Text.splitAll_ne_nil '@' rest)
    | cons piece pieces' => rfl
  simp [parse, Text.splitAll_of_not_mem unmarked, Text.splitAll_append_cons unmarked, first]

end Parse

/-! ## Parts -/

/-- No part holds a separator of its own, and no part that is given is empty. -/
structure Clean (a : HostedAction) : Prop where
  owner_slash : '/' ∉ a.owner.toList
  owner_mark : '@' ∉ a.owner.toList
  repo : ∀ repo, a.repo = some repo → repo ≠ "" ∧ '/' ∉ repo.toList ∧ '@' ∉ repo.toList
  path : ∀ path, a.path = some path → path ≠ "" ∧ '@' ∉ path.toList
  revision : ∀ revision, a.revision = some revision → revision ≠ "" ∧ '@' ∉ revision.toList

/-- A part that is read is not empty, and holds what its piece of the text holds. -/
theorem part_of_nonempty {piece : List Char} {part : String} (read : nonempty piece = some part) :
    part ≠ "" ∧ part.toList = piece := by
  obtain ⟨given, same⟩ := Text.nonempty_eq_some_iff.1 read
  refine ⟨fun empty => given ?_, same⟩
  rw [← same, empty, String.toList_empty]

theorem parse_name_clean {name : List Char} (unmarked : '@' ∉ name) : (parse name).Clean := by
  cases shape name with
  | owner ownerClean =>
      rw [parse_owner unmarked ownerClean]
      exact ⟨by simpa using ownerClean, by simpa using unmarked, nofun, nofun, nofun⟩
  | @repository owner repo ownerClean repoClean =>
      rw [parse_repository unmarked ownerClean repoClean]
      simp only [List.mem_append, List.mem_cons, not_or] at unmarked
      refine ⟨by simpa using ownerClean, by simpa using unmarked.1, fun part read => ?_, nofun, nofun⟩
      obtain ⟨given, same⟩ := part_of_nonempty read
      rw [same]
      exact ⟨given, repoClean, unmarked.2.2⟩
  | @below owner repo path ownerClean repoClean =>
      rw [parse_below unmarked ownerClean repoClean]
      simp only [List.mem_append, List.mem_cons, not_or] at unmarked
      refine ⟨by simpa using ownerClean, by simpa using unmarked.1, fun part read => ?_,
        fun part read => ?_, nofun⟩
      · obtain ⟨given, same⟩ := part_of_nonempty read
        rw [same]
        exact ⟨given, repoClean, unmarked.2.2.1⟩
      · obtain ⟨given, same⟩ := part_of_nonempty read
        rw [same]
        exact ⟨given, unmarked.2.2.2.2⟩

/-- The parts of a text that is read are clean. -/
theorem parse_clean (cs : List Char) : (parse cs).Clean := by
  rcases Text.not_mem_or_cut '@' cs with unmarked | ⟨name, rest, unmarked, rfl⟩
  · exact parse_name_clean unmarked
  · rw [parse_revision unmarked]
    refine { parse_name_clean unmarked with revision := fun part read => ?_ }
    obtain ⟨given, same⟩ := part_of_nonempty read
    rw [same]
    exact ⟨given, Text.headD_splitAll_not_mem '@' rest⟩

theorem prefix_of_parse_name_repo {name : List Char} {repo : String} (unmarked : '@' ∉ name)
    (named : (parse name).repo = some repo) :
    (parse name).owner.toList ++ '/' :: repo.toList <+: name := by
  cases shape name with
  | owner ownerClean => simp [parse_owner unmarked ownerClean] at named
  | repository ownerClean repoClean =>
      rw [parse_repository unmarked ownerClean repoClean] at named ⊢
      rw [(part_of_nonempty named).2]
      simp
  | below path ownerClean repoClean =>
      rw [parse_below unmarked ownerClean repoClean] at named ⊢
      rw [(part_of_nonempty named).2]
      simp

/-- A text that names a repository starts with its owner, a slash and the repository. -/
theorem prefix_of_parse_repo {cs : List Char} {repo : String} (named : (parse cs).repo = some repo) :
    (parse cs).owner.toList ++ '/' :: repo.toList <+: cs := by
  rcases Text.not_mem_or_cut '@' cs with unmarked | ⟨name, rest, unmarked, rfl⟩
  · exact prefix_of_parse_name_repo unmarked named
  · rw [parse_revision unmarked] at named ⊢
    exact (prefix_of_parse_name_repo unmarked named).trans (List.prefix_append _ _)

end HostedAction

namespace ContainerImage

variable {name : List Char}

theorem parse_untagged (clean : ':' ∉ name) : parse name = ⟨.ofList name, none⟩ := by
  simp only [parse, Text.splitOnce_of_not_mem clean]

theorem parse_tagged (clean : ':' ∉ name) (tag : List Char) :
    parse (name ++ ':' :: tag) = ⟨.ofList name, nonempty tag⟩ := by
  simp only [parse, Text.splitOnce_append_cons clean]

end ContainerImage

namespace Reference

/-! ## The three kinds of references -/

theorem parse_of_image {text : String} {rest : List Char}
    (marked : text.toList = ContainerImage.mark.toList ++ rest) :
    parse text = .image (.parse rest) := by
  have found : ContainerImage.mark.toList.isPrefixOf? text.toList = some rest :=
    List.isPrefixOf?_eq_some_iff_append_eq.2 marked.symm
  simp only [parse, found]

theorem parse_of_unmarked {text : String}
    (notImage : ¬ ContainerImage.mark.toList <+: text.toList) :
    parse text =
      if localMark.toList <+: text.toList then .localPath text
      else .hosted (.parse text.toList) := by
  have missing : ContainerImage.mark.toList.isPrefixOf? text.toList = none := by
    rw [← Option.not_isSome_iff_eq_none, List.isSome_isPrefixOf?_eq_isPrefixOf,
      List.isPrefixOf_iff_prefix]
    exact notImage
  simp only [parse, missing, List.isPrefixOf_iff_prefix]

/-- An image is read from what follows its mark. -/
theorem marked_of_parse_image {text : String} {i : ContainerImage} (read : parse text = .image i) :
    ∃ rest, text.toList = ContainerImage.mark.toList ++ rest ∧ i = .parse rest := by
  by_cases marked : ContainerImage.mark.toList <+: text.toList
  · obtain ⟨rest, same⟩ := marked
    rw [parse_of_image same.symm] at read
    cases read
    exact ⟨rest, same.symm, rfl⟩
  · rw [parse_of_unmarked marked] at read
    split at read <;> cases read

/-- A local path is the text itself. -/
theorem eq_of_parse_localPath {text path : String} (read : parse text = .localPath path) :
    path = text := by
  by_cases marked : ContainerImage.mark.toList <+: text.toList
  · obtain ⟨rest, same⟩ := marked
    rw [parse_of_image same.symm] at read
    cases read
  · rw [parse_of_unmarked marked] at read
    split at read
    · cases read
      rfl
    · cases read

/-- A hosted action is what is marked neither as an image nor as a local path. -/
theorem parse_eq_hosted_iff {text : String} {a : HostedAction} :
    parse text = .hosted a ↔
      ¬ ContainerImage.mark.toList <+: text.toList ∧ ¬ localMark.toList <+: text.toList ∧
        .parse text.toList = a := by
  constructor
  · intro read
    by_cases marked : ContainerImage.mark.toList <+: text.toList
    · obtain ⟨rest, same⟩ := marked
      rw [parse_of_image same.symm] at read
      cases read
    · rw [parse_of_unmarked marked] at read
      split at read
      · cases read
      · cases read
        exact ⟨marked, ‹_›, rfl⟩
  · rintro ⟨notImage, notLocal, rfl⟩
    rw [parse_of_unmarked notImage, if_neg notLocal]

end Reference

end WorkflowLint
