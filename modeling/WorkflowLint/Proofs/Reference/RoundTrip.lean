/-
# WorkflowLint.Proofs.Reference.RoundTrip -- references read back from their text

The text of a reference is read as the reference again, with one exception: a hosted
action with a path but without a repository (`OmitsRepo`), as `owner//path` is read.  The
text of it has lost the empty piece, so what was the start of the path is now the
repository.

The text of a hosted action is its name (`nameText`) and its revision, and the name of a
clean action has the shape that its parts were read from (`Clean.parse_nameText`).  That
the text is not marked as an image or a local path is a matter of what stands before its
first slash (`Clean.before_slash`).
-/
import WorkflowLint.Proofs.Reference.Reading

namespace WorkflowLint

set_option autoImplicit false

open Text (nonempty splitAll)

namespace HostedAction

/-- A path is given, but no repository that it could be in. -/
def OmitsRepo (a : HostedAction) : Prop := a.repo = none ∧ a.path.isSome = true

instance (a : HostedAction) : Decidable a.OmitsRepo := inferInstanceAs (Decidable (_ ∧ _))

/-- The text of an action up to its revision. -/
def nameText (a : HostedAction) : List Char :=
  a.owner.toList ++
    ((a.repo.map ('/' :: ·.toList)).getD [] ++ (a.path.map ('/' :: ·.toList)).getD [])

theorem toList_display (a : HostedAction) :
    a.display.toList = a.nameText ++ (a.revision.map ('@' :: ·.toList)).getD [] := by
  cases a with
  | mk owner repo path revision =>
      cases repo <;> cases path <;> cases revision <;> simp [display, nameText]

variable {a : HostedAction}

theorem Clean.mark_not_mem_nameText (clean : a.Clean) : '@' ∉ a.nameText := by
  intro member
  simp only [nameText, List.mem_append] at member
  rcases member with inOwner | inRepo | inPath
  · exact clean.owner_mark inOwner
  · cases named : a.repo with
    | none => simp [named] at inRepo
    | some repo => simp [named, (clean.repo repo named).2.2] at inRepo
  · cases given : a.path with
    | none => simp [given] at inPath
    | some path => simp [given, (clean.path path given).2] at inPath

/-- The revision is read back, whatever becomes of the name. -/
theorem Clean.parse_display (clean : a.Clean) :
    parse a.display.toList = { parse a.nameText with revision := a.revision } := by
  have unmarked := clean.mark_not_mem_nameText
  rw [toList_display]
  cases given : a.revision with
  | none =>
      rw [Option.map_none, Option.getD_none, List.append_nil]
      exact congrArg (fun revision => { parse a.nameText with revision })
        (parse_name_revision unmarked)
  | some revision =>
      obtain ⟨nonempty, revisionClean⟩ := clean.revision revision given
      simp only [Option.map_some, Option.getD_some]
      rw [parse_revision unmarked, Text.splitAll_of_not_mem revisionClean, List.headD_cons,
        Text.nonempty_toList nonempty]

/-- The name of an action is read back unless its repository is omitted. -/
theorem Clean.parse_nameText (clean : a.Clean) (spelled : ¬ a.OmitsRepo) :
    parse a.nameText = { a with revision := none } := by
  have unmarked := clean.mark_not_mem_nameText
  have ownerClean := clean.owner_slash
  cases a with
  | mk owner repo path revision =>
      cases repo with
      | none =>
          cases path with
          | none =>
              have same : nameText ⟨owner, none, none, revision⟩ = owner.toList := by simp [nameText]
              rw [same] at unmarked ⊢
              rw [parse_owner unmarked ownerClean, String.ofList_toList]
          | some path => exact absurd ⟨rfl, rfl⟩ spelled
      | some repo =>
          obtain ⟨repoGiven, repoClean, -⟩ := clean.repo repo rfl
          cases path with
          | none =>
              have same : nameText ⟨owner, some repo, none, revision⟩ =
                  owner.toList ++ '/' :: repo.toList := by simp [nameText]
              rw [same] at unmarked ⊢
              rw [parse_repository unmarked ownerClean repoClean, String.ofList_toList,
                Text.nonempty_toList repoGiven]
          | some path =>
              obtain ⟨pathGiven, -⟩ := clean.path path rfl
              have same : nameText ⟨owner, some repo, some path, revision⟩ =
                  owner.toList ++ '/' :: (repo.toList ++ '/' :: path.toList) := by simp [nameText]
              rw [same] at unmarked ⊢
              rw [parse_below unmarked ownerClean repoClean, String.ofList_toList,
                Text.nonempty_toList repoGiven, Text.nonempty_toList pathGiven]

/-- Where the repository is omitted, the name is read as another action. -/
theorem Clean.parse_nameText_ne (clean : a.Clean) (omits : a.OmitsRepo) :
    (parse a.nameText).repo ≠ a.repo ∨ (parse a.nameText).path ≠ a.path := by
  have unmarked := clean.mark_not_mem_nameText
  have ownerClean := clean.owner_slash
  obtain ⟨missing, given⟩ := omits
  obtain ⟨path, given⟩ := Option.isSome_iff_exists.1 given
  have same : a.nameText = a.owner.toList ++ '/' :: path.toList := by
    simp [nameText, missing, given]
  rw [same] at unmarked ⊢
  rw [missing, given]
  rcases Text.not_mem_or_cut '/' path.toList with pathClean | ⟨first, rest, firstClean, cut⟩
  · have readAsRepo := parse_repository unmarked ownerClean pathClean
    rw [readAsRepo, Text.nonempty_toList (clean.path path given).1]
    exact Or.inl (Option.some_ne_none path)
  · rw [cut] at unmarked ⊢
    rw [parse_below unmarked ownerClean firstClean]
    refine Or.inr fun read => ?_
    have shorter := congrArg List.length ((part_of_nonempty read).2.symm.trans cut)
    rw [List.length_append, List.length_cons] at shorter
    omega

theorem Clean.parse_display_eq_iff (clean : a.Clean) :
    parse a.display.toList = a ↔ ¬ a.OmitsRepo := by
  constructor
  · intro read omits
    rw [clean.parse_display] at read
    rcases clean.parse_nameText_ne omits with other | other
    · exact other (congrArg HostedAction.repo read :)
    · exact other (congrArg HostedAction.path read :)
  · intro spelled
    rw [clean.parse_display, clean.parse_nameText spelled]

/-! ## Marks -/

/-- What stands before the first slash of a text is the owner, and after it comes the
repository. -/
theorem Clean.before_slash (clean : a.Clean) (spelled : ¬ a.OmitsRepo) {word more : List Char}
    (wordClean : '/' ∉ word) (unmarked : '@' ∉ word)
    (starts : word ++ '/' :: more <+: a.display.toList) :
    a.owner.toList = word ∧
      ∃ repo tail, a.repo = some repo ∧ more <+: repo.toList ++ tail := by
  obtain ⟨rest, same⟩ := starts
  rw [toList_display, List.append_assoc, List.cons_append] at same
  cases named : a.repo with
  | none =>
      have noPath : a.path = none := by
        cases given : a.path with
        | none => rfl
        | some path => exact absurd ⟨named, by rw [given]; rfl⟩ spelled
      have ownerOnly : a.nameText = a.owner.toList := by simp [nameText, named, noPath]
      rw [ownerOnly] at same
      cases given : a.revision with
      | none =>
          have slash : '/' ∈ a.owner.toList := by simp [given] at same; simp [← same]
          exact absurd slash clean.owner_slash
      | some revision =>
          rw [given] at same
          exact absurd same (Text.cut_ne (by decide) unmarked clean.owner_slash)
  | some repo =>
      have named' : a.nameText =
          a.owner.toList ++ '/' :: (repo.toList ++ (a.path.map ('/' :: ·.toList)).getD []) := by
        simp [nameText, named]
      rw [named', List.append_assoc, List.cons_append, List.append_assoc] at same
      obtain ⟨owner, tail⟩ := Text.append_cons_inj_of_not_mem wordClean clean.owner_slash same
      exact ⟨owner.symm, repo, _, rfl, rest, tail⟩

/-- The text of a hosted action is marked neither as an image nor as a local path. -/
theorem Clean.display_unmarked (clean : a.Clean) (spelled : ¬ a.OmitsRepo)
    (notDot : a.owner = "." → a.repo = none) :
    ¬ ContainerImage.mark.toList <+: a.display.toList ∧
      ¬ Reference.localMark.toList <+: a.display.toList := by
  constructor
  · intro marked
    have starts : "docker:".toList ++ '/' :: ['/'] <+: a.display.toList := marked
    obtain ⟨-, repo, tail, named, slash⟩ :=
      clean.before_slash spelled (by decide) (by decide) starts
    obtain ⟨given, repoClean, -⟩ := clean.repo repo named
    cases chars : repo.toList with
    | nil => exact given (String.toList_eq_nil_iff.1 chars)
    | cons c cs =>
        rw [chars, List.cons_append, List.cons_prefix_cons] at slash
        rw [chars, slash.1] at repoClean
        exact repoClean List.mem_cons_self
  · intro marked
    have starts : ".".toList ++ '/' :: [] <+: a.display.toList := marked
    obtain ⟨owner, repo, -, named, -⟩ :=
      clean.before_slash spelled (by decide) (by decide) starts
    exact Option.some_ne_none repo (named.symm.trans (notDot (String.toList_inj.1 owner)))

end HostedAction

namespace ContainerImage

def bodyText (i : ContainerImage) : List Char :=
  i.name.toList ++ (i.tag.map (':' :: ·.toList)).getD []

theorem toList_display (i : ContainerImage) : i.display.toList = mark.toList ++ i.bodyText := by
  cases i with
  | mk name tag => cases tag <;> simp [display, bodyText]

/-- What is read as an image is read back from the text of the image. -/
theorem parse_bodyText (cs : List Char) : parse (parse cs).bodyText = parse cs := by
  rcases Text.not_mem_or_cut ':' cs with clean | ⟨name, tag, clean, rfl⟩
  · rw [parse_untagged clean]
    simpa [bodyText] using parse_untagged clean
  · rw [parse_tagged clean]
    cases given : nonempty tag with
    | none => simpa [bodyText] using parse_untagged clean
    | some text =>
        have same := (Text.nonempty_eq_some_iff.1 given).2
        simpa [bodyText, same, given] using parse_tagged clean tag

end ContainerImage

namespace Reference

def OmitsRepo : Reference → Prop
  | .hosted a => a.OmitsRepo
  | _ => False

instance : DecidablePred OmitsRepo
  | .hosted a => inferInstanceAs (Decidable a.OmitsRepo)
  | .image _ | .localPath _ => inferInstanceAs (Decidable False)

/-- What is read as a hosted action is clean, and has no repository below the owner `.`, which
is how local paths start. -/
theorem clean_of_parse {text : String} {a : HostedAction} (read : parse text = .hosted a) :
    a.Clean ∧ (a.owner = "." → a.repo = none) := by
  obtain ⟨-, notLocal, rfl⟩ := parse_eq_hosted_iff.1 read
  refine ⟨HostedAction.parse_clean _, fun dot => ?_⟩
  cases named : (HostedAction.parse text.toList).repo with
  | none => rfl
  | some repo =>
      have starts := HostedAction.prefix_of_parse_repo named
      rw [dot] at starts
      exact absurd ((List.prefix_append ['.', '/'] repo.toList).trans starts) notLocal

/-- A clean action is read back from its text unless it omits its repository. -/
theorem parse_display_hosted {a : HostedAction} (clean : a.Clean)
    (notDot : a.owner = "." → a.repo = none) :
    parse a.display = .hosted a ↔ ¬ a.OmitsRepo := by
  constructor
  · intro read
    exact clean.parse_display_eq_iff.1 (parse_eq_hosted_iff.1 read).2.2
  · intro spelled
    obtain ⟨notImage, notLocal⟩ := clean.display_unmarked spelled notDot
    exact parse_eq_hosted_iff.2 ⟨notImage, notLocal, clean.parse_display_eq_iff.2 spelled⟩

/-- An action with a repository does not omit it. -/
theorem not_omitsRepo_of_isNamed {r : Reference} (named : r.isNamed = true) : ¬ r.OmitsRepo := by
  cases r with
  | hosted a =>
      rintro ⟨missing, -⟩
      have valid : a.isValid true = true := named
      simp [HostedAction.isValid, missing] at valid
  | image i => exact id
  | localPath path => exact id

/-- A reference that was read is read back from its text unless it omits its repository. -/
theorem parse_display_parse (text : String) :
    parse (parse text).display = parse text ↔ ¬ (parse text).OmitsRepo := by
  cases read : parse text with
  | hosted a =>
      obtain ⟨clean, notDot⟩ := clean_of_parse read
      exact parse_display_hosted clean notDot
  | image i =>
      obtain ⟨rest, -, rfl⟩ := marked_of_parse_image read
      refine iff_of_true ?_ id
      have body := parse_of_image (ContainerImage.toList_display (.parse rest))
      rwa [ContainerImage.parse_bodyText] at body
  | localPath path =>
      obtain rfl := eq_of_parse_localPath read
      exact iff_of_true read id

/-- **References are read back from their text.**  What was read from any text is read again
from its display exactly when it is not a hosted action that has a path but no repository.
So it is for every image, every local path and every reference that is named well, and
displaying what is read then changes nothing more.  Putting another revision into a hosted
action that is read back gives an action that is read back. -/
theorem read_back_from_display (text : String) :
    let r := parse text
    (parse r.display = r ↔ ¬ r.OmitsRepo) ∧
      (r.isImage = true ∨ r.isLocal = true ∨ r.isNamed = true →
        parse r.display = r ∧ (parse r.display).display = r.display) ∧
      (r.hosted?.isSome = true → r.isNamed = true ∨ parse r.display = r →
        ∀ revision : String, revision ≠ "" → '@' ∉ revision.toList →
          ∃ moved, r.atRevision revision = some moved ∧ parse moved.display = moved) := by
  intro r
  have readBack : parse r.display = r ↔ ¬ r.OmitsRepo := parse_display_parse text
  refine ⟨readBack, fun kind => ?_, fun isHosted given revision nonempty unmarked => ?_⟩
  · have spelled : ¬ r.OmitsRepo := by
      cases same : r with
      | hosted a =>
          rw [same] at kind
          rcases kind with image | localPath | named
          · cases image
          · cases localPath
          · exact not_omitsRepo_of_isNamed named
      | image i | localPath path => exact id
    have same := readBack.2 spelled
    exact ⟨same, congrArg display same⟩
  · cases hosted : r with
    | image i | localPath path => rw [hosted] at isHosted; cases isHosted
    | hosted a =>
        have spelled : ¬ r.OmitsRepo := given.elim not_omitsRepo_of_isNamed readBack.1
        rw [hosted] at spelled
        obtain ⟨clean, notDot⟩ := clean_of_parse hosted
        have cleanAt : (a.atRevision revision).Clean :=
          { clean with revision := fun other given => by cases given; exact ⟨nonempty, unmarked⟩ }
        exact ⟨.hosted (a.atRevision revision), rfl, (parse_display_hosted cleanAt notDot).2 spelled⟩

/-- Empty pieces, a second `@` and slashes in the revision; and a path without repository. -/
theorem read_back_from_display_crowded :
    let a : HostedAction := ⟨"owner", some "repo", some "/x/", some "a/b"⟩
    parse "owner/repo//x/@a/b@c" = .hosted a ∧ parse "owner/repo//x/@a/b" = .hosted a ∧
      (∃ moved, (Reference.hosted a).atRevision "v 2" = some moved ∧
        parse moved.display = moved) ∧
      parse (parse "owner//x").display ≠ parse "owner//x" := by
  intro a
  have read : parse "owner/repo//x/@a/b@c" = .hosted a := by decide
  obtain ⟨-, named, moving⟩ := read_back_from_display "owner/repo//x/@a/b@c"
  have back := (named (Or.inr (Or.inr (by decide)))).1
  have moved := moving (by decide) (Or.inr back) "v 2" (by decide) (by decide)
  rw [read] at back moved
  refine ⟨read, back, moved, ?_⟩
  intro same
  exact (read_back_from_display "owner//x").1.1 same (by decide)

end Reference

end WorkflowLint
