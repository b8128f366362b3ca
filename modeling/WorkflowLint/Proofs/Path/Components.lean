/-
# WorkflowLint.Proofs.Path.Components -- what is done to a text, said of the steps

Parents, file names and joined paths are taken from the text of a path.  Here they are said of its
steps: a path with a step that is not the root has a parent, which lacks that step and nothing
else (`components_of_parent?`, `exists_parent?`); a path has a file name if its last step is a name
(`fileName?_eq_some_iff`); and a path that is joined to another one adds its steps to those of the
other (`components_join`).  Without the mark of the current directory the steps are a `route`, which
goes on from any directory in the same way (`route_join`).

What makes this work is that a text may be cut, or lengthened, where a slash stands without a
change to how it starts (`cutLead_joinWith`, `cutLead_append`), and that pieces without a meaning
make no step (`filterMap_withoutFillers`).
-/
import Mathlib.Data.List.DropRight
import WorkflowLint.Path
import WorkflowLint.Proofs.Text.Split

namespace WorkflowLint.Path

set_option autoImplicit false

open Text (joinWith splitAll)

variable {cs lead rest tail : List Char} {ps others : List (List Char)}

/-! ## Leads -/

/-- The leads of a text: the root, the current directory, or none. -/
theorem cutLead_cases (cs : List Char) :
    (∃ rest, cs = '/' :: rest ∧ cutLead cs = (['/'], rest)) ∨
      (cs = ['.'] ∧ cutLead cs = (['.'], [])) ∨
      (∃ rest, cs = '.' :: '/' :: rest ∧ cutLead cs = (['.'], '/' :: rest)) ∨
      ((cs.head? ≠ some '/' ∧ cs ≠ ['.'] ∧ ¬ ['.', '/'] <+: cs) ∧ cutLead cs = ([], cs)) := by
  unfold cutLead
  split
  · next rest => exact Or.inl ⟨rest, rfl, rfl⟩
  · exact Or.inr (Or.inl ⟨rfl, rfl⟩)
  · next rest => exact Or.inr (Or.inr (Or.inl ⟨rest, rfl, rfl⟩))
  · next noRoot noCurrent noBelow =>
      refine Or.inr (Or.inr (Or.inr ⟨⟨fun first => ?_, noCurrent, ?_⟩, rfl⟩))
      · obtain ⟨rest, rfl⟩ := List.head?_eq_some_iff.1 first
        exact noRoot rest rfl
      · rintro ⟨rest, rfl⟩
        exact noBelow rest rfl

theorem cutLead_of_none (noRoot : cs.head? ≠ some '/') (noCurrent : cs ≠ ['.'])
    (noBelow : ¬ ['.', '/'] <+: cs) : cutLead cs = ([], cs) := by
  rcases cutLead_cases cs with ⟨rest, rfl, -⟩ | ⟨rfl, -⟩ | ⟨rest, rfl, -⟩ | ⟨-, none⟩
  · exact absurd rfl noRoot
  · exact absurd rfl noCurrent
  · exact absurd (List.prefix_append ['.', '/'] rest) noBelow
  · exact none

/-- A lead and what is behind it are the text. -/
theorem append_of_cutLead (cut : cutLead cs = (lead, rest)) : lead ++ rest = cs := by
  rcases cutLead_cases cs with ⟨_, rfl, same⟩ | ⟨rfl, same⟩ | ⟨_, rfl, same⟩ | ⟨-, same⟩ <;>
    · rw [same] at cut
      cases cut
      rfl

/-- A lead has no more than one step, which is no name. -/
theorem leadStep_ne_name (cut : cutLead cs = (lead, rest)) (text : String) :
    leadStep lead ≠ some (.name text) := by
  rcases cutLead_cases cs with ⟨_, -, same⟩ | ⟨-, same⟩ | ⟨_, -, same⟩ | ⟨-, same⟩ <;>
    · rw [same] at cut
      cases cut
      nofun

/-- A text that is cut at a slash starts as it did. -/
theorem cutLead_of_cut {before after : List Char}
    (cut : cutLead cs = (lead, before ++ '/' :: after)) :
    cutLead (lead ++ before) = (lead, before) := by
  rcases cutLead_cases cs with ⟨_, rfl, same⟩ | ⟨rfl, same⟩ | ⟨_, rfl, same⟩ |
    ⟨⟨noRoot, noCurrent, noBelow⟩, same⟩
  · rw [same] at cut
    cases cut
    rfl
  · rw [same] at cut
    simp at cut
  · rw [same, Prod.mk.injEq] at cut
    obtain ⟨rfl, below⟩ := cut
    cases before with
    | nil => rfl
    | cons c before =>
        obtain ⟨rfl, -⟩ := List.cons.inj below
        rfl
  · rw [same, Prod.mk.injEq] at cut
    obtain ⟨rfl, rfl⟩ := cut
    refine cutLead_of_none (fun first => ?_) ?_ fun below => ?_
    · obtain ⟨more, rfl⟩ := List.head?_eq_some_iff.1 first
      exact noRoot rfl
    · rintro rfl
      exact noBelow (List.prefix_append ['.', '/'] after)
    · exact noBelow (below.trans (List.prefix_append _ _))

/-- A lead is a lead by itself. -/
theorem cutLead_lead (cut : cutLead cs = (lead, rest)) : cutLead lead = (lead, []) := by
  rcases cutLead_cases cs with ⟨_, -, same⟩ | ⟨-, same⟩ | ⟨_, -, same⟩ | ⟨-, same⟩ <;>
    · rw [same] at cut
      cases cut
      rfl

/-- The first pieces of a text, joined behind its lead, start as it did. -/
theorem cutLead_joinWith (cut : cutLead cs = (lead, rest)) (split : splitAll '/' rest = ps ++ others)
    (more : others ≠ []) : cutLead (lead ++ joinWith '/' ps) = (lead, joinWith '/' ps) := by
  by_cases given : ps = []
  · rw [given, joinWith, List.append_nil]
    exact cutLead_lead cut
  · have joined : rest = joinWith '/' ps ++ '/' :: joinWith '/' others := by
      rw [← Text.joinWith_append given more, ← split, Text.joinWith_splitAll]
    rw [joined] at cut
    exact cutLead_of_cut cut

/-- A text that is lengthened starts as it did, unless it is a dot alone and no slash follows. -/
theorem cutLead_append (cut : cutLead cs = (lead, rest)) (given : cs ≠ [])
    (parted : cs = ['.'] → tail.head? = some '/') :
    cutLead (cs ++ tail) = (lead, rest ++ tail) := by
  rcases cutLead_cases cs with ⟨_, rfl, same⟩ | ⟨rfl, same⟩ | ⟨_, rfl, same⟩ |
    ⟨⟨noRoot, noCurrent, noBelow⟩, same⟩
  · rw [same] at cut
    cases cut
    rfl
  · obtain ⟨more, rfl⟩ := List.head?_eq_some_iff.1 (parted rfl)
    rw [same] at cut
    cases cut
    rfl
  · rw [same] at cut
    cases cut
    rfl
  · rw [same, Prod.mk.injEq] at cut
    obtain ⟨rfl, rfl⟩ := cut
    obtain ⟨c, more, rfl⟩ := List.exists_cons_of_ne_nil given
    refine cutLead_of_none noRoot (fun alone => ?_) ?_
    · obtain ⟨rfl, nothing⟩ := List.cons.inj alone
      rw [(List.append_eq_nil_iff.1 nothing).1] at noCurrent
      exact noCurrent rfl
    · intro below
      cases more with
      | nil =>
          obtain ⟨rfl, -⟩ := List.cons_prefix_cons.1 below
          exact noCurrent rfl
      | cons d more =>
          obtain ⟨rfl, behind⟩ := List.cons_prefix_cons.1 below
          obtain ⟨rfl, -⟩ := List.cons_prefix_cons.1 behind
          exact noBelow (List.prefix_append ['.', '/'] more)

/-! ## Steps -/

def stepsOf (cs : List Char) : List Component := (splitAll '/' cs).filterMap stepOf

theorem stepOf_eq_none_iff {piece : List Char} : stepOf piece = none ↔ isFiller piece = true := by
  unfold stepOf
  split
  · next filler => simp [filler]
  · next solid => split <;> simp [solid]

theorem stepOf_ne_lead {piece : List Char} {step : Component} (meant : stepOf piece = some step) :
    step ≠ .root ∧ step ≠ .current := by
  unfold stepOf at meant
  split at meant
  · cases meant
  · split at meant <;> cases meant <;> exact ⟨nofun, nofun⟩

/-- Pieces that mean nothing make no step. -/
theorem filterMap_withoutFillers (pieces : List (List Char)) :
    (withoutFillers pieces).filterMap stepOf = pieces.filterMap stepOf := by
  induction pieces using List.reverseRecOn with
  | nil => rfl
  | append_singleton pieces piece ih =>
      by_cases filler : isFiller piece = true
      · have same : withoutFillers (pieces ++ [piece]) = withoutFillers pieces :=
          List.rdropWhile_concat_pos isFiller pieces piece filler
        rw [same, ih, List.filterMap_append,
          List.filterMap_cons_none (stepOf_eq_none_iff.2 filler), List.filterMap_nil,
          List.append_nil]
      · have same : withoutFillers (pieces ++ [piece]) = pieces ++ [piece] :=
          List.rdropWhile_concat_neg isFiller pieces piece filler
        rw [same]

theorem withoutFillers_prefix (pieces : List (List Char)) : withoutFillers pieces <+: pieces :=
  List.rdropWhile_prefix isFiller pieces

theorem components_eq (p : Path) :
    p.components = (leadStep (cutLead p.text.toList).1).toList ++
      stepsOf (cutLead p.text.toList).2 := by
  rw [components, pieces, filterMap_withoutFillers]
  rfl

theorem components_of_cutLead (cut : cutLead cs = (lead, rest)) :
    components ⟨.ofList cs⟩ = (leadStep lead).toList ++ stepsOf rest := by
  rw [components_eq, String.toList_ofList, cut]

/-- A slash parts the steps before it from those behind it. -/
theorem stepsOf_append_cons (cs ds : List Char) :
    stepsOf (cs ++ '/' :: ds) = stepsOf cs ++ stepsOf ds := by
  rw [stepsOf, Text.splitAll_append, List.filterMap_append]
  rfl

@[simp] theorem stepsOf_nil : stepsOf [] = [] := rfl

@[simp] theorem stepsOf_cons_slash (cs : List Char) : stepsOf ('/' :: cs) = stepsOf cs :=
  stepsOf_append_cons [] cs

theorem stepsOf_joinWith (clean : ∀ piece ∈ ps, '/' ∉ piece) :
    stepsOf (joinWith '/' ps) = ps.filterMap stepOf := by
  by_cases given : ps = []
  · rw [given]
    rfl
  · rw [stepsOf, Text.splitAll_joinWith given clean]

/-! ## The last step -/

theorem toList_eq_concat_iff {o : Option Component} {above : List Component} {step : Component} :
    o.toList = above ++ [step] ↔ o = some step ∧ above = [] := by
  cases o with
  | none => simp
  | some first => cases above <;> simp

section LastStep

variable {p q : Path} {init : List (List Char)} {last : List Char} {above : List Component}
  {step : Component}

/-- The last piece of a path means its last step. -/
theorem components_of_pieces (split : p.pieces = init ++ [last]) :
    ∃ step, stepOf last = some step ∧ p.components =
      ((leadStep (cutLead p.text.toList).1).toList ++ init.filterMap stepOf) ++ [step] := by
  have stopped : ∀ given : p.pieces ≠ [], ¬ isFiller (p.pieces.getLast given) = true :=
    List.rdropWhile_last_not isFiller (splitAll '/' (cutLead p.text.toList).2)
  have solid : ¬ isFiller last = true := by simpa [split] using stopped
  obtain ⟨step, meant⟩ : ∃ step, stepOf last = some step :=
    Option.ne_none_iff_exists'.1 fun none => solid (stepOf_eq_none_iff.1 none)
  refine ⟨step, meant, ?_⟩
  rw [components, split, List.filterMap_append, List.filterMap_cons_some meant, List.filterMap_nil,
    List.append_assoc]

/-- Without pieces a path is its lead. -/
theorem components_of_no_pieces (none : p.pieces = []) :
    p.components = (leadStep (cutLead p.text.toList).1).toList := by
  rw [components, none, List.filterMap_nil, List.append_nil]

/-- The parent of a path has the steps before the last piece, and its text is how the text of the
path starts. -/
theorem parent?_of_pieces (split : p.pieces = init ++ [last]) :
    ∃ q, p.parent? = some q ∧ q.components =
        (leadStep (cutLead p.text.toList).1).toList ++ init.filterMap stepOf ∧
      q.text.toList <+: p.text.toList := by
  obtain ⟨lead, rest, cut⟩ : ∃ lead rest, cutLead p.text.toList = (lead, rest) := ⟨_, _, rfl⟩
  obtain ⟨fillers, pieces⟩ := withoutFillers_prefix (splitAll '/' (cutLead p.text.toList).2)
  obtain ⟨fillers', kept⟩ := withoutFillers_prefix init
  have whole : splitAll '/' rest = withoutFillers init ++ (fillers' ++ last :: fillers) := by
    have same : p.pieces ++ fillers = splitAll '/' (cutLead p.text.toList).2 := pieces
    rw [cut, split, ← kept] at same
    simpa using same.symm
  have found : p.parent? = some ⟨.ofList (lead ++ joinWith '/' (withoutFillers init))⟩ := by
    have given : (init ++ [last]).isEmpty = false := by simp
    simp only [parent?, cut, split, given, List.dropLast_concat, Bool.false_eq_true, if_false]
  refine ⟨_, found, ?_, ?_⟩
  · have clean : ∀ piece ∈ withoutFillers init, '/' ∉ piece := fun piece member =>
      Text.not_mem_of_mem_splitAll (whole ▸ List.mem_append_left _ member)
    rw [components_of_cutLead (cutLead_joinWith cut whole (by simp)), stepsOf_joinWith clean,
      filterMap_withoutFillers, cut]
  · rw [String.toList_ofList, ← append_of_cutLead cut, List.prefix_append_right_inj]
    by_cases given : withoutFillers init = []
    · rw [given]
      exact List.nil_prefix
    · rw [← Text.joinWith_splitAll '/' rest, whole, Text.joinWith_append given (by simp)]
      exact List.prefix_append _ _

/-- A path whose last step is not the root has a parent, which lacks just that step. -/
theorem exists_parent? (split : p.components = above ++ [step]) (below : step ≠ .root) :
    ∃ q, p.parent? = some q ∧ q.components = above := by
  rcases List.eq_nil_or_concat p.pieces with none | ⟨init, last, pieces⟩
  · rw [components_of_no_pieces none] at split
    obtain ⟨lead, rfl⟩ := toList_eq_concat_iff.1 split
    have current : (cutLead p.text.toList).1 = ['.'] := by
      unfold leadStep at lead
      split at lead
      · cases lead
        exact absurd rfl below
      · assumption
      · cases lead
    refine ⟨⟨""⟩, ?_, rfl⟩
    simp [parent?, none, current]
  · rw [List.concat_eq_append] at pieces
    obtain ⟨q, found, steps, -⟩ := parent?_of_pieces pieces
    obtain ⟨step', -, same⟩ := components_of_pieces pieces
    rw [same] at split
    exact ⟨q, found, steps.trans (List.append_inj_left' split rfl)⟩

/-- A parent lacks the last step of the path, and its text is how the text of the path starts. -/
theorem components_of_parent? (found : p.parent? = some q) :
    (∃ step, step ≠ .root ∧ p.components = q.components ++ [step]) ∧
      q.text.toList <+: p.text.toList := by
  rcases List.eq_nil_or_concat p.pieces with none | ⟨init, last, pieces⟩
  · by_cases current : (cutLead p.text.toList).1 = ['.']
    · obtain rfl : ⟨""⟩ = q := by simpa [parent?, none, current] using found
      refine ⟨⟨.current, nofun, ?_⟩, List.nil_prefix⟩
      rw [components_of_no_pieces none, current]
      rfl
    · simp [parent?, none, current] at found
  · rw [List.concat_eq_append] at pieces
    obtain ⟨q', found', steps, starts⟩ := parent?_of_pieces pieces
    obtain ⟨step, meant, same⟩ := components_of_pieces pieces
    obtain rfl : q' = q := Option.some.inj (found'.symm.trans found)
    exact ⟨⟨step, (stepOf_ne_lead meant).1, by rw [same, steps]⟩, starts⟩

/-- A path has a file name if its last step is one. -/
theorem fileName?_eq_some_iff {name : String} :
    p.fileName? = some name ↔ ∃ above, p.components = above ++ [.name name] := by
  rcases List.eq_nil_or_concat p.pieces with none | ⟨init, last, pieces⟩
  · rw [components_of_no_pieces none, fileName?, none]
    constructor
    · rintro ⟨⟩
    · rintro ⟨above, same⟩
      exact absurd (toList_eq_concat_iff.1 same).1 (leadStep_ne_name rfl name)
  · rw [List.concat_eq_append] at pieces
    obtain ⟨step, meant, same⟩ := components_of_pieces pieces
    have read : p.fileName? = some name ↔ step = .name name := by
      rw [fileName?, pieces, List.getLast?_concat]
      unfold stepOf at meant
      split at meant
      · cases meant
      · split at meant <;> cases meant <;> simp_all
    rw [read, same]
    constructor
    · rintro rfl
      exact ⟨_, rfl⟩
    · rintro ⟨above, split⟩
      exact (List.cons.inj (List.append_inj_right' split rfl)).1

/-- The step that the parent of a path lacks is its file name, if the path has one. -/
theorem components_of_parent?_of_fileName? {name : String} (found : p.parent? = some q)
    (named : p.fileName? = some name) : p.components = q.components ++ [.name name] := by
  obtain ⟨⟨step, -, steps⟩, -⟩ := components_of_parent? found
  obtain ⟨above, last⟩ := fileName?_eq_some_iff.1 named
  have same : step = .name name :=
    (List.cons.inj (List.append_inj_right' (steps.symm.trans last) rfl)).1
  rw [steps, same]

end LastStep

/-! ## Joined paths -/

section Join

variable {p : Path} {q : String}

/-- What stands before a relative path that is seen from here: the text of the path, and a slash
behind it unless it ends in one or is empty. -/
def directoryText (p : Path) : List Char :=
  if p.text.toList = [] ∨ p.text.toList.getLast? = some '/' then p.text.toList
  else p.text.toList ++ ['/']

theorem join_eq (relative : isAbsolute ⟨q⟩ = false) (p : Path) :
    p.join q = ⟨.ofList (p.directoryText ++ q.toList)⟩ := by
  simp only [join, relative, Bool.false_eq_true, if_false]
  split
  · next none =>
      have empty : p.text.toList = [] := List.getLast?_eq_none_iff.1 none
      simp [directoryText, empty]
  · next ends => simp [directoryText, ends]
  · next c other ends =>
      have given : p.text.toList ≠ [] := by
        intro empty
        rw [empty] at ends
        cases ends
      have noSlash : p.text.toList.getLast? ≠ some '/' := by
        intro slash
        exact other (Option.some.inj (ends.symm.trans slash))
      rw [directoryText, if_neg (not_or.2 ⟨given, noSlash⟩)]
      simp [String.append_assoc]

theorem directoryText_of_ends (ends : p.text.toList.getLast? = some '/') :
    p.directoryText = p.text.toList := if_pos (Or.inr ends)

/-- What is joined one after the other may be joined at once, if the first ends in a slash. -/
theorem join_join {d : String} (relative : isAbsolute ⟨d⟩ = false)
    (ends : d.toList.getLast? = some '/') (relative' : isAbsolute ⟨q⟩ = false) (p : Path) :
    (p.join d).join q = p.join (d ++ q) := by
  have given : d.toList ≠ [] := by
    intro empty
    rw [empty] at ends
    cases ends
  have together : isAbsolute ⟨d ++ q⟩ = false := by
    rw [isAbsolute, String.toList_append, List.head?_append_of_ne_nil _ given]
    exact relative
  have slash : (p.join d).text.toList.getLast? = some '/' := by
    rw [join_eq relative, String.toList_ofList, List.getLast?_append_of_ne_nil _ given, ends]
  rw [join_eq relative', directoryText_of_ends slash, join_eq relative, join_eq together,
    String.toList_ofList, String.toList_append, List.append_assoc]

/-- Behind a slash, or nothing, the steps begin anew. -/
theorem stepsOf_append_of_ends {cs : List Char} (ends : cs = [] ∨ cs.getLast? = some '/')
    (ds : List Char) : stepsOf (cs ++ ds) = stepsOf cs ++ stepsOf ds := by
  rcases ends with rfl | slash
  · rfl
  · obtain ⟨before, rfl⟩ := List.getLast?_eq_some_iff.1 slash
    rw [List.append_assoc, List.singleton_append, stepsOf_append_cons, stepsOf_append_cons,
      stepsOf_nil, List.append_nil]

/-- A relative path that is seen from a directory adds its steps to those of the directory. -/
theorem components_join_of_ne (relative : isAbsolute ⟨q⟩ = false) (given : p.text ≠ "") :
    (p.join q).components = p.components ++ stepsOf q.toList := by
  obtain ⟨lead, rest, cut⟩ : ∃ lead rest, cutLead p.text.toList = (lead, rest) := ⟨_, _, rfl⟩
  have filled : p.text.toList ≠ [] := by simpa using given
  have steps : p.components = (leadStep lead).toList ++ stepsOf rest := by rw [components_eq, cut]
  rw [join_eq relative]
  by_cases slash : p.text.toList.getLast? = some '/'
  · rw [directoryText_of_ends slash]
    have parted : p.text.toList = ['.'] → q.toList.head? = some '/' := by
      intro alone
      rw [alone] at slash
      cases slash
    have ends : rest = [] ∨ rest.getLast? = some '/' := by
      by_cases none : rest = []
      · exact Or.inl none
      · rw [← append_of_cutLead cut, List.getLast?_append_of_ne_nil _ none] at slash
        exact Or.inr slash
    rw [components_of_cutLead (cutLead_append cut filled parted), stepsOf_append_of_ends ends,
      steps, List.append_assoc]
  · have text : p.directoryText ++ q.toList = p.text.toList ++ '/' :: q.toList := by
      rw [directoryText, if_neg (not_or.2 ⟨filled, slash⟩), List.append_assoc,
        List.singleton_append]
    rw [text, components_of_cutLead (cutLead_append cut filled fun _ => rfl), stepsOf_append_cons,
      steps, List.append_assoc]

/-- A path that starts with a name adds its steps to those of any path. -/
theorem components_join (plain : cutLead q.toList = ([], q.toList)) (p : Path) :
    (p.join q).components = p.components ++ stepsOf q.toList := by
  have relative : isAbsolute ⟨q⟩ = false := by
    rcases cutLead_cases q.toList with ⟨_, -, same⟩ | ⟨-, same⟩ | ⟨_, -, same⟩ | ⟨⟨noRoot, -⟩, -⟩
    · simp [same] at plain
    · simp [same] at plain
    · simp [same] at plain
    · exact beq_eq_false_iff_ne.2 noRoot
  by_cases given : p.text = ""
  · have empty : p.directoryText = [] := by simp [directoryText, given]
    have nothing : p.components = [] := by rw [components_eq, given]; rfl
    rw [join_eq relative, empty, nothing, List.nil_append, components_of_cutLead plain]
    rfl
  · exact components_join_of_ne relative given

end Join

/-! ## Routes -/

section Route

variable {p : Path} {q : String}

/-- The steps of a path, but for the mark of the current directory at its start: two paths with one
route lead to the same place. -/
def route (p : Path) : List Component := p.components.filter (· != .current)

def rootStep (cs : List Char) : List Component := if cs.head? = some '/' then [.root] else []

/-- A route is read off the text piece by piece, wherever the text starts. -/
theorem route_eq (p : Path) : p.route = rootStep p.text.toList ++ stepsOf p.text.toList := by
  have kept : ∀ cs : List Char, (stepsOf cs).filter (· != .current) = stepsOf cs := by
    intro cs
    refine List.filter_eq_self.2 fun step member => bne_iff_ne.2 ?_
    obtain ⟨piece, -, meant⟩ := List.mem_filterMap.1 member
    exact (stepOf_ne_lead meant).2
  rw [route, components_eq, List.filter_append, kept]
  rcases cutLead_cases p.text.toList with ⟨rest, text, cut⟩ | ⟨text, cut⟩ | ⟨rest, text, cut⟩ |
    ⟨⟨noRoot, -⟩, cut⟩
  · rw [cut, text, stepsOf_cons_slash]
    rfl
  · rw [cut, text]
    rfl
  · have dot : stepsOf ('.' :: '/' :: rest) = stepsOf rest := stepsOf_append_cons ['.'] rest
    rw [cut, text, dot, stepsOf_cons_slash]
    rfl
  · rw [cut, rootStep, if_neg noRoot]
    rfl

theorem isAbsolute_iff : isAbsolute p = true ↔ p.text.toList.head? = some '/' := beq_iff_eq

/-- A relative path that is seen from a directory goes on from there. -/
theorem route_join (relative : isAbsolute ⟨q⟩ = false) (p : Path) :
    (p.join q).route = p.route ++ stepsOf q.toList := by
  have noRoot : q.toList.head? ≠ some '/' := beq_eq_false_iff_ne.1 relative
  rw [join_eq relative, route_eq, route_eq, String.toList_ofList, directoryText]
  by_cases empty : p.text.toList = []
  · rw [if_pos (Or.inl empty), empty, List.nil_append, rootStep, if_neg noRoot]
    rfl
  · have start : ∀ tail, rootStep (p.text.toList ++ tail) = rootStep p.text.toList := by
      intro tail
      rw [rootStep, List.head?_append_of_ne_nil _ empty, rootStep]
    by_cases slash : p.text.toList.getLast? = some '/'
    · rw [if_pos (Or.inr slash), start, stepsOf_append_of_ends (Or.inr slash), List.append_assoc]
    · rw [if_neg (not_or.2 ⟨empty, slash⟩), List.append_assoc, start, List.singleton_append,
        stepsOf_append_cons, List.append_assoc]

/-- An absolute path is seen from anywhere alike. -/
theorem join_of_isAbsolute (absolute : isAbsolute ⟨q⟩ = true) (p : Path) : p.join q = ⟨q⟩ :=
  if_pos absolute

/-- Slashes at the end of a text make no step. -/
theorem stepsOf_dropEndWhile (cs : List Char) :
    stepsOf (Text.dropEndWhile (· == '/') cs) = stepsOf cs := by
  induction cs using List.reverseRecOn with
  | nil => rfl
  | append_singleton cs c ih =>
      by_cases slash : (c == '/') = true
      · have same : Text.dropEndWhile (· == '/') (cs ++ [c]) = Text.dropEndWhile (· == '/') cs :=
          List.rdropWhile_concat_pos _ cs c slash
        rw [same, ih, beq_iff_eq.1 slash, stepsOf_append_cons, stepsOf_nil, List.append_nil]
      · have same : Text.dropEndWhile (· == '/') (cs ++ [c]) = cs ++ [c] :=
          List.rdropWhile_concat_neg _ cs c slash
        rw [same]

end Route

end WorkflowLint.Path
