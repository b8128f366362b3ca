/-
# WorkflowLint.Proofs.Text.Split -- pieces of a text

A text holds no separator, or has a first one, and then `splitAll` and `splitOnce` give
what stands before it as a piece; so a fact about pieces follows by induction on the cuts
(`cut_induction`).  Nothing gets lost: joining the pieces of a text gives the text back
(`joinWith_splitAll`), and pieces without a separator are the pieces of what they are
joined to (`splitAll_joinWith`).  Where a text is cut is settled by how many separators
stand before the cut (`append_cons_inj_of_count`), and for a word by where it stands first
(`splitOnce_eq_some_iff`).
-/
import Mathlib.Data.List.Basic
import Mathlib.Data.List.TakeWhile
import WorkflowLint.Text.Split

namespace WorkflowLint.Text

set_option autoImplicit false

variable {sep : Char} {cs piece rest : List Char}

/-! ## Where a text is cut -/

/-- A text holds no separator, or has a first one. -/
theorem not_mem_or_cut (sep : Char) (cs : List Char) :
    sep ∉ cs ∨ ∃ piece rest, sep ∉ piece ∧ cs = piece ++ sep :: rest := by
  by_cases held : sep ∈ cs
  · obtain ⟨piece, rest, same, clean⟩ := List.eq_append_cons_of_mem held
    exact Or.inr ⟨piece, rest, clean, same⟩
  · exact Or.inl held

/-- Texts by their cuts: a piece without a separator stands alone, or before a separator and
a shorter text. -/
theorem cut_induction (sep : Char) {motive : List Char → Prop}
    (last : ∀ piece, sep ∉ piece → motive piece)
    (cut : ∀ piece rest, sep ∉ piece → motive rest → motive (piece ++ sep :: rest))
    (cs : List Char) : motive cs := by
  induction size : cs.length using Nat.strong_induction_on generalizing cs with
  | _ n ih =>
      rcases not_mem_or_cut sep cs with clean | ⟨piece, rest, clean, rfl⟩
      · exact last cs clean
      · have shorter : rest.length < n := by
          rw [← size, List.length_append, List.length_cons]
          omega
        exact cut piece rest clean (ih _ shorter rest rfl)

/-- Two cuts of one text with as many separators before them are one cut. -/
theorem append_cons_inj_of_count {piece' rest' : List Char}
    (count : piece.count sep = piece'.count sep)
    (same : piece ++ sep :: rest = piece' ++ sep :: rest') : piece = piece' ∧ rest = rest' := by
  induction piece generalizing piece' with
  | nil =>
      cases piece' with
      | nil => exact ⟨rfl, (List.cons.inj same).2⟩
      | cons c piece' =>
          obtain ⟨rfl, -⟩ := List.cons.inj same
          simp at count
  | cons c piece ih =>
      cases piece' with
      | nil =>
          obtain ⟨rfl, -⟩ := List.cons.inj same
          simp at count
      | cons d piece' =>
          obtain ⟨rfl, tails⟩ := List.cons.inj same
          have fewer : piece.count sep = piece'.count sep := by
            simpa [List.count_cons] using count
          obtain ⟨rfl, rfl⟩ := ih fewer tails
          exact ⟨rfl, rfl⟩

/-- The first separator of a text is in one place. -/
theorem append_cons_inj_of_not_mem {piece' rest' : List Char} (clean : sep ∉ piece)
    (clean' : sep ∉ piece') (same : piece ++ sep :: rest = piece' ++ sep :: rest') :
    piece = piece' ∧ rest = rest' :=
  append_cons_inj_of_count
    ((List.count_eq_zero.2 clean).trans (List.count_eq_zero.2 clean').symm) same

/-- What holds no separator ends no later than any other cut of the text. -/
theorem length_le_of_not_mem {piece' rest' : List Char} (clean : sep ∉ piece)
    (same : piece ++ sep :: rest = piece' ++ sep :: rest') : piece.length ≤ piece'.length := by
  by_contra longer
  have here : (piece' ++ sep :: rest')[piece'.length]? = some sep := by simp
  rw [← same, List.getElem?_append_left (by omega)] at here
  exact clean (List.mem_of_getElem? here)

/-- Of two separators one comes first. -/
theorem cut_ne {sep' : Char} {piece' rest' : List Char} (ne : sep ≠ sep') (clean : sep' ∉ piece)
    (clean' : sep ∉ piece') : piece ++ sep :: rest ≠ piece' ++ sep' :: rest' := by
  induction piece generalizing piece' with
  | nil =>
      cases piece' with
      | nil => exact fun same => ne (List.cons.inj same).1
      | cons c piece' => exact fun same => clean' ((List.cons.inj same).1 ▸ List.mem_cons_self)
  | cons c piece ih =>
      cases piece' with
      | nil => exact fun same => clean ((List.cons.inj same).1 ▸ List.mem_cons_self)
      | cons d piece' =>
          intro same
          exact ih (fun member => clean (List.mem_cons_of_mem _ member))
            (fun member => clean' (List.mem_cons_of_mem _ member)) (List.cons.inj same).2

/-! ## Pieces -/

theorem splitAll_of_not_mem (clean : sep ∉ cs) : splitAll sep cs = [cs] := by
  induction cs with
  | nil => rfl
  | cons c cs ih =>
      have ne : c ≠ sep := fun same => clean (same ▸ List.mem_cons_self)
      have below : sep ∉ cs := fun member => clean (List.mem_cons_of_mem _ member)
      simp only [splitAll, if_neg ne, ih below]

theorem splitAll_append_cons (clean : sep ∉ piece) (rest : List Char) :
    splitAll sep (piece ++ sep :: rest) = piece :: splitAll sep rest := by
  induction piece with
  | nil => simp [splitAll]
  | cons c piece ih =>
      have ne : c ≠ sep := fun same => clean (same ▸ List.mem_cons_self)
      have below : sep ∉ piece := fun member => clean (List.mem_cons_of_mem _ member)
      simp only [List.cons_append, splitAll, if_neg ne, ih below]

/-- The whole text stands before its first separator if it holds none. -/
theorem takeWhile_eq_self_iff : cs.takeWhile (· != sep) = cs ↔ sep ∉ cs := by
  rw [List.takeWhile_eq_self_iff]
  constructor
  · intro kept member
    exact bne_iff_ne.1 (kept sep member) rfl
  · intro clean c member
    exact bne_iff_ne.2 fun same => clean (same ▸ member)

theorem takeWhile_append_cons (clean : sep ∉ piece) (rest : List Char) :
    (piece ++ sep :: rest).takeWhile (· != sep) = piece := by
  rw [List.takeWhile_append_of_pos (List.takeWhile_eq_self_iff.1 (takeWhile_eq_self_iff.2 clean))]
  simp

/-- The first piece of a text is what stands before the first separator. -/
theorem splitAll_eq_takeWhile_cons (sep : Char) (cs : List Char) :
    ∃ others, splitAll sep cs = cs.takeWhile (· != sep) :: others := by
  rcases not_mem_or_cut sep cs with clean | ⟨piece, rest, clean, rfl⟩
  · exact ⟨[], by rw [splitAll_of_not_mem clean, takeWhile_eq_self_iff.2 clean]⟩
  · exact ⟨splitAll sep rest, by rw [splitAll_append_cons clean, takeWhile_append_cons clean]⟩

theorem splitAll_ne_nil (sep : Char) (cs : List Char) : splitAll sep cs ≠ [] := by
  obtain ⟨others, split⟩ := splitAll_eq_takeWhile_cons sep cs
  rw [split]
  exact List.cons_ne_nil _ _

/-- A separator cuts what stands before it from what stands behind it. -/
theorem splitAll_append (sep : Char) (cs ds : List Char) :
    splitAll sep (cs ++ sep :: ds) = splitAll sep cs ++ splitAll sep ds := by
  induction cs using cut_induction sep with
  | last piece clean => rw [splitAll_append_cons clean, splitAll_of_not_mem clean]; rfl
  | cut piece rest clean ih =>
      rw [List.append_assoc, List.cons_append, splitAll_append_cons clean, ih,
        splitAll_append_cons clean, List.cons_append]

/-- There is one piece more than there are separators. -/
theorem length_splitAll (sep : Char) (cs : List Char) :
    (splitAll sep cs).length = cs.count sep + 1 := by
  induction cs using cut_induction sep with
  | last piece clean => simp [splitAll_of_not_mem clean, List.count_eq_zero.2 clean]
  | cut piece rest clean ih =>
      rw [splitAll_append_cons clean, List.length_cons, ih, List.count_append,
        List.count_cons_self, List.count_eq_zero.2 clean, Nat.zero_add]

/-- No piece of a text holds the separator. -/
theorem not_mem_of_mem_splitAll (member : piece ∈ splitAll sep cs) : sep ∉ piece := by
  induction cs using cut_induction sep with
  | last whole clean =>
      rw [splitAll_of_not_mem clean, List.mem_singleton] at member
      rwa [member]
  | cut first rest clean ih =>
      rw [splitAll_append_cons clean] at member
      rcases List.mem_cons.1 member with rfl | later
      · exact clean
      · exact ih later

/-- In particular the first one does not. -/
theorem headD_splitAll_not_mem (sep : Char) (cs : List Char) :
    sep ∉ (splitAll sep cs).headD [] := by
  obtain ⟨others, split⟩ := splitAll_eq_takeWhile_cons sep cs
  rw [split]
  exact not_mem_of_mem_splitAll (split ▸ List.mem_cons_self)

theorem joinWith_cons {pieces : List (List Char)} (more : pieces ≠ []) :
    joinWith sep (piece :: pieces) = piece ++ sep :: joinWith sep pieces := by
  cases pieces with
  | nil => exact absurd rfl more
  | cons next pieces => rfl

/-- Joining the pieces of a text gives the text back. -/
theorem joinWith_splitAll (sep : Char) (cs : List Char) : joinWith sep (splitAll sep cs) = cs := by
  induction cs using cut_induction sep with
  | last piece clean => rw [splitAll_of_not_mem clean]; rfl
  | cut piece rest clean ih =>
      rw [splitAll_append_cons clean, joinWith_cons (splitAll_ne_nil sep rest), ih]

/-- Pieces without a separator are the pieces of the text they are joined to. -/
theorem splitAll_joinWith {pieces : List (List Char)} (given : pieces ≠ [])
    (clean : ∀ piece ∈ pieces, sep ∉ piece) : splitAll sep (joinWith sep pieces) = pieces := by
  induction pieces with
  | nil => exact absurd rfl given
  | cons piece pieces ih =>
      have first : sep ∉ piece := clean piece List.mem_cons_self
      cases pieces with
      | nil => exact splitAll_of_not_mem first
      | cons next pieces =>
          have others : ∀ other ∈ next :: pieces, sep ∉ other :=
            fun other member => clean other (List.mem_cons_of_mem _ member)
          rw [joinWith_cons (List.cons_ne_nil _ _), splitAll_append_cons first,
            ih (List.cons_ne_nil _ _) others]

/-- Joining two lists of pieces puts one more separator between them. -/
theorem joinWith_append {pieces pieces' : List (List Char)} (given : pieces ≠ [])
    (given' : pieces' ≠ []) :
    joinWith sep (pieces ++ pieces') = joinWith sep pieces ++ sep :: joinWith sep pieces' := by
  induction pieces with
  | nil => exact absurd rfl given
  | cons piece pieces ih =>
      cases pieces with
      | nil => exact joinWith_cons given'
      | cons next pieces =>
          rw [List.cons_append, joinWith_cons (by simp), ih (List.cons_ne_nil _ _),
            joinWith_cons (List.cons_ne_nil _ _), List.append_assoc, List.cons_append]

/-- What stands in joined pieces stands in one of them or between them. -/
theorem mem_of_mem_joinWith {pieces : List (List Char)} {c : Char}
    (member : c ∈ joinWith sep pieces) : c = sep ∨ ∃ piece ∈ pieces, c ∈ piece := by
  induction pieces with
  | nil => cases member
  | cons piece pieces ih =>
      cases pieces with
      | nil => exact Or.inr ⟨piece, List.mem_cons_self, member⟩
      | cons next pieces =>
          rw [joinWith_cons (List.cons_ne_nil _ _), List.mem_append, List.mem_cons] at member
          rcases member with here | between | later
          · exact Or.inr ⟨piece, List.mem_cons_self, here⟩
          · exact Or.inl between
          · rcases ih later with between | ⟨other, among, held⟩
            · exact Or.inl between
            · exact Or.inr ⟨other, List.mem_cons_of_mem _ among, held⟩

theorem splitOnce_of_not_mem (clean : sep ∉ cs) : splitOnce [sep] cs = none := by
  induction cs with
  | nil => rfl
  | cons c cs ih =>
      have ne : sep ≠ c := fun same => clean (same ▸ List.mem_cons_self)
      have below : sep ∉ cs := fun member => clean (List.mem_cons_of_mem _ member)
      simp [splitOnce, List.isPrefixOf?, ne, ih below]

theorem splitOnce_append_cons (clean : sep ∉ piece) (rest : List Char) :
    splitOnce [sep] (piece ++ sep :: rest) = some (piece, rest) := by
  induction piece with
  | nil => simp [splitOnce, List.isPrefixOf?]
  | cons c piece ih =>
      have ne : sep ≠ c := fun same => clean (same ▸ List.mem_cons_self)
      have below : sep ∉ piece := fun member => clean (List.mem_cons_of_mem _ member)
      simp [splitOnce, List.isPrefixOf?, ne, ih below]

/-- A word cuts a text where it stands first. -/
theorem splitOnce_eq_some_iff {word before : List Char} :
    splitOnce word cs = some (before, rest) ↔
      cs = before ++ (word ++ rest) ∧
        ∀ before' rest', cs = before' ++ (word ++ rest') → before.length ≤ before'.length := by
  induction cs generalizing before with
  | nil =>
      cases word with
      | nil =>
          simp only [splitOnce, List.isEmpty_nil, if_true, Option.some.injEq, Prod.mk.injEq]
          constructor
          · rintro ⟨rfl, rfl⟩
            exact ⟨rfl, fun before' rest' _ => Nat.zero_le _⟩
          · rintro ⟨same, -⟩
            obtain ⟨rfl, rfl⟩ := List.append_eq_nil_iff.1 same.symm
            exact ⟨rfl, rfl⟩
      | cons w word => simp [splitOnce]
  | cons c cs ih =>
      cases found : word.isPrefixOf? (c :: cs) with
      | some tail =>
          have here : word ++ tail = c :: cs := List.isPrefixOf?_eq_some_iff_append_eq.1 found
          simp only [splitOnce, found, Option.some.injEq, Prod.mk.injEq]
          constructor
          · rintro ⟨rfl, rfl⟩
            exact ⟨here.symm, fun before' rest' _ => Nat.zero_le _⟩
          · rintro ⟨same, least⟩
            obtain rfl : before = [] := List.eq_nil_of_length_eq_zero
              (Nat.le_zero.1 (least [] tail here.symm))
            exact ⟨rfl, List.append_cancel_left (here.trans same)⟩
      | none =>
          have missing : ∀ tail, word ++ tail ≠ c :: cs := fun tail here => by
            rw [List.isPrefixOf?_eq_some_iff_append_eq.2 here] at found
            cases found
          simp only [splitOnce, found, Option.map_eq_some_iff, Prod.mk.injEq, Prod.exists]
          constructor
          · rintro ⟨front, tail, cut, rfl, rfl⟩
            obtain ⟨rfl, least⟩ := ih.1 cut
            refine ⟨rfl, fun before' rest' same => ?_⟩
            cases before' with
            | nil => exact absurd same.symm (missing rest')
            | cons c' before' =>
                exact Nat.succ_le_succ (least before' rest' (List.cons.inj same).2)
          · rintro ⟨same, least⟩
            cases before with
            | nil => exact absurd same.symm (missing rest)
            | cons c' before =>
                obtain ⟨rfl, tails⟩ := List.cons.inj same
                refine ⟨before, rest, ih.2 ⟨tails, fun before' rest' again => ?_⟩, rfl, rfl⟩
                exact Nat.le_of_succ_le_succ
                  (least (c :: before') rest' (congrArg (c :: ·) again))

/-- A word cuts every text that holds it. -/
theorem isSome_splitOnce_iff {word : List Char} :
    (splitOnce word cs).isSome = true ↔ ∃ before rest, cs = before ++ (word ++ rest) := by
  constructor
  · intro cut
    obtain ⟨⟨before, rest⟩, found⟩ := Option.isSome_iff_exists.1 cut
    exact ⟨before, rest, (splitOnce_eq_some_iff.1 found).1⟩
  · rintro ⟨before, rest, rfl⟩
    induction before with
    | nil =>
        cases text : word ++ rest with
        | nil => simp [splitOnce, (List.append_eq_nil_iff.1 text).1]
        | cons c cs =>
            have here : word.isPrefixOf? (c :: cs) = some rest :=
              List.isPrefixOf?_eq_some_iff_append_eq.2 text
            simp [splitOnce, here]
    | cons c before ih =>
        simp only [List.cons_append, splitOnce]
        split
        · rfl
        · rw [Option.isSome_map]
          exact ih

/-! ## Texts that may be missing -/

@[simp] theorem nonempty_nil : nonempty [] = none := rfl

theorem nonempty_eq_some_iff {s : String} : nonempty cs = some s ↔ cs ≠ [] ∧ s.toList = cs := by
  cases cs with
  | nil => simp
  | cons c cs =>
      constructor
      · intro read
        obtain rfl : String.ofList (c :: cs) = s := by simpa [nonempty] using read
        exact ⟨List.cons_ne_nil _ _, String.toList_ofList⟩
      · rintro ⟨-, same⟩
        rw [← same, nonempty, String.ofList_toList, same]
        rfl

theorem nonempty_toList {s : String} (given : s ≠ "") : nonempty s.toList = some s :=
  nonempty_eq_some_iff.2 ⟨by simpa using given, rfl⟩

end WorkflowLint.Text
