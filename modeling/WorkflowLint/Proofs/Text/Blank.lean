/-
# WorkflowLint.Proofs.Text.Blank -- what trimming removes

Trimming removes blanks, and only at the ends (`exists_trim`): blanks put at an end go again
(`trim_blanks_append`, `trim_append_blanks`), and what stands behind a character that is no blank
is trimmed by itself (`trim_cons_append_cons`).
-/
import Mathlib.Data.List.DropRight
import WorkflowLint.Proofs.Text.Split
import WorkflowLint.Text.Blank

namespace WorkflowLint.Text

set_option autoImplicit false

variable {c d : Char} {cs ds after : List Char}

/-- What goes at the end of a text goes with all that is put behind it and goes itself. -/
theorem dropEndWhile_append {p : Char → Bool} (gone : ∀ c ∈ after, p c = true) (cs : List Char) :
    dropEndWhile p (cs ++ after) = dropEndWhile p cs := by
  have reversed : ∀ c ∈ after.reverse, p c = true :=
    fun c member => gone c (List.mem_reverse.1 member)
  rw [dropEndWhile, List.reverse_append, List.dropWhile_append_of_pos reversed]
  rfl

theorem trimRight_append_blanks (blank : ∀ c ∈ after, isBlank c = true) (cs : List Char) :
    trimRight (cs ++ after) = trimRight cs := dropEndWhile_append blank cs

theorem trimLeft_cons (solid : isBlank c = false) (cs : List Char) :
    trimLeft (c :: cs) = c :: cs := by
  simp [trimLeft, solid]

/-- What stands behind a character that is no blank is trimmed by itself. -/
theorem trimRight_append_cons (solid : isBlank c = false) (cs ds : List Char) :
    trimRight (cs ++ c :: ds) = cs ++ c :: trimRight ds := by
  have back : (cs ++ c :: ds).reverse = ds.reverse ++ c :: cs.reverse := by simp
  rw [trimRight, dropEndWhile, back, List.dropWhile_append]
  cases ends : ds.reverse.dropWhile isBlank with
  | nil => simp [solid, trimRight, dropEndWhile, ends]
  | cons d rest => simp [trimRight, dropEndWhile, ends]

theorem trim_cons (solid : isBlank c = false) (cs : List Char) :
    trim (c :: cs) = c :: trimRight cs := by
  rw [trim, trimLeft_cons solid]
  exact trimRight_append_cons solid [] cs

theorem trim_cons_append_cons (solid : isBlank c = false) (solid' : isBlank d = false)
    (cs ds : List Char) : trim (c :: (cs ++ d :: ds)) = c :: (cs ++ d :: trimRight ds) := by
  rw [trim_cons solid, trimRight_append_cons solid']

/-- Blanks at the end of a text go. -/
theorem trim_append_blanks (blank : ∀ c ∈ after, isBlank c = true) (cs : List Char) :
    trim (cs ++ after) = trim cs := by
  rw [trim, trim, trimLeft, List.dropWhile_append]
  cases kept : cs.dropWhile isBlank with
  | nil =>
      have gone : after.dropWhile isBlank = [] := List.dropWhile_eq_nil_iff.2 blank
      simp [trimLeft, kept, gone]
  | cons c rest =>
      rw [trimLeft, kept]
      exact trimRight_append_blanks blank (c :: rest)

/-- Blanks at the start of a text go. -/
theorem trim_blanks_append {before : List Char} (blank : ∀ c ∈ before, isBlank c = true)
    (cs : List Char) : trim (before ++ cs) = trim cs := by
  rw [trim, trimLeft, List.dropWhile_append_of_pos blank]
  rfl

/-- What is trimmed are blanks before and behind. -/
theorem exists_trim (cs : List Char) : ∃ before after, cs = before ++ (trim cs ++ after) ∧
    (∀ c ∈ before, isBlank c = true) ∧ ∀ c ∈ after, isBlank c = true := by
  refine ⟨cs.takeWhile isBlank, (trimLeft cs).rtakeWhile isBlank, ?_,
    fun c member => List.mem_takeWhile_imp member, fun c member => List.mem_rtakeWhile_imp member⟩
  have right : trim cs ++ (trimLeft cs).rtakeWhile isBlank = trimLeft cs :=
    List.rdropWhile_append_rtakeWhile
  rw [right, trimLeft, List.takeWhile_append_dropWhile]

@[simp] theorem trim_trim (cs : List Char) : trim (trim cs) = trim cs := by
  obtain ⟨before, after, whole, blank, blank'⟩ := exists_trim cs
  have again := congrArg trim whole
  rw [trim_blanks_append blank, trim_append_blanks blank'] at again
  exact again.symm

/-- A text with no blank at either end is left as it is. -/
theorem trim_eq_self_iff :
    trim cs = cs ↔ (∀ c, cs.head? = some c → isBlank c = false) ∧
      ∀ c, cs.getLast? = some c → isBlank c = false := by
  have left : trimLeft cs = cs ↔ ∀ c, cs.head? = some c → isBlank c = false := by
    cases cs with
    | nil => simp [trimLeft]
    | cons c cs => simp [trimLeft, List.dropWhile_eq_self_iff]
  have right : trimRight cs = cs ↔ ∀ c, cs.getLast? = some c → isBlank c = false := by
    change cs.rdropWhile isBlank = cs ↔ _
    rw [List.rdropWhile_eq_self_iff]
    constructor
    · intro solid c last
      obtain ⟨given, rfl⟩ := List.mem_getLast?_eq_getLast last
      simpa using solid given
    · intro solid given
      simpa using solid _ (List.getLast?_eq_some_getLast given)
  constructor
  · intro same
    have notShorter : cs.length ≤ (trimLeft cs).length := by
      have shorter : (trim cs).length ≤ (trimLeft cs).length :=
        (List.rdropWhile_prefix isBlank _).length_le
      rwa [same] at shorter
    have untouched : trimLeft cs = cs := (List.dropWhile_suffix isBlank).eq_of_length_le notShorter
    rw [trim, untouched] at same
    exact ⟨left.1 untouched, right.1 same⟩
  · rintro ⟨first, last⟩
    rw [trim, left.2 first, right.2 last]

theorem trim_of_no_blank (clean : ∀ c ∈ cs, isBlank c = false) : trim cs = cs :=
  trim_eq_self_iff.2 ⟨fun c first => clean c (List.mem_of_head? first),
    fun c last => clean c (List.mem_of_getLast? last)⟩

/-- Between two trimmed texts nothing is trimmed. -/
theorem trim_append_of_trimmed (given : cs ≠ []) (trimmed : trim cs = cs) (between : List Char)
    (given' : ds ≠ []) (trimmed' : trim ds = ds) :
    trim (cs ++ (between ++ ds)) = cs ++ (between ++ ds) := by
  have first : (cs ++ (between ++ ds)).head? = cs.head? := List.head?_append_of_ne_nil _ given
  have last : (cs ++ (between ++ ds)).getLast? = ds.getLast? := by
    rw [← List.append_assoc, List.getLast?_append_of_ne_nil _ given']
  rw [trim_eq_self_iff, first, last]
  exact ⟨(trim_eq_self_iff.1 trimmed).1, (trim_eq_self_iff.1 trimmed').2⟩

/-- Trimmed pieces are trimmed together. -/
theorem joinWith_trimmed (sep : Char) {pieces : List (List Char)} (given : pieces ≠ [])
    (trimmed : ∀ piece ∈ pieces, piece ≠ [] ∧ trim piece = piece) :
    joinWith sep pieces ≠ [] ∧ trim (joinWith sep pieces) = joinWith sep pieces := by
  induction pieces with
  | nil => exact absurd rfl given
  | cons piece pieces ih =>
      obtain ⟨first, first_trimmed⟩ := trimmed piece List.mem_cons_self
      cases pieces with
      | nil => exact ⟨first, first_trimmed⟩
      | cons next pieces =>
          obtain ⟨others, others_trimmed⟩ := ih (List.cons_ne_nil _ _)
            fun other member => trimmed other (List.mem_cons_of_mem _ member)
          rw [joinWith_cons (List.cons_ne_nil _ _)]
          exact ⟨by simp, trim_append_of_trimmed first first_trimmed [sep] others others_trimmed⟩

/-- Only blanks are trimmed to nothing. -/
theorem trim_eq_nil_iff : trim cs = [] ↔ ∀ c ∈ cs, isBlank c = true := by
  constructor
  · intro nothing c member
    obtain ⟨before, after, whole, blank, blank'⟩ := exists_trim cs
    rw [nothing, List.nil_append] at whole
    rw [whole] at member
    rcases List.mem_append.1 member with here | there
    · exact blank c here
    · exact blank' c there
  · intro blank
    exact trim_append_blanks blank []

end WorkflowLint.Text
