/-
# WorkflowLint.Proofs.Command.Properties -- which pair gives a property its value

The properties of a command are kept in order, each set by one pair after the other.  What is
looked up can be said without that order: setting a key changes what is found under this key and
nothing else (`lookup_setProperty`), so the last pair with a key counts (`lookup_propertiesOf`),
and the value of a property is what the last of the pieces gives that gives it one
(`property?_eq_some_iff`).

A piece gives a property the text behind its first equals sign, but no further than to the next
one (`pairOf_append_cons`).
-/
import Mathlib.Data.List.Induction
import WorkflowLint.Command
import WorkflowLint.Proofs.Text.Split

namespace WorkflowLint.Command

set_option autoImplicit false

/-! ## Looking properties up -/

theorem lookup_cons_eq (k v q : String) (properties : List (String × String)) :
    ((k, v) :: properties).lookup q = if q = k then some v else properties.lookup q := by
  by_cases same : q = k
  · rw [if_pos same, same, List.lookup_cons_self]
  · rw [if_neg same, List.lookup_cons, beq_eq_false_iff_ne.2 same]

/-- Setting a key changes what is found under that key. -/
theorem lookup_setProperty (key value q : String) (properties : List (String × String)) :
    (setProperty key value properties).lookup q =
      if q = key then some value else properties.lookup q := by
  induction properties with
  | nil => exact lookup_cons_eq key value q []
  | cons p properties ih =>
      obtain ⟨k, v⟩ := p
      rw [setProperty]
      split
      · next same =>
          rw [lookup_cons_eq, lookup_cons_eq, same]
          split <;> rfl
      · next other =>
          split
          · exact lookup_cons_eq key value q _
          · rw [lookup_cons_eq, ih, lookup_cons_eq]
            by_cases here : q = k
            · rw [if_pos here, if_pos here, if_neg fun same => other (same.symm.trans here)]
            · rw [if_neg here, if_neg here]

/-- Of two pairs with one key the later counts. -/
theorem lookup_propertiesOf (pairs : List (String × String)) (q : String) :
    (propertiesOf pairs).lookup q = pairs.reverse.lookup q := by
  induction pairs using List.reverseRecOn with
  | nil => rfl
  | append_singleton pairs p ih =>
      have last : propertiesOf (pairs ++ [p]) = setProperty p.1 p.2 (propertiesOf pairs) := by
        simp only [propertiesOf, List.foldl_append, List.foldl_cons, List.foldl_nil]
      rw [last, lookup_setProperty, ih, List.reverse_append]
      exact (lookup_cons_eq p.1 p.2 q _).symm

/-! ## The last piece that gives something -/

/-- Of the pieces that say something, the last one gives this. -/
def LastGives (gives : List Char → String → Prop) (pieces : List (List Char)) (value : String) :
    Prop :=
  ∃ before piece after, pieces = before ++ piece :: after ∧ gives piece value ∧
    ∀ other ∈ after, ∀ w, ¬ gives other w

/-- It only matters what the pieces at hand say. -/
theorem LastGives.congr {gives gives' : List Char → String → Prop} {pieces : List (List Char)}
    (same : ∀ piece ∈ pieces, ∀ w, gives piece w ↔ gives' piece w) (value : String) :
    LastGives gives pieces value ↔ LastGives gives' pieces value := by
  constructor
  · rintro ⟨before, piece, after, rfl, said, none⟩
    refine ⟨before, piece, after, rfl, (same piece (by simp) value).1 said, ?_⟩
    exact fun other member w again => none other member w ((same other (by simp [member]) w).2 again)
  · rintro ⟨before, piece, after, rfl, said, none⟩
    refine ⟨before, piece, after, rfl, (same piece (by simp) value).2 said, ?_⟩
    exact fun other member w again => none other member w ((same other (by simp [member]) w).1 again)

section Lookup

variable {c : Command} {pieces : List (List Char)} {q value : String}
  (read : c.properties = propertiesOf (pieces.filterMap pairOf))
include read

theorem property?_eq_lookup : c.property? q =
    (pieces.reverse.filterMap pairOf).lookup (Text.lowercase q) := by
  rw [property?, read, lookup_propertiesOf, List.filterMap_reverse]

/-- A property has the value that the last piece gives it. -/
theorem property?_eq_some_iff : c.property? q = some value ↔
    LastGives (fun piece w => pairOf piece = some (Text.lowercase q, w)) pieces value := by
  rw [property?_eq_lookup read]
  constructor
  · intro found
    obtain ⟨later, earlier, split, others⟩ := List.lookup_eq_some_iff.1 found
    obtain ⟨after, rest, same, rfl, tail⟩ := List.filterMap_eq_append_iff.1 split
    obtain ⟨silent, piece, before, rfl, nothing, said, -⟩ := List.filterMap_eq_cons_iff.1 tail
    refine ⟨before.reverse, piece, (after ++ silent).reverse, ?_, said, ?_⟩
    · rw [← List.reverse_reverse pieces, same]
      simp
    · intro other member w again
      rcases List.mem_append.1 (List.mem_reverse.1 member) with among | among
      · have differs := others _ (List.mem_filterMap.2 ⟨other, among, again⟩)
        simp at differs
      · rw [nothing other among] at again
        cases again
  · rintro ⟨before, piece, after, rfl, said, others⟩
    have back : (before ++ piece :: after).reverse = after.reverse ++ piece :: before.reverse := by
      simp
    rw [back, List.filterMap_append, List.filterMap_cons_some said]
    refine List.lookup_eq_some_iff.2 ⟨_, _, rfl, fun p member => bne_iff_ne.2 fun same => ?_⟩
    obtain ⟨other, among, again⟩ := List.mem_filterMap.1 member
    refine others other (List.mem_reverse.1 among) p.2 ?_
    show pairOf other = some (Text.lowercase q, p.2)
    rw [again, same]

/-- A property has no value if no piece gives it one. -/
theorem property?_eq_none_iff : c.property? q = none ↔
    ∀ piece ∈ pieces, ∀ w, pairOf piece ≠ some (Text.lowercase q, w) := by
  rw [property?_eq_lookup read, List.lookup_eq_none_iff]
  constructor
  · intro others piece member w said
    have differs := others _ (List.mem_filterMap.2 ⟨piece, List.mem_reverse.2 member, said⟩)
    simp at differs
  · intro silent p member
    obtain ⟨piece, among, said⟩ := List.mem_filterMap.1 member
    refine bne_iff_ne.2 fun same => ?_
    exact silent piece (List.mem_reverse.1 among) p.2 (by rw [said, same])

end Lookup

/-! ## What a piece gives -/

theorem pairOf_of_not_mem {piece : List Char} (clean : '=' ∉ piece) : pairOf piece = none := by
  rw [pairOf, Text.splitAll_of_not_mem clean]

/-- A piece gives its key, if that is not blank, the text up to a second equals sign, if that is
not empty. -/
theorem pairOf_append_cons {key : List Char} (clean : '=' ∉ key) (rest : List Char) :
    pairOf (key ++ '=' :: rest) =
      if Text.trim key = [] then none
      else (Text.nonempty (rest.takeWhile (· != '='))).map
        fun value => (Text.lowercase (.ofList (Text.trim key)), value) := by
  obtain ⟨others, split⟩ := Text.splitAll_eq_takeWhile_cons '=' rest
  simp only [pairOf, Text.splitAll_append_cons clean, split]
  generalize Text.trim key = k
  generalize rest.takeWhile (· != '=') = value
  cases k with
  | nil => rfl
  | cons c cs =>
      cases value with
      | nil => rfl
      | cons d ds => rfl

theorem pairOf_eq_some_iff {piece : List Char} {key value : String} :
    pairOf piece = some (key, value) ↔
      ∃ k rest, '=' ∉ k ∧ piece = k ++ '=' :: rest ∧ Text.trim k ≠ [] ∧
        Text.lowercase (.ofList (Text.trim k)) = key ∧
        Text.nonempty (rest.takeWhile (· != '=')) = some value := by
  rcases Text.not_mem_or_cut '=' piece with clean | ⟨k, rest, clean, rfl⟩
  · rw [pairOf_of_not_mem clean]
    constructor
    · rintro ⟨⟩
    · rintro ⟨k, rest, -, rfl, -⟩
      simp at clean
  · rw [pairOf_append_cons clean]
    constructor
    · intro given
      split at given
      · cases given
      · next solid =>
          obtain ⟨value', said, same⟩ := Option.map_eq_some_iff.1 given
          obtain ⟨rfl, rfl⟩ := Prod.mk.inj same
          exact ⟨k, rest, clean, rfl, solid, rfl, said⟩
    · rintro ⟨k', rest', clean', same, solid, rfl, said⟩
      obtain ⟨rfl, rfl⟩ := Text.append_cons_inj_of_not_mem clean clean' same
      rw [if_neg solid, said, Option.map_some]

end WorkflowLint.Command
