/-
# WorkflowLint.Proofs.Command.Values -- how much of a value is kept

A message that is put together from a name, pairs and data (`messageOf`) is read back as a command
of that name (`parse_messageOf`).  Of each pair it keeps the key and, of the value, what stands
before the first equals sign in it (`values_end_at_equals`): a value that holds one is cut there,
and one that starts with one is missing altogether (`value_is_cut`).
-/
import Mathlib.Data.List.Nodup
import WorkflowLint.Proofs.Command.Grammar

namespace WorkflowLint.Command

set_option autoImplicit false

open Text (joinWith lowercase splitAll trim)

def pairText (p : String × String) : List Char := p.1.toList ++ '=' :: p.2.toList

def messageOf (name : String) (pairs : List (String × String)) (data : String) : String :=
  "::" ++ name ++ " " ++ .ofList (joinWith ',' (pairs.map pairText)) ++ "::" ++ data

/-- A name that can stand in a message. -/
def IsName (name : String) : Prop := ' ' ∉ name.toList ∧ ':' ∉ name.toList

/-- A pair that can stand in a message.  The value may hold equals signs. -/
structure IsPair (p : String × String) : Prop where
  key_given : p.1 ≠ ""
  value_given : p.2 ≠ ""
  key_trimmed : Text.IsTrimmed p.1
  value_trimmed : Text.IsTrimmed p.2
  commas : ',' ∉ p.1.toList ∧ ',' ∉ p.2.toList
  colons : ':' ∉ p.1.toList ∧ ':' ∉ p.2.toList
  equals : '=' ∉ p.1.toList

variable {name data q value : String} {pairs : List (String × String)} {p : String × String}

/-! ## One pair -/

theorem IsPair.text_given (isPair : IsPair p) : pairText p ≠ [] ∧ trim (pairText p) = pairText p := by
  have key : p.1.toList ≠ [] := by simpa using isPair.key_given
  have value : p.2.toList ≠ [] := by simpa using isPair.value_given
  refine ⟨by simp [pairText], ?_⟩
  exact Text.trim_append_of_trimmed key isPair.key_trimmed ['='] value isPair.value_trimmed

theorem IsPair.text_clean (isPair : IsPair p) : ',' ∉ pairText p ∧ ':' ∉ pairText p := by
  simp [pairText, isPair.commas, isPair.colons]

/-- A pair gives its key the value up to an equals sign. -/
theorem IsPair.pairOf_eq (isPair : IsPair p) : pairOf (pairText p) =
    (Text.nonempty (p.2.toList.takeWhile (· != '='))).map fun value => (lowercase p.1, value) := by
  have solid : trim p.1.toList ≠ [] := by
    rw [isPair.key_trimmed]
    simpa using isPair.key_given
  rw [pairText, pairOf_append_cons isPair.equals, if_neg solid, isPair.key_trimmed,
    String.ofList_toList]

/-! ## All pairs -/

section Pairs

variable (isPairs : ∀ p ∈ pairs, IsPair p)
include isPairs

/-- The pairs are cut apart as they were put together. -/
theorem pairsOf_joined :
    pairsOf (joinWith ',' (pairs.map pairText)) = (pairs.map pairText).filterMap pairOf := by
  cases pairs with
  | nil => rfl
  | cons p pairs =>
      have written : (p :: pairs).map pairText ≠ [] := by simp
      have texts : ∀ piece ∈ (p :: pairs).map pairText,
          (piece ≠ [] ∧ trim piece = piece) ∧ ',' ∉ piece := by
        intro piece member
        obtain ⟨p', among, rfl⟩ := List.mem_map.1 member
        exact ⟨(isPairs p' among).text_given, (isPairs p' among).text_clean.1⟩
      have trimmed := (Text.joinWith_trimmed ',' written fun piece member => (texts piece member).1).2
      rw [pairsOf, trimmed, Text.splitAll_joinWith written fun piece member => (texts piece member).2]

theorem colon_not_mem_joined : ':' ∉ joinWith ',' (pairs.map pairText) := by
  intro member
  rcases Text.mem_of_mem_joinWith member with comma | ⟨piece, among, held⟩
  · cases comma
  · obtain ⟨p, member, rfl⟩ := List.mem_map.1 among
    exact (isPairs p member).text_clean.2 held

/-- The message is read back, whatever the data is. -/
theorem parse_messageOf (isName : IsName name) (data : String) :
    ∃ c, parse (messageOf name pairs data) = some c ∧ c.name = lowercase name ∧
      c.properties = propertiesOf ((pairs.map pairText).filterMap pairOf) := by
  have clean : ':' ∉ name.toList ++ ' ' :: joinWith ',' (pairs.map pairText) := by
    simp [isName.2, colon_not_mem_joined isPairs]
  have cut : Cut (messageOf name pairs data)
      (name.toList ++ ' ' :: joinWith ',' (pairs.map pairText)) (Text.trimRight data.toList) := by
    refine .of_not_mem clean ?_
    have trimmed := Text.trim_cons_append_cons (c := ':') (d := ':') (by decide) (by decide)
      (':' :: (name.toList ++ ' ' :: joinWith ',' (pairs.map pairText)) ++ [':']) data.toList
    simpa [messageOf, marker] using trimmed
  refine ⟨_, parse_of_cut cut (.properties isName.1 _), ?_, ?_⟩
  · exact congrArg lowercase String.ofList_toList
  · exact congrArg propertiesOf (pairsOf_joined isPairs)

/-- If no two keys differ in case only, each property is given by its own pair alone. -/
theorem property?_of_mem {c : Command} (distinct : (pairs.map fun p => lowercase p.1).Nodup)
    (read : c.properties = propertiesOf ((pairs.map pairText).filterMap pairOf))
    (member : p ∈ pairs) (named : lowercase q = lowercase p.1) :
    c.property? q = Text.nonempty (p.2.toList.takeWhile (· != '=')) := by
  have own : ∀ p' ∈ pairs, ∀ w, pairOf (pairText p') = some (lowercase q, w) →
      p' = p ∧ Text.nonempty (p.2.toList.takeWhile (· != '=')) = some w := by
    intro p' among w given
    rw [(isPairs p' among).pairOf_eq] at given
    obtain ⟨value, kept, same⟩ := Option.map_eq_some_iff.1 given
    obtain ⟨key, rfl⟩ := Prod.mk.inj same
    obtain rfl : p' = p := List.inj_on_of_nodup_map distinct among member (key.trans named)
    exact ⟨rfl, kept⟩
  cases kept : Text.nonempty (p.2.toList.takeWhile (· != '=')) with
  | none =>
      refine (property?_eq_none_iff read).2 fun piece among w given => ?_
      obtain ⟨p', member', rfl⟩ := List.mem_map.1 among
      rw [(own p' member' w given).2] at kept
      cases kept
  | some value =>
      obtain ⟨before, after, rfl⟩ := List.append_of_mem member
      refine (property?_eq_some_iff read).2 ⟨before.map pairText, pairText p, after.map pairText,
        by simp, ?_, fun piece among w given => ?_⟩
      · show pairOf (pairText p) = some (lowercase q, value)
        rw [(isPairs p member).pairOf_eq, kept, named, Option.map_some]
      · obtain ⟨p', member', rfl⟩ := List.mem_map.1 among
        obtain ⟨rfl, -⟩ := own p' (by simp [member']) w given
        rw [List.map_append, List.map_cons] at distinct
        have alone := (List.nodup_cons.1 (List.nodup_append.1 distinct).2.1).1
        have twice : lowercase p'.1 ∈ after.map fun p => lowercase p.1 :=
          List.mem_map.2 ⟨p', member', rfl⟩
        exact alone twice

end Pairs

/-! ## What is kept -/

theorem nonempty_takeWhile_eq_some_iff (given : value ≠ "") :
    Text.nonempty (value.toList.takeWhile (· != '=')) = some value ↔ '=' ∉ value.toList := by
  rw [Text.nonempty_eq_some_iff, ← Text.takeWhile_eq_self_iff]
  constructor
  · rintro ⟨-, same⟩
    exact same.symm
  · intro same
    rw [same]
    exact ⟨by simpa using given, rfl⟩

/-- **A value is kept up to its first equals sign.**  A message that is put together from a name,
pairs whose keys differ when they are in lower case, and any data is read as a command of this
name.  Asked for the key of one of the pairs in letters of any case, it answers with what stands
before the first equals sign in the value of the pair, and has no answer if nothing stands there:
that is the whole value if and only if there is no equals sign in it. -/
theorem values_end_at_equals (isName : IsName name) (isPairs : ∀ p ∈ pairs, IsPair p)
    (distinct : (pairs.map fun p => lowercase p.1).Nodup) (data : String) :
    ∃ c, parse (messageOf name pairs data) = some c ∧ c.name = lowercase name ∧
      ∀ p ∈ pairs, ∀ q, lowercase q = lowercase p.1 →
        c.property? q = Text.nonempty (p.2.toList.takeWhile (· != '=')) ∧
        (c.property? q = some p.2 ↔ '=' ∉ p.2.toList) := by
  obtain ⟨c, read, sameName, set⟩ := parse_messageOf isPairs isName data
  refine ⟨c, read, sameName, fun p member q named => ?_⟩
  have kept := property?_of_mem isPairs distinct set member named
  refine ⟨kept, ?_⟩
  rw [kept, nonempty_takeWhile_eq_some_iff (isPairs p member).value_given]

/-- Two pairs of which the first value is cut and the second one missing. -/
def cutPairs : List (String × String) := [("A", "b=c"), ("d", "=e"), ("f", "g")]

theorem cutPairs_isPairs : ∀ p ∈ cutPairs, IsPair p := by
  intro p member
  simp only [cutPairs, List.mem_cons, List.not_mem_nil, or_false] at member
  rcases member with rfl | rfl | rfl <;>
    exact ⟨by decide, by decide, by decide, by decide, by decide, by decide, by decide⟩

theorem values_end_at_equals_cut :
    (IsName "set-env" ∧ (∀ p ∈ cutPairs, IsPair p) ∧
        (cutPairs.map fun p => lowercase p.1).Nodup) ∧
      ∃ c, parse "::set-env A=b=c,d==e,f=g::x" = some c ∧ c.property? "a" = some "b" ∧
        c.property? "D" = none ∧ c.property? "f" = some "g" := by
  have isName : IsName "set-env" := by unfold IsName; decide
  have distinct : (cutPairs.map fun p => lowercase p.1).Nodup := by decide
  obtain ⟨c, read, -, kept⟩ := values_end_at_equals isName cutPairs_isPairs distinct "x"
  refine ⟨⟨isName, cutPairs_isPairs, distinct⟩, c, read, ?_, ?_, ?_⟩
  · exact (kept ("A", "b=c") (by decide) "a" (by decide)).1
  · exact (kept ("d", "=e") (by decide) "D" (by decide)).1
  · exact (kept ("f", "g") (by decide) "f" (by decide)).1

/-- **A value that holds an equals sign is cut at it or lost**, so not every value that is
written is read back. -/
theorem value_is_cut :
    let message := "::set-env A=b=c,d==e,f=g::x"
    messageOf "set-env" cutPairs "x" = message ∧
      (parse message).map (fun c => (c.property? "A", c.property? "d")) = some (some "b", none) ∧
      ¬ ∀ (name : String) (pairs : List (String × String)) (data : String), IsName name →
        (∀ p ∈ pairs, IsPair p) → (pairs.map fun p => lowercase p.1).Nodup →
        ∃ c, parse (messageOf name pairs data) = some c ∧
          ∀ p ∈ pairs, ∀ q, lowercase q = lowercase p.1 → c.property? q = some p.2 := by
  intro message
  have written : messageOf "set-env" cutPairs "x" = message := by decide
  have read : (parse message).map (fun c => (c.property? "A", c.property? "d")) =
      some (some "b", none) := by decide
  refine ⟨written, read, fun whole => ?_⟩
  obtain ⟨c, found, answers⟩ := whole "set-env" cutPairs "x" (by unfold IsName; decide)
    cutPairs_isPairs (by decide)
  rw [written] at found
  rw [found, Option.map_some, answers ("A", "b=c") (by decide) "A" rfl] at read
  simp at read

end WorkflowLint.Command
