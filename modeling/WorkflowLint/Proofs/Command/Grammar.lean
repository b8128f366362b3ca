/-
# WorkflowLint.Proofs.Command.Grammar -- how a command is written

A message is a command if, trimmed, it opens with the marker and holds the marker once more
behind that.  It is cut where the second marker stands first (`Cut`); what is in between is the
name, and behind a first blank the properties (`Head`), and nothing behind the cut has a part in
either (`parse_of_cut`).

A pair with one equals sign sets the property that stands before the sign to what stands behind
it (`Sets`), and of the pairs that set one property the last counts (`commands_follow_grammar`).
-/
import WorkflowLint.Proofs.Command.Properties
import WorkflowLint.Proofs.Text.Blank

namespace WorkflowLint.Command

set_option autoImplicit false

open Text (isBlank lowercase splitAll trim)

variable {message : String} {info data name properties : List Char}

/-! ## Where a message is cut -/

/-- The message, trimmed, is a marker, `info`, a marker and `data`, and no marker stands earlier
behind the first one. -/
structure Cut (message : String) (info data : List Char) : Prop where
  written : trim message.toList = marker ++ (info ++ (marker ++ data))
  first : ∀ info' data', trim message.toList = marker ++ (info' ++ (marker ++ data')) →
    info.length ≤ info'.length

theorem cut_eq_some_iff : cut message = some (info, data) ↔ Cut message info data := by
  have read : cut message = some (info, data) ↔
      ∃ rest, marker ++ rest = trim message.toList ∧
        Text.splitOnce marker rest = some (info, data) := by
    simp only [cut, Option.bind_eq_bind, Option.bind_eq_some_iff,
      List.isPrefixOf?_eq_some_iff_append_eq]
  rw [read]
  constructor
  · rintro ⟨rest, opened, split⟩
    obtain ⟨rfl, least⟩ := Text.splitOnce_eq_some_iff.1 split
    refine ⟨opened.symm, fun info' data' same => least info' data' ?_⟩
    exact List.append_cancel_left (opened.trans same)
  · rintro ⟨written, first⟩
    refine ⟨_, written.symm, Text.splitOnce_eq_some_iff.2 ⟨rfl, fun info' data' same => ?_⟩⟩
    exact first info' data' (by rw [written, same])

theorem isSome_cut_iff : (cut message).isSome = true ↔
    ∃ info data, trim message.toList = marker ++ (info ++ (marker ++ data)) := by
  constructor
  · intro found
    obtain ⟨⟨info, data⟩, cut⟩ := Option.isSome_iff_exists.1 found
    exact ⟨info, data, (cut_eq_some_iff.1 cut).written⟩
  · rintro ⟨info, data, written⟩
    have opened : marker.isPrefixOf? (trim message.toList) = some (info ++ (marker ++ data)) :=
      List.isPrefixOf?_eq_some_iff_append_eq.2 written.symm
    rw [cut, opened]
    exact Text.isSome_splitOnce_iff.2 ⟨info, data, rfl⟩

/-- What holds no colon ends before the second marker. -/
theorem Cut.of_not_mem (clean : ':' ∉ info)
    (written : trim message.toList = marker ++ (info ++ (marker ++ data))) :
    Cut message info data := by
  refine ⟨written, fun info' data' same => ?_⟩
  rw [written] at same
  exact Text.length_le_of_not_mem clean (List.append_cancel_left same)

/-! ## What a command is read from -/

/-- What stands between the markers: a name, and properties if there is a space. -/
inductive Head : List Char → List Char → List Char → Prop where
  | name {name : List Char} (clean : ' ' ∉ name) : Head name name []
  | properties {name : List Char} (clean : ' ' ∉ name) (properties : List Char) :
      Head (name ++ ' ' :: properties) name properties

theorem exists_head (info : List Char) : ∃ name properties, Head info name properties := by
  rcases Text.not_mem_or_cut ' ' info with clean | ⟨name, properties, clean, rfl⟩
  · exact ⟨info, [], .name clean⟩
  · exact ⟨name, properties, .properties clean properties⟩

/-- Name and properties are read from what stands before the cut, and data from what stands
behind it. -/
theorem parse_of_cut (cut : Cut message info data) (head : Head info name properties) :
    parse message = some ⟨lowercase (.ofList name), propertiesOf (pairsOf properties),
      Text.nonempty (trim data)⟩ := by
  have found := cut_eq_some_iff.2 cut
  have split : (Text.splitOnce [' '] info).getD (info, []) = (name, properties) := by
    cases head with
    | name clean => rw [Text.splitOnce_of_not_mem clean, Option.getD_none]
    | properties clean => rw [Text.splitOnce_append_cons clean, Option.getD_some]
  simp only [parse, found, Option.map_some, split]

/-! ## What a pair sets -/

/-- A pair sets a property: it is the name of the property, in letters of any case and perhaps
between blanks, an equals sign and the value, and neither is empty. -/
def Sets (pair : List Char) (property value : String) : Prop :=
  ∃ key, pair = key ++ '=' :: value.toList ∧ trim key ≠ [] ∧ value ≠ "" ∧
    lowercase (.ofList (trim key)) = lowercase property

/-- A pair with one equals sign gives a property the value that it sets it to. -/
theorem pairOf_eq_some_iff_sets {pair : List Char} {property value : String}
    (once : pair.count '=' ≤ 1) :
    pairOf pair = some (lowercase property, value) ↔ Sets pair property value := by
  rw [pairOf_eq_some_iff]
  have alone : ∀ {key rest : List Char}, '=' ∉ key → pair = key ++ '=' :: rest →
      rest.takeWhile (· != '=') = rest := by
    rintro key rest clean rfl
    rw [List.count_append, List.count_cons_self, List.count_eq_zero.2 clean] at once
    refine Text.takeWhile_eq_self_iff.2 fun member => ?_
    have again : 0 < rest.count '=' := List.count_pos_iff.2 member
    omega
  constructor
  · rintro ⟨key, rest, clean, same, solid, named, given⟩
    rw [alone clean same] at given
    obtain ⟨filled, read⟩ := Text.nonempty_eq_some_iff.1 given
    refine ⟨key, by rw [read, same], solid, ?_, named⟩
    rintro rfl
    exact filled read.symm
  · rintro ⟨key, same, solid, filled, named⟩
    have clean : '=' ∉ key := by
      intro member
      have again : 0 < key.count '=' := List.count_pos_iff.2 member
      rw [same, List.count_append, List.count_cons_self] at once
      omega
    refine ⟨key, value.toList, clean, same, solid, named, ?_⟩
    rw [alone clean same, Text.nonempty_toList filled]

/-! ## What is read -/

/-- **Commands are read by their grammar.**  A message is a command if and only if, trimmed, it
opens with the marker and holds another marker behind that one.  It is cut where the second marker
stands first: the command has its name, in lower case, and its properties from what stands before
the cut, so that any message with the same there has them too, and all that stands behind the cut,
trimmed, is its data, if that is not blank.  If no pair between two commas holds a second equals
sign, a property has the value that the last of the pairs sets it to that set it at all, and none
if no pair does. -/
theorem commands_follow_grammar (message : String) :
    ((parse message).isSome = true ↔
      ∃ info data, trim message.toList = marker ++ (info ++ (marker ++ data))) ∧
    ∀ c, parse message = some c →
      ∃ info data name properties, Cut message info data ∧ Head info name properties ∧
        c.name = lowercase (.ofList name) ∧
        (c.data = none ↔ ∀ ch ∈ data, isBlank ch = true) ∧
        (∀ text, c.data = some text → text.toList = trim data) ∧
        (∀ message' data', Cut message' info data' →
          ∃ c', parse message' = some c' ∧ c'.name = c.name ∧ c'.properties = c.properties) ∧
        ((∀ pair ∈ splitAll ',' (trim properties), pair.count '=' ≤ 1) → ∀ property,
          (∀ value, c.property? property = some value ↔
            LastGives (Sets · property) (splitAll ',' (trim properties)) value) ∧
          (c.property? property = none ↔
            ∀ pair ∈ splitAll ',' (trim properties), ∀ value, ¬ Sets pair property value)) := by
  refine ⟨by rw [parse, Option.isSome_map, isSome_cut_iff], fun c read => ?_⟩
  obtain ⟨⟨info, data⟩, found, -⟩ := Option.map_eq_some_iff.1 read
  have cut : Cut message info data := cut_eq_some_iff.1 found
  obtain ⟨name, properties, head⟩ := exists_head info
  obtain rfl := Option.some.inj (read.symm.trans (parse_of_cut cut head))
  refine ⟨info, data, name, properties, cut, head, rfl, ?_, fun text given => ?_,
    fun message' data' cut' => ⟨_, parse_of_cut cut' head, rfl, rfl⟩, fun once property => ?_⟩
  · rw [← Text.trim_eq_nil_iff]
    cases trim data with
    | nil => simp
    | cons d ds => simp [Text.nonempty]
  · exact (Text.nonempty_eq_some_iff.1 given).2
  · have sets : ∀ pair ∈ splitAll ',' (trim properties), ∀ value,
        pairOf pair = some (lowercase property, value) ↔ Sets pair property value :=
      fun pair member value => pairOf_eq_some_iff_sets (once pair member)
    refine ⟨fun value => ?_, ?_⟩
    · rw [property?_eq_some_iff rfl]
      exact LastGives.congr sets value
    · rw [property?_eq_none_iff rfl]
      exact forall₂_congr fun pair member => forall_congr' fun value => not_congr (sets pair member value)

/-- Of three colons the first two are the marker, and one alone is none. -/
example : parse ":::" = none ∧ parse ":::::" = some ⟨"", [], some ":"⟩ := by decide

end WorkflowLint.Command
