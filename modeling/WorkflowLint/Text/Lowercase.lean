/-
# WorkflowLint.Text.Lowercase -- full lower-casing of a text

`lowercase` maps every character by the Unicode rules that do not depend on a
language.  Two rules go beyond one character at a time:

* a capital sigma becomes the final form when a cased letter stands before it
  and none after it, case-ignorable characters being passed over on both sides;
* `İ` becomes the two characters `i` and U+0307.
-/
import WorkflowLint.Text.CaseTable

namespace WorkflowLint.Text

set_option autoImplicit false

private def inRanges (ranges : Array (Nat × Nat)) (c : Char) : Bool :=
  ranges.any fun (low, high) => low ≤ c.toNat && c.toNat ≤ high

def isCaseIgnorable (c : Char) : Bool := inRanges ignorableRanges c

/-- A cased letter that is not case-ignorable. -/
def isCased (c : Char) : Bool := inRanges casedRanges c

/-- Whether the first character that is not case-ignorable is a cased letter. -/
def startsCased (cs : List Char) : Bool :=
  match cs.dropWhile isCaseIgnorable with
  | [] => false
  | c :: _ => isCased c

/-- The lower-case form of one character seen alone. -/
def lowerChar (c : Char) : List Char :=
  if c.toNat < 0x80 then [c.toLower]
  else if c = 'İ' then ['i', '\u0307']
  else
    match lowerRuns.find? (·.contains c.toNat) with
    | some run => [Char.ofNat (c.toNat + run.shift).toNat]
    | none => [c]

/-- Lowers `rest`, where `seen` are the characters before it, last one first. -/
def lowerAfter (seen : List Char) : List Char → List Char
  | [] => []
  | c :: rest =>
    let lowered :=
      if c = 'Σ' then if startsCased seen && !startsCased rest then ['ς'] else ['σ']
      else lowerChar c
    lowered ++ lowerAfter (c :: seen) rest

def lowercase (s : String) : String := .ofList (lowerAfter [] s.toList)

/-- Equality that ignores the case of ASCII letters only. -/
def equalIgnoringCase (a b : String) : Bool :=
  a.toList.map Char.toLower == b.toList.map Char.toLower

end WorkflowLint.Text
