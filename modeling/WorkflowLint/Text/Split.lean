/-
# WorkflowLint.Text.Split -- cutting a text at separators

`splitAll` cuts at every occurrence of a character and keeps empty pieces, so a
text with `n` separators gives `n + 1` pieces.  `splitOnce` cuts at the first
occurrence of a word.  `lines` cuts a script into its lines.
-/

namespace WorkflowLint.Text

set_option autoImplicit false

/-- The pieces between the occurrences of `sep`; there is always at least one. -/
def splitAll (sep : Char) : List Char → List (List Char)
  | [] => [[]]
  | c :: cs =>
    if c = sep then [] :: splitAll sep cs
    else
      match splitAll sep cs with
      | [] => [[c]]
      | piece :: pieces => (c :: piece) :: pieces

/-- What stands before and after the first occurrence of the word `sep`. -/
def splitOnce (sep : List Char) : List Char → Option (List Char × List Char)
  | [] => if sep.isEmpty then some ([], []) else none
  | c :: cs =>
    match sep.isPrefixOf? (c :: cs) with
    | some rest => some ([], rest)
    | none => (splitOnce sep cs).map fun (before, rest) => (c :: before, rest)

def joinWith (sep : Char) : List (List Char) → List Char
  | [] => []
  | [piece] => piece
  | piece :: pieces => piece ++ sep :: joinWith sep pieces

/-- A line that ended in a line feed, less one carriage return at its end. -/
def dropCarriageReturn (line : List Char) : List Char :=
  match line.reverse with
  | '\r' :: rest => rest.reverse
  | _ => line

/-- The last piece is a line of its own unless it is empty. -/
def linesOfPieces : List (List Char) → List (List Char)
  | [] => []
  | [last] => if last.isEmpty then [] else [last]
  | piece :: pieces => dropCarriageReturn piece :: linesOfPieces pieces

/-- The lines of a script: each ends at a line feed, and one carriage return
before the line feed belongs to the line end. -/
def lines (cs : List Char) : List (List Char) := linesOfPieces (splitAll '\n' cs)

/-- The text as an option: an empty text is no text. -/
def nonempty (cs : List Char) : Option String :=
  if cs.isEmpty then none else some (.ofList cs)

end WorkflowLint.Text
