/-
# WorkflowLint.Proofs.Text.Lines -- lines and the pieces between line feeds

The lines of a text are its pieces between line feeds, but for two things: a piece before a
line feed loses a carriage return at its end, and nothing behind the last line feed is no
line.  Whoever looks at each line and does not mind either (`MindsNoEnd`) may look at the
pieces instead (`filterMap_lines`), and so finds the same whichever way the lines end
(`filterMap_withCarriageReturns`).
-/
import WorkflowLint.Proofs.Text.Split

namespace WorkflowLint.Text

set_option autoImplicit false

variable {β : Type}

/-- The text with a carriage return before every line feed. -/
def withCarriageReturns (cs : List Char) : List Char :=
  cs.flatMap fun c => if c = '\n' then ['\r', '\n'] else [c]

/-- Nothing is said of an empty line, and nothing else of a line with a carriage return at its
end than of the line without. -/
structure MindsNoEnd (f : List Char × Nat → Option β) : Prop where
  empty : ∀ n, f ([], n) = none
  carriageReturn : ∀ line n, f (line ++ ['\r'], n) = f (line, n)

theorem dropCarriageReturn_cases (line : List Char) :
    dropCarriageReturn line = line ∨ line = dropCarriageReturn line ++ ['\r'] := by
  rw [dropCarriageReturn]
  split
  · next rest back =>
      refine Or.inr ?_
      rw [← List.reverse_reverse line, back, List.reverse_cons]
  · exact Or.inl rfl

namespace MindsNoEnd

variable {f : List Char × Nat → Option β} (mindsNoEnd : MindsNoEnd f)
include mindsNoEnd

theorem dropCarriageReturn (line : List Char) (n : Nat) :
    f (Text.dropCarriageReturn line, n) = f (line, n) := by
  rcases dropCarriageReturn_cases line with same | same
  · rw [same]
  · have ending := mindsNoEnd.carriageReturn (Text.dropCarriageReturn line) n
    rw [← same] at ending
    exact ending.symm

theorem filterMap_linesOfPieces (pieces : List (List Char)) (n : Nat) :
    ((linesOfPieces pieces).zipIdx n).filterMap f = (pieces.zipIdx n).filterMap f := by
  induction pieces generalizing n with
  | nil => rfl
  | cons piece pieces ih =>
      cases pieces with
      | nil =>
          cases piece with
          | nil => simp [linesOfPieces, mindsNoEnd.empty n]
          | cons c cs => rfl
      | cons next pieces =>
          rw [linesOfPieces, List.zipIdx_cons, List.zipIdx_cons, List.filterMap_cons,
            List.filterMap_cons, mindsNoEnd.dropCarriageReturn, ih]
          exact List.cons_ne_nil _ _

/-- What is found in the lines of a text is found in its pieces. -/
theorem filterMap_lines (cs : List Char) (n : Nat) :
    ((lines cs).zipIdx n).filterMap f = ((splitAll '\n' cs).zipIdx n).filterMap f :=
  mindsNoEnd.filterMap_linesOfPieces _ n

/-- The same is found when every line ends in a carriage return and a line feed. -/
theorem filterMap_withCarriageReturns (cs : List Char) (n : Nat) :
    ((splitAll '\n' (withCarriageReturns cs)).zipIdx n).filterMap f =
      ((splitAll '\n' cs).zipIdx n).filterMap f := by
  have kept : ∀ {piece : List Char}, '\n' ∉ piece → withCarriageReturns piece = piece := by
    intro piece clean
    induction piece with
    | nil => rfl
    | cons c piece ih =>
        have ne : c ≠ '\n' := fun same => clean (same ▸ List.mem_cons_self)
        have below : '\n' ∉ piece := fun member => clean (List.mem_cons_of_mem _ member)
        rw [withCarriageReturns, List.flatMap_cons, if_neg ne, ← withCarriageReturns, ih below]
        rfl
  induction cs using cut_induction '\n' generalizing n with
  | last piece clean => rw [kept clean]
  | cut piece rest clean ih =>
      have written : withCarriageReturns (piece ++ '\n' :: rest) =
          (piece ++ ['\r']) ++ '\n' :: withCarriageReturns rest := by
        rw [withCarriageReturns, List.flatMap_append, ← withCarriageReturns, kept clean]
        simp [withCarriageReturns]
      have ended : '\n' ∉ piece ++ ['\r'] := by simp [clean]
      rw [written, splitAll_append_cons ended, splitAll_append_cons clean, List.zipIdx_cons,
        List.zipIdx_cons, List.filterMap_cons, List.filterMap_cons, mindsNoEnd.carriageReturn, ih]

end MindsNoEnd

end WorkflowLint.Text
