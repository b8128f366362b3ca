/-
# WorkflowLint.Cli.Output -- tables and lists of fields

Columns are as wide as the UTF-8 form of their widest cell, and cells are filled up
by characters; a table with other than ASCII characters is therefore wider than it
needs to be.
-/
import WorkflowLint.Text.Blank

namespace WorkflowLint.Cli

set_option autoImplicit false

def pad (width : Nat) (s : String) : String :=
  s ++ .ofList (List.replicate (width - s.length) ' ')

def columnWidths (rows : List (List String)) : List Nat :=
  rows.foldl (fun widths row => List.zipWith max widths (row.map (·.utf8ByteSize)))
    ((rows.headD []).map fun _ => 0)

/-- A row of a table; blanks at its end are dropped. -/
def tableRow (widths : List Nat) (row : List String) : String :=
  let line := "  ".intercalate (List.zipWith pad widths row)
  .ofList (Text.trimRight line.toList) ++ "\n"

/-- A table with a dashed rule below its header. -/
def table (headers : List String) (rows : List (List String)) : String :=
  let widths := columnWidths (headers :: rows)
  let rule := "  ".intercalate (widths.map fun w => .ofList (List.replicate w '-'))
  tableRow widths headers ++ rule ++ "\n" ++ .join (rows.map (tableRow widths))

/-- Lines of keys and values, the values aligned; a missing value is a dash. -/
def fieldList (fields : List (String × Option String)) : String :=
  let width := (fields.map fun (key, _) => key.utf8ByteSize).foldl max 0 + 1
  .join (fields.map fun (key, value) => pad width (key ++ ":") ++ " " ++ value.getD "-" ++ "\n")

end WorkflowLint.Cli
