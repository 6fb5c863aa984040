/-!
# Columns of a table
-/

namespace DemandPaging.Text

/-- The text at the right end of `width` places; a longer text keeps its length. -/
def alignRight (width : Nat) (text : String) : String :=
  String.ofList (List.replicate (width - text.length) ' ') ++ text

/-- A row of right-aligned cells, one blank between them. -/
def row (widths : List Nat) (cells : List String) : String :=
  " ".intercalate (List.zipWith alignRight widths cells)

end DemandPaging.Text
