import DemandPaging.Text.Blank

/-!
# Lines and words
-/

namespace DemandPaging.Text

/-- The lines of a text, without the line feeds that end them. -/
def lines (text : List Char) : List (List Char) := text.splitOn '\n'

/-- The words of a text: what stands between blanks. -/
def words (text : List Char) : List (List Char) :=
  (text.splitOnP isBlank).filter (!·.isEmpty)

end DemandPaging.Text
