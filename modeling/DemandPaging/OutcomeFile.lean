import DemandPaging.Message

/-!
# Outcome files

An outcome file has one line for each process: the codes of its outcomes with
one blank between them.
-/

namespace DemandPaging.OutcomeFile

/-- The line of one process. -/
def line (outcomes : List Outcome) : String :=
  " ".intercalate (outcomes.map fun outcome => toString outcome.code)

/-- The lines of all processes, without an end of the last line. -/
def text (processes : List (List Outcome)) : String := "\n".intercalate (processes.map line)

/-- What is written to the file. -/
def contents (processes : List (List Outcome)) : String := text processes ++ "\n"

end DemandPaging.OutcomeFile
