import DemandPaging.Failure.Message
import DemandPaging.Random.Draw

/-!
# Complaints

A complaint tells the user what failed, what was being done at the time, and
what lies behind the failure.
-/

namespace DemandPaging.CommandLine

/-- A failure, and the activities that it ended, the outermost first. -/
structure Complaint where
  activities : List String
  failure : Failure
  deriving DecidableEq, Repr

/-- A cause behind `first` blanks or a number; further lines of it are indented
as far. -/
def indented (first : String) (text : String) : String :=
  let margin := String.ofList (List.replicate first.length ' ')
  first ++ ("\n" ++ margin).intercalate (text.splitOn "\n")

/-- The causes, numbered from zero if there are several. -/
def causeLines : List String → List String
  | [] => []
  | [cause] => [indented "    " cause]
  | causes => causes.zipIdx.map fun (cause, number) => indented (numbered number) cause
where
  /-- A number that ends in the fifth place. -/
  numbered (number : Nat) : String :=
    let digits := toString number
    String.ofList (List.replicate (5 - digits.length) ' ') ++ digits ++ ": "

namespace Complaint

/-- All texts of the complaint, from the activities to the last cause. -/
def texts (complaint : Complaint) : List String :=
  complaint.activities ++ complaint.failure.message :: complaint.failure.causes

/-- The printed complaint. -/
def text (complaint : Complaint) : String :=
  match complaint.texts with
  | [] => "Error: "
  | [first] => s!"Error: {first}\n"
  | first :: causes =>
    "\n".intercalate ([s!"Error: {first}", "", "Caused by:"] ++ causeLines causes) ++ "\n"

end Complaint

end DemandPaging.CommandLine
