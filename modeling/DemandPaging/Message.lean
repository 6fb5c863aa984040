import DemandPaging.Number.Power

/-!
# Messages

Processes send requests to the paging service. The service replies to each one
and tells the dispatcher of the events that admission depends on.
-/

namespace DemandPaging

/-- The reference that ends a reference string before its last item. -/
def endMarker : Int := -9

/-- What a process asks of the paging service. -/
inductive Request where
  /-- A reference to `page`, legal from zero up to `bound`. -/
  | access (page bound : Int)
  /-- The process has no further references. -/
  | endOfStream
  deriving DecidableEq, Repr

/-- The request for one item of a reference string. -/
def Request.ofReference (page bound : Int) : Request :=
  if page = endMarker then .endOfStream else .access page bound

def Request.text : Request → String
  | .access page bound => "Access \x7b " ++ s!"page: {page}, bound: {bound}" ++ " \x7d"
  | .endOfStream => "EndOfStream"

/-- Whether `page` is a page below `bound`. -/
def isWithin (page bound : Int) : Bool := 0 ≤ page && page < bound

/-- What the service answers to a request. -/
inductive Outcome where
  /-- The page is now resident in this frame. -/
  | frame (number : Nat)
  /-- The reference lies outside the legal pages. -/
  | illegal
  /-- No frame is free and the process has no page to give up. -/
  | starved
  /-- The end of the stream is acknowledged. -/
  | endOfStream
  deriving DecidableEq, Repr

namespace Outcome

/-- The outcome as one signed 64-bit word. Frames stand for themselves and the
other outcomes for negative numbers. -/
def code : Outcome → Int
  | .frame number => signedWord number
  | .illegal => -2
  | .starved => -1
  | .endOfStream => endMarker

/-- Whether a process gives up its remaining references after this outcome. -/
def endsReferences : Outcome → Bool
  | .illegal | .starved => true
  | .frame _ | .endOfStream => false

theorem endsReferences_iff {outcome : Outcome} :
    outcome.endsReferences = true ↔ outcome = .illegal ∨ outcome = .starved := by
  cases outcome <;> simp [endsReferences]

def text : Outcome → String
  | .frame number => s!"frame {number}"
  | .illegal => "INVALID"
  | .starved => "UNRESOLVABLE"
  | .endOfStream => "END"

end Outcome

/-- An answer to one process. -/
structure Reply where
  pid : Nat
  outcome : Outcome
  deriving DecidableEq, Repr

/-- An event that the service tells the dispatcher. -/
inductive Event where
  /-- A page fault was served. -/
  | fault
  /-- A reference found its page resident. -/
  | hit
  /-- The process has ended its stream. -/
  | ended
  deriving DecidableEq, Repr

structure Notice where
  pid : Nat
  event : Event
  deriving DecidableEq, Repr

end DemandPaging
