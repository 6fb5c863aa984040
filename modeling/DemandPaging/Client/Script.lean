import DemandPaging.Client.Basic

/-!
# Scripted services

A script answers requests from a list that is fixed beforehand. It stands for a
service of which nothing is known.
-/

namespace DemandPaging

/-- One item of a script. -/
inductive Cue where
  /-- Replies to whoever asked. -/
  | outcome (outcome : Outcome)
  /-- Replies to a fixed process. -/
  | addressed (recipient : Nat) (outcome : Outcome)
  | drop
  | silence
  deriving DecidableEq, Repr

/-- A scripted service. -/
structure Script where
  cues : List Cue
  /-- The outcome of references after the last cue; none cuts the way back. -/
  fallback : Option Outcome := none
  /-- Whether requests are taken at all. -/
  listening : Bool := true
  /-- How long a client waits for a reply, in nanoseconds. -/
  patience : Option Nat := none
  deriving DecidableEq, Repr

namespace Script

/-- What a cue comes to for the client `pid`. A client that waits without a limit
learns of a silent service when the way back is cut. -/
def answerOf (script : Script) (pid : Nat) : Cue → Answer
  | .outcome outcome => .reply pid outcome
  | .addressed recipient outcome => .reply recipient outcome
  | .drop => .dropped
  | .silence => (script.patience.map .overdue).getD .dropped

/-- The cue for a request after the last one of the list. -/
def fallbackCue (script : Script) : Request → Cue
  | .endOfStream => .outcome .endOfStream
  | .access _ _ => (script.fallback.map .outcome).getD .drop

/-- Answers a request of the client `pid`. -/
def ask (pid : Nat) (script : Script) (request : Request) : Except Failure (Script × Answer) :=
  if script.listening then
    match script.cues with
    | cue :: cues => .ok ({ script with cues }, script.answerOf pid cue)
    | [] => .ok (script, script.answerOf pid (script.fallbackCue request))
  else .ok (script, .refused)

end Script

end DemandPaging
