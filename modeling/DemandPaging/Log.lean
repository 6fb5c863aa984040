/-!
# Log records

What the parts of a simulation have to say about their work. Records are never
written by the operations themselves: each part has a function that tells, from
the state before a step and the step, what there is to report.
-/

namespace DemandPaging.Log

inductive Level where
  | trace | debug | info | warn | error
  deriving DecidableEq, Repr

def Level.name : Level → String
  | .trace => "TRACE"
  | .debug => "DEBUG"
  | .info => "INFO"
  | .warn => "WARN"
  | .error => "ERROR"

/-- Levels from the most to the least important. -/
def Level.rank : Level → Nat
  | .error => 0
  | .warn => 1
  | .info => 2
  | .debug => 3
  | .trace => 4

/-- The part of the simulation that reports. -/
inductive Source where
  | master
  | memory
  | process (pid : Nat)
  | scheduler
  deriving DecidableEq, Repr

def Source.tag : Source → String
  | .master => "[MASTER]"
  | .memory => "[MMU]"
  | .process pid => s!"[PROC {pid}]"
  | .scheduler => "[SCHED]"

structure Record where
  level : Level
  source : Source
  text : String
  deriving DecidableEq, Repr

/-- The record as one line, its source first. -/
def Record.line (record : Record) : String := s!"{record.source.tag} {record.text}"

end DemandPaging.Log
