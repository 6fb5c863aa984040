import DemandPaging.Failure.Basic
import DemandPaging.Message

/-!
# Processes as clients of a paging service

A process owns a reference string. It registers, waits to be resumed, sends one
request after another, each one after the reply to the one before, and ends its
stream exactly once. What it talks to is left open: any function from requests
to answers will do, with a state of its own.
-/

namespace DemandPaging

/-- A process: the pages from zero up to `bound` are legal for it. -/
structure Client where
  pid : Nat
  bound : Int
  references : List Int
  deriving DecidableEq, Repr

/-- What becomes of a request. -/
inductive Answer where
  /-- A reply comes, addressed to `recipient`. -/
  | reply (recipient : Nat) (outcome : Outcome)
  /-- Nobody takes the request. -/
  | refused
  /-- The request is taken, and the way back is cut without a reply. -/
  | dropped
  /-- The request is taken, and no reply comes within the given nanoseconds. -/
  | overdue (after : Nat)
  deriving DecidableEq, Repr

/-- The outcome that a client takes from an answer, whoever it is addressed to. -/
def Answer.outcome : Answer → Except Failure Outcome
  | .reply _ outcome => .ok outcome
  | .refused => .error (.disconnected "MMU request")
  | .dropped => .error (.disconnected "MMU reply")
  | .overdue after => .error (.timedOut "MMU reply" after)

/-- A request and what became of it. -/
structure Exchange where
  request : Request
  answer : Answer
  deriving DecidableEq, Repr

/-- A finished conversation: the other side at the end, all exchanges in order,
and the outcomes of the references that were sent. -/
structure Conversation (σ : Type) where
  peer : σ
  exchanges : List Exchange
  result : Except Failure (List Outcome)

namespace Conversation

variable {σ : Type}

/-- The conversation with one more exchange, of a reference, in front. -/
def prepend (exchange : Exchange) (outcome : Outcome) (rest : Conversation σ) :
    Conversation σ where
  peer := rest.peer
  exchanges := exchange :: rest.exchanges
  result := rest.result.map (outcome :: ·)

/-- The requests that the other side saw. -/
def requests (conversation : Conversation σ) : List Request :=
  conversation.exchanges.filterMap fun exchange =>
    if exchange.answer = .refused then none else some exchange.request

end Conversation

/-- What a process reports of its references. -/
structure OutcomeReport where
  pid : Nat
  outcomes : List Outcome
  deriving DecidableEq, Repr

/-- Whether a process is let in. -/
inductive Entrance where
  /-- Nobody takes registrations. -/
  | closed
  /-- The process is registered, and nobody is left to resume it. -/
  | abandoned
  /-- The process is registered and resumed. -/
  | opened
  deriving DecidableEq, Repr

namespace Client

variable {σ : Type} (ask : σ → Request → Except Failure (σ × Answer))

/-- Ends the stream. Any reply will do. -/
def endStream (peer : σ) : Except Failure (Conversation σ) := do
  let (peer, answer) ← ask peer .endOfStream
  return {
    peer
    exchanges := [⟨.endOfStream, answer⟩]
    result := answer.outcome.map fun _ => [] }

/-- Sends references until they run out, the end marker comes, an outcome ends
them or an exchange fails, and then, unless an exchange failed, ends the
stream. -/
def converse (bound : Int) (peer : σ) : List Int → Except Failure (Conversation σ)
  | [] => endStream ask peer
  | page :: references =>
    match Request.ofReference page bound with
    | .endOfStream => endStream ask peer
    | request => do
      let (peer, answer) ← ask peer request
      match answer.outcome with
      | .error failure =>
        return { peer, exchanges := [⟨request, answer⟩], result := .error failure }
      | .ok outcome =>
        let rest ← if outcome.endsReferences then endStream ask peer
          else converse bound peer references
        return rest.prepend ⟨request, answer⟩ outcome

/-- The whole life of a client: nothing is sent before it is resumed. -/
def run (client : Client) (entrance : Entrance) (peer : σ) : Except Failure (Conversation σ) :=
  match entrance with
  | .closed => .ok ⟨peer, [], .error (.disconnected "registration")⟩
  | .abandoned => .ok ⟨peer, [], .error (.disconnected "resume")⟩
  | .opened => converse ask client.bound peer client.references

/-- What a client reports after a conversation. -/
def report (client : Client) (talk : Conversation σ) : Except Failure OutcomeReport :=
  talk.result.map (⟨client.pid, ·⟩)

end Client

end DemandPaging
