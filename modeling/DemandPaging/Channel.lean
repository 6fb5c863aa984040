import DemandPaging.Failure.Basic

/-!
# Channels

An unbounded first-in first-out channel with one sending and one receiving end.
A message in the queue can be received whether or not the sending end is still
there; an empty channel whose sending end is gone will stay empty.
-/

namespace DemandPaging

structure Channel (α : Type) where
  queue : List α := []
  /-- Whether the sending end is still there. -/
  hasSender : Bool := true
  /-- Whether the receiving end is still there. -/
  hasReceiver : Bool := true

namespace Channel

variable {α : Type}

/-- The failure to receive from an empty channel. With the sending end there it
takes the whole waiting time; without a limit the wait never ends, and there is
no failure. -/
def emptyFailure? (name : String) (hasSender : Bool) (patience : Option Nat) : Option Failure :=
  if hasSender then patience.map (.timedOut name) else some (.disconnected name)

def send (channel : Channel α) (name : String) (message : α) : Except Failure (Channel α) :=
  if channel.hasReceiver then .ok { channel with queue := channel.queue ++ [message] }
  else .error (.disconnected name)

/-- Receives the oldest message. No answer means a wait without end. -/
def receive? (channel : Channel α) (name : String) (patience : Option Nat) :
    Option (Except Failure (α × Channel α)) :=
  match channel.queue with
  | message :: queue => some (.ok (message, { channel with queue }))
  | [] => (emptyFailure? name channel.hasSender patience).map .error

theorem queue_of_send {channel next : Channel α} {name : String} {message : α}
    (hsend : channel.send name message = .ok next) : next.queue = channel.queue ++ [message] := by
  unfold send at hsend
  split at hsend
  next => rw [← Except.ok.inj hsend]
  next => exact nomatch hsend

theorem queue_of_receive? {channel next : Channel α} {name : String} {patience : Option Nat}
    {message : α} (hreceive : channel.receive? name patience = some (.ok (message, next))) :
    channel.queue = message :: next.queue := by
  unfold receive? at hreceive
  split at hreceive
  next hqueue =>
    obtain ⟨rfl, rfl⟩ := Prod.mk.inj (Except.ok.inj (Option.some.inj hreceive))
    exact hqueue
  next =>
    obtain ⟨failure, -, hfailure⟩ := Option.map_eq_some_iff.mp hreceive
    exact nomatch hfailure

def dropSender (channel : Channel α) : Channel α := { channel with hasSender := false }

/-- Messages still in the queue are lost with the receiving end. -/
def dropReceiver (channel : Channel α) : Channel α :=
  { channel with hasReceiver := false, queue := [] }

end Channel

end DemandPaging
