import DemandPaging.Client.Basic
import DemandPaging.Log

/-!
# What a process reports
-/

namespace DemandPaging.Client

variable (client : Client)

/-- A report of the client. -/
def record (level : Log.Level) (text : String) : Log.Record := ⟨level, .process client.pid, text⟩

/-- The report on a reply that was meant for somebody else. -/
def recipientRecords (recipient : Nat) : List Log.Record :=
  if recipient = client.pid then []
  else [client.record .warn s!"got reply addressed to pid={recipient}"]

/-- The reports on the end of the stream. -/
def endRecords (exchanges : List Exchange) : List Log.Record :=
  match exchanges with
  | ⟨_, .reply recipient outcome⟩ :: _ =>
    client.recipientRecords recipient ++
      (if outcome = .endOfStream then []
        else [client.record .warn s!"expected end-of-ref ack, got {outcome.text}"]) ++
      [client.record .info "finished reference string"]
  | _ => []

/-- The reports on the exchanges of a conversation about the given references. -/
def exchangeRecords : List Int → List Exchange → List Log.Record
  | [], exchanges => client.endRecords exchanges
  | page :: references, exchanges =>
    if page = endMarker then
      client.record .debug "end marker in reference string" :: client.endRecords exchanges
    else
      match exchanges with
      | ⟨_, .reply recipient outcome⟩ :: exchanges =>
        client.recipientRecords recipient ++
          client.record .debug s!"page={page} -> {outcome.text}" ::
          if outcome.endsReferences then
            client.record .info s!"{outcome.text} page={page} -> terminating" ::
              client.endRecords exchanges
          else exchangeRecords references exchanges
      | _ => []

/-- All reports of a client with the given exchanges. -/
def records (entrance : Entrance) (exchanges : List Exchange) : List Log.Record :=
  match entrance with
  | .closed => []
  | .abandoned => [client.record .debug "registered"]
  | .opened =>
    client.record .debug "registered" ::
      client.record .info s!"admitted, {client.references.length} references" ::
      client.exchangeRecords client.references exchanges

end DemandPaging.Client
