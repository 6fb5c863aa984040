/-!
# Answers to a list of calls

A part of the memory is used through calls. Each call gets an answer and leaves a
state behind, for the next one. Two machines that answer every call alike from
related states, and are related again afterwards, answer any list of calls alike.
-/

namespace DemandPaging

variable {σ τ κ ρ : Type}

/-- The answers to calls made one after another, and the state after the last one. -/
def answerAll (answer : σ → κ → ρ × σ) : σ → List κ → List ρ × σ
  | state, [] => ([], state)
  | state, call :: calls =>
    let (response, next) := answer state call
    let (responses, last) := answerAll answer next calls
    (response :: responses, last)

theorem answerAll_related {answer : σ → κ → ρ × σ} {other : τ → κ → ρ × τ}
    (related : σ → τ → Prop)
    (hanswer : ∀ state partner call, related state partner →
      (answer state call).1 = (other partner call).1 ∧
        related (answer state call).2 (other partner call).2)
    (calls : List κ) {state : σ} {partner : τ} (hrelated : related state partner) :
    (answerAll answer state calls).1 = (answerAll other partner calls).1 ∧
      related (answerAll answer state calls).2 (answerAll other partner calls).2 := by
  induction calls generalizing state partner with
  | nil => exact ⟨rfl, hrelated⟩
  | cons call calls ih =>
      obtain ⟨hresponse, hnext⟩ := hanswer state partner call hrelated
      obtain ⟨hresponses, hlast⟩ := ih hnext
      exact ⟨by simp only [answerAll, hresponse, hresponses], hlast⟩

end DemandPaging
