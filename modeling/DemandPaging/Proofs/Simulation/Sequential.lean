import Mathlib.Data.List.Basic
import DemandPaging.Proofs.Service.Serve
import DemandPaging.Proofs.Simulation.Threads

/-!
# One process after another

Without threads each process has its whole conversation with the service before
the next one begins. `Talks` and `Performs` say what is left of such a run from
any point on, which is what the steps of threads are compared with. The requests
of a process are its references, up to the one that ends them, and one end of its
stream.
-/

namespace DemandPaging

/-- The requests of a client that sends as many references before it ends its stream. -/
def Client.stream (client : Client) (count : Nat) : List (Nat × Request) :=
  (client.references.take count).map (fun page => (client.pid, .access page client.bound)) ++
    [(client.pid, .endOfStream)]

/-- The references that are left after an outcome. -/
def remaining (references : List Int) (outcome : Outcome) : List Int :=
  if outcome.endsReferences then [] else references.tail

/-- A client with these references before it ends its stream after these outcomes: it
has no reference left, or comes to the end marker, or the last outcome ends its
references. -/
def EndsAfter : List Int → List Outcome → Prop
  | references, [] => references = [] ∨ references.head? = some endMarker
  | [], _ :: _ => False
  | page :: references, outcome :: outcomes =>
    page ≠ endMarker ∧
      if outcome = .illegal ∨ outcome = .starved then outcomes = []
      else EndsAfter references outcomes

/-- The desk after a request. -/
def Desk.handled (desk : Desk) (letter : Letter) (served : Served) : Desk :=
  ⟨served.service, desk.steps.push ⟨desk.service, letter, served⟩⟩

/-- From here on a client with these references before it has these outcomes. -/
inductive Talks (pid : Nat) (bound : Int) : Desk → List Int → Desk → List Outcome → Prop where
  | last {desk : Desk} {references : List Int} {served : Served}
      (hrequest : nextRequest bound references = .endOfStream)
      (hserve : desk.service.serve pid .endOfStream = .ok served) :
      Talks pid bound desk references (desk.handled ⟨pid, .endOfStream, true⟩ served) []
  | more {desk final : Desk} {page : Int} {references : List Int} {served : Served}
      {outcomes : List Outcome}
      (hrequest : nextRequest bound (page :: references) = .access page bound)
      (hserve : desk.service.serve pid (.access page bound) = .ok served)
      (hrest : Talks pid bound (desk.handled ⟨pid, .access page bound, true⟩ served)
        (remaining (page :: references) served.reply.outcome) final outcomes) :
      Talks pid bound desk (page :: references) final (served.reply.outcome :: outcomes)

/-- From here on the clients have these outcomes, one client after another. -/
inductive Performs : Desk → List Client → Desk → List (List Outcome) → Prop where
  | nil {desk : Desk} : Performs desk [] desk []
  | cons {desk middle final : Desk} {client : Client} {clients : List Client}
      {outcomes : List Outcome} {rest : List (List Outcome)}
      (htalks : Talks client.pid client.bound desk client.references middle outcomes)
      (hrest : Performs middle clients final rest) :
      Performs desk (client :: clients) final (outcomes :: rest)

theorem Request.ofReference_eq_endOfStream_iff {page bound : Int} :
    Request.ofReference page bound = .endOfStream ↔ page = endMarker := by
  simp [ofReference]

theorem nextRequest_cases (bound : Int) (references : List Int) :
    nextRequest bound references = .endOfStream ∨
      ∃ page rest, references = page :: rest ∧
        nextRequest bound references = .access page bound := by
  cases references with
  | nil => exact .inl rfl
  | cons page rest =>
      simp only [nextRequest, Request.ofReference]
      split
      next => exact .inl rfl
      next => exact .inr ⟨page, rest, rfl, rfl⟩

variable {pid processes : Nat} {bound : Int} {desk final : Desk} {references : List Int}
  {outcomes : List Outcome}

theorem Desk.ask_eq {request : Request} {served : Served}
    (hserve : desk.service.serve pid request = .ok served) :
    desk.ask pid request =
      .ok (desk.handled ⟨pid, request, true⟩ served,
        .reply served.reply.pid served.reply.outcome) := by
  simp only [ask, hserve, bind, Except.bind]
  rfl

theorem Client.converse_of_last {σ : Type} {ask : σ → Request → Except Failure (σ × Answer)}
    {peer : σ} (hrequest : nextRequest bound references = .endOfStream) :
    converse ask bound peer references = endStream ask peer := by
  cases references with
  | nil => rfl
  | cons page rest =>
      simp only [nextRequest] at hrequest
      simp only [converse, hrequest]

theorem Client.converse_of_more {σ : Type} {ask : σ → Request → Except Failure (σ × Answer)}
    {peer next : σ} {page : Int} {recipient : Nat} {outcome : Outcome} {rest : Conversation σ}
    (hrequest : nextRequest bound (page :: references) = .access page bound)
    (hask : ask peer (.access page bound) = .ok (next, .reply recipient outcome))
    (hrest : converse ask bound next (remaining (page :: references) outcome) = .ok rest) :
    converse ask bound peer (page :: references) =
      .ok (rest.prepend ⟨.access page bound, .reply recipient outcome⟩ outcome) := by
  simp only [nextRequest] at hrequest
  simp only [converse, hrequest, hask, bind, Except.bind, Answer.outcome]
  unfold remaining at hrest
  split at hrest
  next hends =>
    rw [converse] at hrest
    simp only [hends, if_true, hrest]
    rfl
  next hgoes =>
    rw [List.tail_cons] at hrest
    simp only [hgoes, hrest]
    rfl

namespace Talks

/-- The steps of a conversation follow the steps before it. -/
theorem steps_initial (htalks : Talks pid bound desk references final outcomes) :
    desk.steps.toList <+: final.steps.toList := by
  induction htalks with
  | last => simp [Desk.handled]
  | more _ _ _ ih =>
      refine List.IsPrefix.trans ?_ ih
      simp [Desk.handled]

/-- The conversation is the one that the client has with the desk. -/
theorem converse_eq (htalks : Talks pid bound desk references final outcomes) :
    ∃ talk, Client.converse (Desk.ask pid) bound desk references = .ok talk ∧
      talk.peer = final ∧ talk.result = .ok outcomes := by
  induction htalks with
  | @last desk references served hrequest hserve =>
      refine ⟨⟨desk.handled ⟨pid, .endOfStream, true⟩ served,
        [⟨.endOfStream, .reply served.reply.pid served.reply.outcome⟩], .ok []⟩, ?_, rfl, rfl⟩
      rw [Client.converse_of_last hrequest]
      simp only [Client.endStream, Desk.ask_eq hserve, bind, Except.bind]
      rfl
  | more hrequest hserve _ ih =>
      obtain ⟨talk, htalk, hpeer, hresult⟩ := ih
      refine ⟨_, Client.converse_of_more hrequest (Desk.ask_eq hserve) htalk, hpeer, ?_⟩
      simp only [Conversation.prepend, hresult]
      rfl

theorem outcomes_of_nil (htalks : Talks pid bound desk [] final outcomes) : outcomes = [] := by
  cases htalks
  rfl

theorem endsAfter (htalks : Talks pid bound desk references final outcomes) :
    EndsAfter references outcomes := by
  induction htalks with
  | @last desk references served hrequest =>
      cases references with
      | nil => exact .inl rfl
      | cons page references =>
          rw [nextRequest, Request.ofReference_eq_endOfStream_iff] at hrequest
          exact .inr (congrArg some hrequest)
  | @more _ _ page references served outcomes hrequest _ hrest ih =>
      refine ⟨?_, ?_⟩
      · rintro rfl
        rw [nextRequest, Request.ofReference_eq_endOfStream_iff.mpr rfl] at hrequest
        exact absurd hrequest (by simp)
      · unfold remaining at ih hrest
        split at ih
        next hends =>
          rw [if_pos hends] at hrest
          rw [if_pos (Outcome.endsReferences_iff.mp hends)]
          exact hrest.outcomes_of_nil
        next hgoes =>
          rw [if_neg (mt Outcome.endsReferences_iff.mpr hgoes)]
          exact ih

/-- What follows an outcome that ends the references is nothing but the end. -/
theorem stream_remaining {page : Int} {outcome : Outcome}
    (htalks : Talks pid bound desk (remaining (page :: references) outcome) final outcomes) :
    Client.stream ⟨pid, bound, remaining (page :: references) outcome⟩ outcomes.length =
      Client.stream ⟨pid, bound, references⟩ outcomes.length := by
  unfold remaining at htalks ⊢
  split at htalks
  next hends =>
    rw [htalks.outcomes_of_nil]
    rfl
  next hgoes => simp [hgoes]

theorem requests_eq (htalks : Talks pid bound desk references final outcomes) :
    final.requests = desk.requests ++
      Client.stream ⟨pid, bound, references⟩ outcomes.length := by
  induction htalks with
  | last => simp [Desk.handled, Desk.requests, Client.stream]
  | more _ _ hrest ih =>
      rw [ih, hrest.stream_remaining]
      simp [Desk.handled, Desk.requests, Client.stream]

/-- Served one after another, the requests of the client get its outcomes. -/
theorem serveAll_eq (htalks : Talks pid bound desk references final outcomes) :
    ∃ served, desk.service.serveAll (Client.stream ⟨pid, bound, references⟩ outcomes.length) =
        .ok (final.service, served) ∧
      served.map (·.reply.outcome) = outcomes ++ [.endOfStream] := by
  induction htalks with
  | @last desk references served _ hserve =>
      refine ⟨[served], PageService.serveAll_cons hserve rfl, ?_⟩
      rw [List.map_singleton, PageService.reply_of_endOfStream hserve]
      rfl
  | @more desk final page references served outcomes _ hserve hrest ih =>
      obtain ⟨rest, hserveAll, hreplies⟩ := ih
      rw [hrest.stream_remaining] at hserveAll
      refine ⟨served :: rest, PageService.serveAll_cons hserve hserveAll, ?_⟩
      rw [List.map_cons, hreplies, List.cons_append]

/-- A service at work brings the conversation to its end. -/
theorem exists_of_working (hworking : desk.service.Working processes pid) (hpid : pid < processes)
    (bound : Int) (references : List Int) :
    ∃ final outcomes, Talks pid bound desk references final outcomes := by
  induction references generalizing desk with
  | nil =>
      obtain ⟨served, hserve, -⟩ := hworking.serve_end_eq_ok hpid
      exact ⟨_, _, .last rfl hserve⟩
  | cons page references ih =>
      rcases nextRequest_cases bound (page :: references) with hend | ⟨_, _, heq, haccess⟩
      · obtain ⟨served, hserve, -⟩ := hworking.serve_end_eq_ok hpid
        exact ⟨_, _, .last hend hserve⟩
      · obtain ⟨rfl, rfl⟩ := List.cons.inj heq
        obtain ⟨served, hserve, hnext, -⟩ := hworking.serve_access_eq_ok pid page bound
        -- The outcome may end the references, which leaves the end of the stream alone.
        by_cases hends : served.reply.outcome.endsReferences = true
        · obtain ⟨last, hlast, -⟩ := hnext.serve_end_eq_ok hpid
          refine ⟨_, _, .more haccess hserve (.last ?_ hlast)⟩
          rw [remaining, if_pos hends]
          rfl
        · have hafter : (desk.handled ⟨pid, .access page bound, true⟩ served).service.Working
              processes pid := hnext
          obtain ⟨final, outcomes, hrest⟩ := ih hafter
          refine ⟨final, served.reply.outcome :: outcomes, .more haccess hserve ?_⟩
          rw [remaining, if_neg hends]
          exact hrest

theorem working (htalks : Talks pid bound desk references final outcomes)
    (hworking : desk.service.Working processes pid) (hpid : pid < processes) :
    final.service.Working processes (pid + 1) := by
  induction htalks with
  | last _ hserve =>
      obtain ⟨served, heq, hnext, -⟩ := hworking.serve_end_eq_ok hpid
      rw [hserve] at heq
      rw [Except.ok.inj heq]
      exact hnext
  | @more _ _ page _ _ _ _ hserve _ ih =>
      obtain ⟨served, heq, hnext, -⟩ := hworking.serve_access_eq_ok pid page bound
      rw [hserve] at heq
      rw [Except.ok.inj heq] at ih
      exact ih hnext

/-- The last notice of a conversation is the only one of an end. -/
theorem notices_eq (htalks : Talks pid bound desk references final outcomes)
    (hworking : desk.service.Working processes pid) (hpid : pid < processes) :
    ∃ quiet, final.notices = desk.notices ++ quiet ++ [⟨pid, .ended⟩] ∧
      ∀ notice ∈ quiet, notice.pid = pid ∧ notice.event ≠ .ended := by
  induction htalks with
  | last _ hserve =>
      obtain ⟨served, heq, -, hnotice⟩ := hworking.serve_end_eq_ok hpid
      rw [hserve] at heq
      refine ⟨[], ?_, by simp⟩
      simp [Desk.handled, Desk.notices, Except.ok.inj heq, hnotice]
  | @more desk _ page _ served _ _ hserve _ ih =>
      obtain ⟨other, heq, hnext, hquiet⟩ := hworking.serve_access_eq_ok pid page bound
      rw [hserve] at heq
      obtain rfl := Except.ok.inj heq
      obtain ⟨quiet, hnotices, hrest⟩ := ih hnext
      refine ⟨served.notice.toList ++ quiet, ?_, ?_⟩
      · rw [hnotices]
        cases hnotice : served.notice <;> simp [Desk.handled, Desk.notices, hnotice]
      · intro notice hmem
        rcases List.mem_append.mp hmem with hhead | htail
        · exact hquiet notice (Option.mem_toList.mp hhead)
        · exact hrest notice htail

end Talks

/-- The requests of clients with these outcomes, one client after another. -/
def streams (clients : List Client) (outcomes : List (List Outcome)) : List (Nat × Request) :=
  (List.zipWith (fun client outcomes => client.stream outcomes.length) clients outcomes).flatten

/-- The clients are numbered from `first` on. -/
def Numbered (first : Nat) (clients : List Client) : Prop :=
  ∀ index client, clients[index]? = some client → client.pid = first + index

theorem Numbered.head {first : Nat} {client : Client} {clients : List Client}
    (hnumbered : Numbered first (client :: clients)) : client.pid = first :=
  hnumbered 0 client rfl

theorem Numbered.tail {first : Nat} {client : Client} {clients : List Client}
    (hnumbered : Numbered first (client :: clients)) : Numbered (first + 1) clients := by
  intro index other hother
  rw [hnumbered (index + 1) other hother]
  omega

theorem Numbered.pid_ge {first : Nat} {client : Client} {clients : List Client}
    (hnumbered : Numbered first clients) (hmem : client ∈ clients) : first ≤ client.pid := by
  obtain ⟨index, hclient⟩ := List.mem_iff_getElem?.mp hmem
  rw [hnumbered index client hclient]
  exact Nat.le_add_right first index

theorem Numbered.pid_lt {first : Nat} {client : Client} {clients : List Client}
    (hnumbered : Numbered first clients) (hmem : client ∈ clients) :
    client.pid < first + clients.length := by
  obtain ⟨index, hclient⟩ := List.mem_iff_getElem?.mp hmem
  rw [hnumbered index client hclient]
  exact Nat.add_lt_add_left (List.getElem?_eq_some_iff.mp hclient).1 first

theorem Numbered.append {first : Nat} {clients later : List Client}
    (hnumbered : Numbered first (clients ++ later)) :
    Numbered first clients ∧ Numbered (first + clients.length) later := by
  constructor
  · intro index client hclient
    have hindex := (List.getElem?_eq_some_iff.mp hclient).1
    exact hnumbered index client (by rwa [List.getElem?_append_left hindex])
  · intro index client hclient
    rw [Nat.add_assoc]
    refine hnumbered (clients.length + index) client ?_
    rwa [List.getElem?_append_right (Nat.le_add_right _ _), Nat.add_sub_cancel_left]

namespace Performs

variable {first : Nat} {clients : List Client} {rest : List (List Outcome)}

theorem steps_initial (hperforms : Performs desk clients final rest) :
    desk.steps.toList <+: final.steps.toList := by
  induction hperforms with
  | nil => exact List.prefix_refl _
  | cons htalks _ ih => exact htalks.steps_initial.trans ih

theorem requests_eq (hperforms : Performs desk clients final rest) :
    final.requests = desk.requests ++ streams clients rest := by
  induction hperforms with
  | nil => simp [streams]
  | cons htalks _ ih =>
      rw [ih, htalks.requests_eq, List.append_assoc]
      rfl

theorem length_eq (hperforms : Performs desk clients final rest) :
    rest.length = clients.length := by
  induction hperforms with
  | nil => rfl
  | cons _ _ ih => simp [ih]

theorem endsAfter (hperforms : Performs desk clients final rest) :
    List.Forall₂ (fun client own => EndsAfter client.references own) clients rest := by
  induction hperforms with
  | nil => exact .nil
  | cons htalks _ ih => exact .cons htalks.endsAfter ih

theorem serveAll_eq (hperforms : Performs desk clients final rest) :
    ∃ served, desk.service.serveAll (streams clients rest) = .ok (final.service, served) ∧
      served.map (·.reply.outcome) = (rest.map (· ++ [.endOfStream])).flatten := by
  induction hperforms with
  | nil => exact ⟨[], rfl, rfl⟩
  | cons htalks _ ih =>
      obtain ⟨served, hserved, hreplies⟩ := htalks.serveAll_eq
      obtain ⟨later, hlater, hlaterReplies⟩ := ih
      refine ⟨served ++ later, PageService.serveAll_append hserved hlater, ?_⟩
      rw [List.map_append, hreplies, hlaterReplies]
      rfl

/-- The performances are the conversations of the clients with the desk. -/
theorem perform_eq (hperforms : Performs desk clients final rest) :
    ∃ performances, Simulation.perform desk clients = .ok (final, performances) ∧
      performances.map (·.client) = clients ∧
      performances.map (·.result) = rest.map .ok := by
  induction hperforms with
  | nil => exact ⟨[], rfl, rfl, rfl⟩
  | @cons desk middle final client clients outcomes rest htalks _ ih =>
      obtain ⟨talk, htalk, rfl, hresult⟩ := htalks.converse_eq
      obtain ⟨performances, hperform, hclients, hresults⟩ := ih
      refine ⟨⟨client, talk.exchanges, talk.result⟩ :: performances, ?_, ?_, ?_⟩
      · simp only [Simulation.perform, Client.run, htalk, bind, Except.bind, hperform]
        rfl
      · rw [List.map_cons, hclients]
      · rw [List.map_cons, List.map_cons, hresults, hresult]

/-- A service at work brings all conversations to their ends. -/
theorem exists_of_working (hworking : desk.service.Working processes first)
    (hnumbered : Numbered first clients) (hlength : first + clients.length = processes) :
    ∃ final rest, Performs desk clients final rest ∧ final.service.Working processes processes := by
  induction clients generalizing desk first with
  | nil =>
      obtain rfl : first = processes := by simpa using hlength
      exact ⟨desk, [], .nil, hworking⟩
  | cons client clients ih =>
      rw [List.length_cons] at hlength
      have hpid : first < processes := by omega
      obtain rfl := hnumbered.head
      obtain ⟨middle, outcomes, htalks⟩ :=
        Talks.exists_of_working hworking hpid client.bound client.references
      obtain ⟨final, rest, hrest, hfinal⟩ :=
        ih (htalks.working hworking hpid) hnumbered.tail (by omega)
      exact ⟨final, outcomes :: rest, .cons htalks hrest, hfinal⟩

end Performs

end DemandPaging
