import DemandPaging.Proofs.Pager.Conservation
import DemandPaging.Proofs.Simulation.Orderly

/-!
# What is foreseen of a process

A process that does not wait for a reply is what it is foreseen to be. No reply
lets a process wait for another one, so what is foreseen waits only if no reply is
on its way.
-/

namespace DemandPaging

/-! ## Phases -/

namespace ClientPhase

variable {phase : ClientPhase} {bound : Int} {reply : Option Outcome}

theorem foresee_of_not_listening (hphase : phase.isListening = false) :
    phase.foresee bound reply = phase := by
  cases phase <;> simp_all [foresee, isListening]

theorem isListening_silent (started pid : Nat) : (silent started pid).isListening = false := by
  unfold silent
  split <;> rfl

theorem isStopped_silent (started pid : Nat) : (silent started pid).isStopped = false := by
  unfold silent
  split <;> rfl

theorem hasBegun_silent (started pid : Nat) : (silent started pid).hasBegun = false := by
  unfold silent
  split <;> rfl

theorem isStopped_iff : phase.isStopped = true ↔ ∃ result, phase = stopped result := by
  cases phase <;> simp [isStopped]

theorem isListening_afterReply (bound : Int) (outcomes : List Outcome) (references : List Int)
    (outcome : Outcome) :
    (afterReply bound outcomes references outcome).isListening = false := by
  unfold afterReply
  split <;> rfl

theorem hasBegun_afterReply (bound : Int) (outcomes : List Outcome) (references : List Int)
    (outcome : Outcome) : (afterReply bound outcomes references outcome).hasBegun = true := by
  unfold afterReply
  split <;> rfl

theorem silent_succ_of_ne {started pid : Nat} (hne : pid ≠ started) :
    silent (started + 1) pid = silent started pid := by
  have hlt : pid < started + 1 ↔ pid < started := by omega
  simp only [silent, hlt]

theorem silent_succ_self (started : Nat) : silent (started + 1) started = waiting := by
  simp [silent]

end ClientPhase

theorem continues_silent {simulation : Simulation} {final desk : Desk}
    {outcomes : List (List Outcome)} {started pid : Nat} :
    Continues simulation final outcomes pid desk (.silent started pid) ↔
      Performs desk (simulation.clients.drop pid) final (outcomes.drop pid) := by
  unfold ClientPhase.silent
  split <;> rfl

namespace ServicePhase

@[simp] theorem replyTo?_idle (pid : Nat) : idle.replyTo? pid = none := rfl

@[simp] theorem replyTo?_replying (letter : Letter) (served : Served) (pid : Nat) :
    (replying letter served).replyTo? pid =
      if letter.pid = pid then some served.reply.outcome else none := rfl

@[simp] theorem replyTo?_notifying (notice : Notice) (pid : Nat) :
    (notifying notice).replyTo? pid = none := rfl

@[simp] theorem notice?_idle : idle.notice? = none := rfl

@[simp] theorem notice?_replying (letter : Letter) (served : Served) :
    (replying letter served).notice? = served.notice := rfl

@[simp] theorem notice?_notifying (notice : Notice) :
    (notifying notice).notice? = some notice := rfl

@[simp] theorem notice?_turn (service : PageService) : (turn service).notice? = none := by
  unfold turn
  split <;> rfl

@[simp] theorem replyTo?_turn (service : PageService) (pid : Nat) :
    (turn service).replyTo? pid = none := by
  unfold turn
  split <;> rfl

@[simp] theorem notice?_afterReply (served : Served) :
    (afterReply served).notice? = served.notice := by
  unfold afterReply
  split
  next hnotice =>
    rw [hnotice]
    rfl
  next hnone => rw [hnone, notice?_turn]

@[simp] theorem replyTo?_afterReply (served : Served) (pid : Nat) :
    (afterReply served).replyTo? pid = none := by
  unfold afterReply
  split
  next => rfl
  next => rw [replyTo?_turn]

end ServicePhase

/-! ## Steps of the run without threads -/

/-- The service takes a request whether or not it audits its pager. -/
theorem Desk.handle_eq_ok {desk : Desk} {letter : Letter} {served : Served} (audits : Bool)
    (hserve : desk.service.serve letter.pid letter.request = .ok served)
    (hcoherent : served.service.pager.Coherent none) :
    desk.handle audits letter = .ok (desk.handled letter served, served) := by
  cases audits with
  | false =>
      simp only [handle, hserve, bind, Except.bind]
      rfl
  | true =>
      simp only [handle, hserve, hcoherent.audit_eq, bind, Except.bind, if_true]
      rfl

/-- A process begins with all its references before it. -/
theorem continues_speaking {simulation : Simulation} {client : Client} {final desk : Desk}
    {outcomes : List (List Outcome)} {pid : Nat}
    (hclient : simulation.clients[pid]? = some client) (hnumber : client.pid = pid)
    (hperforms : Performs desk (simulation.clients.drop pid) final (outcomes.drop pid)) :
    Continues simulation final outcomes pid desk (.speaking [] client.references) := by
  have hdrop : simulation.clients.drop pid = client :: simulation.clients.drop (pid + 1) := by
    obtain ⟨hlt, rfl⟩ := List.getElem?_eq_some_iff.mp hclient
    exact List.drop_eq_getElem_cons hlt
  have hbound : simulation.boundOf pid = client.bound := by simp [Simulation.boundOf, hclient]
  rw [hdrop] at hperforms
  generalize hrest : outcomes.drop pid = rest at hperforms
  cases hperforms with
  | @cons _ middle _ _ _ own later htalks hlater =>
      refine ⟨middle, own, ?_, ?_, ?_⟩
      · rw [hbound, ← hnumber]
        exact htalks
      · have hhead : (outcomes.drop pid)[0]? = some own := by rw [hrest]; rfl
        simpa using hhead
      · have htail : outcomes.drop (pid + 1) = later := by
          rw [← List.tail_drop, hrest]
          rfl
        rw [htail]
        exact hlater

namespace Threads

variable {simulation : Simulation} {final : Desk} {outcomes : List (List Outcome)}
  {threads next : Threads} {current enrolled started pid : Nat} {hearing : Bool}

/-! ## What is foreseen -/

theorem foreseen_of_not_listening (hphase : (threads.clients pid).isListening = false) :
    threads.foreseen simulation pid = threads.clients pid :=
  ClientPhase.foresee_of_not_listening hphase

theorem openRequests_silent : openRequests simulation pid (.silent started pid) = [] := by
  unfold ClientPhase.silent
  split <;> rfl

/-- No reply is on its way to a process that is foreseen to wait for one. -/
theorem clients_of_foreseen_listening {before : List Outcome} {references : List Int}
    (hforeseen : threads.foreseen simulation pid = .listening before references) :
    threads.clients pid = .listening before references ∧ threads.pending? pid = none := by
  cases hphase : threads.clients pid with
  | listening before references =>
      cases hpending : threads.pending? pid with
      | none =>
          rw [foreseen, hphase, hpending] at hforeseen
          exact ⟨hforeseen, rfl⟩
      | some outcome =>
          rw [foreseen, hphase, hpending] at hforeseen
          have hlistening :=
            ClientPhase.isListening_afterReply (simulation.boundOf pid) before references outcome
          rw [show ClientPhase.afterReply _ before references outcome = _ from hforeseen]
            at hlistening
          exact absurd hlistening (by simp [ClientPhase.isListening])
  | unborn | waiting | speaking | stopped =>
      rw [foreseen, hphase] at hforeseen
      exact absurd hforeseen (by simp [ClientPhase.foresee])

theorem hasBegun_of_foreseen_stopped {result : Except Failure (List Outcome)}
    (hforeseen : threads.foreseen simulation pid = .stopped result) :
    (threads.clients pid).hasBegun = true := by
  cases hphase : threads.clients pid with
  | unborn | waiting =>
      rw [foreseen, hphase] at hforeseen
      exact absurd hforeseen (by simp [ClientPhase.foresee])
  | speaking | listening | stopped => rfl

/-- What is foreseen of a process depends on its phase and its reply only. -/
theorem foreseen_congr (hclients : next.clients pid = threads.clients pid)
    (hpending : next.pending? pid = threads.pending? pid) :
    next.foreseen simulation pid = threads.foreseen simulation pid := by
  rw [foreseen, foreseen, hclients, hpending]

/-! ## The start of a thread -/

theorem clients_move_self (threads : Threads) (pid : Nat) (phase : ClientPhase) :
    (threads.move pid phase).clients pid = phase :=
  Function.update_self ..

theorem clients_move_of_ne {other : Nat} {phase : ClientPhase} (hne : pid ≠ other) :
    (threads.move other phase).clients pid = threads.clients pid :=
  Function.update_of_ne hne _ _

/-- A process that nobody has resumed is silent before and after a thread starts. -/
theorem silent_start (hphase : threads.clients pid = .silent started pid) :
    (threads.move started .waiting).clients pid = .silent (started + 1) pid := by
  by_cases hself : pid = started
  · rw [hself, clients_move_self, ClientPhase.silent_succ_self]
  · rw [clients_move_of_ne hself, hphase, ClientPhase.silent_succ_of_ne hself]

/-- What does not tell a thread that waits from one that is not started holds of what
is foreseen after the start as well. -/
theorem foreseen_start (hunborn : threads.clients started = .unborn) (motive : ClientPhase → Prop)
    (hwaits : motive .unborn → motive .waiting)
    (hbefore : motive (threads.foreseen simulation pid)) :
    motive ((threads.move started .waiting).foreseen simulation pid) := by
  by_cases hself : pid = started
  · subst hself
    rw [foreseen, hunborn] at hbefore
    rw [foreseen, clients_move_self]
    exact hwaits hbefore
  · rw [foreseen_congr (clients_move_of_ne hself) rfl]
    exact hbefore

/-! ## The service and its notices -/

/-- The service stands as before if nothing has changed for the process that it replies to. -/
theorem ServiceStands.of_same {phase : ServicePhase}
    (hstands : threads.ServiceStands simulation current phase) (hdesk : next.desk = threads.desk)
    (hsame : (threads.clients current).isListening = true → threads.replies current = none →
      next.clients current = threads.clients current ∧
        next.replies current = threads.replies current ∧
        next.foreseen simulation current = threads.foreseen simulation current) :
    next.ServiceStands simulation current phase := by
  cases phase with
  | idle =>
      simp only [ServiceStands, hdesk] at hstands ⊢
      exact hstands
  | replying letter served =>
      obtain ⟨hpid, hreplies, hlistening, hservice, hnotice⟩ := hstands
      obtain ⟨hclients, hrepliesSame, hforeseen⟩ := hsame hlistening hreplies
      exact ⟨hpid, hrepliesSame.trans hreplies, by rw [hclients, hlistening],
        by rw [hservice, hdesk], by rw [hforeseen]; exact hnotice⟩
  | notifying => trivial
  | stopped result =>
      simp only [ServiceStands, hdesk] at hstands ⊢
      exact hstands

/-- Once the last notice of the current process is on its way the service stands as
well for the next process. -/
theorem ServiceStands.of_end {phase : ServicePhase}
    (hstands : threads.ServiceStands simulation current phase)
    (hended : (threads.foreseen simulation current).isStopped = true)
    (hnotice : phase.notice? = none) (hdesk : next.desk = threads.desk) :
    next.ServiceStands simulation (current + 1) phase := by
  cases phase with
  | replying letter served =>
      have hsome := hstands.2.2.2.2 hended
      rw [show served.notice = none from hnotice] at hsome
      exact absurd hsome (by simp)
  | notifying => trivial
  | idle | stopped =>
      simp only [ServiceStands, hdesk] at hstands ⊢
      exact hstands

theorem stands_turn : threads.ServiceStands simulation current (.turn threads.desk.service) := by
  unfold ServicePhase.turn
  split
  next hended => exact ⟨hended, rfl⟩
  next hgoes => exact Bool.eq_false_iff.mpr hgoes

theorem stands_afterReply {served : Served} (hservice : served.service = threads.desk.service) :
    threads.ServiceStands simulation current (.afterReply served) := by
  unfold ServicePhase.afterReply
  split
  next => trivial
  next =>
    rw [hservice]
    exact stands_turn

theorem Announces.tail {ended : Bool} {notice : Notice} {notices : List Notice}
    (hannounces : Announces current ended (notice :: notices)) (hevent : notice.event ≠ .ended) :
    Announces current ended notices := by
  obtain ⟨quiet, hquiet, heq⟩ := hannounces
  cases quiet with
  | nil => cases ended <;> simp_all
  | cons first quiet =>
      obtain ⟨-, htail⟩ := List.cons.inj heq
      exact ⟨quiet, fun other hother => hquiet other (List.mem_cons_of_mem _ hother), htail⟩

theorem Announces.head {ended : Bool} {notice : Notice} {notices : List Notice}
    (hannounces : Announces current ended (notice :: notices)) (hevent : notice.event = .ended) :
    ended = true ∧ notice = ⟨current, .ended⟩ ∧ notices = [] := by
  obtain ⟨quiet, hquiet, heq⟩ := hannounces
  cases quiet with
  | nil => cases ended <;> simp_all
  | cons first quiet =>
      obtain ⟨rfl, -⟩ := List.cons.inj heq
      exact absurd hevent (hquiet notice List.mem_cons_self)

/-- Notices of other events change nothing as long as there is no end to announce. -/
theorem Announces.append {notices later : List Notice}
    (hannounces : Announces current false notices)
    (hlater : ∀ notice ∈ later, notice.event ≠ .ended) :
    Announces current false (notices ++ later) := by
  obtain ⟨quiet, hquiet, rfl⟩ := hannounces
  refine ⟨quiet ++ later, ?_, by simp⟩
  intro notice hnotice
  rcases List.mem_append.mp hnotice with hbefore | hafter
  · exact hquiet notice hbefore
  · exact hlater notice hafter

theorem Announces.concat_end {notices : List Notice}
    (hannounces : Announces current false notices) :
    Announces current true (notices ++ [⟨current, .ended⟩]) := by
  obtain ⟨quiet, hquiet, rfl⟩ := hannounces
  exact ⟨quiet, hquiet, by simp⟩

end Threads

end DemandPaging
