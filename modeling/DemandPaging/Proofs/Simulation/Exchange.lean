import DemandPaging.Proofs.Simulation.Conversing

/-!
# Exchanges of the current process

A request, its service and the reply to it bring the current process from one phase
to the next. What is foreseen of it changes when it begins, when it sends a request
and when the service takes the request; messages on their way change nothing.
-/

namespace DemandPaging.Threads.Conversing

variable {simulation : Simulation} {final : Desk} {outcomes : List (List Outcome)}
  {threads next : Threads} {current started pid : Nat} {hearing : Bool}
  (hconversing : Conversing simulation final outcomes threads current hearing started)

include hconversing

/-! ## Steps that change what is foreseen -/

/-- Steps of the current process or of the service on its behalf, from one phase of
the process to a later one. -/
theorem of_current (hhearing : hearing = true) (hborn : threads.clients current ≠ .unborn)
    (hclients : ∀ pid, pid ≠ current → next.clients pid = threads.clients pid)
    (hresumes : ∀ pid, pid ≠ current → next.resumes pid = threads.resumes pid)
    (hpending : ∀ pid, pid ≠ current → next.pending? pid = threads.pending? pid)
    (hreplies : next.replies = threads.replies) (hnone : threads.replies current = none)
    (hbegun : (next.clients current).hasBegun = true ∧ next.resumes current = false)
    (hcontinues : Continues simulation final outcomes current next.desk
      (next.foreseen simulation current))
    (hrequests : next.requests =
      openRequests simulation current (next.foreseen simulation current))
    (hservice : next.ServiceStands simulation current next.service)
    (hworking : next.desk.service.Working simulation.settings.processes
      (current + (next.foreseen simulation current).isStopped.toNat))
    (hannounces : Announces current (next.foreseen simulation current).isStopped next.afoot) :
    Conversing simulation final outcomes next current hearing started := by
  constructor
  case unstarted =>
    intro pid hpid
    have hunborn := hconversing.unstarted pid hpid
    have hne : pid ≠ current := by
      rintro rfl
      exact hborn hunborn
    rw [hclients pid hne, hunborn]
  case past =>
    intro pid hpid
    have hne := Nat.ne_of_lt hpid
    rw [hresumes pid hne, foreseen_congr (hclients pid hne) (hpending pid hne)]
    exact hconversing.past pid hpid
  case later =>
    intro pid hpid
    have hne : pid ≠ current := by
      rw [hhearing, Bool.toNat_true] at hpid
      exact Nat.ne_of_gt hpid
    rw [hclients pid hne, hreplies, hresumes pid hne]
    exact hconversing.later pid hpid
  case present => exact fun _ => .inr hbegun
  case replied =>
    intro pid reply hreply
    rw [hreplies] at hreply
    have hne : pid ≠ current := by
      rintro rfl
      rw [hnone] at hreply
      exact absurd hreply (by simp)
    rw [hclients pid hne]
    exact hconversing.replied pid reply hreply
  case continues => exact hcontinues
  case requests_eq => exact hrequests
  case service => exact hservice
  case working => exact hworking
  case announces => exact hannounces
  case quiet =>
    intro hfalse
    rw [hhearing] at hfalse
    exact absurd hfalse (by simp)

/-- The service has taken the request of the current process, which will be in
`phase` after the reply. -/
theorem handle_of_phase {before : List Outcome} {references : List Int} {letter : Letter}
    {served : Served} {phase : ClientPhase} (hidle : threads.service = .idle)
    (hlistening : threads.clients current = .listening before references)
    (hpending : threads.pending? current = none) (hletter : letter.pid = current)
    (hphase : ClientPhase.afterReply (simulation.boundOf current) before references
      served.reply.outcome = phase)
    (hcontinues : Continues simulation final outcomes current
      (threads.desk.handled letter served) phase)
    (hworking : served.service.Working simulation.settings.processes
      (current + phase.isStopped.toNat))
    (hannounces : Announces current phase.isStopped (threads.afoot ++ served.notice.toList))
    (hnotice : phase.isStopped = true → served.notice.isSome = true) :
    Conversing simulation final outcomes
      { threads with
        service := .replying letter served
        desk := threads.desk.handled letter served
        requests := [] } current hearing started := by
  let next : Threads :=
    { threads with
      service := .replying letter served
      desk := threads.desk.handled letter served
      requests := [] }
  have hbegun : (threads.clients current).hasBegun = true := by
    rw [hlistening]
    rfl
  have hhearing := hconversing.hearing_of_begun hbegun
  have hnone : threads.replies current = none := by
    have hor := Option.or_eq_none_iff.mp hpending
    simpa using hor.1
  have hforeseen : next.foreseen simulation current = phase := by
    have hreply : next.pending? current = some served.reply.outcome := by
      simp [next, pending?, hnone, hletter]
    rw [foreseen, hreply, ← hphase]
    simp [next, hlistening, ClientPhase.foresee]
  have hrequests : openRequests simulation current phase = [] := by
    have hquiet := ClientPhase.isListening_afterReply (simulation.boundOf current) before references
      served.reply.outcome
    rw [hphase] at hquiet
    cases phase with
    | listening => exact absurd hquiet (by simp [ClientPhase.isListening])
    | unborn | waiting | speaking | stopped => rfl
  apply hconversing.of_current hhearing
  case hborn => simp [hlistening]
  case hclients => exact fun _ _ => rfl
  case hresumes => exact fun _ _ => rfl
  case hpending =>
    intro pid hne
    have hother : ¬letter.pid = pid := by
      rw [hletter]
      exact hne.symm
    simp [pending?, hidle, hother]
  case hreplies => rfl
  case hnone => exact hnone
  case hbegun => exact ⟨hbegun, hconversing.resumes_eq_false_of_begun hbegun⟩
  case hcontinues =>
    rw [hforeseen]
    exact hcontinues
  case hrequests =>
    rw [hforeseen, hrequests]
  case hservice =>
    refine ⟨hletter, hnone, ?_, rfl, ?_⟩
    · simp [hlistening, ClientPhase.isListening]
    · rw [hforeseen]
      exact hnotice
  case hworking =>
    rw [hforeseen]
    exact hworking
  case hannounces =>
    rw [hforeseen]
    simpa [afoot, hidle] using hannounces

/-- The service takes a request. It is the request of the current process, and
handling it is the next step of the run without threads. -/
theorem handle {letter : Letter} {requests : List Letter} (audits : Bool)
    (houtcomes : outcomes.length = simulation.settings.processes)
    (hidle : threads.service = .idle) (hrequests : threads.requests = letter :: requests) :
    ∃ served, threads.desk.handle audits letter = .ok (threads.desk.handled letter served, served) ∧
      Conversing simulation final outcomes
        { threads with
          service := .replying letter served
          desk := threads.desk.handled letter served
          requests } current hearing started := by
  have hopen := hconversing.requests_eq
  have hcontinues := hconversing.continues
  have hworking := hconversing.working
  have hannounces := hconversing.announces
  rw [hrequests] at hopen
  -- A request is open only if the current process waits for its reply.
  cases hforeseen : threads.foreseen simulation current with
  | unborn | waiting | speaking | stopped =>
      rw [hforeseen] at hopen
      exact absurd hopen (by simp [openRequests])
  | listening before references =>
      rw [hforeseen] at hopen hcontinues hworking hannounces
      obtain ⟨rfl, rfl⟩ := List.cons.inj hopen
      obtain ⟨hlistening, hpending⟩ := clients_of_foreseen_listening hforeseen
      obtain ⟨middle, after, htalks, hown, hlater⟩ := hcontinues
      have hlt : current < simulation.settings.processes := by
        rw [← houtcomes]
        exact (List.getElem?_eq_some_iff.mp hown).1
      replace hworking : threads.desk.service.Working simulation.settings.processes current :=
        hworking
      -- The run without threads goes on with the same request.
      cases htalks with
      | @last _ _ served hrequest hserve =>
          obtain ⟨_, heq, hnext, hnotice⟩ := hworking.serve_end_eq_ok hlt
          rw [hserve] at heq
          obtain rfl := Except.ok.inj heq
          have hphase : ClientPhase.afterReply (simulation.boundOf current) before references
              served.reply.outcome = .stopped (.ok before) := by
            simp only [ClientPhase.afterReply, hrequest]
          rw [hrequest]
          refine ⟨served, Desk.handle_eq_ok audits hserve hnext.coherent, ?_⟩
          apply hconversing.handle_of_phase hidle hlistening hpending rfl hphase
          case hcontinues =>
            rw [List.append_nil] at hown
            exact ⟨before, rfl, hown, hlater⟩
          case hworking => exact hnext
          case hannounces =>
            rw [hnotice]
            exact hannounces.concat_end
          case hnotice => simp [hnotice]
      | @more _ _ page references served after hrequest hserve hrest =>
          obtain ⟨_, heq, hnext, hquiet⟩ :=
            hworking.serve_access_eq_ok current page (simulation.boundOf current)
          rw [hserve] at heq
          obtain rfl := Except.ok.inj heq
          have hphase : ClientPhase.afterReply (simulation.boundOf current) before
              (page :: references) served.reply.outcome =
                .speaking (before ++ [served.reply.outcome])
                  (remaining (page :: references) served.reply.outcome) := by
            simp only [ClientPhase.afterReply, hrequest]
            rfl
          rw [hrequest]
          refine ⟨served, Desk.handle_eq_ok audits hserve hnext.coherent, ?_⟩
          apply hconversing.handle_of_phase hidle hlistening hpending rfl hphase
          case hcontinues =>
            refine ⟨middle, after, hrest, ?_, hlater⟩
            rw [hown, List.append_assoc]
            rfl
          case hworking => exact hnext
          case hannounces => exact hannounces.append fun notice hnotice =>
            (hquiet notice (Option.mem_toList.mp hnotice)).2
          case hnotice => simp [ClientPhase.isStopped]

/-- The current process notices that it was resumed. -/
theorem begin_current {client : Client} (hclient : simulation.clients[pid]? = some client)
    (hnumber : client.pid = pid) (hwaiting : threads.clients pid = .waiting)
    (hresumes : threads.resumes pid = true) :
    Conversing simulation final outcomes
      { threads.move pid (.speaking [] client.references) with
        resumes := Function.update threads.resumes pid false } current hearing started := by
  obtain ⟨rfl, hhearing⟩ := hconversing.eq_current_of_resumes hresumes
  have hcontinues := hconversing.continues
  have hrequests := hconversing.requests_eq
  have hworking := hconversing.working
  have hannounces := hconversing.announces
  have hquiet : (threads.clients pid).isListening = false := by
    rw [hwaiting]
    rfl
  rw [foreseen_of_not_listening hquiet, hwaiting] at hcontinues hrequests hworking hannounces
  let next : Threads :=
    { threads.move pid (.speaking [] client.references) with
      resumes := Function.update threads.resumes pid false }
  have hphase : next.clients pid = .speaking [] client.references := Function.update_self ..
  have hforeseen : next.foreseen simulation pid = .speaking [] client.references := by
    rw [foreseen_of_not_listening, hphase]
    rw [hphase]
    rfl
  apply hconversing.of_current hhearing
  case hborn => simp [hwaiting]
  case hclients => exact fun other hne => Function.update_of_ne hne _ _
  case hresumes => exact fun other hne => Function.update_of_ne hne _ _
  case hpending => exact fun _ _ => rfl
  case hreplies => rfl
  case hnone => exact hconversing.replies_eq_none hquiet
  case hbegun =>
    refine ⟨?_, Function.update_self ..⟩
    rw [hphase]
    rfl
  case hcontinues =>
    rw [hforeseen]
    exact continues_speaking hclient hnumber hcontinues
  case hrequests =>
    rw [hforeseen]
    exact hrequests
  case hservice =>
    refine hconversing.service.of_same rfl fun hlistening _ => ?_
    rw [hquiet] at hlistening
    exact absurd hlistening (by simp)
  case hworking =>
    rw [hforeseen]
    exact hworking
  case hannounces =>
    rw [hforeseen]
    exact hannounces

/-- The current process sends its next request. -/
theorem ask {client : Client} {before : List Outcome} {references : List Int}
    (hclient : simulation.clients[pid]? = some client) (hnumber : client.pid = pid)
    (hspeaking : threads.clients pid = .speaking before references) :
    Conversing simulation final outcomes
      { threads.move pid (.listening before references) with
        requests := threads.requests ++ [⟨client.pid, nextRequest client.bound references, true⟩] }
      current hearing started := by
  have hquiet : (threads.clients pid).isListening = false := by
    rw [hspeaking]
    rfl
  have hbegun : (threads.clients pid).hasBegun = true := by
    rw [hspeaking]
    rfl
  obtain ⟨rfl, hbefore⟩ := hconversing.eq_current_of_speaking hspeaking
  have hhearing := hconversing.hearing_of_begun hbegun
  have hcontinues := hconversing.continues
  have hrequests := hconversing.requests_eq
  have hworking := hconversing.working
  have hannounces := hconversing.announces
  rw [hbefore] at hcontinues hrequests hworking hannounces
  let next : Threads :=
    { threads.move pid (.listening before references) with
      requests := threads.requests ++ [⟨client.pid, nextRequest client.bound references, true⟩] }
  have hphase : next.clients pid = .listening before references := Function.update_self ..
  have hforeseen : next.foreseen simulation pid = .listening before references := by
    have hpending : next.pending? pid = none := hconversing.pending?_eq_none hquiet
    rw [foreseen, hphase, hpending]
    rfl
  apply hconversing.of_current hhearing
  case hborn => simp [hspeaking]
  case hclients => exact fun other hne => Function.update_of_ne hne _ _
  case hresumes => exact fun _ _ => rfl
  case hpending => exact fun _ _ => rfl
  case hreplies => rfl
  case hnone => exact hconversing.replies_eq_none hquiet
  case hbegun =>
    refine ⟨?_, hconversing.resumes_eq_false_of_begun hbegun⟩
    rw [hphase]
    rfl
  case hcontinues =>
    rw [hforeseen]
    exact hcontinues
  case hrequests =>
    rw [hforeseen]
    show threads.requests ++ _ = _
    rw [hrequests, hnumber]
    simp [openRequests, Simulation.boundOf, hclient]
  case hservice =>
    refine hconversing.service.of_same rfl fun hlistening _ => ?_
    rw [hquiet] at hlistening
    exact absurd hlistening (by simp)
  case hworking =>
    rw [hforeseen]
    exact hworking
  case hannounces =>
    rw [hforeseen]
    exact hannounces

/-! ## Steps that were foreseen -/

/-- Messages on their way change nothing that is foreseen when they come one step
further. -/
theorem of_foreseen (hforeseen : ∀ pid,
      next.foreseen simulation pid = threads.foreseen simulation pid)
    (hclients : ∀ pid, next.clients pid = threads.clients pid ∨
      (threads.clients pid).isListening = true ∧ (next.clients pid).hasBegun = true)
    (hreplies : ∀ pid, (threads.clients pid).isListening = false →
      next.replies pid = threads.replies pid)
    (hreplied : ∀ pid reply, next.replies pid = some reply →
      (next.clients pid).isListening = true)
    (hresumes : next.resumes = threads.resumes) (hdesk : next.desk = threads.desk)
    (hrequests : next.requests = threads.requests) (hafoot : next.afoot = threads.afoot)
    (hservice : next.ServiceStands simulation current next.service) :
    Conversing simulation final outcomes next current hearing started := by
  -- Only a process that waits for a reply may come to another phase.
  have hquiet : ∀ pid, (threads.clients pid).isListening = false →
      next.clients pid = threads.clients pid := by
    intro pid hphase
    rcases hclients pid with hsame | ⟨hlistening, -⟩
    · exact hsame
    · rw [hphase] at hlistening
      exact absurd hlistening (by simp)
  have hsilent : ∀ pid, threads.clients pid = .silent started pid →
      next.clients pid = .silent started pid ∧ next.replies pid = threads.replies pid := by
    intro pid hphase
    have hlistening : (threads.clients pid).isListening = false := by
      rw [hphase, ClientPhase.isListening_silent]
    exact ⟨(hquiet pid hlistening).trans hphase, hreplies pid hlistening⟩
  constructor
  case unstarted =>
    intro pid hpid
    have hunborn := hconversing.unstarted pid hpid
    rw [hquiet pid (by rw [hunborn]; rfl), hunborn]
  case past =>
    intro pid hpid
    rw [hresumes, hforeseen]
    exact hconversing.past pid hpid
  case later =>
    intro pid hpid
    obtain ⟨hphase, hnone, hunresumed⟩ := hconversing.later pid hpid
    obtain ⟨hclient, hreply⟩ := hsilent pid hphase
    exact ⟨hclient, hreply.trans hnone, by rw [hresumes, hunresumed]⟩
  case present =>
    intro hhearing
    rw [hresumes]
    rcases hconversing.present hhearing with ⟨hphase, hnone, hresumed⟩ | ⟨hbegun, hunresumed⟩
    · obtain ⟨hclient, hreply⟩ := hsilent current hphase
      exact .inl ⟨hclient, hreply.trans hnone, hresumed⟩
    · refine .inr ⟨?_, hunresumed⟩
      rcases hclients current with hsame | ⟨-, hnext⟩
      · rw [hsame, hbegun]
      · exact hnext
  case replied => exact hreplied
  case continues =>
    rw [hforeseen, hdesk]
    exact hconversing.continues
  case requests_eq =>
    rw [hforeseen, hrequests]
    exact hconversing.requests_eq
  case service => exact hservice
  case working =>
    rw [hforeseen, hdesk]
    exact hconversing.working
  case announces =>
    rw [hforeseen, hafoot]
    exact hconversing.announces
  case quiet =>
    rw [hafoot]
    exact hconversing.quiet

/-- The reply to the current process is sent. -/
theorem reply {letter : Letter} {served : Served}
    (hreplying : threads.service = .replying letter served) :
    (threads.clients letter.pid).isListening = true ∧
      Conversing simulation final outcomes
        { threads with
          service := .afterReply served
          replies := Function.update threads.replies letter.pid (some served.reply) }
        current hearing started := by
  have hstands := hconversing.service
  rw [hreplying] at hstands
  obtain ⟨rfl, hnone, hlistening, hservice, -⟩ := hstands
  refine ⟨hlistening, hconversing.of_foreseen ?foreseen (fun _ => .inl rfl) ?replies ?replied rfl
    rfl rfl ?afoot ?service⟩
  case foreseen =>
    intro pid
    refine foreseen_congr rfl ?_
    by_cases hself : pid = letter.pid
    · subst hself
      simp [pending?, hreplying, hnone]
    · simp [pending?, hreplying, hself, Ne.symm hself]
  case replies =>
    intro pid hquiet
    refine Function.update_of_ne ?_ _ _
    rintro rfl
    rw [hlistening] at hquiet
    exact absurd hquiet (by simp)
  case replied =>
    intro pid other hother
    by_cases hself : pid = letter.pid
    · rw [hself]
      exact hlistening
    · apply hconversing.replied pid other
      rw [← hother]
      exact (Function.update_of_ne hself _ _).symm
  case afoot => simp [afoot, hreplying]
  case service => exact stands_afterReply hservice

/-- A notice is sent. -/
theorem notify {notice : Notice} (hnotifying : threads.service = .notifying notice) :
    Conversing simulation final outcomes
      { threads with
        service := .turn threads.desk.service
        notices := threads.notices ++ [notice] } current hearing started := by
  refine hconversing.of_foreseen ?foreseen (fun _ => .inl rfl) (fun _ _ => rfl)
    hconversing.replied rfl rfl rfl ?afoot stands_turn
  case foreseen =>
    intro pid
    refine foreseen_congr rfl ?_
    simp [pending?, hnotifying]
  case afoot => simp [afoot, hnotifying]

/-- A process receives its reply. -/
theorem listen {client : Client} {before : List Outcome} {references : List Int} {reply : Reply}
    (hclient : simulation.clients[pid]? = some client)
    (hlistening : threads.clients pid = .listening before references)
    (hreply : threads.replies pid = some reply) :
    Conversing simulation final outcomes
      { threads.move pid (.afterReply client.bound before references reply.outcome) with
        replies := Function.update threads.replies pid none } current hearing started := by
  have hlistens : (threads.clients pid).isListening = true := by
    rw [hlistening]
    rfl
  let next : Threads :=
    { threads.move pid (.afterReply client.bound before references reply.outcome) with
      replies := Function.update threads.replies pid none }
  have hphase : next.clients pid = .afterReply client.bound before references reply.outcome :=
    Function.update_self ..
  have hother : ∀ other, other ≠ pid → next.clients other = threads.clients other ∧
      next.replies other = threads.replies other :=
    fun other hne => ⟨Function.update_of_ne hne _ _, Function.update_of_ne hne _ _⟩
  have hforeseen : ∀ other, next.foreseen simulation other = threads.foreseen simulation other := by
    intro other
    by_cases hself : other = pid
    · subst hself
      have hbound : simulation.boundOf other = client.bound := by
        simp [Simulation.boundOf, hclient]
      rw [foreseen_of_not_listening, hphase, foreseen, hlistening, pending?, hreply, hbound]
      · rfl
      · rw [hphase, ClientPhase.isListening_afterReply]
    · obtain ⟨hsame, hreplies⟩ := hother other hself
      apply foreseen_congr hsame
      rw [pending?, pending?, hreplies]
      rfl
  refine hconversing.of_foreseen hforeseen ?clients ?replies ?replied rfl rfl rfl rfl ?service
  case clients =>
    intro other
    by_cases hself : other = pid
    · subst hself
      refine .inr ⟨hlistens, ?_⟩
      rw [hphase, ClientPhase.hasBegun_afterReply]
    · exact .inl (hother other hself).1
  case replies =>
    intro other hquiet
    refine (hother other ?_).2
    rintro rfl
    rw [hlistens] at hquiet
    exact absurd hquiet (by simp)
  case replied =>
    intro other answer hanswer
    by_cases hself : other = pid
    · subst hself
      have hnone : next.replies other = none := Function.update_self ..
      exact absurd (hnone.symm.trans hanswer) (by simp)
    · obtain ⟨hsame, hreplies⟩ := hother other hself
      rw [hsame]
      exact hconversing.replied other answer (hreplies.symm.trans hanswer)
  case service =>
    -- The process has its reply, so the service is not about to send it one.
    refine hconversing.service.of_same rfl fun _ hnone => ?_
    have hne : current ≠ pid := by
      rintro rfl
      rw [hreply] at hnone
      exact absurd hnone (by simp)
    obtain ⟨hsame, hreplies⟩ := hother current hne
    exact ⟨hsame, hreplies, hforeseen current⟩

end DemandPaging.Threads.Conversing
