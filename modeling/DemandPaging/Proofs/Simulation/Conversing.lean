import DemandPaging.Proofs.Simulation.Foreseen

/-!
# The conversation of the current process

Only the current process has begun and not finished. Steps of the launcher and of
the dispatcher keep its conversation going, and the notice of its end turns to the
next process.
-/

namespace DemandPaging.Threads

variable {simulation : Simulation} {final : Desk} {outcomes : List (List Outcome)}
  {threads next : Threads} {current started pid : Nat} {hearing : Bool}

namespace Conversing

variable (hconversing : Conversing simulation final outcomes threads current hearing started)

include hconversing

/-- Nothing but the messages of this conversation matters to it. -/
theorem congr (hclients : next.clients = threads.clients)
    (hreplies : next.replies = threads.replies) (hresumes : next.resumes = threads.resumes)
    (hrequests : next.requests = threads.requests) (hservice : next.service = threads.service)
    (hdesk : next.desk = threads.desk) (hnotices : next.notices = threads.notices) :
    Conversing simulation final outcomes next current hearing started := by
  cases threads
  cases next
  simp only at hclients hreplies hresumes hrequests hservice hdesk hnotices
  subst hclients hreplies hresumes hrequests hservice hdesk hnotices
  exact ⟨hconversing.unstarted, hconversing.past, hconversing.later, hconversing.present,
    hconversing.replied, hconversing.continues, hconversing.requests_eq, hconversing.service,
    hconversing.working, hconversing.announces, hconversing.quiet⟩

/-- A process that nobody listens for has no reply. -/
theorem replies_eq_none (hphase : (threads.clients pid).isListening = false) :
    threads.replies pid = none := by
  rw [Option.eq_none_iff_forall_ne_some]
  intro reply hreply
  rw [hconversing.replied pid reply hreply] at hphase
  exact absurd hphase (by simp)

/-- A process that has not begun is not before the current one. -/
theorem current_le_of_not_begun (hphase : (threads.clients pid).hasBegun = false) :
    current ≤ pid := by
  refine Nat.le_of_not_lt fun hlt => ?_
  obtain ⟨-, own, -, hforeseen⟩ := hconversing.past pid hlt
  rw [hasBegun_of_foreseen_stopped hforeseen] at hphase
  exact absurd hphase (by simp)

/-- Only a process that the dispatcher has resumed begins. -/
theorem hearing_of_begun (hbegun : (threads.clients current).hasBegun = true) :
    hearing = true := by
  rw [← Bool.not_eq_false]
  rintro rfl
  rw [(hconversing.later current (Nat.le_refl _)).1, ClientPhase.hasBegun_silent] at hbegun
  exact absurd hbegun (by simp)

theorem resumes_eq_false_of_begun (hbegun : (threads.clients current).hasBegun = true) :
    threads.resumes current = false := by
  rcases hconversing.present (hconversing.hearing_of_begun hbegun) with ⟨hsilent, -⟩ | ⟨-, hresumes⟩
  · rw [hsilent, ClientPhase.hasBegun_silent] at hbegun
    exact absurd hbegun (by simp)
  · exact hresumes

/-- No reply is on its way to the current process while it does not wait for one. -/
theorem pending?_eq_none (hphase : (threads.clients current).isListening = false) :
    threads.pending? current = none := by
  have hstands := hconversing.service
  rw [pending?, hconversing.replies_eq_none hphase, Option.map_none, Option.none_or]
  cases hservice : threads.service with
  | replying letter served =>
      rw [hservice] at hstands
      rw [hstands.2.2.1] at hphase
      exact absurd hphase (by simp)
  | idle | notifying | stopped => rfl

/-- Only the current process notices that it was resumed. -/
theorem eq_current_of_resumes (hresumes : threads.resumes pid = true) :
    pid = current ∧ hearing = true := by
  rcases Nat.lt_or_ge pid current with hpast | hge
  · rw [(hconversing.past pid hpast).1] at hresumes
    exact absurd hresumes (by simp)
  · rcases Nat.lt_or_ge pid (current + hearing.toNat) with hlt | hlater
    · cases hearing with
      | false => exact absurd hge (Nat.not_le.mpr hlt)
      | true => exact ⟨Nat.le_antisymm (Nat.le_of_lt_succ hlt) hge, rfl⟩
    · rw [(hconversing.later pid hlater).2.2] at hresumes
      exact absurd hresumes (by simp)

/-- A process that has begun is the current one, or what is foreseen of it is its end. -/
theorem le_current_of_begun (hbegun : (threads.clients pid).hasBegun = true) : pid ≤ current := by
  refine Nat.le_of_not_lt fun hlt => ?_
  have hlater : current + hearing.toNat ≤ pid := Nat.le_trans (by cases hearing <;> simp) hlt
  rw [(hconversing.later pid hlater).1, ClientPhase.hasBegun_silent] at hbegun
  exact absurd hbegun (by simp)

/-- Only the current process speaks. -/
theorem eq_current_of_speaking {before : List Outcome} {references : List Int}
    (hspeaking : threads.clients pid = .speaking before references) :
    pid = current ∧ threads.foreseen simulation pid = .speaking before references := by
  have hforeseen : threads.foreseen simulation pid = .speaking before references := by
    rw [foreseen, hspeaking]
    rfl
  have hle : pid ≤ current := by
    apply hconversing.le_current_of_begun
    rw [hspeaking]
    rfl
  refine ⟨Nat.le_antisymm hle (Nat.le_of_not_lt fun hpast => ?_), hforeseen⟩
  obtain ⟨-, own, -, hended⟩ := hconversing.past pid hpast
  rw [hforeseen] at hended
  exact absurd hended (by simp)

/-- Once the current process has had its last reply there is a notice of its end on
its way. -/
theorem isStopped_of_afoot (hafoot : threads.afoot = []) :
    (threads.foreseen simulation current).isStopped = false := by
  obtain ⟨quiet, -, heq⟩ := hconversing.announces
  rw [hafoot] at heq
  rw [← Bool.not_eq_true]
  intro hended
  rw [hended] at heq
  exact absurd heq (by simp)

/-- The service runs as long as there are streams that have not ended. -/
theorem isRunning_of_lt
    (hmore : current + (threads.foreseen simulation current).isStopped.toNat <
      simulation.settings.processes) : threads.service.isRunning = true := by
  have hstands := hconversing.service
  cases hservice : threads.service with
  | stopped result =>
      rw [hservice] at hstands
      have hle := (PageService.allEnded_iff hconversing.working).mp hstands.1
      exact absurd hmore (Nat.not_lt.mpr hle)
  | idle | replying | notifying => rfl

/-- The dispatcher waits for every notice on its way. -/
theorem hearing_of_afoot (hafoot : threads.afoot ≠ []) : hearing = true := by
  rw [← Bool.not_eq_false]
  exact fun hfalse => hafoot (hconversing.quiet hfalse)

/-- A process that has not begun has not been resumed, or has not noticed it. -/
theorem silent_of_not_begun (hphase : (threads.clients pid).hasBegun = false) :
    threads.clients pid = .silent started pid := by
  have hge := hconversing.current_le_of_not_begun hphase
  rcases Nat.lt_or_ge pid (current + hearing.toNat) with hpresent | hlater
  · cases hearing with
    | false => exact absurd hge (Nat.not_le.mpr hpresent)
    | true =>
        obtain rfl := Nat.le_antisymm (Nat.le_of_lt_succ hpresent) hge
        rcases hconversing.present rfl with ⟨hsilent, -⟩ | ⟨hbegun, -⟩
        · exact hsilent
        · rw [hbegun] at hphase
          exact absurd hphase (by simp)
  · exact (hconversing.later pid hlater).1

theorem ne_unborn (hlt : pid < started) : threads.clients pid ≠ .unborn := by
  intro hunborn
  have hsilent := hconversing.silent_of_not_begun (by rw [hunborn]; rfl)
  rw [hunborn, ClientPhase.silent, if_pos hlt] at hsilent
  exact absurd hsilent (by simp)

/-- The current process runs until its last reply. -/
theorem isRunning_current (hlt : current < started)
    (hended : (threads.foreseen simulation current).isStopped = false) :
    (threads.clients current).isRunning = true := by
  cases hphase : threads.clients current with
  | unborn => exact absurd hphase (hconversing.ne_unborn hlt)
  | waiting | speaking | listening => rfl
  | stopped result =>
      have hforeseen : threads.foreseen simulation current = .stopped result := by
        rw [foreseen, hphase]
        rfl
      rw [hforeseen] at hended
      exact absurd hended (by simp [ClientPhase.isStopped])

/-- A process that is started and whose stream has not ended runs. -/
theorem exists_isRunning
    (hmore : current + (threads.foreseen simulation current).isStopped.toNat < started) :
    ∃ pid, pid < started ∧ (threads.clients pid).isRunning = true := by
  cases hended : (threads.foreseen simulation current).isStopped with
  | true =>
      rw [hended, Bool.toNat_true] at hmore
      refine ⟨current + 1, hmore, ?_⟩
      have hphase := (hconversing.later (current + 1) (by cases hearing <;> simp)).1
      rw [hphase, ClientPhase.silent, if_pos hmore]
      rfl
  | false =>
      rw [hended, Bool.toNat_false, Nat.add_zero] at hmore
      exact ⟨current, hmore, hconversing.isRunning_current hmore hended⟩

/-! ## Steps of the launcher and of the dispatcher -/

/-- The thread of a process starts. -/
theorem start : Conversing simulation final outcomes (threads.move started .waiting) current
    hearing (started + 1) := by
  have hunborn := hconversing.unstarted started (Nat.le_refl _)
  have hle : current ≤ started := by
    apply hconversing.current_le_of_not_begun
    rw [hunborn]
    rfl
  have hbegun : ∀ pid, (threads.clients pid).hasBegun = true → pid ≠ started := by
    rintro pid hphase rfl
    rw [hunborn] at hphase
    exact absurd hphase (by simp [ClientPhase.hasBegun])
  have hlistens : ∀ pid, (threads.clients pid).isListening = true → pid ≠ started := by
    rintro pid hphase rfl
    rw [hunborn] at hphase
    exact absurd hphase (by simp [ClientPhase.isListening])
  constructor
  case unstarted =>
    intro pid hpid
    rw [clients_move_of_ne (Nat.ne_of_gt hpid)]
    exact hconversing.unstarted pid (Nat.le_of_succ_le hpid)
  case past =>
    intro pid hpid
    have hne : pid ≠ started := Nat.ne_of_lt (Nat.lt_of_lt_of_le hpid hle)
    rw [foreseen_congr (clients_move_of_ne hne) rfl]
    exact hconversing.past pid hpid
  case later =>
    intro pid hpid
    obtain ⟨hphase, hrest⟩ := hconversing.later pid hpid
    exact ⟨silent_start hphase, hrest⟩
  case present =>
    intro hhearing
    rcases hconversing.present hhearing with ⟨hphase, hrest⟩ | ⟨hphase, hrest⟩
    · exact .inl ⟨silent_start hphase, hrest⟩
    · refine .inr ⟨?_, hrest⟩
      rw [clients_move_of_ne (hbegun current hphase)]
      exact hphase
  case replied =>
    intro pid reply hreply
    have hphase := hconversing.replied pid reply hreply
    rw [clients_move_of_ne (hlistens pid hphase)]
    exact hphase
  -- A started thread has as much before it as one that is not started.
  case continues =>
    apply foreseen_start hunborn (Continues simulation final outcomes current threads.desk) id
    exact hconversing.continues
  case requests_eq =>
    apply foreseen_start hunborn
      (fun phase => threads.requests = openRequests simulation current phase) id
    exact hconversing.requests_eq
  case service =>
    refine hconversing.service.of_same rfl fun hlistening _ => ?_
    have hsame : (threads.move started .waiting).clients current = threads.clients current :=
      clients_move_of_ne (hlistens current hlistening)
    exact ⟨hsame, rfl, foreseen_congr hsame rfl⟩
  case working =>
    apply foreseen_start hunborn (fun phase => threads.desk.service.Working
      simulation.settings.processes (current + phase.isStopped.toNat)) id
    exact hconversing.working
  case announces =>
    apply foreseen_start hunborn
      (fun phase => Announces current phase.isStopped threads.afoot) id
    exact hconversing.announces
  case quiet => exact hconversing.quiet

/-- The dispatcher resumes the current process. -/
theorem resume (hhearing : hearing = false) : Conversing simulation final outcomes
    { threads with resumes := Function.update threads.resumes current true } current true
    started := by
  subst hhearing
  constructor
  case unstarted => exact hconversing.unstarted
  case past =>
    intro pid hpid
    obtain ⟨hresumes, hrest⟩ := hconversing.past pid hpid
    refine ⟨?_, hrest⟩
    rw [← hresumes]
    exact Function.update_of_ne (Nat.ne_of_lt hpid) _ _
  case later =>
    intro pid hpid
    rw [Bool.toNat_true] at hpid
    obtain ⟨hphase, hreplies, hresumes⟩ := hconversing.later pid (Nat.le_of_succ_le hpid)
    refine ⟨hphase, hreplies, ?_⟩
    rw [← hresumes]
    exact Function.update_of_ne (Nat.ne_of_gt hpid) _ _
  case present =>
    intro _
    obtain ⟨hphase, hreplies, -⟩ := hconversing.later current (Nat.le_refl _)
    exact .inl ⟨hphase, hreplies, by simp⟩
  case replied => exact hconversing.replied
  case continues => exact hconversing.continues
  case requests_eq => exact hconversing.requests_eq
  case service => exact hconversing.service
  case working => exact hconversing.working
  case announces => exact hconversing.announces
  case quiet =>
    intro hfalse
    exact absurd hfalse (by simp)

/-- The dispatcher reads a notice that is not of an end. -/
theorem hear_quiet {notice : Notice} {notices : List Notice}
    (hnotices : threads.notices = notice :: notices) (hevent : notice.event ≠ .ended) :
    Conversing simulation final outcomes { threads with notices } current hearing started := by
  have hafoot : threads.afoot =
      notice :: ({ threads with notices } : Threads).afoot := by
    simp [afoot, hnotices]
  refine ⟨hconversing.unstarted, hconversing.past, hconversing.later, hconversing.present,
    hconversing.replied, hconversing.continues, hconversing.requests_eq, hconversing.service,
    hconversing.working, ?_, ?_⟩
  · have hannounces := hconversing.announces
    rw [hafoot] at hannounces
    exact hannounces.tail hevent
  · intro hquiet
    have hnone := hconversing.quiet hquiet
    rw [hafoot] at hnone
    exact absurd hnone (by simp)

/-- The end of the current process is told last, and to a dispatcher that waits for it. -/
theorem of_end {notice : Notice} {notices : List Notice}
    (hnotices : threads.notices = notice :: notices) (hevent : notice.event = .ended) :
    notice = ⟨current, .ended⟩ ∧ notices = [] ∧ threads.service.notice? = none ∧
      hearing = true ∧ (threads.foreseen simulation current).isStopped = true := by
  have hannounces := hconversing.announces
  have hafoot : threads.afoot = notice :: (notices ++ threads.service.notice?.toList) := by
    simp [afoot, hnotices]
  have hhearing := hconversing.hearing_of_afoot (by simp [hafoot])
  rw [hafoot] at hannounces
  obtain ⟨hended, hnotice, hnil⟩ := hannounces.head hevent
  obtain ⟨hrest, hservice⟩ := List.append_eq_nil_iff.mp hnil
  exact ⟨hnotice, hrest, by simpa using hservice, hhearing, hended⟩

/-- The dispatcher reads the notice of the end of the current process, and the next
process becomes the current one. -/
theorem hear_end {notice : Notice} {notices : List Notice}
    (hnotices : threads.notices = notice :: notices) (hevent : notice.event = .ended) :
    notice = ⟨current, .ended⟩ ∧ Conversing simulation final outcomes
      { threads with notices } (current + 1) false started := by
  obtain ⟨hnotice, rfl, hnotice?, hhearing, hended⟩ := hconversing.of_end hnotices hevent
  obtain ⟨result, hforeseen⟩ := ClientPhase.isStopped_iff.mp hended
  have hcontinues := hconversing.continues
  have hrequests := hconversing.requests_eq
  have hworking := hconversing.working
  rw [hforeseen] at hcontinues hrequests hworking
  obtain ⟨own, rfl, hown, hrest⟩ := hcontinues
  have hphase := (hconversing.later (current + 1) (by simp [hhearing])).1
  let next : Threads := { threads with notices := [] }
  have hnext : next.foreseen simulation (current + 1) = .silent started (current + 1) := by
    have hlistening := ClientPhase.isListening_silent started (current + 1)
    rw [← hphase] at hlistening ⊢
    exact foreseen_of_not_listening hlistening
  refine ⟨hnotice, ?_⟩
  constructor
  case unstarted => exact hconversing.unstarted
  case past =>
    intro pid hpid
    -- The process that was the current one joins the past, perhaps before it has its reply.
    rcases Nat.lt_or_eq_of_le (Nat.le_of_lt_succ hpid) with hlt | rfl
    · exact hconversing.past pid hlt
    · refine ⟨?_, own, hown, hforeseen⟩
      apply hconversing.resumes_eq_false_of_begun
      exact hasBegun_of_foreseen_stopped hforeseen
  case later =>
    intro pid hpid
    apply hconversing.later pid
    simpa [hhearing] using hpid
  case present => simp
  case replied => exact hconversing.replied
  case continues =>
    rw [hnext]
    exact continues_silent.mpr hrest
  case requests_eq =>
    rw [hnext, openRequests_silent]
    exact hrequests
  case service => exact hconversing.service.of_end hended hnotice? rfl
  case working =>
    rw [hnext, ClientPhase.isStopped_silent]
    exact hworking
  case announces =>
    rw [hnext, ClientPhase.isStopped_silent]
    exact ⟨[], by simp, by simp [afoot, hnotice?]⟩
  case quiet => simp [afoot, hnotice?]

end Conversing

end DemandPaging.Threads
