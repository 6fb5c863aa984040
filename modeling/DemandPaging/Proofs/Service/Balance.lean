import DemandPaging.Proofs.Service.HitNotices

/-!
# Counters add up

After any requests, whoever they are from, the counters of each process add up to its
references and to the frames that it holds or has given back. The clock, the account of
ended streams, the notices and the replies agree with them.
-/

namespace DemandPaging.PageService

def isReferenceOf (pid : Nat) : Nat × Request → Bool
  | (sender, .access _ _) => sender == pid
  | (_, .endOfStream) => false

/-- The number of frames that came back to the pool with the requests of a process. Only
frames that are reclaimed at the end of its stream do. -/
def returnedBy (pid : Nat) : PageService → List Served → Nat
  | _, [] => 0
  | service, served :: answers =>
    (if served.reply.pid = pid then
      served.service.pager.pool.count - service.pager.pool.count else 0) +
      returnedBy pid served.service answers

/-- A reply goes to the sender of its request, and acknowledges the end of a stream
exactly if the request was one. -/
structure Answers (item : Nat × Request) (served : Served) : Prop where
  pid_eq : served.reply.pid = item.1
  endOfStream_iff : served.reply.outcome = .endOfStream ↔ item.2 = .endOfStream

/-- The counters of a service, once it has answered some requests, add up. -/
structure Balanced (settings : Settings) (start : PageService) (requests : List (Nat × Request))
    (answers : List Served) (last : PageService) : Prop where
  references_eq : ∀ pid, pid < settings.processes →
    (last.pager.countersOf pid).references = requests.countP (isReferenceOf pid)
  evictions_le : ∀ pid,
    (last.pager.countersOf pid).evictions ≤ (last.pager.countersOf pid).faults
  frames_eq : ∀ pid,
    (last.pager.countersOf pid).faults - (last.pager.countersOf pid).evictions =
      last.pager.resident.countP (·.pid == pid) + returnedBy pid start answers
  clock_eq : last.pager.clock = ∑ pid ∈ Finset.range settings.processes,
    ((last.pager.countersOf pid).hits + (last.pager.countersOf pid).faults)
  faults_told : ∀ pid,
    (noticesOf answers).count ⟨pid, .fault⟩ = (last.pager.countersOf pid).faults
  hits_told : ∀ pid, (noticesOf answers).count ⟨pid, .hit⟩ =
    if settings.reportsHits then (last.pager.countersOf pid).hits else 0
  ends_told : ∀ pid, (noticesOf answers).count ⟨pid, .ended⟩ =
    if pid < settings.processes ∧ (pid, .endOfStream) ∈ requests then 1 else 0
  ended_eq : last.ended.length =
    ((Finset.range settings.processes).filter fun pid => (pid, .endOfStream) ∈ requests).card
  replies : List.Forall₂ Answers requests answers

variable {service last : PageService} {pid sender : Nat} {request : Request}
  {served : Served} {requests : List (Nat × Request)} {answers : List Served}
  {released : Nat → Nat}

/-! ## One request -/

namespace Serves

theorem answered (hserves : service.Serves sender request served) :
    Answers (sender, request) served := by
  refine ⟨hserves.reply_pid_eq, ?_⟩
  cases request with
  | access => exact iff_of_false hserves.outcome_ne_endOfStream (by simp)
  | endOfStream => exact iff_of_true (by cases hserves <;> rfl) rfl

theorem references_eq (hserves : service.Serves sender request served)
    (hcoherent : service.pager.Coherent none) (hpid : pid < service.processes) :
    (served.service.pager.countersOf pid).references =
      (service.pager.countersOf pid).references +
        [(sender, request)].countP (isReferenceOf pid) := by
  cases hserves with
  | access haccess =>
      obtain ⟨hothers, hown⟩ := Pager.countersOf_of_access hcoherent haccess
      by_cases hsame : sender = pid
      · subst hsame
        rcases hown with ⟨-, hrecord⟩ | ⟨hunknown, -, -⟩
        · rw [hrecord, Counters.references_record]
          simp [isReferenceOf]
        · exact absurd hpid (Nat.not_lt.mpr hunknown)
      · rw [hothers pid (Ne.symm hsame)]
        simp [isReferenceOf, hsame]
  | released _ _ hevacuate =>
      rw [Pager.countersOf_of_evacuate hcoherent hevacuate]
      rfl
  | kept | repeated => rfl

/-- The account grows by the process whose end the dispatcher is told of. -/
theorem count_ended_eq (hserves : service.Serves sender request served) (pid : Nat) :
    served.service.ended.count pid =
      service.ended.count pid + served.notice.toList.count ⟨pid, .ended⟩ := by
  cases hserves with
  | @access _ _ _ resolution =>
      cases resolution <;> simp [event?]
      split <;> simp
  | released | kept => simp [List.count_singleton]
  | repeated => simp

/-- What comes back to the pool is what the ledger counts as given back. -/
theorem ledger_returned (hserves : service.Serves sender request served)
    (hcoherent : service.pager.Coherent none) (hledger : service.pager.Ledger released) :
    served.service.pager.Ledger fun pid => released pid + returnedBy pid service [served] := by
  -- Only the entry of the sender changes, by the frames that came back.
  have hreturned : ∀ count, served.service.pager.pool.count - service.pager.pool.count = count →
      (fun pid => released pid + returnedBy pid service [served]) =
        Function.update released sender (released sender + count) := by
    rintro count rfl
    funext pid
    by_cases hsame : pid = sender
    · subst hsame
      simp [returnedBy, hserves.reply_pid_eq]
    · simp [returnedBy, hserves.reply_pid_eq, hsame, Ne.symm hsame]
  cases hserves with
  | access haccess =>
      have hle := Pager.count_access_le hcoherent haccess
      rw [hreturned 0 (Nat.sub_eq_zero_of_le hle), Nat.add_zero, Function.update_eq_self]
      exact hledger.access hcoherent haccess
  | @released pager count _ _ hevacuate =>
      have hcount : pager.pool.count - service.pager.pool.count = count := by
        rw [Pager.count_evacuate_eq hcoherent hevacuate, Nat.add_sub_cancel_left]
      rw [hreturned count hcount]
      exact hledger.evacuate hcoherent hevacuate
  | kept | repeated =>
      rw [hreturned 0 (Nat.sub_self _), Nat.add_zero, Function.update_eq_self]
      exact hledger

end Serves

/-! ## Many requests -/

namespace ServesAll

theorem answered (hserves : ServesAll service requests answers last) :
    List.Forall₂ Answers requests answers := by
  induction hserves with
  | nil => exact .nil
  | cons hserves _ ih => exact .cons hserves.answered ih

theorem references_eq (hserves : ServesAll service requests answers last)
    (hsound : service.Sound) (hpid : pid < service.processes) :
    (last.pager.countersOf pid).references =
      (service.pager.countersOf pid).references + requests.countP (isReferenceOf pid) := by
  induction hserves with
  | nil => rfl
  | cons hserves _ ih =>
      have hcoherent := hsound.coherent
      rw [ih (hserves.sound hsound) (hserves.processes_eq hcoherent ▸ hpid),
        hserves.references_eq hcoherent hpid, Nat.add_assoc, ← List.countP_append,
        List.singleton_append]

theorem count_ended_eq (hserves : ServesAll service requests answers last) (pid : Nat) :
    last.ended.count pid = service.ended.count pid + (noticesOf answers).count ⟨pid, .ended⟩ := by
  induction hserves with
  | nil => rfl
  | cons hserves _ ih =>
      rw [ih, hserves.count_ended_eq, noticesOf_cons, List.count_append, Nat.add_assoc]

theorem ledger_returned (hserves : ServesAll service requests answers last)
    (hsound : service.Sound) (hledger : service.pager.Ledger released) :
    last.pager.Ledger fun pid => released pid + returnedBy pid service answers := by
  induction hserves generalizing released with
  | nil => exact hledger
  | cons hserves _ ih =>
      have hrest := ih (hserves.sound hsound) (hserves.ledger_returned hsound.coherent hledger)
      simpa only [returnedBy, Nat.add_zero, Nat.add_assoc] using hrest

/-- A service that keeps hits to itself tells nobody of one. -/
theorem count_hit_eq (hserves : ServesAll service requests answers last) (hsound : service.Sound)
    (hblank : service.pager.countersOf pid = {}) :
    (noticesOf answers).count ⟨pid, .hit⟩ =
      if service.reportsHits then (last.pager.countersOf pid).hits else 0 := by
  split
  next hloud =>
    rw [(hserves.tallies hsound pid).hits_eq hloud, hblank, Nat.zero_add]
  next hquiet =>
    rw [← hserves.withoutHits_eq (by simpa using hquiet)]
    exact List.count_eq_zero_of_not_mem fun hmem => by simp [withoutHits] at hmem

end ServesAll

/-! ## The account of ended streams -/

/-- The dispatcher is told of each process on the account once. -/
theorem ServesAll.count_ended_of_fresh (hserves : ServesAll service requests answers last)
    (hsound : service.Sound) (hended : service.ended = []) (pid : Nat) :
    (noticesOf answers).count ⟨pid, .ended⟩ =
      if pid < service.processes ∧ (pid, .endOfStream) ∈ requests then 1 else 0 := by
  have hcount := hserves.count_ended_eq pid
  rw [hended, List.count_nil, Nat.zero_add] at hcount
  rw [← hcount, (hserves.sound hsound).1.nodup_ended.count]
  simp [hserves.mem_ended_iff hsound, hended, and_comm]

theorem ServesAll.length_ended_of_fresh (hserves : ServesAll service requests answers last)
    (hsound : service.Sound) (hended : service.ended = []) :
    last.ended.length = ((Finset.range service.processes).filter
      fun pid => (pid, .endOfStream) ∈ requests).card := by
  rw [← List.toFinset_card_of_nodup (hserves.sound hsound).1.nodup_ended]
  congr 1
  ext pid
  simp [hserves.mem_ended_iff hsound, hended, and_comm]

/-- A fresh service answers any requests, whoever they are from, and its counters add up. -/
theorem serveAll_balanced {settings : Settings} {start : PageService}
    (hfresh : fresh settings = .ok start) (requests : List (Nat × Request)) :
    ∃ last answers, start.serveAll requests = .ok (last, answers) ∧
      Balanced settings start requests answers last := by
  obtain ⟨hsound, hprocesses, -, hended⟩ := fresh_sound hfresh
  obtain ⟨hpager, -, hreports, -⟩ := fresh_eq_ok hfresh
  have hblank := Pager.countersOf_of_fresh hpager
  obtain ⟨last, answers, hserves⟩ := exists_servesAll hsound requests
  obtain ⟨hlast, hshape⟩ := hserves.sound hsound
  have hledger := hserves.ledger_returned hsound (Pager.fresh_ledger hpager)
  have hfaults : ∀ pid, (last.pager.countersOf pid).faults =
      last.pager.resident.countP (·.pid == pid) + (last.pager.countersOf pid).evictions +
        returnedBy pid start answers := by
    intro pid
    rw [hledger.faults_eq, Pager.countP_resident hlast.coherent, Nat.zero_add]
  refine ⟨last, answers, hserves.serveAll_eq, ?_⟩
  constructor
  case references_eq =>
    intro pid hpid
    rw [hserves.references_eq hsound (hprocesses ▸ hpid), hblank]
    exact Nat.zero_add _
  case evictions_le =>
    intro pid
    have hpid := hfaults pid
    omega
  case frames_eq =>
    intro pid
    have hpid := hfaults pid
    omega
  case clock_eq =>
    rw [hledger.clock_eq, show last.pager.processes = settings.processes from
      hshape.processes_eq.trans hprocesses]
    rfl
  case faults_told =>
    intro pid
    rw [(hserves.tallies hsound pid).faults_eq, hblank, Nat.zero_add]
  case hits_told =>
    intro pid
    rw [hserves.count_hit_eq hsound (hblank pid), hreports]
  case ends_told =>
    intro pid
    rw [hserves.count_ended_of_fresh hsound hended, hprocesses]
  case ended_eq => rw [hserves.length_ended_of_fresh hsound hended, hprocesses]
  case replies => exact hserves.answered

/-- The first of two processes ends its stream twice and comes back after that. A third one
is not known. -/
def stubbornRequests : List (Nat × Request) :=
  [(0, .access 0 3), (0, .access 1 3), (0, .access 2 3), (1, .access 0 3), (0, .endOfStream),
    (0, .endOfStream), (0, .access 2 3), (7, .access 0 3), (7, .endOfStream)]

theorem serveAll_balanced_with_reclaim :
    ∃ start last answers,
      fresh { processes := 2, pages := 3, frames := 2, reclaims := true } = .ok start ∧
      start.serveAll stubbornRequests = .ok (last, answers) ∧ returnedBy 0 start answers = 2 ∧
      Balanced { processes := 2, pages := 3, frames := 2, reclaims := true } start
        stubbornRequests answers last := by
  obtain ⟨start, hfresh, hreturned⟩ : ∃ start,
      fresh { processes := 2, pages := 3, frames := 2, reclaims := true } = .ok start ∧
      (start.serveAll stubbornRequests).map (fun served => returnedBy 0 start served.2) = .ok 2 :=
    ⟨_, rfl, by decide +kernel⟩
  obtain ⟨last, answers, hrun, hbalanced⟩ := serveAll_balanced hfresh stubbornRequests
  rw [hrun] at hreturned
  exact ⟨start, last, answers, hfresh, hrun, Except.ok.inj hreturned, hbalanced⟩

end DemandPaging.PageService
