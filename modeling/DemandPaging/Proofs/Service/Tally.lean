import DemandPaging.Proofs.Pager.Inclusion
import DemandPaging.Proofs.Pager.Ledger
import DemandPaging.Proofs.Service.Custody

/-!
# Counters tell what was said

The counters of a process and the clock are kept in the pager, and what the processes and
the dispatcher hear is kept by them. Both tell the same story: a counter goes up exactly if a
reply or a notice of its kind goes out.
-/

namespace DemandPaging.PageService

/-- What a process is told, in order. -/
def outcomesTo (pid : Nat) (answers : List Served) : List Outcome :=
  (answers.filter (·.reply.pid == pid)).map (·.reply.outcome)

/-- The notices that go out with some answers, in order. -/
def noticesOf (answers : List Served) : List Notice := answers.filterMap (·.notice)

/-- Between two services, a process was told, and the dispatcher was told of it, what its
counters say. Illegal references of an unknown process do not count. -/
structure Tallies (pid : Nat) (service : PageService) (answers : List Served)
    (last : PageService) : Prop where
  resolved_eq : (last.pager.countersOf pid).resolved =
    (service.pager.countersOf pid).resolved + (outcomesTo pid answers).countP Outcome.isFrame
  starved_eq : (last.pager.countersOf pid).starved =
    (service.pager.countersOf pid).starved + (outcomesTo pid answers).count .starved
  illegal_eq : pid < service.processes → (last.pager.countersOf pid).illegal =
    (service.pager.countersOf pid).illegal + (outcomesTo pid answers).count .illegal
  faults_eq : (last.pager.countersOf pid).faults =
    (service.pager.countersOf pid).faults + (noticesOf answers).count ⟨pid, .fault⟩
  hits_eq : service.reportsHits = true → (last.pager.countersOf pid).hits =
    (service.pager.countersOf pid).hits + (noticesOf answers).count ⟨pid, .hit⟩

variable {service middle last : PageService} {pid sender frame : Nat} {request : Request}
  {served : Served} {requests : List (Nat × Request)} {answers rest : List Served}
  {released : Nat → Nat}

theorem outcomesTo_append (pid : Nat) (answers rest : List Served) :
    outcomesTo pid (answers ++ rest) = outcomesTo pid answers ++ outcomesTo pid rest := by
  simp [outcomesTo]

theorem noticesOf_append (answers rest : List Served) :
    noticesOf (answers ++ rest) = noticesOf answers ++ noticesOf rest := by
  simp [noticesOf]

namespace Tallies

theorem nil (pid : Nat) (service : PageService) : Tallies pid service [] service := by
  constructor <;> simp [outcomesTo, noticesOf]

theorem append (hfirst : Tallies pid service answers middle)
    (hlater : Tallies pid middle rest last) (hprocesses : middle.processes = service.processes)
    (hreports : middle.reportsHits = service.reportsHits) :
    Tallies pid service (answers ++ rest) last := by
  constructor
  · rw [hlater.resolved_eq, hfirst.resolved_eq, outcomesTo_append, List.countP_append,
      Nat.add_assoc]
  · rw [hlater.starved_eq, hfirst.starved_eq, outcomesTo_append, List.count_append, Nat.add_assoc]
  · intro hpid
    rw [hlater.illegal_eq (hprocesses ▸ hpid), hfirst.illegal_eq hpid, outcomesTo_append,
      List.count_append, Nat.add_assoc]
  · rw [hlater.faults_eq, hfirst.faults_eq, noticesOf_append, List.count_append, Nat.add_assoc]
  · intro hloud
    rw [hlater.hits_eq (hreports.trans hloud), hfirst.hits_eq hloud, noticesOf_append,
      List.count_append, Nat.add_assoc]

/-- As long as nothing but ends of streams is spoken of, no counter changes. -/
theorem of_silent (hcounters : last.pager.countersOf pid = service.pager.countersOf pid)
    (houtcomes : ∀ outcome ∈ outcomesTo pid answers, outcome = .endOfStream)
    (hnotices : ∀ notice ∈ noticesOf answers, notice.pid = pid → notice.event = .ended) :
    Tallies pid service answers last := by
  have hframe : (outcomesTo pid answers).countP Outcome.isFrame = 0 := by
    rw [List.countP_eq_zero]
    intro outcome hmem
    simp [houtcomes outcome hmem, Outcome.isFrame]
  have hnever : ∀ outcome, outcome ≠ .endOfStream → (outcomesTo pid answers).count outcome = 0 :=
    fun outcome hne => List.count_eq_zero_of_not_mem (mt (houtcomes outcome) hne)
  have hquiet : ∀ event, event ≠ .ended → (noticesOf answers).count ⟨pid, event⟩ = 0 :=
    fun event hne => List.count_eq_zero_of_not_mem fun hmem => hne (hnotices _ hmem rfl)
  constructor
  · rw [hcounters, hframe, Nat.add_zero]
  · rw [hcounters, hnever _ (by simp), Nat.add_zero]
  · rw [hcounters, hnever _ (by simp), Nat.add_zero]
    exact fun _ => rfl
  · rw [hcounters, hquiet _ (by simp), Nat.add_zero]
  · rw [hcounters, hquiet _ (by simp), Nat.add_zero]
    exact fun _ => rfl

end Tallies

/-! ## One request -/

namespace Serves

theorem reply_pid_eq (hserves : service.Serves sender request served) :
    served.reply.pid = sender := by
  cases hserves <;> rfl

theorem outcome_ne_endOfStream {page bound : Int}
    (hserves : service.Serves sender (.access page bound) served) :
    served.reply.outcome ≠ .endOfStream := by
  cases hserves with
  | @access _ _ _ resolution => cases resolution <;> simp [Resolution.outcome]

theorem notice_pid_eq (hserves : service.Serves sender request served) {notice : Notice}
    (hnotice : served.notice = some notice) : notice.pid = sender := by
  cases hserves with
  | access =>
      obtain ⟨event, -, rfl⟩ := Option.map_eq_some_iff.mp hnotice
      rfl
  | released | kept => rw [← Option.some.inj hnotice]
  | repeated => exact absurd hnotice (by simp)

theorem reportsHits_eq (hserves : service.Serves sender request served) :
    served.service.reportsHits = service.reportsHits := by
  cases hserves <;> rfl

/-- The frame that a process is told of exists. -/
theorem frame_lt (hserves : service.Serves sender request served)
    (hcoherent : service.pager.Coherent none) (hreply : served.reply.outcome = .frame frame) :
    frame < service.pager.pool.total := by
  obtain ⟨hnext, hshape⟩ := hserves.coherent hcoherent
  obtain ⟨page, hpage⟩ := hnext.holds_iff.mp (hserves.holds_replied hcoherent hreply)
  rw [← hshape.frames_eq]
  exact hnext.frame_lt hpage

theorem ledger (hserves : service.Serves sender request served)
    (hcoherent : service.pager.Coherent none) (hledger : service.pager.Ledger released) :
    ∃ after, served.service.pager.Ledger after ∧ (service.reclaims = false → after = released) := by
  cases hserves with
  | access haccess => exact ⟨released, hledger.access hcoherent haccess, fun _ => rfl⟩
  | released _ hreclaims hevacuate =>
      refine ⟨_, hledger.evacuate hcoherent hevacuate, fun hkeeps => ?_⟩
      exact absurd (hreclaims.symm.trans hkeeps) (by simp)
  | kept | repeated => exact ⟨released, hledger, fun _ => rfl⟩

/-- What one more resolution does to the counters is what is said about it. -/
theorem tallies_of_record {pager : Pager} {resolution : Resolution}
    (hown : pager.countersOf pid = (service.pager.countersOf pid).record resolution) :
    Tallies pid service
      [⟨{ service with pager }, ⟨pid, resolution.outcome⟩,
        (service.event? resolution).map (⟨pid, ·⟩)⟩] { service with pager } := by
  refine ⟨?_, ?_, fun _ => ?_, ?_, fun hloud => ?_⟩
  · rw [hown, Counters.resolved_record]
    cases resolution <;> simp [outcomesTo, Resolution.outcome, Outcome.isFrame]
  · rw [hown]
    cases resolution <;> simp [outcomesTo, Resolution.outcome, Counters.record]
  · rw [hown]
    cases resolution <;> simp [outcomesTo, Resolution.outcome, Counters.record]
  · rw [hown, Counters.faults_record]
    cases resolution <;> simp [noticesOf, event?, Resolution.isFault]
    split <;> simp
  · rw [hown, Counters.hits_record]
    cases resolution <;> simp [noticesOf, event?, Resolution.isHit, hloud]

theorem tallies (hserves : service.Serves sender request served)
    (hcoherent : service.pager.Coherent none) (pid : Nat) :
    Tallies pid service [served] served.service := by
  by_cases hsame : pid = sender
  · subst hsame
    cases hserves with
    | access haccess =>
        obtain ⟨-, ⟨-, hown⟩ | ⟨hpid, rfl, rfl⟩⟩ := Pager.countersOf_of_access hcoherent haccess
        · exact tallies_of_record hown
        · refine ⟨?_, ?_, fun hknown => absurd hknown (Nat.not_lt.mpr hpid), ?_, fun _ => ?_⟩
          all_goals simp [outcomesTo, noticesOf, Resolution.outcome, Outcome.isFrame, event?]
    | released _ _ hevacuate =>
        exact .of_silent (Pager.countersOf_of_evacuate hcoherent hevacuate pid)
          (by simp [outcomesTo]) (by simp [noticesOf])
    | kept | repeated => exact .of_silent rfl (by simp [outcomesTo]) (by simp [noticesOf])
  · have hcounters : served.service.pager.countersOf pid = service.pager.countersOf pid := by
      rw [Pager.countersOf, (hserves.spares hcoherent).counters_eq pid hsame, Pager.countersOf]
    refine .of_silent hcounters ?_ ?_
    · simp [outcomesTo, hserves.reply_pid_eq, Ne.symm hsame]
    · intro notice hmem hpid
      obtain ⟨_, hserved, hnotice⟩ := List.mem_filterMap.mp hmem
      rw [List.mem_singleton.mp hserved] at hnotice
      exact absurd (hpid.symm.trans (hserves.notice_pid_eq hnotice)) hsame

end Serves

/-! ## Many requests -/

namespace ServesAll

theorem reportsHits_eq (hserves : ServesAll service requests answers last) :
    last.reportsHits = service.reportsHits := by
  induction hserves with
  | nil => rfl
  | cons hserves _ ih => exact ih.trans hserves.reportsHits_eq

theorem tallies (hserves : ServesAll service requests answers last) (hsound : service.Sound)
    (pid : Nat) : Tallies pid service answers last := by
  induction hserves with
  | nil => exact .nil pid _
  | cons hserves _ ih =>
      exact (hserves.tallies hsound.coherent pid).append (ih (hserves.sound hsound))
        (hserves.processes_eq hsound.coherent) hserves.reportsHits_eq

/-- No frame is given back as long as the service keeps them. -/
theorem ledger (hserves : ServesAll service requests answers last) (hsound : service.Sound)
    (hledger : service.pager.Ledger released) :
    ∃ after, last.pager.Ledger after ∧ (service.reclaims = false → after = released) := by
  induction hserves generalizing released with
  | nil => exact ⟨released, hledger, fun _ => rfl⟩
  | cons hserves _ ih =>
      obtain ⟨middle, hmiddle, hkept⟩ := hserves.ledger hsound.coherent hledger
      obtain ⟨after, hafter, hkeeps⟩ := ih (hserves.sound hsound) hmiddle
      refine ⟨after, hafter, fun hnever => ?_⟩
      rw [hkeeps (hserves.reclaims_eq.trans hnever), hkept hnever]

/-- Every frame that a process is told of exists. -/
theorem frame_lt (hserves : ServesAll service requests answers last) (hsound : service.Sound)
    (hframe : .frame frame ∈ outcomesTo pid answers) : frame < service.pager.pool.total := by
  induction hserves with
  | nil => exact absurd hframe (by simp [outcomesTo])
  | @cons service last sender request served requests answers hserves _ ih =>
      rw [← List.singleton_append, outcomesTo_append, List.mem_append] at hframe
      rcases hframe with hhead | htail
      · obtain ⟨_, hmem, hreply⟩ := List.mem_map.mp hhead
        rw [List.mem_singleton.mp (List.mem_of_mem_filter hmem)] at hreply
        exact hserves.frame_lt hsound.coherent hreply
      · rw [← (hserves.coherent hsound.coherent).2.frames_eq]
        exact ih (hserves.sound hsound) htail

end ServesAll

end DemandPaging.PageService
