import DemandPaging.Proofs.Admission.FirstCome
import DemandPaging.Proofs.Admission.InOrder

/-!
# Only ends count

The dispatcher hears of faults and hits and does nothing about them. With such notices put
in or taken out at any place, its run comes to the same.
-/

namespace DemandPaging

/-- The notices of an end, in order. -/
def endsOf (notices : List Notice) : List Notice := notices.filter (·.event == .ended)

theorem endsOf_cons_of_ended {notice : Notice} (hended : notice.event = .ended)
    (notices : List Notice) : endsOf (notice :: notices) = notice :: endsOf notices :=
  List.filter_cons_of_pos (by simp [hended])

theorem endsOf_cons_of_ne {notice : Notice} (hquiet : notice.event ≠ .ended)
    (notices : List Notice) : endsOf (notice :: notices) = endsOf notices :=
  List.filter_cons_of_neg (by simpa using hquiet)

/-- Two runs come to the same, but for the steps in which they hear of no end. -/
structure DispatchRun.ComesTo (run other : DispatchRun) : Prop where
  table_eq : run.table = other.table
  resumed_eq : run.resumed = other.resumed
  unreadRegistrations_eq : run.unreadRegistrations = other.unreadRegistrations
  unreadNotices_eq : endsOf run.unreadNotices = endsOf other.unreadNotices
  stop_eq : run.stop = other.stop

namespace DispatchRun.ComesTo

variable {run other third : DispatchRun}

theorem symm (hcomes : run.ComesTo other) : other.ComesTo run :=
  ⟨hcomes.table_eq.symm, hcomes.resumed_eq.symm, hcomes.unreadRegistrations_eq.symm,
    hcomes.unreadNotices_eq.symm, hcomes.stop_eq.symm⟩

theorem trans (hcomes : run.ComesTo other) (hother : other.ComesTo third) : run.ComesTo third :=
  ⟨hcomes.table_eq.trans hother.table_eq, hcomes.resumed_eq.trans hother.resumed_eq,
    hcomes.unreadRegistrations_eq.trans hother.unreadRegistrations_eq,
    hcomes.unreadNotices_eq.trans hother.unreadNotices_eq, hcomes.stop_eq.trans hother.stop_eq⟩

theorem following (hcomes : run.ComesTo other) (steps otherSteps : List DispatchStep)
    (line : Nat) : (run.following steps line).ComesTo (other.following otherSteps line) :=
  ⟨hcomes.table_eq, congrArg (line :: ·) hcomes.resumed_eq, hcomes.unreadRegistrations_eq,
    hcomes.unreadNotices_eq, hcomes.stop_eq⟩

theorem result?_eq (hcomes : run.ComesTo other) (hasSender : Bool) (patience : Option Nat) :
    run.result? hasSender patience = other.result? hasSender patience := by
  simp only [result?, hcomes.stop_eq, hcomes.table_eq]

end DispatchRun.ComesTo

namespace Admissions

/-- A wait for the end of a process comes to the same when only ends are heard of. -/
theorem awaitFinish_endsOf (pid : Nat) (table : Admissions) (notices : List Notice) :
    (awaitFinish pid table (endsOf notices)).table = (awaitFinish pid table notices).table ∧
      (awaitFinish pid table (endsOf notices)).unread =
        endsOf (awaitFinish pid table notices).unread ∧
      (awaitFinish pid table (endsOf notices)).finished =
        (awaitFinish pid table notices).finished := by
  induction notices generalizing table with
  | nil => exact ⟨rfl, rfl, rfl⟩
  | cons notice notices ih =>
      by_cases hended : notice.event = .ended
      · rw [endsOf_cons_of_ended hended]
        simp only [awaitFinish]
        split
        next => exact ⟨rfl, rfl, rfl⟩
        next => exact ih _
      · rw [endsOf_cons_of_ne hended]
        simp only [awaitFinish, hear_of_ne_ended table hended, reduceCtorEq, if_false]
        exact ih table

theorem endsOf_endsOf (notices : List Notice) : endsOf (endsOf notices) = endsOf notices := by
  simp [endsOf]

/-- Each process that is admitted comes to its end, or fails to, in the same way. -/
theorem dispatch_endsOf (waiting : Nat → Bool) (expected : Nat) (table : Admissions)
    (notices : List Notice) :
    (table.dispatch waiting expected (endsOf notices)).ComesTo
      (table.dispatch waiting expected notices) := by
  induction hlength : table.ready.length using Nat.strongRecOn generalizing table notices with
  | _ length ih =>
      by_cases hlt : table.finished < expected
      · cases hstart : table.start? with
        | none =>
            rw [dispatch_of_none hlt hstart, dispatch_of_none hlt hstart]
            exact ⟨rfl, rfl, rfl, endsOf_endsOf notices, rfl⟩
        | some found =>
            obtain ⟨registration, admitted⟩ := found
            have hready : admitted.ready.length < length := by
              rw [← hlength, ready_of_start? hstart, List.length_cons]
              exact Nat.lt_succ_self _
            rw [dispatch_of_start hlt hstart, dispatch_of_start hlt hstart]
            split
            next => exact ⟨rfl, rfl, rfl, endsOf_endsOf notices, rfl⟩
            next =>
              dsimp only
              split
              next =>
                refine (ih _ ?_ _ _ rfl).following _ _ _
                rwa [settle_ready]
              next =>
                obtain ⟨htable, hunread, hfinished⟩ := awaitFinish_endsOf registration.pid
                  (admitted.settle registration.pid).1 notices
                rw [htable, hunread, hfinished]
                split
                next =>
                  refine (ih _ ?_ _ _ rfl).following _ _ _
                  rwa [awaitFinish_ready, settle_ready]
                next => exact ⟨rfl, rfl, rfl, endsOf_endsOf _, rfl⟩
      · rw [dispatch_of_le (Nat.le_of_not_lt hlt), dispatch_of_le (Nat.le_of_not_lt hlt)]
        exact ⟨rfl, rfl, rfl, endsOf_endsOf notices, rfl⟩

end Admissions

/-- Runs that hear of the same ends come to the same. -/
theorem dispatch_comesTo (waiting : Nat → Bool) (expected : Nat)
    (registrations : List Registration) {notices others : List Notice}
    (hends : endsOf notices = endsOf others) :
    (dispatch waiting expected registrations notices).ComesTo
      (dispatch waiting expected registrations others) := by
  unfold dispatch
  split
  next => exact ⟨rfl, rfl, rfl, hends, rfl⟩
  next =>
    have hleft := Admissions.dispatch_endsOf waiting expected
      (({} : Admissions).enrolAll registrations) notices
    have hright := Admissions.dispatch_endsOf waiting expected
      (({} : Admissions).enrolAll registrations) others
    rw [hends] at hleft
    obtain ⟨htable, hresumed, hregistrations, hunread, hstop⟩ := hleft.symm.trans hright
    exact ⟨htable, hresumed, hregistrations, hunread, hstop⟩

end DemandPaging
