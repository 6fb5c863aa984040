import DemandPaging.Proofs.Pager.Custody
import DemandPaging.Proofs.Service.Account

/-!
# Frames stay with their processes

Whatever the requests and their order, a frame that backs a page of a process backs a page
of that process from then on. Only the first end of its own stream takes it away, and only
if the service reclaims frames. A service that does not never gives one frame to two
processes.
-/

namespace DemandPaging.PageService

/-- The number of the frame that an outcome tells of. -/
def frame? : Outcome → Option Nat
  | .frame number => some number
  | .illegal | .starved | .endOfStream => none

/-- The frames that a process is told of in reply to its requests, in order. -/
def framesReplied (pid : Nat) (requests : List (Nat × Request)) (answers : List Served) :
    List Nat :=
  (requests.zip answers).filterMap fun ((sender, _), served) =>
    if sender = pid then frame? served.reply.outcome else none

variable {service last : PageService} {pid other frame : Nat} {request : Request}
  {served : Served} {requests : List (Nat × Request)} {answers : List Served}

theorem frame?_eq_some_iff {outcome : Outcome} :
    frame? outcome = some frame ↔ outcome = .frame frame := by
  cases outcome <;> simp [frame?]

theorem mem_framesReplied_cons {sender : Nat} :
    frame ∈ framesReplied pid ((sender, request) :: requests) (served :: answers) ↔
      sender = pid ∧ served.reply.outcome = .frame frame ∨
        frame ∈ framesReplied pid requests answers := by
  simp [framesReplied, frame?_eq_some_iff]

/-! ## One request -/

namespace Serves

/-- A request leaves the entries and the counters of other processes as they are. -/
theorem spares (hserves : service.Serves pid request served)
    (hcoherent : service.pager.Coherent none) :
    Pager.Spares pid service.pager served.service.pager := by
  cases hserves with
  | access haccess => exact (Pager.access_custody hcoherent haccess).1
  | released _ _ hevacuate => exact Pager.spares_of_evacuate hcoherent hevacuate
  | kept | repeated => exact .refl pid service.pager

/-- Only the first end of its own stream, with frames reclaimed, takes a frame away. -/
theorem holds (hserves : service.Serves pid request served)
    (hcoherent : service.pager.Coherent none) (hholds : service.pager.Holds other frame) :
    served.service.pager.Holds other frame ∨
      service.reclaims = true ∧ (other, .endOfStream) = (pid, request) ∧
        other ∉ service.ended := by
  have hnext := (hserves.coherent hcoherent).1
  by_cases hsame : other = pid
  · subst hsame
    cases hserves with
    | access haccess => exact .inl ((Pager.access_custody hcoherent haccess).2.1 frame hholds)
    | released hfirst hreclaims =>
        exact .inr ⟨hreclaims, rfl, (isFirstEnd_iff.mp hfirst).2⟩
    | kept | repeated => exact .inl hholds
  · exact .inl ((hserves.spares hcoherent).holds hcoherent hnext hsame hholds)

/-- A process holds the frame that it is told of. -/
theorem holds_replied (hserves : service.Serves pid request served)
    (hcoherent : service.pager.Coherent none) (hreply : served.reply.outcome = .frame frame) :
    served.service.pager.Holds pid frame := by
  cases hserves with
  | access haccess => exact (Pager.access_custody hcoherent haccess).2.2 frame hreply
  | released | kept | repeated => exact absurd hreply (by simp)

end Serves

/-! ## Many requests -/

namespace ServesAll

/-- A process keeps a frame as long as it is not reclaimed from it. -/
theorem holds (hserves : ServesAll service requests answers last) (hsound : service.Sound)
    (hkeeps : service.reclaims = true → (pid, .endOfStream) ∈ requests → pid ∈ service.ended)
    (hholds : service.pager.Holds pid frame) : last.pager.Holds pid frame := by
  induction hserves with
  | nil => exact hholds
  | cons hserves _ ih =>
      apply ih (hserves.sound hsound)
      · intro hreclaims hmem
        rw [hserves.reclaims_eq] at hreclaims
        exact hserves.mem_ended_iff.mpr (.inl (hkeeps hreclaims (List.mem_cons_of_mem _ hmem)))
      · rcases hserves.holds hsound.coherent hholds with hstill | ⟨hreclaims, heq, hnot⟩
        · exact hstill
        · exact absurd (hkeeps hreclaims (heq ▸ List.mem_cons_self)) hnot

/-- Without reclaiming, a process still holds all frames that it was ever told of. -/
theorem holds_replied (hserves : ServesAll service requests answers last)
    (hsound : service.Sound) (hkeeps : service.reclaims = false)
    (hframe : frame ∈ framesReplied pid requests answers) : last.pager.Holds pid frame := by
  induction hserves with
  | nil => exact absurd hframe (by simp [framesReplied])
  | @cons service last sender request served requests answers hserves hrest ih =>
      have hnever : served.service.reclaims = false := hserves.reclaims_eq.trans hkeeps
      rcases mem_framesReplied_cons.mp hframe with ⟨rfl, hreply⟩ | hlater
      · exact hrest.holds (hserves.sound hsound) (by simp [hnever])
          (hserves.holds_replied hsound.coherent hreply)
      · exact ih (hserves.sound hsound) hnever hlater

end ServesAll

/-- After any requests: a further request of one process leaves the table and the counters
of every other process as they are; a frame stays with its process over each further
request but the first end of its stream, with frames reclaimed, and so it does over any
number of requests; and without reclaiming the frames replied to two processes differ. -/
theorem frames_stay_with_their_process (settings : Settings) {start middle : PageService}
    (hstart : fresh settings = .ok start) {requests : List (Nat × Request)}
    {answers : List Served} (hmiddle : start.serveAll requests = .ok (middle, answers)) :
    (∀ pid request, ∃ served, middle.serve pid request = .ok served ∧
      (∀ other, other ≠ pid →
        served.service.pager.tables.tableOf other = middle.pager.tables.tableOf other ∧
        served.service.pager.counters[other]? = middle.pager.counters[other]?) ∧
      ∀ other frame, middle.pager.Holds other frame →
        served.service.pager.Holds other frame ∨
          settings.reclaims = true ∧ pid = other ∧ request = .endOfStream ∧
            (other, .endOfStream) ∉ requests) ∧
    (∀ pid frame later, middle.pager.Holds pid frame →
      (settings.reclaims = true → (pid, .endOfStream) ∈ later →
        (pid, .endOfStream) ∈ requests) →
      ∃ last rest, middle.serveAll later = .ok (last, rest) ∧ last.pager.Holds pid frame) ∧
    (settings.reclaims = false → ∀ pid other, pid ≠ other →
      (framesReplied pid requests answers).Disjoint (framesReplied other requests answers)) := by
  obtain ⟨hsound, -, hreclaims, hblank⟩ := fresh_sound hstart
  have hserved := hsound.servesAll hmiddle
  obtain ⟨hmiddleSound, hshape⟩ := hserved.sound hsound
  have hkeeps : middle.reclaims = settings.reclaims := hserved.reclaims_eq.trans hreclaims
  -- A process that holds a frame is known, so the account tells whether it has ended.
  have hended : ∀ pid frame, middle.pager.Holds pid frame →
      (pid ∈ middle.ended ↔ (pid, .endOfStream) ∈ requests) := by
    intro pid frame hholds
    obtain ⟨page, hpage⟩ := hmiddleSound.coherent.holds_iff.mp hholds
    have hknown : pid < start.processes := by
      rw [processes, ← hshape.processes_eq]
      exact hmiddleSound.coherent.pid_lt hpage
    simp [hserved.mem_ended_iff hsound, hblank, hknown]
  refine ⟨fun pid request => ?_, fun pid frame later hholds hfirst => ?_, ?_⟩
  · obtain ⟨served, hserves⟩ := exists_serves hmiddleSound pid request
    have hspares := hserves.spares hmiddleSound.coherent
    have hnextShape := (hserves.coherent hmiddleSound.coherent).2
    refine ⟨served, hserves.serve_eq, fun other hne =>
      ⟨hspares.tableOf_eq hnextShape hne, hspares.counters_eq other hne⟩, ?_⟩
    intro other frame hholds
    rcases hserves.holds hmiddleSound.coherent hholds with hstill | ⟨hreclaimed, heq, hnot⟩
    · exact .inl hstill
    · obtain ⟨rfl, rfl⟩ := Prod.mk.inj heq
      rw [hended other frame hholds] at hnot
      exact .inr ⟨hkeeps ▸ hreclaimed, rfl, rfl, hnot⟩
  · obtain ⟨last, rest, hlater⟩ := exists_servesAll hmiddleSound later
    refine ⟨last, rest, hlater.serveAll_eq, hlater.holds hmiddleSound ?_ hholds⟩
    rw [hkeeps, hended pid frame hholds]
    exact hfirst
  · intro hnever pid other hne frame hpid hother
    have hstartNever : start.reclaims = false := hreclaims.trans hnever
    exact hne (hmiddleSound.coherent.holds_inj (hserved.holds_replied hsound hstartNever hpid)
      (hserved.holds_replied hsound hstartNever hother))

/-- With one frame for two processes the first one keeps it, over an eviction of its own
and the end of the other stream. With two frames and no reclaiming each process is told of
one of them. -/
theorem two_processes_keep_their_frames :
    (∃ start middle answers,
      fresh { processes := 2, pages := 2, frames := 1, reclaims := true } = .ok start ∧
      start.serveAll [(0, .access 0 2), (0, .access 1 2)] = .ok (middle, answers) ∧
      middle.pager.Holds 0 0 ∧ ∃ last rest,
        middle.serveAll [(1, .endOfStream), (1, .access 0 2), (0, .access 0 2)] =
          .ok (last, rest) ∧ last.pager.Holds 0 0) ∧
    ∃ start middle answers, fresh { processes := 2, pages := 2, frames := 2 } = .ok start ∧
      start.serveAll [(0, .access 0 2), (0, .endOfStream), (1, .access 1 2)] =
        .ok (middle, answers) ∧
      (framesReplied 0 [(0, .access 0 2), (0, .endOfStream), (1, .access 1 2)] answers).Disjoint
        (framesReplied 1 [(0, .access 0 2), (0, .endOfStream), (1, .access 1 2)] answers) := by
  constructor
  · obtain ⟨start, middle, answers, hstart, hmiddle, hholds⟩ : ∃ start middle answers,
        fresh { processes := 2, pages := 2, frames := 1, reclaims := true } = .ok start ∧
        start.serveAll [(0, .access 0 2), (0, .access 1 2)] = .ok (middle, answers) ∧
        middle.pager.Holds 0 0 :=
      ⟨_, _, _, rfl, rfl, 1, _, rfl, rfl, rfl⟩
    exact ⟨start, middle, answers, hstart, hmiddle, hholds,
      (frames_stay_with_their_process _ hstart hmiddle).2.1 0 0 _ hholds (by simp)⟩
  · obtain ⟨start, middle, answers, hstart, hmiddle⟩ : ∃ start middle answers,
        fresh { processes := 2, pages := 2, frames := 2 } = .ok start ∧
        start.serveAll [(0, .access 0 2), (0, .endOfStream), (1, .access 1 2)] =
          .ok (middle, answers) :=
      ⟨_, _, _, rfl, rfl⟩
    exact ⟨start, middle, answers, hstart, hmiddle,
      (frames_stay_with_their_process _ hstart hmiddle).2.2 rfl 0 1 (by decide)⟩

end DemandPaging.PageService
