import DemandPaging.Proofs.Pager.Conservation
import DemandPaging.Proofs.Service.Account
import DemandPaging.Service.Run

/-!
# How far a service reads its queue

A service reads on until the last of its processes has ended its stream, and no further.
Up to there it serves the requests one after another and answers each of them. With
nobody to take its notices it stops at the first notice instead; with neither an end nor
a notice it reads the whole queue and finds it abandoned.
-/

namespace DemandPaging

/-- The process that a letter is from, and what it asks. -/
def Letter.asked (letter : Letter) : Nat × Request := (letter.pid, letter.request)

namespace PageService

/-- Every process ends its stream in one of these letters. -/
def EndsAll (processes : Nat) (letters : List Letter) : Prop :=
  ∀ pid, pid < processes → (pid, .endOfStream) ∈ letters.map Letter.asked

/-- With the letters read, all processes are on the account of ended streams. -/
def Completes (service : PageService) (letters : List Letter) : Prop :=
  ∀ pid, pid < service.processes →
    pid ∈ service.ended ∨ (pid, .endOfStream) ∈ letters.map Letter.asked

/-- Served one after another, the letters give the dispatcher nothing to hear. -/
def Quiet (service : PageService) (letters : List Letter) : Prop :=
  ∃ last answers, service.serveAll (letters.map Letter.asked) = .ok (last, answers) ∧
    ∀ served ∈ answers, served.notice = none

/-- The replies to those letters whose senders wait for them. -/
def awaitedReplies (letters : List Letter) (answers : List Served) : List Reply :=
  (letters.zip answers).filterMap fun (letter, served) =>
    if letter.awaited then some served.reply else none

/-- The run has served just these letters, in order, with one answer to each of them, and
has left the others unread. -/
structure Handles (start : PageService) (letters unread : List Letter) (run : ServiceRun) :
    Prop where
  answers : ∃ answers, start.serveAll (letters.map Letter.asked) = .ok (run.service, answers) ∧
    answers.length = letters.length ∧
    run.replies = awaitedReplies letters answers ∧
    run.notices = answers.filterMap (·.notice)
  unread_eq : run.unread = unread

/-- The service takes these letters from its queue one after another without a stop. -/
inductive Proceeds (heard : Bool) :
    PageService → List Letter → List ServiceStep → PageService → Prop where
  | nil {service : PageService} : Proceeds heard service [] [] service
  | cons {service last : PageService} {letter : Letter} {served : Served}
      {letters : List Letter} {steps : List ServiceStep} (hopen : service.allEnded = false)
      (hserves : service.Serves letter.pid letter.request served)
      (hheard : heard = true ∨ served.notice = none)
      (hrest : Proceeds heard served.service letters steps last) :
      Proceeds heard service (letter :: letters) (⟨service, letter, served⟩ :: steps) last

variable {service last : PageService} {heard : Bool} {letter : Letter}
  {letters queue : List Letter} {served : Served} {steps : List ServiceStep}

/-! ## One letter -/

theorem run_of_allEnded (hended : service.allEnded = true) (heard : Bool) (queue : List Letter) :
    service.run heard queue = ⟨[], service, queue, .allFinished⟩ := by
  cases queue <;> simp [run, hended]

theorem run_nil (hopen : service.allEnded = false) (heard : Bool) :
    service.run heard [] = ⟨[], service, [], .noRequest⟩ := by
  simp [run, hopen]

theorem run_cons (hopen : service.allEnded = false)
    (hserves : service.Serves letter.pid letter.request served)
    (hheard : heard = true ∨ served.notice = none) (queue : List Letter) :
    service.run heard (letter :: queue) =
      { served.service.run heard queue with
        steps := ⟨service, letter, served⟩ :: (served.service.run heard queue).steps } := by
  have hgoes : (served.notice.isSome && !heard) = false := by
    rcases hheard with rfl | hnone
    · simp
    · simp [hnone]
  simp [run, hopen, hserves.serve_eq, hgoes]

theorem run_cons_of_unheard (hopen : service.allEnded = false)
    (hserves : service.Serves letter.pid letter.request served) (hnotice : served.notice ≠ none)
    (queue : List Letter) :
    service.run false (letter :: queue) =
      ⟨[⟨service, letter, served⟩], served.service, queue, .unheard⟩ := by
  simp [run, hopen, hserves.serve_eq, Option.isSome_iff_ne_none.mpr hnotice]

/-! ## Many letters -/

namespace Proceeds

theorem run_eq (hproceeds : Proceeds heard service letters steps last) (queue : List Letter) :
    service.run heard (letters ++ queue) =
      { last.run heard queue with steps := steps ++ (last.run heard queue).steps } := by
  induction hproceeds with
  | nil => rfl
  | cons hopen hserves hheard _ ih =>
      rw [List.cons_append, run_cons hopen hserves hheard, ih]
      rfl

theorem servesAll (hproceeds : Proceeds heard service letters steps last) :
    ServesAll service (letters.map Letter.asked) (steps.map (·.served)) last := by
  induction hproceeds with
  | nil => exact .nil
  | cons _ hserves _ _ ih => exact .cons hserves ih

theorem letters_eq (hproceeds : Proceeds heard service letters steps last) :
    steps.map (·.letter) = letters := by
  induction hproceeds with
  | nil => rfl
  | cons _ _ _ _ ih => rw [List.map_cons, ih]

/-- Without a dispatcher no step has a notice. -/
theorem silent (hproceeds : Proceeds false service letters steps last) :
    ∀ step ∈ steps, step.served.notice = none := by
  induction hproceeds with
  | nil => simp
  | cons _ _ hheard _ ih => exact List.forall_mem_cons.mpr ⟨hheard.resolve_left (by simp), ih⟩

end Proceeds

/-- A run that consists of these steps has handled their letters. -/
theorem handles_of_steps
    (hserves : ServesAll service (letters.map Letter.asked) (steps.map (·.served)) last)
    (hletters : steps.map (·.letter) = letters) (unread : List Letter) (stop : ServiceStop) :
    Handles service letters unread ⟨steps, last, unread, stop⟩ := by
  refine ⟨⟨steps.map (·.served), hserves.serveAll_eq, ?_, ?_, ?_⟩, rfl⟩
  · rw [← hletters, List.length_map, List.length_map]
  · rw [awaitedReplies, ← hletters, List.zip_map', List.filterMap_map]
    rfl
  · rw [ServiceRun.notices, List.filterMap_map]
    rfl

theorem Proceeds.handles (hproceeds : Proceeds heard service letters steps last)
    (unread : List Letter) (stop : ServiceStop) :
    Handles service letters unread ⟨steps, last, unread, stop⟩ :=
  handles_of_steps hproceeds.servesAll hproceeds.letters_eq unread stop

theorem ServesAll.allEnded_iff {answers : List Served}
    (hserves : ServesAll service (letters.map Letter.asked) answers last)
    (hsound : service.Sound) : last.allEnded = true ↔ service.Completes letters := by
  obtain ⟨hlast, hshape⟩ := hserves.sound hsound
  rw [hlast.allEnded_iff, show last.processes = service.processes from hshape.processes_eq]
  refine forall₂_congr fun pid hpid => ?_
  rw [hserves.mem_ended_iff hsound]
  simp [hpid]

/-- A service that is heard takes letters as long as the ones before do not complete the
account. -/
theorem exists_proceeds_of_heard (hsound : service.Sound)
    (hopen : ∀ shorter, shorter <+: letters → shorter ≠ letters → ¬service.Completes shorter) :
    ∃ steps last, Proceeds true service letters steps last := by
  induction letters generalizing service with
  | nil => exact ⟨[], service, .nil⟩
  | cons letter letters ih =>
      obtain ⟨served, hserves⟩ := exists_serves hsound letter.pid letter.request
      have hfirst : service.allEnded = false := by
        have hnot := hopen [] List.nil_prefix (by simp)
        rw [← ServesAll.allEnded_iff .nil hsound] at hnot
        simpa using hnot
      -- What completes the account behind the first letter completes it together with it.
      have hrest : ∀ shorter, shorter <+: letters → shorter ≠ letters →
          ¬served.service.Completes shorter := by
        intro shorter hbefore hne hcompletes
        refine hopen (letter :: shorter) (List.cons_prefix_cons.mpr ⟨rfl, hbefore⟩)
          (by simpa using hne) fun pid hpid => ?_
        have hpid' : pid < served.service.processes := by
          rwa [hserves.processes_eq hsound.coherent]
        rw [List.map_cons, List.mem_cons, ← or_assoc]
        refine (hcompletes pid hpid').imp_left fun hmem => ?_
        exact (hserves.mem_ended_iff.mp hmem).imp_right And.left
      obtain ⟨steps, last, hproceeds⟩ := ih (hserves.sound hsound) hrest
      exact ⟨_, last, .cons hfirst hserves (.inl rfl) hproceeds⟩

/-- Letters that give nothing to hear do not change the account, so that a service with an
open account takes them all. -/
theorem exists_proceeds_of_quiet (hsound : service.Sound) (hopen : service.allEnded = false)
    (hquiet : service.Quiet letters) :
    ∃ steps last, Proceeds false service letters steps last ∧ last.allEnded = false := by
  obtain ⟨last, answers, hserveAll, hnone⟩ := hquiet
  have hservesAll := hsound.servesAll hserveAll
  clear hserveAll
  induction letters generalizing service answers with
  | nil => exact ⟨[], service, .nil, hopen⟩
  | cons letter letters ih =>
      cases hservesAll with
      | @cons _ _ _ _ served _ answers hserves hrest =>
          have hsilent : served.notice = none := hnone served List.mem_cons_self
          have hended : served.service.ended = service.ended := by
            rcases hserves.ended_eq with heq | ⟨-, -, hnotice, -⟩
            · exact heq
            · exact absurd (hsilent.symm.trans hnotice) (by simp)
          have hstill : served.service.allEnded = false := by
            rw [allEnded, hended, hserves.processes_eq hsound.coherent]
            exact hopen
          obtain ⟨steps, final, hproceeds, hfinal⟩ := ih (hserves.sound hsound) hstill answers
            (fun other hother => hnone other (List.mem_cons_of_mem _ hother)) hrest
          exact ⟨_, final, .cons hopen hserves (.inr hsilent) hproceeds, hfinal⟩

/-! ## A whole queue -/

/-- The run ends with the letter that completes the account. -/
theorem run_of_completes (hsound : service.Sound) (hcompletes : service.Completes letters)
    (hshortest : ∀ shorter, shorter <+: letters → service.Completes shorter → shorter = letters)
    (queue : List Letter) :
    Handles service letters queue (service.run true (letters ++ queue)) ∧
      (service.run true (letters ++ queue)).stop = .allFinished := by
  obtain ⟨steps, last, hproceeds⟩ := exists_proceeds_of_heard hsound
    fun shorter hbefore hne hcompletes => hne (hshortest shorter hbefore hcompletes)
  have hlast := (hproceeds.servesAll.allEnded_iff hsound).mpr hcompletes
  have hrun := hproceeds.run_eq queue
  rw [run_of_allEnded hlast, List.append_nil] at hrun
  rw [hrun]
  exact ⟨hproceeds.handles queue .allFinished, rfl⟩

/-- A queue that does not complete the account is read to its end. -/
theorem run_of_not_completes (hsound : service.Sound) (hmissing : ¬service.Completes queue) :
    Handles service queue [] (service.run true queue) ∧
      (service.run true queue).stop = .noRequest := by
  have hincomplete : ∀ shorter, shorter <+: queue → ¬service.Completes shorter := by
    intro shorter hbefore hcompletes
    refine hmissing fun pid hpid => (hcompletes pid hpid).imp_right fun hmem => ?_
    exact (hbefore.map Letter.asked).subset hmem
  obtain ⟨steps, last, hproceeds⟩ := exists_proceeds_of_heard hsound
    fun shorter hbefore _ => hincomplete shorter hbefore
  have hlast : last.allEnded = false := by
    rw [← hproceeds.servesAll.allEnded_iff hsound] at hmissing
    simpa using hmissing
  have hrun := hproceeds.run_eq []
  rw [run_nil hlast, List.append_nil, List.append_nil] at hrun
  rw [hrun]
  exact ⟨hproceeds.handles [] .noRequest, rfl⟩

/-- A service that nobody listens to stops after the first answer with a notice. -/
theorem run_of_loud (hsound : service.Sound) (hopen : service.allEnded = false)
    (hquiet : service.Quiet letters) (hloud : ¬service.Quiet (letters ++ [letter]))
    (queue : List Letter) :
    Handles service (letters ++ [letter]) queue (service.run false (letters ++ letter :: queue)) ∧
      (service.run false (letters ++ letter :: queue)).stop = .unheard := by
  obtain ⟨steps, last, hproceeds, hlast⟩ := exists_proceeds_of_quiet hsound hopen hquiet
  obtain ⟨served, hserves⟩ :=
    exists_serves (hproceeds.servesAll.sound hsound).1 letter.pid letter.request
  have hall := hproceeds.servesAll.append (.cons hserves .nil)
  have hnotice : served.notice ≠ none := by
    intro hnone
    refine hloud ⟨_, _, by rw [List.map_append]; exact hall.serveAll_eq, ?_⟩
    intro other hother
    rcases List.mem_append.mp hother with hold | hnew
    · obtain ⟨step, hstep, rfl⟩ := List.mem_map.mp hold
      exact hproceeds.silent step hstep
    · rw [List.mem_singleton.mp hnew, hnone]
  have hrun := hproceeds.run_eq (letter :: queue)
  rw [run_cons_of_unheard hlast hserves hnotice] at hrun
  rw [hrun]
  refine ⟨handles_of_steps ?_ ?_ queue .unheard, rfl⟩
  · rw [List.map_append, List.map_append]
    exact hall
  · rw [List.map_append, hproceeds.letters_eq]
    rfl

/-- A service that nobody listens to reads the whole of a queue without a notice. -/
theorem run_of_quiet (hsound : service.Sound) (hopen : service.allEnded = false)
    (hquiet : service.Quiet queue) :
    Handles service queue [] (service.run false queue) ∧
      (service.run false queue).stop = .noRequest := by
  obtain ⟨steps, last, hproceeds, hlast⟩ := exists_proceeds_of_quiet hsound hopen hquiet
  have hrun := hproceeds.run_eq []
  rw [run_nil hlast, List.append_nil, List.append_nil] at hrun
  rw [hrun]
  exact ⟨hproceeds.handles [] .noRequest, rfl⟩

/-! ## A fresh service -/

theorem fresh_allEnded {settings : Settings} (hfresh : fresh settings = .ok service) :
    service.allEnded = false := by
  obtain ⟨-, hprocesses, -, hended⟩ := fresh_sound hfresh
  have hknown := Nat.pos_of_mul_pos_right (exists_fresh_iff.mp ⟨service, hfresh⟩).1
  simp only [allEnded, hended, hprocesses, List.length_nil, decide_eq_false_iff_not]
  omega

theorem completes_iff_endsAll {settings : Settings} (hfresh : fresh settings = .ok service) :
    service.Completes letters ↔ EndsAll settings.processes letters := by
  obtain ⟨-, hprocesses, -, hended⟩ := fresh_sound hfresh
  simp [Completes, EndsAll, hprocesses, hended]

/-- No shorter prefix ends all streams if the last letter brings the missing end. -/
theorem EndsAll.eq_of_prefix {processes : Nat} {shorter : List Letter}
    (hall : EndsAll processes shorter) (hmissing : ¬EndsAll processes letters)
    (hbefore : shorter <+: letters ++ [letter]) : shorter = letters ++ [letter] := by
  rcases List.prefix_concat_iff.mp hbefore with heq | hfewer
  · exact heq
  · refine absurd (fun pid hpid => ?_) hmissing
    exact (hfewer.map Letter.asked).subset (hall pid hpid)

/-- The service reads up to the first letter that leaves no end of stream missing, and
nothing behind it. It reports the resident pages, the number of free frames, the clock and
the counters that these letters have left behind. If the ends of some process are missing,
it reads all and finds the queue abandoned. Without a dispatcher it reads up to the first
letter whose answer comes with a notice, or all if there is none. -/
theorem run_stops_at_last_missing_end (settings : Settings) {start : PageService}
    (hstart : fresh settings = .ok start) (queue : List Letter) (patience : Option Nat) :
    (∀ first rest, queue = first ++ rest → EndsAll settings.processes first →
      (∀ shorter, shorter <+: first → EndsAll settings.processes shorter → shorter = first) →
      Handles start first rest (start.run true queue) ∧
      ∃ last answers, start.serveAll (first.map Letter.asked) = .ok (last, answers) ∧
        (start.run true queue).result? false patience = some (.ok {
          resident := last.pager.resident
          freeFrames := last.pager.pool.count
          clock := last.pager.clock
          counters := last.pager.counters.toList }) ∧
        ∀ r, r ∈ last.pager.resident ↔
          (last.pager.tables.cell r.pid r.page).frame = some r.frame) ∧
    (¬EndsAll settings.processes queue →
      Handles start queue [] (start.run true queue) ∧
      (start.run true queue).result? false patience =
        some (.error (.disconnected "MMU request"))) ∧
    (∀ quiet letter rest, queue = quiet ++ letter :: rest → start.Quiet quiet →
      ¬start.Quiet (quiet ++ [letter]) →
      Handles start (quiet ++ [letter]) rest (start.run false queue) ∧
      (start.run false queue).result? false patience =
        some (.error (.disconnected "scheduler notification"))) ∧
    (start.Quiet queue →
      Handles start queue [] (start.run false queue) ∧
      (start.run false queue).result? false patience =
        some (.error (.disconnected "MMU request"))) := by
  obtain ⟨hsound, -⟩ := fresh_sound hstart
  have hopen := fresh_allEnded hstart
  have hends : ∀ letters, start.Completes letters ↔ EndsAll settings.processes letters :=
    fun letters => completes_iff_endsAll hstart
  refine ⟨?_, ?_, ?_, ?_⟩
  · rintro first rest rfl hall hshortest
    obtain ⟨hhandles, hstop⟩ := run_of_completes hsound ((hends first).mpr hall)
      (fun shorter hbefore hcompletes =>
        hshortest shorter hbefore ((hends shorter).mp hcompletes)) rest
    obtain ⟨answers, hserveAll, -⟩ := hhandles.answers
    obtain ⟨hlast, -⟩ := (hsound.servesAll hserveAll).sound hsound
    refine ⟨hhandles, _, answers, hserveAll, ?_, hlast.coherent.mem_resident⟩
    rw [ServiceRun.result?, hstop]
    rfl
  · intro hmissing
    obtain ⟨hhandles, hstop⟩ := run_of_not_completes hsound (mt (hends queue).mp hmissing)
    exact ⟨hhandles, by rw [ServiceRun.result?, hstop]; rfl⟩
  · rintro quiet letter rest rfl hquiet hloud
    obtain ⟨hhandles, hstop⟩ := run_of_loud hsound hopen hquiet hloud rest
    exact ⟨hhandles, by rw [ServiceRun.result?, hstop]⟩
  · intro hquiet
    obtain ⟨hhandles, hstop⟩ := run_of_quiet hsound hopen hquiet
    exact ⟨hhandles, by rw [ServiceRun.result?, hstop]; rfl⟩

/-- A queue of two processes, read up to the last end that is missing, with its report; a
queue without that end; and a queue that nobody listens to, read up to the first end. -/
theorem run_stops_at_last_of_two_ends :
    ∃ start, fresh { processes := 2, pages := 2, frames := 1 } = .ok start ∧
      Handles start
        [⟨1, .endOfStream, true⟩, ⟨1, .endOfStream, true⟩, ⟨0, .access 0 2, false⟩,
          ⟨0, .endOfStream, true⟩]
        [⟨0, .access 1 2, true⟩]
        (start.run true
          [⟨1, .endOfStream, true⟩, ⟨1, .endOfStream, true⟩, ⟨0, .access 0 2, false⟩,
            ⟨0, .endOfStream, true⟩, ⟨0, .access 1 2, true⟩]) ∧
      (start.run true
          [⟨1, .endOfStream, true⟩, ⟨1, .endOfStream, true⟩, ⟨0, .access 0 2, false⟩,
            ⟨0, .endOfStream, true⟩, ⟨0, .access 1 2, true⟩]).result? false none =
        some (.ok ⟨[⟨0, 0, 0⟩], 0, 1, [{ faults := 1 }, {}]⟩) ∧
      (start.run true [⟨1, .endOfStream, true⟩, ⟨0, .access 0 2, false⟩]).result? false none =
        some (.error (.disconnected "MMU request")) ∧
      (start.run false
        [⟨0, .access 9 2, true⟩, ⟨0, .endOfStream, true⟩, ⟨1, .endOfStream, true⟩]).result?
          false none = some (.error (.disconnected "scheduler notification")) := by
  refine ⟨_, rfl, ?_⟩
  have hstops := run_stops_at_last_missing_end { processes := 2, pages := 2, frames := 1 } rfl
  have hall : EndsAll 2 [⟨1, .endOfStream, true⟩, ⟨1, .endOfStream, true⟩,
      ⟨0, .access 0 2, false⟩, ⟨0, .endOfStream, true⟩] := by
    unfold EndsAll
    decide
  have hmissing : ¬EndsAll 2 [⟨1, .endOfStream, true⟩, ⟨1, .endOfStream, true⟩,
      ⟨0, .access 0 2, false⟩] := by
    unfold EndsAll
    decide
  obtain ⟨hhandles, last, answers, hserveAll, hresult, -⟩ := (hstops _ none).1 _
    [⟨0, .access 1 2, true⟩] rfl hall fun _ hbefore hshorter =>
      hshorter.eq_of_prefix hmissing hbefore
  obtain rfl : _ = last := (Prod.mk.inj (Except.ok.inj hserveAll)).1
  refine ⟨hhandles, hresult, ((hstops _ none).2.1 ?_).2,
    ((hstops _ none).2.2.1 [⟨0, .access 9 2, true⟩] _ _ rfl ?_ ?_).2⟩
  · unfold EndsAll
    decide
  · exact ⟨_, _, rfl, by decide⟩
  · rintro ⟨last, answers, hserveAll, hnone⟩
    obtain rfl : _ = answers := (Prod.mk.inj (Except.ok.inj hserveAll)).2
    exact absurd hnone (by decide)

end PageService

end DemandPaging
