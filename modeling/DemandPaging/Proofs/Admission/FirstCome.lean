import DemandPaging.Admission.Dispatch
import DemandPaging.Proofs.Admission.Lifecycle
import DemandPaging.Proofs.List.FirstOccurrence

/-!
# First come, first served, whatever the order of the notices

With all registrations and notices queued, the dispatcher admits the processes in
the order of their first registrations. An end that is reported out of turn is kept
until its process is admitted, so only the presence of a notice counts, not its
place. The run fails at the first process that cannot be brought to its end.
-/

namespace DemandPaging

/-- The first registration of each process. The others are ignored. -/
def firstRegistrations (registrations : List Registration) : List Registration :=
  registrations.eraseDupsBy fun later earlier => later.pid == earlier.pid

/-- The part of the notices that is read to hear of the end of some processes: the
shortest initial part with a notice of each of these ends. -/
structure JustHeard (notices : List Notice) (pids : List Nat) (heard : List Notice) : Prop where
  initial : heard <+: notices
  ended : ∀ pid ∈ pids, ⟨pid, .ended⟩ ∈ heard
  shortest : ∀ other, other <+: notices → (∀ pid ∈ pids, ⟨pid, .ended⟩ ∈ other) → heard <+: other

/-- Why the process at a place of the queue cannot be brought to its end. -/
def failureAt? (waiting : Nat → Bool) (queue : List Registration) (notices : List Notice)
    (index : Nat) : Option Failure :=
  match queue[index]? with
  | none => some (.disconnected "registration")
  | some registration =>
    if waiting registration.line then
      if ⟨registration.pid, .ended⟩ ∈ notices then none
      else some (.disconnected "scheduler notification")
    else some (.disconnected "resume")

theorem failureAt?_eq_none_iff {waiting : Nat → Bool} {queue : List Registration}
    {notices : List Notice} {index : Nat} :
    failureAt? waiting queue notices index = none ↔
      ∃ registration, queue[index]? = some registration ∧
        waiting registration.line = true ∧ ⟨registration.pid, .ended⟩ ∈ notices := by
  unfold failureAt?
  cases queue[index]? with
  | none => simp
  | some registration => cases hwaiting : waiting registration.line <;> simp [hwaiting]

/-- No process stops the run if there are enough of them and each one can be brought to
its end. -/
theorem failureAt?_eq_none_below_iff {waiting : Nat → Bool} {queue : List Registration}
    {notices : List Notice} {expected : Nat} :
    (∀ index, index < expected → failureAt? waiting queue notices index = none) ↔
      expected ≤ queue.length ∧ ∀ registration ∈ queue.take expected,
        waiting registration.line = true ∧ ⟨registration.pid, .ended⟩ ∈ notices := by
  constructor
  · intro hgoes
    constructor
    · refine Nat.le_of_not_lt fun hlt => ?_
      obtain ⟨registration, hget, -⟩ := failureAt?_eq_none_iff.mp (hgoes _ hlt)
      exact absurd hget (by simp)
    · intro registration hmem
      obtain ⟨index, hindex, rfl⟩ := List.mem_take_iff_getElem.mp hmem
      rw [Nat.lt_min] at hindex
      obtain ⟨other, hget, hother⟩ := failureAt?_eq_none_iff.mp (hgoes index hindex.1)
      rw [List.getElem?_eq_getElem hindex.2] at hget
      exact Option.some.inj hget ▸ hother
  · rintro ⟨hlength, hall⟩ index hindex
    have hinside : index < queue.length := Nat.lt_of_lt_of_le hindex hlength
    have hmem : queue[index] ∈ queue.take expected :=
      List.mem_take_iff_getElem.mpr ⟨index, Nat.lt_min.mpr ⟨hindex, hinside⟩, rfl⟩
    exact failureAt?_eq_none_iff.mpr ⟨_, List.getElem?_eq_getElem hinside, hall _ hmem⟩

theorem map_pid_firstRegistrations (registrations : List Registration) :
    (firstRegistrations registrations).map (·.pid) = (registrations.map (·.pid)).eraseDups :=
  map_eraseDupsBy (·.pid) registrations

theorem firstRegistrations_of_nodup {registrations : List Registration}
    (hnodup : (registrations.map (·.pid)).Nodup) :
    firstRegistrations registrations = registrations := by
  have hpids := (map_pid_firstRegistrations registrations).trans (eraseDups_of_nodup hnodup)
  have hlength := congrArg List.length hpids
  rw [List.length_map, List.length_map] at hlength
  exact (eraseDupsBy_sublist _ registrations).eq_of_length hlength

namespace JustHeard

variable {notices heard before later : List Notice} {pids : List Nat} {pid : Nat}

theorem nil (notices : List Notice) : JustHeard notices [] [] :=
  ⟨List.nil_prefix, by simp, fun _ _ _ => List.nil_prefix⟩

/-- An end that was heard of already takes no further notice. -/
theorem keep (hheard : JustHeard notices pids heard) (hmem : ⟨pid, .ended⟩ ∈ heard) :
    JustHeard notices (pids ++ [pid]) heard := by
  refine ⟨hheard.initial, ?_, ?_⟩
  · intro other hother
    rcases List.mem_append.mp hother with hother | hother
    · exact hheard.ended other hother
    · rwa [List.mem_singleton.mp hother]
  · intro other hinitial hended
    exact hheard.shortest other hinitial fun pid hpid =>
      hended pid (List.mem_append_left _ hpid)

/-- An end that was not heard of is read up to its first notice. -/
theorem extend (hheard : JustHeard notices pids heard)
    (heq : notices = heard ++ (before ++ ⟨pid, .ended⟩ :: later))
    (hnot : ⟨pid, .ended⟩ ∉ heard) (hbefore : ⟨pid, .ended⟩ ∉ before) :
    JustHeard notices (pids ++ [pid]) (heard ++ (before ++ [⟨pid, .ended⟩])) := by
  rw [← List.append_assoc]
  have hinitial : heard ++ before ++ [⟨pid, .ended⟩] <+: notices := ⟨later, by rw [heq]; simp⟩
  refine ⟨hinitial, ?_, ?_⟩
  · intro other hother
    rcases List.mem_append.mp hother with hother | hother
    · exact List.mem_append_left _ (List.mem_append_left _ (hheard.ended other hother))
    · simp [List.mem_singleton.mp hother]
  · intro other hother hended
    rcases List.prefix_or_prefix_of_prefix hinitial hother with hle | hge
    · exact hle
    · rcases List.prefix_concat_iff.mp hge with heq | hshorter
      · exact heq ▸ List.prefix_refl _
      · -- A shorter part has no notice of this end.
        have hmem := hshorter.subset (hended pid (by simp))
        exact absurd (List.mem_append.mp hmem) (not_or.mpr ⟨hnot, hbefore⟩)

end JustHeard

/-- The run after some steps that resumed a process on a line. -/
def DispatchRun.following (run : DispatchRun) (steps : List DispatchStep) (line : Nat) :
    DispatchRun :=
  { run with
    steps := steps ++ run.steps
    resumed := line :: run.resumed }

namespace Admissions

variable {table admitted next : Admissions} {registration : Registration} {waiting : Nat → Bool}
  {expected pid : Nat} {notices : List Notice}

/-! ## Enrolment -/

theorem enrol_of_unknown (hunknown : table.stage? registration.pid = none) :
    table.enrol registration = (table.enrolling registration, true) := by
  simp [enrol, hunknown, enrolling]

theorem enrol_of_known (hknown : table.stage? registration.pid ≠ none) :
    table.enrol registration = (table, false) := by
  simp [enrol, Option.isSome_iff_ne_none.mpr hknown]

/-- What enrolment leaves alone. -/
structure SameButReady (table next : Admissions) : Prop where
  running_eq : next.running = table.running
  finished_eq : next.finished = table.finished
  order_eq : next.order = table.order
  early_eq : next.early = table.early

theorem enrolAll_ready (table : Admissions) (registrations : List Registration) :
    (table.enrolAll registrations).ready = table.ready ++ firstRegistrations
        (registrations.filter fun registration => (table.stage? registration.pid).isNone) ∧
      table.SameButReady (table.enrolAll registrations) := by
  induction registrations generalizing table with
  | nil => exact ⟨by simp [enrolAll, firstRegistrations], ⟨rfl, rfl, rfl, rfl⟩⟩
  | cons registration registrations ih =>
      have hstep : table.enrolAll (registration :: registrations) =
          (table.enrol registration).1.enrolAll registrations := rfl
      by_cases hunknown : table.stage? registration.pid = none
      · rw [hstep, enrol_of_unknown hunknown]
        obtain ⟨hready, hsame⟩ := ih (table.enrolling registration)
        refine ⟨?_, ⟨hsame.running_eq, hsame.finished_eq, hsame.order_eq, hsame.early_eq⟩⟩
        rw [hready, List.filter_cons_of_pos (by simp [hunknown]), firstRegistrations,
          firstRegistrations, List.eraseDupsBy_cons, List.filter_filter]
        -- Later registrations of the same process are known ones now.
        have hfilter : (fun other : Registration =>
              ((table.enrolling registration).stage? other.pid).isNone) =
            fun other => decide ((other.pid == registration.pid) = false) &&
              (table.stage? other.pid).isNone := by
          funext other
          rw [stage?_enrolling]
          by_cases hpid : other.pid = registration.pid <;> simp [hpid]
        rw [hfilter]
        simp [enrolling]
      · rw [hstep, enrol_of_known hunknown, List.filter_cons_of_neg (by simp [hunknown])]
        exact ih table

/-! ## The branches of the dispatcher -/

theorem start?_of_ready {ready : List Registration} (hidle : table.running = none)
    (hready : table.ready = registration :: ready) :
    table.start? = some (registration, table.starting registration ready) := by
  simp [start?, hidle, hready, starting]

theorem dispatch_of_le (hle : expected ≤ table.finished) :
    table.dispatch waiting expected notices = ⟨[], table, [], [], notices, .allFinished⟩ := by
  rw [dispatch, if_pos hle]

theorem dispatch_of_none (hlt : table.finished < expected) (hnone : table.start? = none) :
    table.dispatch waiting expected notices = ⟨[], table, [], [], notices, .noRegistration⟩ := by
  rw [dispatch, if_neg (Nat.not_le.mpr hlt)]
  split
  next => rfl
  next hsome => exact absurd (hnone.symm.trans hsome) (by simp)

theorem dispatch_of_start (hlt : table.finished < expected)
    (hstart : table.start? = some (registration, admitted)) :
    table.dispatch waiting expected notices =
      if !waiting registration.line then
        ⟨[⟨table, .start⟩], admitted, [], [], notices, .notResumed⟩
      else
        let opening : List DispatchStep := [⟨table, .start⟩, ⟨admitted, .settle registration.pid⟩]
        let early := admitted.settle registration.pid
        if early.2 then
          (early.1.dispatch waiting expected notices).following opening registration.line
        else
          let wait := awaitFinish registration.pid early.1 notices
          if wait.finished then
            (wait.table.dispatch waiting expected wait.unread).following (opening ++ wait.steps)
              registration.line
          else
            ⟨opening ++ wait.steps, wait.table, [registration.line], [], wait.unread,
              .noNotice⟩ := by
  rw [dispatch, if_neg (Nat.not_le.mpr hlt)]
  split
  next hnone => exact absurd (hnone.symm.trans hstart) (by simp)
  next hsome =>
    obtain ⟨rfl, rfl⟩ := Prod.mk.inj (Option.some.inj (hsome.symm.trans hstart))
    rfl

theorem settle_of_mem (hrunning : table.running = some pid) (hmem : pid ∈ table.early) :
    table.settle pid = ({ table with early := table.early.erase pid }.conclude pid, true) := by
  rw [settle, if_pos ⟨hrunning, hmem⟩]

theorem settle_of_not_mem (hnot : pid ∉ table.early) : table.settle pid = (table, false) := by
  rw [settle, if_neg fun hboth => hnot hboth.2]

/-! ## Notices -/

/-- A notice that is not of the end of the running process is remembered if it is of
another end, and otherwise changes nothing. -/
theorem hear_of_ne (hrunning : table.running = some pid) {notice : Notice}
    (hne : notice ≠ ⟨pid, .ended⟩) :
    ∃ early, table.hear notice = ({ table with early }, none) ∧
      ∀ other, other ∈ early ↔ other ∈ table.early ∨ notice = ⟨other, .ended⟩ := by
  obtain ⟨sender, event⟩ := notice
  cases event with
  | fault | hit => exact ⟨table.early, rfl, by simp⟩
  | ended =>
      have hsender : sender ≠ pid := fun heq => hne (heq ▸ rfl)
      refine ⟨table.early.insert sender, ?_, ?_⟩
      · simp [hear, hrunning, Ne.symm hsender]
      · intro other
        simp [List.mem_insert_iff, or_comm, eq_comm]

/-- The wait ends at the first notice of the end of the running process. Other ends
that were reported before it are kept. -/
theorem awaitFinish_of_mem {before : List Notice} (hrunning : table.running = some pid)
    (hbefore : ⟨pid, .ended⟩ ∉ before) (later : List Notice) :
    ∃ steps early, awaitFinish pid table (before ++ ⟨pid, .ended⟩ :: later) =
        ⟨steps, { table with early }.conclude pid, later, true⟩ ∧
      ∀ other, other ∈ early ↔ other ∈ table.early ∨ ⟨other, .ended⟩ ∈ before := by
  induction before generalizing table with
  | nil =>
      have hhear : table.hear ⟨pid, .ended⟩ = (table.conclude pid, some pid) := by
        simp only [hear, hrunning, if_true]
      refine ⟨[⟨table, .hear ⟨pid, .ended⟩⟩], table.early, ?_, by simp⟩
      simp only [List.nil_append, awaitFinish, hhear, if_true]
  | cons notice before ih =>
      obtain ⟨hne, hbefore⟩ := not_or.mp (mt List.mem_cons.mpr hbefore)
      obtain ⟨heardEarly, hhear, hheard⟩ := hear_of_ne hrunning (Ne.symm hne)
      have hstill : ({ table with early := heardEarly } : Admissions).running = some pid := hrunning
      obtain ⟨steps, early, hwait, hearly⟩ := ih hstill hbefore
      refine ⟨⟨table, .hear notice⟩ :: steps, early, ?_, ?_⟩
      · simp only [List.cons_append, awaitFinish, hhear, hwait, reduceCtorEq, if_false]
      · intro other
        rw [hearly, hheard, List.mem_cons, or_assoc, eq_comm]

/-- Without a notice of its end a process never finishes. -/
theorem awaitFinish_of_not_mem (hrunning : table.running = some pid)
    (hnot : ⟨pid, .ended⟩ ∉ notices) : (awaitFinish pid table notices).finished = false := by
  induction notices generalizing table with
  | nil => rfl
  | cons notice notices ih =>
      obtain ⟨hne, hnot⟩ := not_or.mp (mt List.mem_cons.mpr hnot)
      obtain ⟨early, hhear, -⟩ := hear_of_ne hrunning (Ne.symm hne)
      have hstill : ({ table with early } : Admissions).running = some pid := hrunning
      simpa only [awaitFinish, hhear, reduceCtorEq, if_false] using ih hstill hnot

/-! ## The walk along the queue -/

variable {queue : List Registration} {count : Nat} {heard rest : List Notice}

/-- The first `count` processes of the queue have finished, and nobody is running. Of
the others, those are marked whose end was heard of. -/
structure Idle (table : Admissions) (queue : List Registration) (count : Nat)
    (heard : List Notice) : Prop where
  running_eq : table.running = none
  finished_eq : table.finished = count
  order_eq : table.order = (queue.take count).map (·.pid)
  ready_eq : table.ready = queue.drop count
  early_iff : ∀ pid, pid ∉ table.order → (pid ∈ table.early ↔ ⟨pid, .ended⟩ ∈ heard)

/-- How a run ends that still has the processes from `count` to `expected` to bring to
their ends, and the notices `rest` to hear. -/
inductive Ends (waiting : Nat → Bool) (queue : List Registration) (expected count : Nat)
    (heard rest : List Notice) (run : DispatchRun) : Prop where
  | failed (index : Nat) (failure : Failure) (hindex : index < expected)
      (hbefore : ∀ earlier, count ≤ earlier → earlier < index →
        failureAt? waiting queue (heard ++ rest) earlier = none)
      (hfailure : failureAt? waiting queue (heard ++ rest) index = some failure)
      (hresult : ∀ patience, run.result? false patience = some (.error failure))
  | completed (more : List Notice)
      (hgoes : ∀ index, count ≤ index → index < expected →
        failureAt? waiting queue (heard ++ rest) index = none)
      (hresult : ∀ patience, run.result? false patience =
        some (.ok ((queue.take expected).map (·.pid))))
      (hresumed : run.resumed = ((queue.take expected).drop count).map (·.line))
      (hrest : rest = more ++ run.unreadNotices)
      (hheard : JustHeard (heard ++ rest) ((queue.take expected).map (·.pid)) (heard ++ more))

/-- A process of the queue is resumed and finishes, and the run goes on. -/
theorem Ends.cons {read : List Notice} {run : DispatchRun}
    (hends : Ends waiting queue expected (count + 1) (heard ++ read) rest run)
    (hlt : count < expected) (hget : queue[count]? = some registration)
    (hgoes : failureAt? waiting queue (heard ++ read ++ rest) count = none)
    (steps : List DispatchStep) :
    Ends waiting queue expected count heard (read ++ rest)
      (run.following steps registration.line) := by
  have hassoc : heard ++ (read ++ rest) = heard ++ read ++ rest :=
    (List.append_assoc heard read rest).symm
  have hfrom : ∀ {index : Nat}, count ≤ index → index = count ∨ count + 1 ≤ index := by omega
  cases hends with
  | failed index failure hindex hbefore hfailure hresult =>
      refine .failed index failure hindex ?_ (hassoc ▸ hfailure) hresult
      intro earlier hle hearlier
      rw [hassoc]
      rcases hfrom hle with rfl | hle
      · exact hgoes
      · exact hbefore earlier hle hearlier
  | completed more hlater hresult hresumed hrest hheard =>
      have htake : (queue.take expected)[count]? = some registration := by
        rw [List.getElem?_take_of_lt hlt, hget]
      refine .completed (read ++ more) ?_ hresult ?_ ?_ ?_
      · intro index hle hindex
        rw [hassoc]
        rcases hfrom hle with rfl | hle
        · exact hgoes
        · exact hlater index hle hindex
      · obtain ⟨hlength, heq⟩ := List.getElem?_eq_some_iff.mp htake
        rw [List.drop_eq_getElem_cons hlength, List.map_cons, heq, ← hresumed]
        rfl
      · rw [List.append_assoc]
        exact congrArg (read ++ ·) hrest
      · rw [hassoc, ← List.append_assoc]
        exact hheard

namespace Idle

/-- The next process was not admitted before. -/
theorem not_mem_order (hidle : table.Idle queue count heard)
    (hdistinct : (queue.map (·.pid)).Nodup) (hget : queue[count]? = some registration) :
    registration.pid ∉ table.order := by
  obtain ⟨hlength, rfl⟩ := List.getElem?_eq_some_iff.mp hget
  rw [← List.take_append_drop count queue, List.map_append, List.nodup_append,
    List.drop_eq_getElem_cons hlength, List.map_cons] at hdistinct
  rw [hidle.order_eq]
  exact fun hmem => hdistinct.2.2 _ hmem _ List.mem_cons_self rfl

/-- The next process of the queue is admitted. Once it has finished, the one after it
is next, and the marks of the later ones say what was heard of meanwhile. -/
theorem exists_start (hidle : table.Idle queue count heard)
    (hget : queue[count]? = some registration) :
    ∃ admitted, table.start? = some (registration, admitted) ∧
      admitted.running = some registration.pid ∧ admitted.early = table.early ∧
      ∀ early read, (∀ pid, pid ≠ registration.pid →
          (pid ∈ early ↔ pid ∈ table.early ∨ ⟨pid, .ended⟩ ∈ read)) →
        Idle ({ admitted with early }.conclude registration.pid) queue (count + 1)
          (heard ++ read) := by
  obtain ⟨hlength, heq⟩ := List.getElem?_eq_some_iff.mp hget
  have hready : table.ready = registration :: queue.drop (count + 1) := by
    rw [hidle.ready_eq, List.drop_eq_getElem_cons hlength, heq]
  refine ⟨_, start?_of_ready hidle.running_eq hready, rfl, rfl, fun early read hearly => ?_⟩
  have horder : table.order ++ [registration.pid] = (queue.take (count + 1)).map (·.pid) := by
    rw [hidle.order_eq, List.take_succ_eq_append_getElem hlength, List.map_append, heq]
    rfl
  refine ⟨rfl, congrArg (· + 1) hidle.finished_eq, horder, rfl, ?_⟩
  intro pid (hnot : pid ∉ table.order ++ [registration.pid])
  rw [List.mem_append, List.mem_singleton, not_or] at hnot
  change pid ∈ early ↔ _
  rw [hearly pid hnot.2, hidle.early_iff pid hnot.1, List.mem_append]

/-- A process that waits to be resumed, and whose end is reported sometime, is brought
to its end. Notices are read up to that end, unless it was heard of before. -/
theorem dispatch_of_ended (hidle : table.Idle queue count heard)
    (hheard : JustHeard (heard ++ rest) ((queue.take count).map (·.pid)) heard)
    (hdistinct : (queue.map (·.pid)).Nodup) (hlt : count < expected)
    (hget : queue[count]? = some registration) (hwaiting : waiting registration.line = true)
    (hended : ⟨registration.pid, .ended⟩ ∈ heard ++ rest) :
    ∃ read later steps next, rest = read ++ later ∧
      Idle next queue (count + 1) (heard ++ read) ∧
      JustHeard (heard ++ rest) ((queue.take (count + 1)).map (·.pid)) (heard ++ read) ∧
      table.dispatch waiting expected rest =
        (next.dispatch waiting expected later).following steps registration.line := by
  have hfinished : table.finished < expected := by rwa [hidle.finished_eq]
  have hmarked := hidle.early_iff registration.pid (hidle.not_mem_order hdistinct hget)
  have htake : (queue.take (count + 1)).map (·.pid) =
      (queue.take count).map (·.pid) ++ [registration.pid] := by
    rw [List.take_add_one, hget, List.map_append]
    rfl
  obtain ⟨admitted, hstart, hrunning, hearly, hnext⟩ := hidle.exists_start hget
  rw [← hearly] at hmarked
  rw [dispatch_of_start hfinished hstart, hwaiting, htake]
  by_cases hbefore : ⟨registration.pid, .ended⟩ ∈ heard
  · refine ⟨[], rest, [⟨table, .start⟩, ⟨admitted, .settle registration.pid⟩], _, rfl,
      hnext (admitted.early.erase registration.pid) [] ?_, ?_, ?_⟩
    · intro pid hne
      simp [List.mem_erase_of_ne hne, hearly]
    · rw [List.append_nil]
      exact hheard.keep hbefore
    · simp only [settle_of_mem hrunning (hmarked.mpr hbefore), Bool.not_true, Bool.false_eq_true,
        if_false, if_true]
  · have hrest := (List.mem_append.mp hended).resolve_left hbefore
    obtain ⟨before, later, rfl, hfirst⟩ := List.eq_append_cons_of_mem hrest
    obtain ⟨steps, early, hwait, hread⟩ := awaitFinish_of_mem hrunning hfirst later
    refine ⟨before ++ [⟨registration.pid, .ended⟩], later,
      [⟨table, .start⟩, ⟨admitted, .settle registration.pid⟩] ++ steps, _, by simp,
      hnext early _ ?_, ?_, ?_⟩
    · intro pid hne
      simp [hread, hearly, hne]
    · exact hheard.extend rfl hbefore hfirst
    · simp only [settle_of_not_mem (mt hmarked.mp hbefore), hwait, Bool.not_true,
        Bool.false_eq_true, if_false, if_true]

/-- A process that does not wait to be resumed, or whose end is never reported, or that
is missing, ends the run. -/
theorem result?_dispatch (hidle : table.Idle queue count heard)
    (hdistinct : (queue.map (·.pid)).Nodup) (hlt : count < expected) {failure : Failure}
    (hfailure : failureAt? waiting queue (heard ++ rest) count = some failure)
    (patience : Option Nat) :
    (table.dispatch waiting expected rest).result? false patience = some (.error failure) := by
  have hfinished : table.finished < expected := by rwa [hidle.finished_eq]
  cases hget : queue[count]? with
  | none =>
      have hnone : table.start? = none := by
        simp [start?, hidle.running_eq, hidle.ready_eq,
          List.drop_eq_nil_of_le (List.getElem?_eq_none_iff.mp hget)]
      simp only [failureAt?, hget] at hfailure
      rw [dispatch_of_none hfinished hnone, ← Option.some.inj hfailure]
      rfl
  | some registration =>
      obtain ⟨admitted, hstart, hrunning, hearly, -⟩ := hidle.exists_start hget
      have hmarked := hidle.early_iff registration.pid (hidle.not_mem_order hdistinct hget)
      rw [← hearly] at hmarked
      rw [dispatch_of_start hfinished hstart]
      simp only [failureAt?, hget] at hfailure
      split at hfailure
      next hwaiting =>
        split at hfailure
        next => exact absurd hfailure (by simp)
        next hnot =>
          rw [List.mem_append, not_or] at hnot
          simp only [hwaiting, settle_of_not_mem (mt hmarked.mp hnot.1),
            awaitFinish_of_not_mem hrunning hnot.2, Bool.not_true, Bool.false_eq_true, if_false]
          rw [← Option.some.inj hfailure]
          rfl
      next hgone =>
        simp only [hgone, Bool.not_false, if_true]
        rw [← Option.some.inj hfailure]
        rfl

/-- The dispatcher brings the processes to their ends one after another, up to the
first one that cannot be brought to its end. -/
theorem dispatch (waiting : Nat → Bool) (hidle : table.Idle queue count heard)
    (hheard : JustHeard (heard ++ rest) ((queue.take count).map (·.pid)) heard)
    (hdistinct : (queue.map (·.pid)).Nodup) (hle : count ≤ expected) :
    Ends waiting queue expected count heard rest (table.dispatch waiting expected rest) := by
  induction hleft : expected - count generalizing table count heard rest with
  | zero =>
      obtain rfl : count = expected := by omega
      rw [dispatch_of_le (Nat.le_of_eq hidle.finished_eq.symm)]
      refine .completed [] (fun _ hge hlt => absurd hlt (Nat.not_lt.mpr hge)) ?_ (by simp) rfl
        (by simpa using hheard)
      intro patience
      rw [← hidle.order_eq]
      rfl
  | succ left ih =>
      have hlt : count < expected := by omega
      cases hfailure : failureAt? waiting queue (heard ++ rest) count with
      | some failure =>
          exact .failed count failure hlt
            (fun _ hge hearlier => absurd hearlier (Nat.not_lt.mpr hge)) hfailure
            (hidle.result?_dispatch hdistinct hlt hfailure)
      | none =>
          obtain ⟨registration, hget, hwaiting, hended⟩ := failureAt?_eq_none_iff.mp hfailure
          obtain ⟨read, later, steps, next, rfl, hnext, hheardNext, hdispatch⟩ :=
            hidle.dispatch_of_ended hheard hdistinct hlt hget hwaiting hended
          rw [← List.append_assoc] at hheardNext hfailure
          rw [hdispatch]
          exact (ih hnext hheardNext hlt (by omega)).cons hlt hget hfailure steps

end Idle

/-- Enrolled in a new table, the processes wait in the order of their first
registrations. -/
theorem Idle.enrolAll (registrations : List Registration) :
    (({} : Admissions).enrolAll registrations).Idle (firstRegistrations registrations) 0 [] := by
  obtain ⟨hready, hsame⟩ := enrolAll_ready {} registrations
  refine ⟨hsame.running_eq, hsame.finished_eq, by rw [hsame.order_eq]; rfl, ?_, ?_⟩
  · rw [hready, List.filter_eq_self.mpr (by simp [stage?])]
    simp
  · intro pid _
    rw [hsame.early_eq]
    simp

end Admissions

variable {waiting : Nat → Bool} {expected : Nat} {registrations : List Registration}
  {notices : List Notice}

theorem dispatch_ends (waiting : Nat → Bool) (expected : Nat) (registrations : List Registration)
    (notices : List Notice) :
    Admissions.Ends waiting (firstRegistrations registrations) expected 0 [] notices
      (dispatch waiting expected registrations notices) := by
  unfold dispatch
  split
  next hzero =>
    subst hzero
    exact .completed [] (fun _ _ hlt => absurd hlt (Nat.not_lt_zero _)) (fun _ => rfl) rfl rfl
      (.nil notices)
  next =>
    have hdistinct : ((firstRegistrations registrations).map (·.pid)).Nodup := by
      rw [map_pid_firstRegistrations]
      exact nodup_eraseDups _
    -- The steps of the enrolment come in front and change nothing else.
    cases Admissions.Idle.dispatch waiting (Admissions.Idle.enrolAll registrations) (.nil notices)
      hdistinct (Nat.zero_le expected) with
    | failed index failure hindex hbefore hfailure hresult =>
        exact .failed index failure hindex hbefore hfailure hresult
    | completed more hgoes hresult hresumed hrest hheard =>
        exact .completed more hgoes hresult hresumed hrest hheard

/-- What a run with `expected` processes has to do with these registrations and
notices, once nobody can send more of either. -/
structure DispatchRun.FirstCome (waiting : Nat → Bool) (expected : Nat)
    (registrations : List Registration) (notices : List Notice) (patience : Option Nat)
    (run : DispatchRun) : Prop where
  /-- The run succeeds exactly if enough processes register, wait to be resumed, and are
  reported finished, sooner or later. -/
  succeeds_iff : (∃ order, run.result? false patience = some (.ok order)) ↔
    expected ≤ (firstRegistrations registrations).length ∧
      ∀ registration ∈ (firstRegistrations registrations).take expected,
        waiting registration.line = true ∧ ⟨registration.pid, .ended⟩ ∈ notices
  order_eq : ∀ order, run.result? false patience = some (.ok order) →
    order = (registrations.map (·.pid)).eraseDups.take expected
  resumed_eq : ∀ order, run.result? false patience = some (.ok order) →
    run.resumed = ((firstRegistrations registrations).take expected).map (·.line)
  /-- If every registration has a line of its own, one message goes to each of the first
  registrations and none to any other. -/
  resumed_once : ∀ order, run.result? false patience = some (.ok order) →
    (registrations.map (·.line)).Nodup → ∀ registration ∈ registrations,
      run.resumed.count registration.line =
        if registration ∈ (firstRegistrations registrations).take expected then 1 else 0
  heard : ∀ order, run.result? false patience = some (.ok order) →
    ∃ heard, notices = heard ++ run.unreadNotices ∧
      JustHeard notices ((registrations.map (·.pid)).eraseDups.take expected) heard
  /-- The first process that cannot be brought to its end decides the failure. -/
  fails : ∀ index failure, index < expected →
    (∀ earlier, earlier < index →
      failureAt? waiting (firstRegistrations registrations) notices earlier = none) →
    failureAt? waiting (firstRegistrations registrations) notices index = some failure →
    run.result? false patience = some (.error failure)

/-- A line of a part of the registrations is counted once. -/
theorem count_line {queue : List Registration} (hsublist : queue.Sublist registrations)
    (hlines : (registrations.map (·.line)).Nodup) {registration : Registration}
    (hmem : registration ∈ registrations) :
    (queue.map (·.line)).count registration.line = if registration ∈ queue then 1 else 0 := by
  have hnodup : (queue.map (·.line)).Nodup := (hsublist.map _).nodup hlines
  rw [List.Nodup.count hnodup]
  congr 1
  rw [List.mem_map, eq_iff_iff]
  constructor
  · rintro ⟨other, hother, hline⟩
    rwa [← List.inj_on_of_nodup_map hlines (hsublist.subset hother) hmem hline]
  · exact fun hqueue => ⟨registration, hqueue, rfl⟩

/-- Whatever is queued, the run is that of a dispatcher who serves the first comer
first. -/
theorem dispatch_is_first_come (waiting : Nat → Bool) (expected : Nat)
    (registrations : List Registration) (notices : List Notice) (patience : Option Nat) :
    (dispatch waiting expected registrations notices).FirstCome waiting expected registrations
      notices patience := by
  have hpids : ((firstRegistrations registrations).take expected).map (·.pid) =
      (registrations.map (·.pid)).eraseDups.take expected := by
    rw [List.map_take, map_pid_firstRegistrations]
  have hends := dispatch_ends waiting expected registrations notices
  generalize dispatch waiting expected registrations notices = run at hends ⊢
  cases hends with
  | failed index failure hindex hbefore hfailure hresult =>
      have hnot : ∀ order, run.result? false patience ≠ some (.ok order) := by
        simp [hresult patience]
      refine ⟨⟨?_, ?_⟩, ?_, ?_, ?_, ?_, ?_⟩
      · exact fun ⟨order, horder⟩ => absurd horder (hnot order)
      · intro hall
        have hnone := failureAt?_eq_none_below_iff.mpr hall index hindex
        exact absurd (hfailure.symm.trans hnone) (by simp)
      · exact fun order horder => absurd horder (hnot order)
      · exact fun order horder => absurd horder (hnot order)
      · exact fun order horder => absurd horder (hnot order)
      · exact fun order horder => absurd horder (hnot order)
      · intro other otherFailure _ hotherBefore hother
        -- Both are the first place with a failure.
        obtain rfl : index = other := by
          rcases Nat.lt_trichotomy index other with hlt | heq | hgt
          · exact absurd (hfailure.symm.trans (hotherBefore index hlt)) (by simp)
          · exact heq
          · exact absurd (hother.symm.trans (hbefore other (Nat.zero_le _) hgt)) (by simp)
        rw [hresult patience, Option.some.inj (hfailure.symm.trans hother)]
  | completed more hgoes hresult hresumed hrest hheard =>
      have hgoes' : ∀ index, index < expected →
          failureAt? waiting (firstRegistrations registrations) notices index = none :=
        fun index => hgoes index (Nat.zero_le index)
      rw [List.drop_zero] at hresumed
      refine ⟨⟨fun _ => failureAt?_eq_none_below_iff.mp hgoes', fun _ => ⟨_, hresult patience⟩⟩,
        ?_, fun _ _ => hresumed, ?_, ?_, ?_⟩
      · intro order horder
        rw [hresult patience] at horder
        rw [← hpids]
        exact (Except.ok.inj (Option.some.inj horder)).symm
      · intro _ _ hlines registration hmem
        rw [hresumed]
        exact count_line ((List.take_sublist _ _).trans (eraseDupsBy_sublist _ _)) hlines hmem
      · exact fun _ _ => ⟨more, hrest, hpids ▸ hheard⟩
      · intro index failure hindex _ hfailure
        exact absurd (hfailure.symm.trans (hgoes' index hindex)) (by simp)

end DemandPaging
