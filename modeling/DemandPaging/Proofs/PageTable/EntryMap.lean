import DemandPaging.Proofs.List.Answers
import DemandPaging.Proofs.PageTable.Cells

/-!
# Page tables as a two-dimensional map

An entry map gives an entry to each page of each process and has no array. Whatever
the calls, page tables answer like an entry map, and all ways to read them, by page,
by table or all tables in a row, read the cells of that map. No place lies outside
of the array, and none exceeds a word.
-/

namespace DemandPaging

namespace PageTables

/-- What a call makes of the entry of its page. -/
inductive Update where
  | load (frame time : Nat)
  | unload
  | recordUse (time : Nat)
  deriving DecidableEq, Repr

structure Call where
  pid : Nat
  page : Nat
  update : Update
  deriving DecidableEq, Repr

/-- What a call gives back. -/
inductive Answer where
  | done
  /-- The frame of the page that was unloaded; there is none if it was not valid. -/
  | unloaded (frame? : Option Nat)
  | refused (fault : MemoryFault)
  deriving DecidableEq, Repr

/-- The answer to an update and the entry after it. Only the use of a page that is not
valid cannot be recorded. -/
def Update.apply (entry : Entry) : Update → Option (Answer × Entry)
  | .load frame time => some (.done, { frame := some frame, valid := true, lastUsed := time })
  | .unload =>
    some (.unloaded (if entry.valid then entry.frame else none),
      { entry with frame := none, valid := false })
  | .recordUse time => if entry.valid then some (.done, { entry with lastUsed := time }) else none

/-- The answer to a call and the state after it. A refused call leaves the state as it is. -/
def Answer.settle {σ : Type} (state : σ) : Except MemoryFault (Answer × σ) → Answer × σ
  | .ok result => result
  | .error fault => (.refused fault, state)

def perform (tables : PageTables) (call : Call) : Except MemoryFault (Answer × PageTables) :=
  match call.update with
  | .load frame time =>
    (tables.load call.pid call.page frame time).map fun next => (.done, next)
  | .unload =>
    (tables.unload call.pid call.page).map fun (frame?, next) => (.unloaded frame?, next)
  | .recordUse time =>
    (tables.recordUse call.pid call.page time).map fun next => (.done, next)

def answer (tables : PageTables) (call : Call) : Answer × PageTables :=
  Answer.settle tables (tables.perform call)

end PageTables

/-- An entry for each page of each process. -/
abbrev EntryMap (processes pages : Nat) := Fin processes → Fin pages → Entry

namespace EntryMap

variable {processes pages : Nat}

def blank (processes pages : Nat) : EntryMap processes pages := fun _ _ => {}

/-- Replaces one entry. -/
def set (map : EntryMap processes pages) (pid : Fin processes) (page : Fin pages)
    (entry : Entry) : EntryMap processes pages :=
  Function.update map pid (Function.update (map pid) page entry)

/-- The cell of a page. The process is checked first, the page second. -/
def locate (processes pages pid page : Nat) : Except MemoryFault (Fin processes × Fin pages) :=
  if hpid : pid < processes then
    if hpage : page < pages then .ok (⟨pid, hpid⟩, ⟨page, hpage⟩)
    else .error (.noSuchPage page pages)
  else .error (.noSuchProcess pid processes)

/-- A call changes the entry of its page and no other. -/
def perform (map : EntryMap processes pages) (call : PageTables.Call) :
    Except MemoryFault (PageTables.Answer × EntryMap processes pages) := do
  let (pid, page) ← locate processes pages call.pid call.page
  match call.update.apply (map pid page) with
  | some (answer, entry) => return (answer, map.set pid page entry)
  | none => throw (.notResident call.pid call.page)

def answer (map : EntryMap processes pages) (call : PageTables.Call) :
    PageTables.Answer × EntryMap processes pages :=
  PageTables.Answer.settle map (map.perform call)

theorem locate_eq_ok_iff {pid page : Nat} {cell : Fin processes × Fin pages} :
    locate processes pages pid page = .ok cell ↔ cell.1.val = pid ∧ cell.2.val = page := by
  unfold locate
  split
  next hpid =>
    split
    next hpage => simp [Prod.ext_iff, Fin.ext_iff, eq_comm]
    next hpage =>
      refine iff_of_false (fun heq => nomatch heq) ?_
      rintro ⟨-, rfl⟩
      exact hpage cell.2.isLt
  next hpid =>
    refine iff_of_false (fun heq => nomatch heq) ?_
    rintro ⟨rfl, -⟩
    exact hpid cell.1.isLt

theorem set_apply (map : EntryMap processes pages) (pid other : Fin processes)
    (page otherPage : Fin pages) (entry : Entry) :
    map.set pid page entry other otherPage =
      if other.val = pid.val ∧ otherPage.val = page.val then entry else map other otherPage := by
  by_cases hpid : other = pid
  · subst hpid
    simp [set, Function.update_apply, Fin.ext_iff]
  · simp [set, hpid, Fin.ext_iff.not.mp hpid]

end EntryMap

theorem map_range_eq_ofFn {α : Type} {count : Nat} {itemOf : Nat → α} {item : Fin count → α}
    (hitem : ∀ index, itemOf index.val = item index) :
    (List.range count).map itemOf = List.ofFn item := by
  apply List.ext_getElem
  · simp
  · intro index hleft hright
    have hindex : index < count := by simpa using hleft
    simpa using hitem ⟨index, hindex⟩

theorem flatten_rows {α : Type} {width count : Nat} {items : List α}
    (hlength : items.length = count * width) : (rows width count items).flatten = items := by
  induction count generalizing items with
  | zero =>
      rw [Nat.zero_mul, List.length_eq_zero_iff] at hlength
      rw [hlength]
      rfl
  | succ count ih =>
      have hrest : (items.drop width).length = count * width := by
        rw [List.length_drop, hlength, Nat.succ_mul, Nat.add_sub_cancel]
      rw [rows, List.flatten_cons, ih hrest, List.take_append_drop]

namespace PageTables

variable {tables : PageTables} {processes pages : Nat} {map : EntryMap processes pages}

/-! ## Calls -/

theorem perform_of_apply_eq_some {pid page : Nat} {update : Update} {answer : Answer}
    {entry : Entry} (hpid : pid < tables.processes) (hpage : page < tables.pages)
    (happly : update.apply (tables.cell pid page) = some (answer, entry)) :
    tables.perform ⟨pid, page, update⟩ = .ok (answer, tables.write pid page entry) := by
  cases update with
  | load frame time =>
      obtain ⟨rfl, rfl⟩ := Prod.mk.inj (Option.some.inj happly)
      simp only [perform, load_of_lt hpid hpage]
      rfl
  | unload =>
      obtain ⟨rfl, rfl⟩ := Prod.mk.inj (Option.some.inj happly)
      simp only [perform, unload_of_lt hpid hpage]
      rfl
  | recordUse time =>
      rw [Update.apply] at happly
      split at happly
      next hvalid =>
        obtain ⟨rfl, rfl⟩ := Prod.mk.inj (Option.some.inj happly)
        simp only [perform, recordUse_of_valid hpid hpage hvalid]
        rfl
      next => exact nomatch happly

theorem perform_of_apply_eq_none {pid page : Nat} {update : Update}
    (hpid : pid < tables.processes) (hpage : page < tables.pages)
    (happly : update.apply (tables.cell pid page) = none) :
    tables.perform ⟨pid, page, update⟩ = .error (.notResident pid page) := by
  cases update with
  | load frame time => exact nomatch happly
  | unload => exact nomatch happly
  | recordUse time =>
      rw [Update.apply] at happly
      split at happly
      next => exact nomatch happly
      next hvalid =>
        simp only [perform, recordUse_of_not_valid hpid hpage (eq_false_of_ne_true hvalid)]
        rfl

/-- The tables refuse the pages that the map does not have, for the same cause. -/
theorem position_of_locate {pid page : Nat} {fault : MemoryFault}
    (hlocate : EntryMap.locate tables.processes tables.pages pid page = .error fault) :
    tables.position pid page = .error fault := by
  unfold EntryMap.locate at hlocate
  unfold position
  split at hlocate
  next hpid =>
    split at hlocate
    next => exact nomatch hlocate
    next hpage =>
      rw [dif_pos hpid, dif_neg hpage]
      exact congrArg _ (Except.error.inj hlocate)
  next hpid =>
    rw [dif_neg hpid]
    exact congrArg _ (Except.error.inj hlocate)

theorem entryAt_of_position {pid page : Nat} {fault : MemoryFault}
    (hposition : tables.position pid page = .error fault) :
    tables.entryAt pid page = .error fault := by
  rw [entryAt, hposition]
  rfl

theorem perform_of_position {pid page : Nat} {fault : MemoryFault}
    (hposition : tables.position pid page = .error fault) (update : Update) :
    tables.perform ⟨pid, page, update⟩ = .error fault := by
  cases update with
  | load frame time =>
      simp only [perform, load, hposition]
      rfl
  | unload =>
      simp only [perform, unload, hposition]
      rfl
  | recordUse time =>
      simp only [perform, recordUse, hposition]
      rfl

/-- An entry has a frame exactly while it is valid. -/
theorem Update.valid_of_apply {update : Update} {entry changed : Entry} {answer : Answer}
    (hentry : entry.valid = entry.frame.isSome)
    (happly : update.apply entry = some (answer, changed)) :
    changed.valid = changed.frame.isSome := by
  cases update with
  | load frame time =>
      obtain ⟨-, rfl⟩ := Prod.mk.inj (Option.some.inj happly)
      rfl
  | unload =>
      obtain ⟨-, rfl⟩ := Prod.mk.inj (Option.some.inj happly)
      rfl
  | recordUse time =>
      rw [Update.apply] at happly
      split at happly
      next =>
        obtain ⟨-, rfl⟩ := Prod.mk.inj (Option.some.inj happly)
        exact hentry
      next => exact nomatch happly

/-- Page tables whose cells are those of a map. -/
structure Matches (tables : PageTables) (map : EntryMap processes pages) : Prop where
  processes_eq : tables.processes = processes
  pages_eq : tables.pages = pages
  cell_eq : ∀ pid page, tables.cell pid.val page.val = map pid page
  valid_eq : ∀ pid page, (map pid page).valid = (map pid page).frame.isSome

namespace Matches

theorem write (hmatches : tables.Matches map) (pid : Fin processes) (page : Fin pages)
    {entry : Entry} (hentry : entry.valid = entry.frame.isSome) :
    (tables.write pid page entry).Matches (map.set pid page entry) := by
  obtain ⟨rfl, rfl, hcell, hvalid⟩ := hmatches
  refine ⟨processes_write entry, pages_write entry, fun other otherPage => ?_,
    fun other otherPage => ?_⟩
  · rw [cell_write pid.isLt page.isLt, hcell, EntryMap.set_apply]
  · rw [EntryMap.set_apply]
    split
    next => exact hentry
    next => exact hvalid other otherPage

/-- Tables and map answer a call alike, or refuse it for the same cause. -/
theorem perform (hmatches : tables.Matches map) (call : Call) :
    (∃ answer next after, tables.perform call = .ok (answer, next) ∧
        map.perform call = .ok (answer, after) ∧ next.Matches after) ∨
      ∃ fault, tables.perform call = .error fault ∧ map.perform call = .error fault := by
  obtain ⟨pid, page, update⟩ := call
  cases hlocate : EntryMap.locate processes pages pid page with
  | error fault =>
      refine .inr ⟨fault, perform_of_position (position_of_locate ?_) update, ?_⟩
      · rw [hmatches.processes_eq, hmatches.pages_eq, hlocate]
      · rw [EntryMap.perform, hlocate]
        rfl
  | ok cell =>
      obtain ⟨⟨pid, hpid⟩, ⟨page, hpage⟩⟩ := cell
      obtain ⟨rfl, rfl⟩ := EntryMap.locate_eq_ok_iff.mp hlocate
      -- Both sides apply the update to this entry, so it decides for both.
      have hcell := hmatches.cell_eq ⟨pid, hpid⟩ ⟨page, hpage⟩
      have hknown := hmatches.processes_eq.symm ▸ hpid
      have hinside := hmatches.pages_eq.symm ▸ hpage
      cases happly : update.apply (map ⟨pid, hpid⟩ ⟨page, hpage⟩) with
      | none =>
          refine .inr ⟨.notResident pid page,
            perform_of_apply_eq_none hknown hinside (hcell ▸ happly), ?_⟩
          simp only [EntryMap.perform, hlocate, bind, Except.bind, happly]
          rfl
      | some changed =>
          obtain ⟨answer, entry⟩ := changed
          refine .inl ⟨answer, _, _,
            perform_of_apply_eq_some hknown hinside (hcell ▸ happly), ?_,
            hmatches.write ⟨pid, hpid⟩ ⟨page, hpage⟩
              (update.valid_of_apply (hmatches.valid_eq _ _) happly)⟩
          simp only [EntryMap.perform, hlocate, bind, Except.bind, happly]
          rfl

theorem answer (hmatches : tables.Matches map) (call : Call) :
    (tables.answer call).1 = (map.answer call).1 ∧
      (tables.answer call).2.Matches (map.answer call).2 := by
  rw [PageTables.answer, EntryMap.answer]
  rcases hmatches.perform call with ⟨answer, next, after, htables, hmap, hnext⟩ |
    ⟨fault, htables, hmap⟩
  · rw [htables, hmap]
    exact ⟨rfl, hnext⟩
  · rw [htables, hmap]
    exact ⟨rfl, hmatches⟩

end Matches

theorem matches_of_blank (hblank : PageTables.blank processes pages = .ok tables) :
    tables.Matches (EntryMap.blank processes pages) := by
  obtain ⟨hprocesses, hpages, -, -, hcells⟩ := blank_eq_ok hblank
  exact ⟨hprocesses, hpages, fun pid page => hcells pid page, fun _ _ => rfl⟩

/-! ## Ways to read the tables -/

/-- Page tables that read as a map: by page, by process, and all of them in a row. The
place of an entry, and the end of a table, are computed without leaving the array or
exceeding a word. -/
structure ReadsAs (tables : PageTables) (map : EntryMap processes pages) : Prop where
  entryAt_eq : ∀ pid page, tables.entryAt pid page =
    (EntryMap.locate processes pages pid page).map fun (pid, page) => map pid page
  tableOf_eq : ∀ pid : Fin processes, tables.tableOf pid = .ok (List.ofFn (map pid))
  tableOf_unknown : ∀ pid, processes ≤ pid →
    tables.tableOf pid = .error (.noSuchProcess pid processes)
  toTables_eq : tables.toTables = List.ofFn fun pid => List.ofFn (map pid)
  /-- The tables fill the array, one behind the other. -/
  flatten_toTables : tables.toTables.flatten = tables.entries.toList
  /-- The resident pages are the valid ones that have a frame, by page number. -/
  residentPages_eq : ∀ pid : Fin processes, ∃ resident, tables.residentPages pid = .ok resident ∧
    (resident.Pairwise fun earlier later => earlier.1 < later.1) ∧
    ∀ page frame, (page, frame) ∈ resident ↔ ∃ hpage : page < pages,
      (map pid ⟨page, hpage⟩).valid = true ∧ (map pid ⟨page, hpage⟩).frame = some frame
  residentPages_unknown : ∀ pid, processes ≤ pid →
    tables.residentPages pid = .error (.noSuchProcess pid processes)
  valid_eq : ∀ pid page, (map pid page).valid = (map pid page).frame.isSome
  position_eq : ∀ (pid : Fin processes) (page : Fin pages),
    ∃ place, tables.position pid page = .ok place ∧ place.val = pid * pages + page
  tableEnd_le : ∀ pid : Fin processes, pid * pages + pages ≤ tables.entries.size
  size_lt : tables.entries.size < wordCount

namespace Matches

theorem row_eq (hmatches : tables.Matches map) (pid : Fin processes) :
    tables.row pid = List.ofFn (map pid) := by
  obtain ⟨rfl, rfl, hcell, -⟩ := hmatches
  exact map_range_eq_ofFn (hcell pid)

theorem entryAt_eq (hmatches : tables.Matches map) (pid page : Nat) :
    tables.entryAt pid page =
      (EntryMap.locate processes pages pid page).map fun (pid, page) => map pid page := by
  obtain ⟨rfl, rfl, hcell, -⟩ := hmatches
  cases hlocate : EntryMap.locate tables.processes tables.pages pid page with
  | error fault => exact entryAt_of_position (position_of_locate hlocate)
  | ok cell =>
      obtain ⟨rfl, rfl⟩ := EntryMap.locate_eq_ok_iff.mp hlocate
      rw [entryAt_of_lt cell.1.isLt cell.2.isLt, hcell]
      rfl

theorem mem_resident_iff (hmatches : tables.Matches map) (pid : Fin processes)
    (page frame : Nat) :
    (page, frame) ∈ PageTable.resident (tables.row pid) ↔ ∃ hpage : page < pages,
      (map pid ⟨page, hpage⟩).valid = true ∧ (map pid ⟨page, hpage⟩).frame = some frame := by
  obtain ⟨rfl, rfl, hcell, -⟩ := hmatches
  rw [PageTable.mem_resident_row, Entry.residentFrame?_eq_some_iff]
  constructor
  · intro hresident
    have hpage := page_lt_of_valid hresident.1
    exact ⟨hpage, hcell pid ⟨page, hpage⟩ ▸ hresident⟩
  · rintro ⟨hpage, hresident⟩
    exact (hcell pid ⟨page, hpage⟩).symm ▸ hresident

theorem readsAs (hmatches : tables.Matches map) (hfits : processes * pages < wordCount) :
    tables.ReadsAs map := by
  have hrow := hmatches.row_eq
  have hentry := hmatches.entryAt_eq
  have hmem := hmatches.mem_resident_iff
  obtain ⟨rfl, rfl, -, hvalid⟩ := hmatches
  constructor
  case entryAt_eq => exact hentry
  case tableOf_eq => exact fun pid => (tableOf_of_lt pid.isLt).trans (congrArg _ (hrow pid))
  case tableOf_unknown => exact fun _ => tableOf_of_le
  case toTables_eq => exact toTables_eq.trans (map_range_eq_ofFn hrow)
  case flatten_toTables =>
    apply flatten_rows
    rw [Array.length_toList, tables.size_eq]
  case residentPages_eq =>
    intro pid
    refine ⟨PageTable.resident (tables.row pid), ?_, PageTable.resident_row_pairwise, hmem pid⟩
    rw [residentPages, tableOf_of_lt pid.isLt]
    rfl
  case residentPages_unknown =>
    intro pid hpid
    rw [residentPages, tableOf_of_le hpid]
    rfl
  case valid_eq => exact hvalid
  case position_eq => exact fun pid page => ⟨_, position_of_lt pid.isLt page.isLt, rfl⟩
  case tableEnd_le => exact fun pid => PageTables.tableEnd_le pid.isLt
  case size_lt =>
    rw [tables.size_eq]
    exact hfits

end Matches

/-- Whatever the calls, page tables answer like a map from processes and pages to
entries, and read as that map. -/
theorem answers_like_a_map (hpositive : 0 < processes * pages)
    (hfits : processes * pages < wordCount) (calls : List Call) :
    ∃ tables, blank processes pages = .ok tables ∧
      (answerAll answer tables calls).1 =
        (answerAll EntryMap.answer (EntryMap.blank processes pages) calls).1 ∧
      (answerAll answer tables calls).2.ReadsAs
        (answerAll EntryMap.answer (EntryMap.blank processes pages) calls).2 := by
  obtain ⟨tables, hblank⟩ : ∃ tables, blank processes pages = .ok tables :=
    ⟨_, if_pos ⟨hpositive, hfits⟩⟩
  obtain ⟨hanswers, hmatches⟩ := answerAll_related
    (fun (tables : PageTables) (map : EntryMap processes pages) => tables.Matches map)
    (fun _ _ call hmatches => hmatches.answer call) calls (matches_of_blank hblank)
  exact ⟨tables, hblank, hanswers, hmatches.readsAs hfits⟩

/-- Two processes with three pages: a page comes and goes, and its time of use remains. -/
theorem two_tables_answer_like_a_map :
    0 < 2 * 3 ∧ 2 * 3 < wordCount ∧ ∃ tables, blank 2 3 = .ok tables ∧
      (answerAll answer tables [⟨1, 2, .load 5 4⟩, ⟨1, 2, .recordUse 9⟩, ⟨0, 2, .load 6 10⟩,
        ⟨1, 2, .unload⟩, ⟨1, 2, .unload⟩, ⟨1, 2, .recordUse 11⟩, ⟨2, 3, .unload⟩,
        ⟨0, 3, .load 1 1⟩]).1 =
        [.done, .done, .done, .unloaded (some 5), .unloaded none, .refused (.notResident 1 2),
          .refused (.noSuchProcess 2 2), .refused (.noSuchPage 3 3)] ∧
      (answerAll answer tables [⟨1, 2, .load 5 4⟩, ⟨1, 2, .recordUse 9⟩, ⟨0, 2, .load 6 10⟩,
        ⟨1, 2, .unload⟩, ⟨1, 2, .unload⟩, ⟨1, 2, .recordUse 11⟩, ⟨2, 3, .unload⟩,
        ⟨0, 3, .load 1 1⟩]).2.toTables =
        [[{}, {}, ⟨some 6, true, 10⟩], [{}, {}, ⟨none, false, 9⟩]] := by
  obtain ⟨tables, hblank, hanswers, hreads⟩ :=
    answers_like_a_map (show 0 < 2 * 3 by decide) (by decide) _
  exact ⟨by decide, by decide, tables, hblank, hanswers.trans (by decide),
    hreads.toTables_eq.trans (by decide)⟩

end PageTables

end DemandPaging
