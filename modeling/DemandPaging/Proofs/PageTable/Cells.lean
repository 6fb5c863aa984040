import Mathlib.Logic.Function.Basic
import DemandPaging.PageTable.Tables

/-!
# Page tables as a map from processes and pages to entries

The flat array of page tables is read through `cell`, which gives every page of
every process its entry. Each operation changes the map at one place at most.
-/

namespace DemandPaging.PageTables

variable (tables : PageTables)

/-- The entry of a page. Outside of the tables every entry is blank. -/
def cell (pid page : Nat) : Entry :=
  if pid < tables.processes ∧ page < tables.pages then
    tables.entries[pid * tables.pages + page]?.getD {}
  else {}

/-- The entries of one process. -/
def row (pid : Nat) : PageTable := (List.range tables.pages).map (tables.cell pid)

/-- Replaces the entry of a page. There is nothing to replace outside of the tables. -/
def write (pid page : Nat) (entry : Entry) : PageTables :=
  match tables.position pid page with
  | .ok place => tables.put place entry
  | .error _ => tables

variable {tables} {pid page : Nat}

theorem position_of_lt (hpid : pid < tables.processes) (hpage : page < tables.pages) :
    tables.position pid page =
      .ok ⟨pid * tables.pages + page, tables.position_lt hpid hpage⟩ := by
  simp [position, hpid, hpage]

theorem getElem_eq_cell (hpid : pid < tables.processes) (hpage : page < tables.pages) :
    tables.entries[(⟨pid * tables.pages + page, tables.position_lt hpid hpage⟩ :
      Fin tables.entries.size)] = tables.cell pid page := by
  simp [cell, hpid, hpage, tables.position_lt hpid hpage]

theorem cell_of_processes_le (hpid : tables.processes ≤ pid) : tables.cell pid page = {} := by
  simp [cell, Nat.not_lt.mpr hpid]

theorem cell_of_pages_le (hpage : tables.pages ≤ page) : tables.cell pid page = {} := by
  simp [cell, Nat.not_lt.mpr hpage]

theorem page_lt_of_valid {page : Nat} (hvalid : (tables.cell pid page).valid = true) :
    page < tables.pages := by
  refine Nat.lt_of_not_le fun hpage => ?_
  rw [cell_of_pages_le hpage] at hvalid
  exact absurd hvalid (by simp)

theorem pid_lt_of_valid {page : Nat} (hvalid : (tables.cell pid page).valid = true) :
    pid < tables.processes := by
  refine Nat.lt_of_not_le fun hpid => ?_
  rw [cell_of_processes_le hpid] at hvalid
  exact absurd hvalid (by simp)

theorem position_div {width pid page : Nat} (hpage : page < width) :
    (pid * width + page) / width = pid := by
  have hwidth : 0 < width := Nat.zero_lt_of_lt hpage
  rw [Nat.mul_comm pid width, Nat.mul_add_div hwidth, Nat.div_eq_of_lt hpage, Nat.add_zero]

/-- Distinct pages lie at distinct places. -/
theorem position_eq_iff {width pid page otherPid otherPage : Nat} (hpage : page < width)
    (hother : otherPage < width) :
    pid * width + page = otherPid * width + otherPage ↔ pid = otherPid ∧ page = otherPage := by
  constructor
  · intro heq
    have hpid : pid = otherPid := by
      have hquotient := congrArg (· / width) heq
      simpa only [position_div hpage, position_div hother] using hquotient
    subst hpid
    exact ⟨rfl, Nat.add_left_cancel heq⟩
  · rintro ⟨rfl, rfl⟩
    rfl

/-! ## The operations on the map -/

@[simp] theorem processes_write (entry : Entry) :
    (tables.write pid page entry).processes = tables.processes := by
  unfold write
  split <;> rfl

@[simp] theorem pages_write (entry : Entry) :
    (tables.write pid page entry).pages = tables.pages := by
  unfold write
  split <;> rfl

/-- Writing replaces one entry and keeps all others. -/
theorem cell_write (hpid : pid < tables.processes) (hpage : page < tables.pages) (entry : Entry)
    (otherPid otherPage : Nat) :
    (tables.write pid page entry).cell otherPid otherPage =
      if otherPid = pid ∧ otherPage = page then entry else tables.cell otherPid otherPage := by
  by_cases hinside : otherPid < tables.processes ∧ otherPage < tables.pages
  · obtain ⟨hotherPid, hotherPage⟩ := hinside
    have hplace : otherPid * tables.pages + otherPage = pid * tables.pages + page ↔ _ :=
      position_eq_iff hotherPage hpage
    have hposition := tables.position_lt hpid hpage
    simp only [cell, write, position_of_lt hpid hpage, put, hotherPid, hotherPage, and_self,
      if_true, Array.getElem?_set hposition]
    by_cases hsame : otherPid = pid ∧ otherPage = page
    · simp [hsame]
    · rw [if_neg (fun heq => hsame (hplace.mp heq.symm)), if_neg hsame]
  · have hne : ¬(otherPid = pid ∧ otherPage = page) := by
      rintro ⟨rfl, rfl⟩
      exact hinside ⟨hpid, hpage⟩
    simp [cell, hinside, hne]

theorem cell_write_self (hpid : pid < tables.processes) (hpage : page < tables.pages)
    (entry : Entry) :
    (tables.write pid page entry).cell pid = Function.update (tables.cell pid) page entry := by
  funext other
  simp [cell_write hpid hpage, Function.update_apply]

theorem cell_write_of_ne (hpid : pid < tables.processes) (hpage : page < tables.pages)
    {entry : Entry} {other : Nat} (hne : other ≠ pid) :
    (tables.write pid page entry).cell other = tables.cell other := by
  funext otherPage
  simp [cell_write hpid hpage, hne]

theorem entryAt_of_lt (hpid : pid < tables.processes) (hpage : page < tables.pages) :
    tables.entryAt pid page = .ok (tables.cell pid page) := by
  rw [← getElem_eq_cell hpid hpage]
  simp [entryAt, position_of_lt hpid hpage, bind, Except.bind, pure, Except.pure]

theorem load_of_lt (hpid : pid < tables.processes) (hpage : page < tables.pages)
    (frame time : Nat) :
    tables.load pid page frame time =
      .ok (tables.write pid page { frame := some frame, valid := true, lastUsed := time }) := by
  simp [load, write, position_of_lt hpid hpage, bind, Except.bind, pure, Except.pure]

theorem unload_of_lt (hpid : pid < tables.processes) (hpage : page < tables.pages) :
    tables.unload pid page =
      .ok ((tables.cell pid page).residentFrame?,
        tables.write pid page { tables.cell pid page with frame := none, valid := false }) := by
  rw [← getElem_eq_cell hpid hpage]
  simp [unload, write, position_of_lt hpid hpage, bind, Except.bind, pure, Except.pure]

theorem recordUse_of_valid (hpid : pid < tables.processes) (hpage : page < tables.pages)
    (hvalid : (tables.cell pid page).valid = true) (time : Nat) :
    tables.recordUse pid page time =
      .ok (tables.write pid page { tables.cell pid page with lastUsed := time }) := by
  simp only [recordUse, position_of_lt hpid hpage, bind, Except.bind, getElem_eq_cell hpid hpage,
    hvalid, if_true, write]
  rfl

theorem recordUse_of_not_valid (hpid : pid < tables.processes) (hpage : page < tables.pages)
    (hvalid : (tables.cell pid page).valid = false) (time : Nat) :
    tables.recordUse pid page time = .error (.notResident pid page) := by
  simp only [recordUse, position_of_lt hpid hpage, bind, Except.bind, getElem_eq_cell hpid hpage,
    hvalid, Bool.false_eq_true, if_false]
  rfl

/-! ## Rows -/

/-- The table of a process ends inside of the array. -/
theorem tableEnd_le (hpid : pid < tables.processes) :
    pid * tables.pages + tables.pages ≤ tables.entries.size := by
  rw [tables.size_eq, ← Nat.succ_mul]
  exact Nat.mul_le_mul_right _ hpid

theorem tableOf_of_lt (hpid : pid < tables.processes) :
    tables.tableOf pid = .ok (tables.row pid) := by
  simp only [tableOf, hpid, if_true, Except.ok.injEq]
  have hend := tableEnd_le hpid
  apply List.ext_getElem
  · simp only [Array.length_toList, Array.size_extract, row, List.length_map, List.length_range]
    omega
  · intro page hleft hright
    have hpage : page < tables.pages := by simpa [row] using hright
    simp [row, ← getElem_eq_cell hpid hpage]

theorem tableOf_of_le (hpid : tables.processes ≤ pid) :
    tables.tableOf pid = .error (.noSuchProcess pid tables.processes) := by
  simp [tableOf, Nat.not_lt.mpr hpid]

theorem getElem?_row_eq_some_iff {entry : Entry} :
    (tables.row pid)[page]? = some entry ↔ page < tables.pages ∧ tables.cell pid page = entry := by
  by_cases hpage : page < tables.pages <;> simp [row, hpage]

/-- The first `count` rows, cut from the array after `start` rows. -/
theorem rows_drop (start count : Nat) (hcount : start + count = tables.processes) :
    rows tables.pages count (tables.entries.toList.drop (start * tables.pages)) =
      (List.range' start count).map tables.row := by
  induction count generalizing start with
  | zero => rfl
  | succ count ih =>
      have hstart : start < tables.processes := by omega
      have hfirst : (tables.entries.toList.drop (start * tables.pages)).take tables.pages =
          tables.row start := by
        have htable := tableOf_of_lt hstart
        simp only [tableOf, hstart, if_true, Except.ok.injEq] at htable
        rw [← htable, Array.toList_extract, List.extract_eq_take_drop, Nat.add_sub_cancel_left]
      have hrest : start * tables.pages + tables.pages = (start + 1) * tables.pages := by
        rw [Nat.succ_mul]
      rw [rows, hfirst, List.drop_drop, hrest, ih (start + 1) (by omega), List.range'_succ,
        List.map_cons]

theorem toTables_eq : tables.toTables = (List.range tables.processes).map tables.row := by
  have hrows := tables.rows_drop 0 tables.processes (by omega)
  simpa [toTables, List.range_eq_range'] using hrows

/-! ## Blank tables -/

/-- Tables start with blank entries only; their number fits a word. -/
theorem blank_eq_ok {processes pages : Nat} (hblank : blank processes pages = .ok tables) :
    tables.processes = processes ∧ tables.pages = pages ∧
      0 < processes * pages ∧ processes * pages < wordCount ∧
      ∀ pid page, tables.cell pid page = {} := by
  unfold blank at hblank
  split at hblank
  next hsize =>
    obtain rfl := Except.ok.inj hblank
    refine ⟨rfl, rfl, hsize.1, hsize.2, ?_⟩
    intro pid page
    simp only [cell]
    split
    next hinside =>
      have hplace := PageTables.position_lt
        (⟨Array.replicate (processes * pages) {}, processes, pages, Array.size_replicate⟩ :
          PageTables) hinside.1 hinside.2
      simp only [Array.size_replicate] at hplace
      simp [hplace]
    next => rfl
  next => exact absurd hblank (by simp)

end DemandPaging.PageTables

namespace DemandPaging.PageTable

open PageTables

variable {tables : PageTables} {pid : Nat}

theorem zipIdx_map_range {α : Type} (itemOf : Nat → α) (count : Nat) :
    ((List.range count).map itemOf).zipIdx =
      (List.range count).map fun index => (itemOf index, index) := by
  induction count with
  | zero => rfl
  | succ count ih => simp [List.range_succ, List.zipIdx_append, ih]

theorem resident_row :
    resident (tables.row pid) =
      (List.range tables.pages).filterMap fun page =>
        (tables.cell pid page).residentFrame?.map fun frame => (page, frame) := by
  rw [resident, row, zipIdx_map_range, List.filterMap_map]
  rfl

/-- A page is listed with the frame that backs it, and no other page is. -/
theorem mem_resident_row {page frame : Nat} :
    (page, frame) ∈ resident (tables.row pid) ↔
      (tables.cell pid page).residentFrame? = some frame := by
  rw [resident_row]
  simp only [List.mem_filterMap, List.mem_range, Option.map_eq_some_iff, Prod.mk.injEq]
  constructor
  · rintro ⟨page, _, frame, hframe, rfl, rfl⟩
    exact hframe
  · intro hframe
    refine ⟨page, Nat.lt_of_not_le fun hpage => ?_, frame, hframe, rfl, rfl⟩
    rw [cell_of_pages_le hpage] at hframe
    exact absurd hframe (by simp [Entry.residentFrame?])

/-- The resident pages are listed by page number. -/
theorem resident_row_pairwise :
    (resident (tables.row pid)).Pairwise fun earlier later => earlier.1 < later.1 := by
  rw [resident_row, List.pairwise_filterMap]
  apply List.pairwise_lt_range.imp
  intro page later hlt earlierPair hearlier laterPair hlater
  obtain ⟨_, _, rfl⟩ := Option.map_eq_some_iff.mp hearlier
  obtain ⟨_, _, rfl⟩ := Option.map_eq_some_iff.mp hlater
  exact hlt

end DemandPaging.PageTable
