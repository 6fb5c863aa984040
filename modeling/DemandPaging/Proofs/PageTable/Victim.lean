import Mathlib.Data.List.Induction
import DemandPaging.Proofs.PageTable.Cells

/-!
# The page that makes room

One scan over a table finds the valid page that was used longest ago, and of
several such pages the one with the lowest number. Entries that are not valid
take no part in it.
-/

namespace DemandPaging

theorem getElem?_concat_eq_some {α : Type} {items : List α} {last item : α} {place : Nat} :
    (items ++ [last])[place]? = some item ↔
      items[place]? = some item ∨ place = items.length ∧ last = item := by
  rcases Nat.lt_trichotomy place items.length with hlt | rfl | hgt
  · simp [List.getElem?_append_left hlt, Nat.ne_of_lt hlt]
  · simp
  · have hne : place ≠ items.length := Nat.ne_of_gt hgt
    have hbeyond : (items ++ [last]).length ≤ place := by
      rw [List.length_append]
      exact hgt
    rw [List.getElem?_eq_none hbeyond, List.getElem?_eq_none (Nat.le_of_lt hgt)]
    simp [hne]

namespace PageTable

/-- A page of a table that is valid, last used at the given time, and no younger
than any other valid page; a page of the same age has no lower number. -/
structure Oldest (table : PageTable) (page time : Nat) : Prop where
  valid : ∃ entry, table[page]? = some entry ∧ entry.valid = true ∧ entry.lastUsed = time
  le : ∀ other entry, table[other]? = some entry → entry.valid = true →
    time ≤ entry.lastUsed ∧ (entry.lastUsed = time → page ≤ other)

/-- Two entries that are equal, or of which neither is valid. -/
def SameIfValid (entry changed : Entry) : Prop :=
  entry = changed ∨ entry.valid = false ∧ changed.valid = false

theorem older_of_invalid {entry : Entry} (hentry : entry.valid = false)
    (candidate : Option (Nat × Nat)) (page : Nat) : older candidate entry page = candidate := by
  simp [older, hentry]

/-- The candidate left over when the scan has seen the whole table. -/
def scan (table : PageTable) : Option (Nat × Nat) :=
  table.zipIdx.foldl (fun candidate (entry, page) => older candidate entry page) none

theorem leastRecent?_eq_scan (table : PageTable) :
    leastRecent? table = (scan table).map Prod.fst := rfl

theorem scan_concat (table : PageTable) (entry : Entry) :
    scan (table ++ [entry]) = older (scan table) entry table.length := by
  simp [scan, List.zipIdx_append, List.foldl_append]

namespace Oldest

variable {table : PageTable} {entry : Entry} {page time : Nat}

/-- The oldest page stays the oldest when an entry follows that is not valid or
was used no earlier. -/
theorem concat (holdest : Oldest table page time)
    (hentry : entry.valid = true → time ≤ entry.lastUsed) :
    Oldest (table ++ [entry]) page time := by
  obtain ⟨found, hfound, hvalid, htime⟩ := holdest.valid
  refine ⟨⟨found, getElem?_concat_eq_some.mpr (.inl hfound), hvalid, htime⟩, ?_⟩
  intro other otherEntry hother hotherValid
  rcases getElem?_concat_eq_some.mp hother with hold | ⟨rfl, rfl⟩
  · exact holdest.le other otherEntry hold hotherValid
  · obtain ⟨hpage, -⟩ := List.getElem?_eq_some_iff.mp hfound
    exact ⟨hentry hotherValid, fun _ => Nat.le_of_lt hpage⟩

/-- A valid entry that was used before all others follows them as the oldest. -/
theorem concat_self (hvalid : entry.valid = true)
    (hyounger : ∀ other ∈ table, other.valid = true → entry.lastUsed < other.lastUsed) :
    Oldest (table ++ [entry]) table.length entry.lastUsed := by
  refine ⟨⟨entry, by simp, hvalid, rfl⟩, ?_⟩
  intro other otherEntry hother hotherValid
  rcases getElem?_concat_eq_some.mp hother with hold | ⟨rfl, rfl⟩
  · have hlt := hyounger otherEntry (List.mem_of_getElem? hold) hotherValid
    exact ⟨Nat.le_of_lt hlt, fun heq => absurd heq (Nat.ne_of_gt hlt)⟩
  · exact ⟨Nat.le_refl _, fun _ => Nat.le_refl _⟩

theorem le_of_mem (holdest : Oldest table page time) (hmem : entry ∈ table)
    (hvalid : entry.valid = true) : time ≤ entry.lastUsed := by
  obtain ⟨other, hother⟩ := List.mem_iff_getElem?.mp hmem
  exact (holdest.le other entry hother hvalid).1

theorem unique {other otherTime : Nat} (holdest : Oldest table page time)
    (hother : Oldest table other otherTime) : page = other ∧ time = otherTime := by
  obtain ⟨entry, hentry, hvalid, rfl⟩ := holdest.valid
  obtain ⟨otherEntry, hotherEntry, hotherValid, rfl⟩ := hother.valid
  obtain ⟨hle, hpage⟩ := holdest.le other otherEntry hotherEntry hotherValid
  obtain ⟨hge, hotherPage⟩ := hother.le page entry hentry hvalid
  have htime : entry.lastUsed = otherEntry.lastUsed := Nat.le_antisymm hle hge
  exact ⟨Nat.le_antisymm (hpage htime.symm) (hotherPage htime), htime⟩

end Oldest

/-- What the scan finds: nothing if no entry is valid, else the oldest page. -/
theorem scan_spec (table : PageTable) :
    match scan table with
    | none => ∀ entry ∈ table, entry.valid = false
    | some (page, time) => Oldest table page time := by
  induction table using List.reverseRecOn with
  | nil => intro entry hentry; exact absurd hentry List.not_mem_nil
  | append_singleton table entry ih =>
      rw [scan_concat]
      cases hvalid : entry.valid with
      | false =>
          rw [older_of_invalid hvalid]
          cases hscan : scan table with
          | none =>
              simp only [hscan] at ih ⊢
              intro other hother
              rcases List.mem_append.mp hother with hold | hlast
              · exact ih other hold
              · rw [List.mem_singleton.mp hlast, hvalid]
          | some candidate =>
              simp only [hscan] at ih ⊢
              exact ih.concat fun htrue => absurd htrue (by simp [hvalid])
      | true =>
          simp only [older, hvalid, if_true]
          cases hscan : scan table with
          | none =>
              simp only [hscan] at ih ⊢
              apply Oldest.concat_self hvalid
              intro other hother htrue
              exact absurd htrue (by simp [ih other hother])
          | some candidate =>
              simp only [hscan] at ih ⊢
              by_cases hle : candidate.2 ≤ entry.lastUsed
              · rw [if_pos hle]
                exact ih.concat fun _ => hle
              · rw [if_neg hle]
                apply Oldest.concat_self hvalid
                intro other hother htrue
                exact Nat.lt_of_lt_of_le (Nat.lt_of_not_le hle) (ih.le_of_mem hother htrue)

theorem leastRecent?_eq_none_iff {table : PageTable} :
    leastRecent? table = none ↔ ∀ entry ∈ table, entry.valid = false := by
  have hspec := scan_spec table
  rw [leastRecent?_eq_scan, Option.map_eq_none_iff]
  cases hscan : scan table with
  | none =>
      rw [hscan] at hspec
      exact ⟨fun _ => hspec, fun _ => rfl⟩
  | some candidate =>
      rw [hscan] at hspec
      obtain ⟨entry, hentry, hvalid, -⟩ := hspec.valid
      refine ⟨fun hnone => absurd hnone (by simp), fun hall => ?_⟩
      exact absurd (hall entry (List.mem_of_getElem? hentry)) (by simp [hvalid])

theorem leastRecent?_eq_some_iff {table : PageTable} {page : Nat} :
    leastRecent? table = some page ↔ ∃ time, Oldest table page time := by
  have hspec := scan_spec table
  rw [leastRecent?_eq_scan, Option.map_eq_some_iff]
  constructor
  · rintro ⟨⟨page, time⟩, hscan, rfl⟩
    rw [hscan] at hspec
    exact ⟨time, hspec⟩
  · rintro ⟨time, holdest⟩
    cases hscan : scan table with
    | none =>
        rw [hscan] at hspec
        obtain ⟨entry, hentry, hvalid, -⟩ := holdest.valid
        exact absurd (hspec entry (List.mem_of_getElem? hentry)) (by simp [hvalid])
    | some candidate =>
        rw [hscan] at hspec
        exact ⟨candidate, rfl, (hspec.unique holdest).1⟩

/-- The scan passes over entries that are not valid, whatever they hold. -/
theorem foldl_older_eq {table changed : PageTable}
    (hsame : List.Forall₂ SameIfValid table changed) (start : Nat)
    (candidate : Option (Nat × Nat)) :
    (changed.zipIdx start).foldl (fun candidate (entry, page) => older candidate entry page)
        candidate =
      (table.zipIdx start).foldl (fun candidate (entry, page) => older candidate entry page)
        candidate := by
  -- Over both tables at once, from any page on and with any candidate so far.
  induction hsame generalizing start candidate with
  | nil => rfl
  | @cons entry changedEntry table changed hentry _ ih =>
      have hhead : older candidate changedEntry start = older candidate entry start := by
        rcases hentry with rfl | ⟨hvalid, hchanged⟩
        · rfl
        · rw [older_of_invalid hvalid, older_of_invalid hchanged]
      simp only [List.zipIdx_cons, List.foldl_cons, hhead]
      exact ih _ _

theorem leastRecent?_eq_of_sameIfValid {table changed : PageTable}
    (hsame : List.Forall₂ SameIfValid table changed) :
    leastRecent? changed = leastRecent? table :=
  congrArg (Option.map Prod.fst) (foldl_older_eq hsame 0 none)

/-- A table without a valid page gives none. In any other table the page that makes room
is the first of the valid pages, by time of last use and then by number. What an entry
holds that is not valid does not matter. -/
theorem leastRecent?_is_first_of_oldest (table : PageTable) :
    (leastRecent? table = none ↔ ∀ entry ∈ table, entry.valid = false) ∧
      (∀ page, leastRecent? table = some page ↔ ∃ time, Oldest table page time) ∧
      ∀ changed, List.Forall₂ SameIfValid table changed →
        leastRecent? changed = leastRecent? table :=
  ⟨leastRecent?_eq_none_iff, fun _ => leastRecent?_eq_some_iff,
    fun _ => leastRecent?_eq_of_sameIfValid⟩

/-- Pages 1 and 3 are of the same age, and the first of them makes room. The older time of
page 0, which is not valid, does not matter. -/
theorem stale_entry_makes_no_room :
    List.Forall₂ SameIfValid
        [⟨none, false, 1⟩, ⟨some 3, true, 7⟩, ⟨some 1, true, 9⟩, ⟨some 2, true, 7⟩]
        [⟨some 3, false, 8⟩, ⟨some 3, true, 7⟩, ⟨some 1, true, 9⟩, ⟨some 2, true, 7⟩] ∧
      leastRecent? [⟨some 3, false, 8⟩, ⟨some 3, true, 7⟩, ⟨some 1, true, 9⟩,
        ⟨some 2, true, 7⟩] = some 1 := by
  have hsame : List.Forall₂ SameIfValid
      [⟨none, false, 1⟩, ⟨some 3, true, 7⟩, ⟨some 1, true, 9⟩, ⟨some 2, true, 7⟩]
      [⟨some 3, false, 8⟩, ⟨some 3, true, 7⟩, ⟨some 1, true, 9⟩, ⟨some 2, true, 7⟩] :=
    .cons (.inr ⟨rfl, rfl⟩) (.cons (.inl rfl) (.cons (.inl rfl) (.cons (.inl rfl) .nil)))
  obtain ⟨-, -, hstale⟩ := leastRecent?_is_first_of_oldest
    [⟨none, false, 1⟩, ⟨some 3, true, 7⟩, ⟨some 1, true, 9⟩, ⟨some 2, true, 7⟩]
  exact ⟨hsame, (hstale _ hsame).trans (by decide)⟩

end PageTable

namespace PageTables

variable {tables : PageTables} {pid : Nat}

theorem leastRecent?_of_lt (hpid : pid < tables.processes) :
    tables.leastRecent? pid = .ok (PageTable.leastRecent? (tables.row pid)) := by
  rw [leastRecent?, tableOf_of_lt hpid]
  rfl

theorem leastRecent?_row_eq_none_iff :
    PageTable.leastRecent? (tables.row pid) = none ↔
      ∀ page, (tables.cell pid page).valid = false := by
  rw [PageTable.leastRecent?_eq_none_iff]
  constructor
  · intro hall page
    by_cases hpage : page < tables.pages
    · exact hall _ (List.mem_map_of_mem (List.mem_range.mpr hpage))
    · rw [cell_of_pages_le (Nat.le_of_not_lt hpage)]
  · intro hall entry hentry
    obtain ⟨page, -, rfl⟩ := List.mem_map.mp hentry
    exact hall page

/-- The page that makes room is valid, and no valid page was used before it. -/
theorem valid_of_leastRecent?_row {page : Nat}
    (hpage : PageTable.leastRecent? (tables.row pid) = some page) :
    (tables.cell pid page).valid = true ∧
      ∀ other, (tables.cell pid other).valid = true →
        (tables.cell pid page).lastUsed ≤ (tables.cell pid other).lastUsed := by
  obtain ⟨time, holdest⟩ := PageTable.leastRecent?_eq_some_iff.mp hpage
  obtain ⟨entry, hentry, hvalid, rfl⟩ := holdest.valid
  obtain ⟨-, rfl⟩ := getElem?_row_eq_some_iff.mp hentry
  refine ⟨hvalid, fun other hother => ?_⟩
  exact (holdest.le other _
    (getElem?_row_eq_some_iff.mpr ⟨page_lt_of_valid hother, rfl⟩) hother).1

end PageTables

end DemandPaging
