import DemandPaging.Proofs.Pager.ListPager

/-!
# Processes at one list pager

A call for one process leaves alone what the other processes hold and have counted.
What it does for its own process depends on nothing else, and not on the names of the
frames either: if the process goes by another number and the frames by other names,
the same happens under these names.
-/

namespace DemandPaging

namespace ListPager

variable {lists next : ListPager} {pid : Nat}

/-! ## Other processes -/

/-- Nothing has changed but what one process holds and has counted. -/
structure SameBut (pid : Nat) (lists next : ListPager) : Prop where
  processes_eq : next.processes = lists.processes
  pages_eq : next.pages = lists.pages
  recent_eq : ∀ other, other ≠ pid → next.recent other = lists.recent other
  counters_eq : ∀ other, other ≠ pid → next.counters other = lists.counters other

namespace SameBut

theorem refl (pid : Nat) (lists : ListPager) : SameBut pid lists lists :=
  ⟨rfl, rfl, fun _ _ => rfl, fun _ _ => rfl⟩

theorem trans {last : ListPager} (hnext : SameBut pid lists next) (hlast : SameBut pid next last) :
    SameBut pid lists last where
  processes_eq := hlast.processes_eq.trans hnext.processes_eq
  pages_eq := hlast.pages_eq.trans hnext.pages_eq
  recent_eq := fun other hother =>
    (hlast.recent_eq other hother).trans (hnext.recent_eq other hother)
  counters_eq := fun other hother =>
    (hlast.counters_eq other hother).trans (hnext.counters_eq other hother)

end SameBut

theorem sameBut_use (lists : ListPager) (pid page frame : Nat) (free : List Nat)
    (others : List (Nat × Nat)) :
    SameBut pid lists (use { lists with free } pid page frame others) :=
  ⟨rfl, rfl, fun _ hother => Function.update_of_ne hother _ _, fun _ _ => rfl⟩

theorem sameBut_tally (lists : ListPager) (pid : Nat) (resolution : Resolution) :
    SameBut pid lists (lists.tally pid resolution) :=
  ⟨rfl, rfl, fun _ _ => rfl, fun _ hother => Function.update_of_ne hother _ _⟩

theorem sameBut_refer (lists : ListPager) (pid page : Nat) :
    SameBut pid lists (lists.refer pid page).1 := by
  unfold refer
  split
  next => exact sameBut_use ..
  next =>
    split
    next => exact sameBut_use ..
    next =>
      split
      next => exact sameBut_use ..
      next => exact .refl pid lists

theorem sameBut_access (lists : ListPager) (pid : Nat) (page bound : Int) :
    SameBut pid lists (lists.access pid page bound).1 := by
  unfold access
  split
  next =>
    split
    next => exact (sameBut_refer lists pid page.toNat).trans (sameBut_tally _ pid _)
    next => exact sameBut_tally lists pid _
  next => exact .refl pid lists

theorem sameBut_evacuate (lists : ListPager) (pid : Nat) :
    SameBut pid lists (lists.evacuate pid).1 :=
  ⟨rfl, rfl, fun _ hother => Function.update_of_ne hother _ _, fun _ _ => rfl⟩

end ListPager

/-! ## Other names of frames -/

/-- The outcome under other names of the frames. -/
def Outcome.rename (names : Nat → Nat) : Outcome → Outcome
  | .frame number => .frame (names number)
  | .illegal => .illegal
  | .starved => .starved
  | .endOfStream => .endOfStream

/-- The resolution under other names of the frames. -/
def Resolution.rename (names : Nat → Nat) : Resolution → Resolution
  | .illegal => .illegal
  | .hit frame => .hit (names frame)
  | .loaded frame => .loaded (names frame)
  | .replaced frame victim => .replaced (names frame) victim
  | .starved => .starved

theorem Outcome.rename_eq_starved_iff {names : Nat → Nat} {outcome : Outcome} :
    outcome.rename names = .starved ↔ outcome = .starved := by
  cases outcome <;> simp [rename]

theorem Outcome.endsReferences_rename (names : Nat → Nat) (outcome : Outcome) :
    (outcome.rename names).endsReferences = outcome.endsReferences := by
  cases outcome <;> rfl

theorem Resolution.outcome_rename (names : Nat → Nat) (resolution : Resolution) :
    (resolution.rename names).outcome = resolution.outcome.rename names := by
  cases resolution <;> rfl

theorem Counters.record_rename (names : Nat → Nat) (counters : Counters)
    (resolution : Resolution) :
    counters.record (resolution.rename names) = counters.record resolution := by
  cases resolution <;> rfl

/-- The recency list under other names of the frames. -/
def renameFrames (names : Nat → Nat) (recent : List (Nat × Nat)) : List (Nat × Nat) :=
  recent.map (Prod.map id names)

theorem lookup_renameFrames (names : Nat → Nat) (recent : List (Nat × Nat)) (page : Nat) :
    (renameFrames names recent).lookup page = (recent.lookup page).map names := by
  induction recent with
  | nil => rfl
  | cons entry recent ih =>
      rw [renameFrames] at ih ⊢
      rw [List.map_cons, List.lookup_cons, List.lookup_cons, ih]
      simp only [Prod.map, id]
      cases page == entry.1 <;> rfl

theorem withoutPage_renameFrames (names : Nat → Nat) (recent : List (Nat × Nat)) (page : Nat) :
    withoutPage page (renameFrames names recent) =
      renameFrames names (withoutPage page recent) := by
  rw [withoutPage, renameFrames, List.filter_map]
  rfl

theorem mergeSort_renameFrames (names : Nat → Nat) (recent : List (Nat × Nat)) :
    (renameFrames names recent).mergeSort byPage = renameFrames names (recent.mergeSort byPage) :=
  (List.map_mergeSort (r := byPage) (s := byPage) (f := Prod.map id names)
    fun _ _ _ _ => rfl).symm

namespace ListPager

/-- The process `pid` at `lists` stands as the process `own` does at `alone`, under
these names of the frames. -/
structure Renames (names : Nat → Nat) (own pid : Nat) (alone lists : ListPager) : Prop where
  known_iff : pid < lists.processes ↔ own < alone.processes
  pages_eq : lists.pages = alone.pages
  recent_eq : lists.recent pid = renameFrames names (alone.recent own)
  free_eq : lists.free = alone.free.map names
  counters_eq : lists.counters pid = alone.counters own

namespace Renames

variable {names : Nat → Nat} {own pid : Nat} {alone lists : ListPager}

theorem tally (hrenames : Renames names own pid alone lists) (resolution : Resolution) :
    Renames names own pid (alone.tally own resolution)
      (lists.tally pid (resolution.rename names)) := by
  refine ⟨hrenames.known_iff, hrenames.pages_eq, hrenames.recent_eq, hrenames.free_eq, ?_⟩
  simp only [ListPager.tally, Function.update_self, hrenames.counters_eq,
    Counters.record_rename]

theorem use (hrenames : Renames names own pid alone lists) {free otherFree : List Nat}
    (hfree : otherFree = free.map names) (page frame : Nat) (others : List (Nat × Nat)) :
    Renames names own pid (ListPager.use { alone with free } own page frame others)
      (ListPager.use { lists with free := otherFree } pid page (names frame)
        (renameFrames names others)) := by
  refine ⟨hrenames.known_iff, hrenames.pages_eq, ?_, hfree, hrenames.counters_eq⟩
  simp only [ListPager.use, Function.update_self]
  rfl

/-- Both resolve a reference to a legal page in the same way. -/
theorem refer (hrenames : Renames names own pid alone lists) (page : Nat) :
    (lists.refer pid page).2 = (alone.refer own page).2.rename names ∧
      Renames names own pid (alone.refer own page).1 (lists.refer pid page).1 := by
  have hrecent := hrenames.recent_eq
  have hfree := hrenames.free_eq
  have hlookup := lookup_renameFrames names (alone.recent own) page
  rw [← hrecent] at hlookup
  cases halone : (alone.recent own).lookup page with
  | some frame =>
      rw [halone] at hlookup
      rw [refer_of_lookup halone, refer_of_lookup hlookup, hrecent, withoutPage_renameFrames]
      exact ⟨rfl, hrenames.use hfree page frame _⟩
  | none =>
      rw [halone] at hlookup
      cases hempty : alone.free with
      | cons frame free =>
          rw [hempty, List.map_cons] at hfree
          rw [refer_of_cons halone hempty, refer_of_cons hlookup hfree, hrecent]
          exact ⟨rfl, hrenames.use rfl page frame _⟩
      | nil =>
          rw [hempty, List.map_nil] at hfree
          have hlast : (lists.recent pid).getLast? =
              (alone.recent own).getLast?.map (Prod.map id names) := by
            rw [hrecent, renameFrames, List.getLast?_map]
          cases hvictim : (alone.recent own).getLast? with
          | some entry =>
              rw [hvictim] at hlast
              rw [refer_of_getLast? halone hempty hvictim, refer_of_getLast? hlookup hfree hlast,
                hrecent, renameFrames, ← List.map_dropLast]
              exact ⟨rfl, hrenames.use hrenames.free_eq page entry.2 _⟩
          | none =>
              have hnil := List.getLast?_eq_none_iff.mp hvictim
              rw [hnil] at hrecent
              rw [refer_of_nil hempty hnil, refer_of_nil hfree hrecent]
              exact ⟨rfl, hrenames⟩

/-- Both resolve a reference in the same way, legal or not. -/
theorem access (hrenames : Renames names own pid alone lists) (page bound : Int) :
    (lists.access pid page bound).2 = (alone.access own page bound).2.rename names ∧
      Renames names own pid (alone.access own page bound).1 (lists.access pid page bound).1 := by
  by_cases hown : own < alone.processes
  · have hpid := hrenames.known_iff.mpr hown
    by_cases hlegal : 0 ≤ page ∧ page < min bound alone.pages
    · obtain ⟨hresolution, hnext⟩ := hrenames.refer page.toNat
      rw [access_of_legal hown hlegal, access_of_legal hpid (hrenames.pages_eq ▸ hlegal)]
      exact ⟨hresolution, hresolution ▸ hnext.tally _⟩
    · rw [access_of_illegal hown hlegal, access_of_illegal hpid (hrenames.pages_eq ▸ hlegal)]
      exact ⟨rfl, hrenames.tally .illegal⟩
  · have hpid := mt hrenames.known_iff.mp hown
    rw [ListPager.access, if_neg hpid, ListPager.access, if_neg hown]
    exact ⟨rfl, hrenames⟩

/-- Both give back their frames in the same order. -/
theorem evacuate (hrenames : Renames names own pid alone lists) :
    Renames names own pid (alone.evacuate own).1 (lists.evacuate pid).1 := by
  refine ⟨hrenames.known_iff, hrenames.pages_eq, ?_, ?_, hrenames.counters_eq⟩
  · simp only [ListPager.evacuate, Function.update_self]
    rfl
  · simp only [ListPager.evacuate, hrenames.free_eq, hrenames.recent_eq, mergeSort_renameFrames,
      List.map_append]
    rw [renameFrames, List.map_map, List.map_map]
    rfl

end Renames

end ListPager

end DemandPaging
