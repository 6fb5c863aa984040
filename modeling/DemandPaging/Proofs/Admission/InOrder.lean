import Mathlib.Data.List.Basic
import DemandPaging.Admission.Dispatch
import DemandPaging.Proofs.Admission.Lifecycle

/-!
# Admission in the order of the processes

When the processes register in the order of their numbers, and no end of a
process is reported before its admission, the table is given by how many
processes have registered and how many have finished, and each operation on the
table moves one of the two.
-/

namespace DemandPaging

/-- The registrations of some processes with consecutive numbers. -/
def registrationsFrom (first count : Nat) : List Registration :=
  (List.range' first count).map fun pid => ⟨pid, pid⟩

theorem registrationsFrom_succ (first count : Nat) :
    registrationsFrom first (count + 1) =
      ⟨first, first⟩ :: registrationsFrom (first + 1) count := by
  simp [registrationsFrom, List.range'_succ]

theorem registrationsFrom_concat (first count : Nat) :
    registrationsFrom first count ++ [⟨first + count, first + count⟩] =
      registrationsFrom first (count + 1) := by
  simp [registrationsFrom, List.range'_concat]

theorem mem_registrationsFrom {first count pid : Nat} :
    ⟨pid, pid⟩ ∈ registrationsFrom first count ↔ first ≤ pid ∧ pid < first + count := by
  simp [registrationsFrom, List.mem_range'_1]

namespace Admissions

/-- The first `enrolled` processes are known to the table, and `finished` of them
have finished. The next one is running if the table is `busy`. -/
structure InOrder (table : Admissions) (finished : Nat) (busy : Bool) (enrolled : Nat) :
    Prop where
  running_eq : table.running = if busy then some finished else none
  finished_eq : table.finished = finished
  order_eq : table.order = List.range (finished + busy.toNat)
  early_eq : table.early = []
  admitted_le : finished + busy.toNat ≤ enrolled
  ready_eq : table.ready =
    registrationsFrom (finished + busy.toNat) (enrolled - (finished + busy.toNat))
  known_iff : ∀ pid, (table.stage? pid).isSome = true ↔ pid < enrolled

namespace InOrder

variable {table : Admissions} {finished enrolled : Nat} {busy : Bool}

theorem blank : ({} : Admissions).InOrder 0 false 0 :=
  ⟨rfl, rfl, rfl, rfl, Nat.le_refl _, rfl, by simp [stage?]⟩

theorem isSome_stage?_cons (table : Admissions) (pid other : Nat) (stage : Stage) :
    (List.lookup other ((pid, stage) :: table.stages)).isSome = true ↔
      other = pid ∨ (table.stage? other).isSome = true := by
  rw [lookup_stage_cons, stage?]
  by_cases hsame : other = pid <;> simp [hsame]

theorem enrol (horder : table.InOrder finished busy enrolled) :
    (table.enrol ⟨enrolled, enrolled⟩).1.InOrder finished busy (enrolled + 1) := by
  have hunknown : (table.stage? enrolled).isSome = false := by
    rw [Bool.eq_false_iff, Ne, horder.known_iff]
    exact Nat.lt_irrefl _
  have hle := horder.admitted_le
  simp only [Admissions.enrol, hunknown, Bool.false_eq_true, if_false]
  refine ⟨horder.running_eq, horder.finished_eq, horder.order_eq, horder.early_eq, by omega, ?_,
    ?_⟩
  · have hconcat := registrationsFrom_concat (finished + busy.toNat)
      (enrolled - (finished + busy.toNat))
    rw [Nat.add_sub_cancel' hle] at hconcat
    rw [Nat.succ_sub hle, ← Nat.add_one, ← hconcat, horder.ready_eq]
  · intro pid
    rw [stage?, isSome_stage?_cons, horder.known_iff]
    omega

theorem start (horder : table.InOrder finished false enrolled) (hlt : finished < enrolled) :
    ∃ next, table.start? = some (⟨finished, finished⟩, next) ∧
      next.InOrder finished true enrolled := by
  obtain ⟨count, hcount⟩ : ∃ count, enrolled - finished = count + 1 :=
    ⟨enrolled - finished - 1, by omega⟩
  have hready := horder.ready_eq
  have hrunning := horder.running_eq
  simp only [Bool.toNat_false, Nat.add_zero, hcount, registrationsFrom_succ] at hready
  simp only [Bool.false_eq_true, if_false] at hrunning
  let next : Admissions :=
    { table with
      ready := registrationsFrom (finished + 1) count
      stages := (finished, .running) :: table.stages
      running := some finished
      order := table.order ++ [finished] }
  have hstart : table.start? = some (⟨finished, finished⟩, next) := by
    simp only [start?, hrunning, hready, next]
  refine ⟨next, hstart, rfl, horder.finished_eq, ?_, horder.early_eq, hlt, ?_, ?_⟩
  · simp [next, horder.order_eq, List.range_succ]
  · have hrest : enrolled - (finished + 1) = count := by omega
    simp [next, hrest]
  · intro pid
    rw [stage?, isSome_stage?_cons, horder.known_iff]
    omega

/-- No process has its end reported before its admission. -/
theorem settle_eq (horder : table.InOrder finished busy enrolled) (pid : Nat) :
    table.settle pid = (table, false) := by
  simp [settle, horder.early_eq]

theorem hear_ended (horder : table.InOrder finished true enrolled) :
    ∃ next, table.hear ⟨finished, .ended⟩ = (next, some finished) ∧
      next.InOrder (finished + 1) false enrolled := by
  have hrunning := horder.running_eq
  simp only [if_true] at hrunning
  have hhear : table.hear ⟨finished, .ended⟩ = (table.conclude finished, some finished) := by
    simp only [hear, hrunning, if_true]
  refine ⟨table.conclude finished, hhear, rfl, ?_, horder.order_eq, horder.early_eq,
    horder.admitted_le, horder.ready_eq, ?_⟩
  · simp [conclude, horder.finished_eq]
  · intro pid
    have hle := horder.admitted_le
    rw [stage?, conclude, isSome_stage?_cons, horder.known_iff]
    simp only [Bool.toNat_true] at hle
    omega

end InOrder

theorem hear_of_ne_ended (table : Admissions) {notice : Notice} (hquiet : notice.event ≠ .ended) :
    table.hear notice = (table, none) := by
  unfold hear
  cases hevent : notice.event with
  | fault | hit => rfl
  | ended => exact absurd hevent hquiet

end Admissions

end DemandPaging
