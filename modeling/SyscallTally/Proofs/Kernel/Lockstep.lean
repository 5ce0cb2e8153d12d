import SyscallTally.Proofs.Counter.Admission
import SyscallTally.Proofs.Kernel.Machine

/-!
Owns the agreement of the counting program with the table in memory, run by run:

- `countEach`, runs of the program one after the other, which nobody disturbs;
- each run concludes the recording of the same id in memory (`countEach_eq`);
- both follow one reference, the admitted ids with the numbers of their occurrences
  (`program_and_table_in_lockstep`).

Does not own: runs on several processors, and what a kernel does between two runs.
-/

set_option autoImplicit false

namespace SyscallTally.Kernel

open SyscallTally.Counter SyscallTally.Probe

/-- Runs of the counting program for processes one after the other, with what they leave behind. -/
def countEach : List UInt64 → Table → List Run × Table
  | [], table => ([], table)
  | credentials :: processes, table =>
      let (left, counted) := run .count credentials .quiet table
      let (runs, last) := countEach processes counted
      (left :: runs, last)

/-- The user id of a process, the number in the low 32 bits of its credentials. -/
def userOf (credentials : UInt64) : UInt64 := UInt64.ofNat (credentials.toNat % 0x100000000)

theorem userKey_eq_userOf : userKey = userOf := by
  funext credentials
  have low : credentials.toNat % 0x100000000 < 2 ^ 64 :=
    Nat.lt_trans (Nat.mod_lt _ (by decide)) (by decide)
  rw [← UInt64.toNat_inj, userKey, userOf, UInt64.toNat_and, UInt64.toNat_ofNat',
    Nat.mod_eq_of_lt low]
  exact Nat.and_two_pow_sub_one_eq_mod credentials.toNat 32

theorem run_count_quiet (credentials : UInt64) (table : Table) :
    run .count credentials .quiet table =
      (conclude (userKey credentials) (record Table.counterMap (userKey credentials) table).1,
        (record Table.counterMap (userKey credentials) table).2) := by
  rw [← counterMap_quiet]
  rfl

theorem countEach_eq (processes : List UInt64) (table : Table) :
    countEach processes table =
      (List.zipWith conclude (processes.map userKey)
          (recordEach Table.counterMap (processes.map userKey) table).1,
        (recordEach Table.counterMap (processes.map userKey) table).2) := by
  induction processes generalizing table with
  | nil => rfl
  | cons credentials processes inductionHypothesis =>
      simp only [countEach, run_count_quiet, inductionHypothesis, List.map_cons, recordEach,
        List.zipWith_cons_cons]

theorem returned_conclude_eq_zero_iff {key : UInt64} {outcome : Outcome} :
    (conclude key outcome).returned = 0 ↔ outcome = .counted := by
  cases outcome with
  | counted => exact iff_of_true rfl rfl
  | dropped code => exact iff_of_false Nat.one_ne_zero Outcome.noConfusion

/-- The program and the table in memory hold the same entries after every run: the first distinct
ids, as many as there is room for, each with the number of its occurrences. A run returns zero
exactly if its occurrence is counted in memory, and warns of the id with the same code if it is
dropped there. Dropped are exactly the occurrences of the ids that came too late. -/
theorem program_and_table_in_lockstep (capacity : Nat) (processes : List UInt64) :
    let inKernel (processes : List UInt64) := countEach processes (Table.empty capacity)
    let inMemory (processes : List UInt64) :=
      recordEach Table.counterMap (processes.map userKey) (Table.empty capacity)
    (∀ early, early <+: processes →
      (inKernel early).2.counts.toList = (inMemory early).2.counts.toList ∧
      (inMemory early).2.counts.toList.Perm (admittedTally capacity (early.map userOf))) ∧
    (inKernel processes).1.length = processes.length ∧
    (inMemory processes).1.length = processes.length ∧
    ∀ (number : Nat) credentials left outcome, processes[number]? = some credentials →
      (inKernel processes).1[number]? = some left →
      (inMemory processes).1[number]? = some outcome →
      (left.returned = 0 ↔ outcome = .counted) ∧
      (∀ code, outcome = .dropped code →
        left.log = [⟨.warn, "dropped occurrence for id " ++
          Nat.repr (userOf credentials).toNat ++ ": " ++ Int.repr code⟩]) ∧
      (outcome = .counted ↔ userOf credentials ∈ admitted capacity (processes.map userOf)) ∧
      (outcome = .dropped fullCode ↔
        userOf credentials ∉ admitted capacity (processes.map userOf)) := by
  intro inKernel inMemory
  have together (processes : List UInt64) : inKernel processes =
      (List.zipWith conclude (processes.map userOf) (inMemory processes).1,
        (inMemory processes).2) := by
    rw [← userKey_eq_userOf]
    exact countEach_eq processes _
  have recorded (processes : List UInt64) :
      (inMemory processes).1 = (processes.map userOf).map (fun key =>
          if key ∈ admitted capacity (processes.map userOf) then .counted
          else .dropped fullCode) ∧
        Admits capacity (processes.map userOf) (inMemory processes).2 := by
    rw [← userKey_eq_userOf]
    exact recordEach_empty capacity (processes.map userKey)
  obtain ⟨outcomes, -⟩ := recorded processes
  have outcomesLength : (inMemory processes).1.length = processes.length := by
    rw [outcomes, List.length_map, List.length_map]
  refine ⟨fun early _ => ⟨by rw [together early], (recorded early).2.entries⟩, ?_,
    outcomesLength, ?_⟩
  · rw [together processes, List.length_zipWith, outcomesLength, List.length_map, Nat.min_self]
  · intro number credentials left outcome atNumber leftAt outcomeAt
    have leftEq : left = conclude (userOf credentials) outcome := by
      rw [together processes, List.getElem?_zipWith, List.getElem?_map, atNumber, outcomeAt]
        at leftAt
      exact (Option.some.inj leftAt).symm
    have outcomeEq : outcome =
        if userOf credentials ∈ admitted capacity (processes.map userOf) then .counted
        else .dropped fullCode := by
      rw [outcomes, List.getElem?_map, List.getElem?_map, atNumber] at outcomeAt
      exact (Option.some.inj outcomeAt).symm
    refine ⟨by rw [leftEq, returned_conclude_eq_zero_iff], ?_, ?_, ?_⟩
    · rintro code rfl
      rw [leftEq]
      rfl
    · rw [outcomeEq]
      split <;> simp [*]
    · rw [outcomeEq]
      split <;> simp [*]

/-- Of three users there is room for two. The group in the high bits does not matter. -/
example : (countEach [1, 0x100000002, 1, 3] (Table.empty 2)).1.map Run.returned = [0, 0, 0, 1] := by
  decide

end SyscallTally.Kernel
