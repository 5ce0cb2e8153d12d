import Mathlib.Data.List.Induction
import SyscallTally.Proofs.Counter.Tallies

/-!
Owns which occurrences a bounded table counts when they are recorded one after the other:

- `recordEach`, recordings in a row, with their outcomes;
- `admitted`, the first distinct keys of a sequence, as many as there is room for, and
  `admittedTally`, their numbers of occurrences;
- `Admits`, what becomes of a table that was empty: it holds exactly the admitted keys, each with
  the number of its occurrences. Exactly the occurrences of the other keys are dropped
  (`recordEach_empty`).

Does not own: any other map than the table, and recordings whose steps interleave.
-/

set_option autoImplicit false

namespace SyscallTally.Counter

/-- Recordings of keys one after the other, with their outcomes. -/
def recordEach {σ : Type} (map : CounterMap σ) : List UInt64 → σ → List Outcome × σ
  | [], state => ([], state)
  | key :: keys, state =>
      let (outcome, recorded) := record map key state
      let (outcomes, last) := recordEach map keys recorded
      (outcome :: outcomes, last)

theorem recordEach_concat {σ : Type} (map : CounterMap σ) (keys : List UInt64) (key : UInt64)
    (state : σ) :
    recordEach map (keys ++ [key]) state =
      ((recordEach map keys state).1 ++ [(record map key (recordEach map keys state).2).1],
        (record map key (recordEach map keys state).2).2) := by
  induction keys generalizing state with
  | nil => rfl
  | cons first keys inductionHypothesis =>
      simp only [List.cons_append, recordEach, inductionHypothesis]

/-! ### The first keys of a sequence -/

/-- The distinct keys of a sequence in the order of their first occurrence, cut off where the
capacity is reached. -/
def admitted (capacity : Nat) (keys : List UInt64) : List UInt64 := keys.eraseDups.take capacity

/-- The admitted keys of a sequence, each with the number of its occurrences. -/
def admittedTally (capacity : Nat) (keys : List UInt64) : List (UInt64 × UInt64) :=
  (admitted capacity keys).map fun key => (key, UInt64.ofNat (keys.count key))

section

variable {capacity : Nat} {keys : List UInt64} {key : UInt64}

theorem eraseDups_concat (keys : List UInt64) (key : UInt64) :
    (keys ++ [key]).eraseDups =
      if key ∈ keys then keys.eraseDups else keys.eraseDups ++ [key] := by
  rw [List.eraseDups_append]
  by_cases known : key ∈ keys
  · rw [if_pos known]
    simp [List.removeAll, known]
  · rw [if_neg known]
    simp [List.removeAll, known, List.eraseDups_cons]

theorem nodup_eraseDups (keys : List UInt64) : keys.eraseDups.Nodup := by
  induction keys using List.reverseRecOn with
  | nil => exact List.nodup_nil
  | append_singleton keys key inductionHypothesis =>
      rw [eraseDups_concat]
      split
      case isTrue => exact inductionHypothesis
      case isFalse unknown =>
        rw [← List.concat_eq_append]
        exact inductionHypothesis.concat (mt List.mem_eraseDups.mp unknown)

theorem nodup_admitted (capacity : Nat) (keys : List UInt64) : (admitted capacity keys).Nodup :=
  (List.take_sublist _ _).nodup (nodup_eraseDups keys)

theorem mem_of_mem_admitted (member : key ∈ admitted capacity keys) : key ∈ keys :=
  List.mem_eraseDups.mp (List.mem_of_mem_take member)

/-- Whether a key that has occurred is admitted does not depend on what occurs later. -/
theorem mem_admitted_append (occurred : key ∈ keys) (rest : List UInt64) :
    key ∈ admitted capacity (keys ++ rest) ↔ key ∈ admitted capacity keys := by
  have distinct := nodup_eraseDups (keys ++ rest)
  rw [List.eraseDups_append] at distinct
  have notLater : key ∉ (rest.removeAll keys).eraseDups := fun later =>
    List.disjoint_of_nodup_append distinct (List.mem_eraseDups.mpr occurred) later
  unfold admitted
  rw [List.eraseDups_append, List.take_append, List.mem_append, or_iff_left]
  exact fun later => notLater (List.mem_of_mem_take later)

/-- An occurrence is of an admitted key if the key was admitted before, or if fewer keys were than
there is room for. -/
theorem mem_admitted_concat :
    key ∈ admitted capacity (keys ++ [key]) ↔
      key ∈ admitted capacity keys ∨ (admitted capacity keys).length < capacity := by
  by_cases known : key ∈ keys
  · rw [mem_admitted_append known [key], iff_self_or]
    intro room
    have whole : admitted capacity keys = keys.eraseDups := by
      rw [admitted, List.length_take] at room
      exact List.take_of_length_le (by omega)
    rw [whole]
    exact List.mem_eraseDups.mpr known
  · -- A new key stands behind all others, so only the room for them decides.
    have unlisted : key ∉ keys.eraseDups := mt List.mem_eraseDups.mp known
    have unadmitted : key ∉ admitted capacity keys := mt mem_of_mem_admitted known
    rw [or_iff_right unadmitted, admitted, eraseDups_concat, if_neg known, List.take_append,
      List.mem_append, or_iff_right (mt List.mem_of_mem_take unlisted), admitted,
      List.length_take]
    cases room : capacity - keys.eraseDups.length with
    | zero => simp only [List.take_zero, List.not_mem_nil, false_iff]; omega
    | succ left => simp only [List.take_succ_cons, List.mem_cons, true_or, true_iff]; omega

/-! ### The table -/

/-- The occurrences of admitted keys. -/
def admittedOccurrences (capacity : Nat) (keys : List UInt64) : List UInt64 :=
  keys.filter (· ∈ admitted capacity keys)

theorem mem_admittedOccurrences :
    key ∈ admittedOccurrences capacity keys ↔ key ∈ admitted capacity keys := by
  rw [admittedOccurrences, List.mem_filter, decide_eq_true_iff]
  exact and_iff_right_of_imp mem_of_mem_admitted

theorem count_admittedOccurrences (member : key ∈ admitted capacity keys) :
    (admittedOccurrences capacity keys).count key = keys.count key :=
  List.count_filter (p := (· ∈ admitted capacity keys)) (decide_eq_true member)

theorem admittedOccurrences_concat (capacity : Nat) (keys : List UInt64) (key : UInt64) :
    admittedOccurrences capacity (keys ++ [key]) = admittedOccurrences capacity keys ++
      if key ∈ admitted capacity (keys ++ [key]) then [key] else [] := by
  have earlier : keys.filter (· ∈ admitted capacity (keys ++ [key])) =
      keys.filter (· ∈ admitted capacity keys) :=
    List.filter_congr fun other occurred => decide_eq_decide.mpr
      (mem_admitted_append occurred [key])
  rw [admittedOccurrences, List.filter_append, earlier]
  congr 1
  by_cases member : key ∈ admitted capacity (keys ++ [key])
  · rw [if_pos member, List.filter_singleton, decide_eq_true member]
    rfl
  · rw [if_neg member, List.filter_singleton, decide_eq_false member]
    rfl

/-- A table of the given capacity that has tallied the admitted keys of a sequence. -/
structure Admits (capacity : Nat) (keys : List UInt64) (table : Table) : Prop where
  sized : table.capacity = capacity
  tallies : table.Tallies (admittedOccurrences capacity keys)

namespace Admits

variable {table : Table}

theorem mem_iff (admits : Admits capacity keys table) :
    key ∈ table.counts ↔ key ∈ admitted capacity keys :=
  admits.tallies.mem_iff.trans mem_admittedOccurrences

theorem entries (admits : Admits capacity keys table) :
    table.counts.toList.Perm (admittedTally capacity keys) := by
  have listed : table.counts.toList.Nodup := Std.TreeMap.distinct_keys_toList.imp
    fun differs same => differs (Std.LawfulEqCmp.compare_eq_iff_eq.mpr (congrArg Prod.fst same))
  have referred : (admittedTally capacity keys).Nodup :=
    (nodup_admitted capacity keys).map fun _ _ same => (Prod.mk.inj same).1
  refine (List.perm_ext_iff_of_nodup listed referred).mpr fun ⟨key, value⟩ => ?_
  rw [Std.TreeMap.mem_toList_iff_getElem?_eq_some, admits.tallies key, admittedTally,
    List.mem_map]
  by_cases member : key ∈ admitted capacity keys
  · rw [if_pos (mem_admittedOccurrences.mpr member), count_admittedOccurrences member]
    constructor
    · intro same
      exact ⟨key, member, congrArg _ (Option.some.inj same)⟩
    · rintro ⟨other, -, same⟩
      obtain ⟨rfl, rfl⟩ := Prod.mk.inj same
      rfl
  · rw [if_neg (mt mem_admittedOccurrences.mp member)]
    constructor
    · intro same
      cases same
    · rintro ⟨other, present, same⟩
      obtain ⟨rfl, -⟩ := Prod.mk.inj same
      exact absurd present member

theorem size_eq (admits : Admits capacity keys table) :
    table.counts.size = (admitted capacity keys).length := by
  rw [← Std.TreeMap.length_toList, admits.entries.length_eq, admittedTally,
    List.length_map]

theorem hasRoom_iff (admits : Admits capacity keys table) :
    table.HasRoom key ↔ key ∈ admitted capacity (keys ++ [key]) := by
  rw [mem_admitted_concat, Table.HasRoom, admits.mem_iff, admits.size_eq, admits.sized]

theorem empty (capacity : Nat) : Admits capacity [] (Table.empty capacity) where
  sized := rfl
  tallies := Table.tallies_empty capacity

/-- One recording: the occurrence is counted if its key is admitted, and else it is dropped. -/
theorem record (admits : Admits capacity keys table) (key : UInt64) :
    (record Table.counterMap key table).1 =
        (if key ∈ admitted capacity (keys ++ [key]) then .counted else .dropped fullCode) ∧
      Admits capacity (keys ++ [key]) (record Table.counterMap key table).2 := by
  have occurrences := admittedOccurrences_concat capacity keys key
  by_cases member : key ∈ admitted capacity (keys ++ [key])
  · rw [if_pos member] at occurrences
    rw [if_pos member, Table.record_of_hasRoom (admits.hasRoom_iff.mpr member)]
    refine ⟨rfl, admits.sized, ?_⟩
    rw [occurrences]
    exact admits.tallies.store.perm (List.perm_append_singleton key _).symm
  · rw [if_neg member, List.append_nil] at occurrences
    rw [if_neg member, Table.record_of_not_hasRoom (mt admits.hasRoom_iff.mp member)]
    refine ⟨rfl, admits.sized, ?_⟩
    rw [occurrences]
    exact admits.tallies

end Admits

/-- Recordings on a table that was empty count exactly the occurrences of admitted keys. -/
theorem recordEach_empty (capacity : Nat) (keys : List UInt64) :
    (recordEach Table.counterMap keys (Table.empty capacity)).1 =
        keys.map (fun key =>
          if key ∈ admitted capacity keys then .counted else .dropped fullCode) ∧
      Admits capacity keys (recordEach Table.counterMap keys (Table.empty capacity)).2 := by
  -- From the end, because what is admitted depends on the keys before and not on those after.
  induction keys using List.reverseRecOn with
  | nil => exact ⟨rfl, .empty capacity⟩
  | append_singleton keys key inductionHypothesis =>
      obtain ⟨outcomes, admits⟩ := inductionHypothesis
      obtain ⟨outcome, admitsNext⟩ := admits.record key
      have earlier : keys.map (fun other =>
            if other ∈ admitted capacity (keys ++ [key]) then Outcome.counted
            else .dropped fullCode) =
          keys.map (fun other =>
            if other ∈ admitted capacity keys then .counted else .dropped fullCode) :=
        List.map_congr_left fun other occurred => by
          simp only [mem_admitted_append occurred [key]]
      rw [recordEach_concat, outcomes, outcome, List.map_append, earlier]
      exact ⟨rfl, admitsNext⟩

end

end SyscallTally.Counter
