import Mathlib.Data.List.Dedup
import Mathlib.Data.List.Induction
import Mathlib.Data.List.Perm.Subperm
import SyscallTally.Counter.Snapshot

/-!
Owns what becomes of a table on which occurrences are recorded one after the other:

- an occurrence for which there is room is counted (`record_of_hasRoom`), and any other is dropped
  and changes nothing (`record_of_not_hasRoom`);
- a table that was empty holds exactly the keys recorded since, each with the number of its
  occurrences (`Tallies`), and so do its snapshots.

Recordings whose steps interleave are not owned here.
-/

set_option autoImplicit false

namespace SyscallTally.Counter

namespace Table

variable {table : Table} {key : UInt64} {keys ids : List UInt64}

/-! ### One recording -/

/-- Whether an occurrence of a key can be counted: it has an entry, or there is room for one. -/
def HasRoom (key : UInt64) (table : Table) : Prop :=
  key ∈ table.counts ∨ table.counts.size < table.capacity

theorem record_of_hasRoom (room : table.HasRoom key) :
    record counterMap key table = (.counted, table.store key (table.count key + 1)) := by
  by_cases present : key ∈ table.counts
  · simp only [record, counterMap, increment_of_mem present]
  · have below : table.counts.size < table.capacity := room.resolve_left present
    simp only [record, counterMap, increment_of_not_mem present, insertNew_of_room present below,
      count_of_not_mem present]
    rfl

theorem record_of_not_hasRoom (full : ¬ table.HasRoom key) :
    record counterMap key table = (.dropped fullCode, table) := by
  have absent : key ∉ table.counts := fun present => full (.inl present)
  have above : table.capacity ≤ table.counts.size :=
    Nat.le_of_not_lt fun below => full (.inr below)
  simp only [record, counterMap, increment_of_not_mem absent, insertNew_of_full absent above]

/-- Counting an occurrence does not overfill a table. -/
theorem size_store_le_of_hasRoom {value : UInt64} (room : table.HasRoom key)
    (fits : table.counts.size ≤ table.capacity) :
    (table.store key value).counts.size ≤ table.capacity := by
  by_cases present : key ∈ table.counts
  · rwa [size_store_of_mem present]
  · rw [size_store_of_not_mem present]
    exact room.resolve_left present

/-- A table that holds only some of few keys has room for any of them. -/
theorem hasRoom_of_known (known : ∀ other ∈ table.counts, other ∈ ids)
    (few : ids.dedup.length ≤ table.capacity) (member : key ∈ ids) : table.HasRoom key := by
  by_cases present : key ∈ table.counts
  · exact .inl present
  · right
    have distinct : (key :: table.counts.keys).Nodup := by
      refine List.nodup_cons.mpr ⟨fun listed => present (Std.TreeMap.mem_keys.mp listed), ?_⟩
      exact Std.TreeMap.distinct_keys.imp fun differs same =>
        differs (Std.LawfulEqCmp.compare_eq_iff_eq.mpr same)
    have included : key :: table.counts.keys ⊆ ids.dedup := by
      intro other listed
      rcases List.mem_cons.mp listed with rfl | old
      · exact List.mem_dedup.mpr member
      · exact List.mem_dedup.mpr (known other (Std.TreeMap.mem_keys.mp old))
    have fitting := (List.subperm_of_subset distinct included).length_le
    rw [List.length_cons, Std.TreeMap.length_keys] at fitting
    omega

/-! ### Many recordings -/

/-- The entries of a table are the recorded keys, each with the number of its occurrences. -/
def Tallies (table : Table) (keys : List UInt64) : Prop :=
  ∀ key, table.counts[key]? =
    if key ∈ keys then some (UInt64.ofNat (keys.count key)) else none

theorem tallies_empty (capacity : Nat) : (empty capacity).Tallies [] := by
  intro key
  simp [empty]

namespace Tallies

theorem mem_iff (tallies : table.Tallies keys) : key ∈ table.counts ↔ key ∈ keys := by
  rw [Std.TreeMap.mem_iff_isSome_getElem?, tallies key]
  by_cases recorded : key ∈ keys <;> simp [recorded]

theorem count_eq (tallies : table.Tallies keys) :
    table.count key = UInt64.ofNat (keys.count key) := by
  rw [count, Std.TreeMap.getD_eq_getD_getElem?, tallies key]
  by_cases recorded : key ∈ keys
  · simp [recorded]
  · simp [recorded, List.count_eq_zero.mpr recorded]

theorem store (tallies : table.Tallies keys) :
    (table.store key (table.count key + 1)).Tallies (key :: keys) := by
  intro other
  rw [tallies.count_eq]
  simp only [Table.store, Std.TreeMap.getElem?_insert, Std.LawfulEqCmp.compare_eq_iff_eq]
  by_cases same : key = other
  · subst same
    simp [UInt64.ofNat_add]
  · have recorded : other ∈ key :: keys ↔ other ∈ keys := by
      simp [Ne.symm same]
    simp only [same, if_false, tallies other, recorded, List.count_cons_of_ne same]

/-- Only how often a key was recorded matters, and not in which order. -/
theorem perm {others : List UInt64} (tallies : table.Tallies keys) (same : keys.Perm others) :
    table.Tallies others := by
  intro key
  rw [tallies key, same.count_eq]
  simp only [same.mem_iff]

end Tallies

end Table

/-! ### Snapshots -/

namespace Snapshot

variable {table : Table} {keys : List UInt64}

/-- The entries of a snapshot stand in strictly ascending order of their keys. -/
theorem toList_ascending (snapshot : Snapshot) :
    snapshot.toList.Pairwise fun left right => left.1 < right.1 := by
  have ordered : snapshot.counts.toList.Pairwise fun left right =>
      compare left.1 right.1 = .lt := Std.TreeMap.ordered_keys_toList
  exact ordered.imp fun less => Std.compare_eq_lt.mp less

theorem mem_toList_of_tallies (tallies : table.Tallies keys) {key value : UInt64} :
    (key, value) ∈ table.snapshot.toList ↔
      key ∈ keys ∧ value = UInt64.ofNat (keys.count key) := by
  show (key, value) ∈ table.counts.toList ↔ _
  rw [Std.TreeMap.mem_toList_iff_getElem?_eq_some, tallies key]
  by_cases recorded : key ∈ keys
  · simp [recorded, eq_comm]
  · simp [recorded]

theorem ofList_concat (entries : List (UInt64 × UInt64)) (entry : UInt64 × UInt64) :
    ofList (entries ++ [entry]) = ⟨(ofList entries).counts.insert entry.1 entry.2⟩ := by
  rw [ofList, ofList, List.foldl_append, List.foldl_cons, List.foldl_nil]

/-- A snapshot has the last value that is given under a key. -/
theorem getElem?_ofList (entries : List (UInt64 × UInt64)) (key : UInt64) :
    (ofList entries).counts[key]? = entries.reverse.lookup key := by
  induction entries using List.reverseRecOn with
  | nil => exact Std.TreeMap.getElem?_emptyc
  | append_singleton entries entry inductionHypothesis =>
      rw [ofList_concat, Std.TreeMap.getElem?_insert, inductionHypothesis, List.reverse_concat,
        List.lookup_cons]
      by_cases same : entry.1 = key
      · rw [same, beq_self_eq_true, if_pos Std.ReflCmp.compare_self]
      · rw [beq_eq_false_iff_ne.mpr (Ne.symm same),
          if_neg fun equal => same (Std.LawfulEqCmp.compare_eq_iff_eq.mp equal)]

/-- Where no key is given twice, a snapshot has just the given entries. -/
theorem mem_toList_ofList {entries : List (UInt64 × UInt64)}
    (distinct : (entries.map Prod.fst).Nodup) {entry : UInt64 × UInt64} :
    entry ∈ (ofList entries).toList ↔ entry ∈ entries := by
  show (entry.1, entry.2) ∈ (ofList entries).counts.toList ↔ _
  rw [Std.TreeMap.mem_toList_iff_getElem?_eq_some]
  induction entries using List.reverseRecOn with
  | nil => simp [ofList]
  | append_singleton entries last inductionHypothesis =>
      rw [List.map_append, List.nodup_append] at distinct
      obtain ⟨earlier, -, apart⟩ := distinct
      rw [ofList_concat, Std.TreeMap.getElem?_insert, List.mem_append, List.mem_singleton]
      split
      case isTrue equal =>
        have same : last.1 = entry.1 := Std.LawfulEqCmp.compare_eq_iff_eq.mp equal
        have absent : entry ∉ entries := fun member =>
          apart entry.1 (List.mem_map_of_mem member) last.1 List.mem_cons_self same.symm
        rw [Option.some.injEq, or_iff_right absent, Prod.ext_iff, eq_comm, and_iff_right same.symm]
      case isFalse differs =>
        have other : entry ≠ last := by
          rintro rfl
          exact differs Std.ReflCmp.compare_self
        rw [inductionHypothesis earlier, or_iff_left other]

theorem mem_counts_iff {snapshot : Snapshot} {key : UInt64} :
    key ∈ snapshot.counts ↔ ∃ value, (key, value) ∈ snapshot.toList := by
  rw [Std.TreeMap.mem_iff_isSome_getElem?, Option.isSome_iff_exists]
  exact exists_congr fun _ => Std.TreeMap.mem_toList_iff_getElem?_eq_some.symm

theorem mem_ofList {entries : List (UInt64 × UInt64)} (distinct : (entries.map Prod.fst).Nodup)
    {key : UInt64} : key ∈ (ofList entries).counts ↔ key ∈ entries.map Prod.fst := by
  simp only [mem_counts_iff, mem_toList_ofList distinct, List.mem_map, Prod.exists,
    exists_and_right, exists_eq_right]

/-- A snapshot does not show in which order its entries were given. -/
theorem toList_ofList_of_perm {counts : Counts} {entries : List (UInt64 × UInt64)}
    (same : entries.Perm counts.toList) : (ofList entries).toList = counts.toList := by
  have distinct : entries.Pairwise fun left right => ¬ compare left.1 right.1 = .eq :=
    (same.pairwise_iff fun differs equal =>
      differs (Std.OrientedCmp.eq_symm equal)).mpr Std.TreeMap.distinct_keys_toList
  have listed : Std.TreeMap.Equiv (Std.TreeMap.ofList entries) counts := by
    refine Std.TreeMap.Equiv.of_forall_constGet?_eq fun key => ?_
    cases found : counts[key]? with
    | some value =>
        have member : (key, value) ∈ counts.toList :=
          Std.TreeMap.mem_toList_iff_getElem?_eq_some.mpr found
        exact Std.TreeMap.getElem?_ofList_of_mem Std.ReflCmp.compare_self distinct
          (same.mem_iff.mpr member)
    | none =>
        refine Std.TreeMap.getElem?_ofList_of_contains_eq_false ?_
        rw [Bool.eq_false_iff]
        intro contained
        obtain ⟨entry, member, isKey⟩ :=
          List.mem_map.mp (List.contains_iff_mem.mp contained)
        have held := Std.TreeMap.mem_toList_iff_getElem?_eq_some.mp (same.mem_iff.mp member)
        simp only [isKey, found, reduceCtorEq] at held
  exact (Std.TreeMap.ofList_equiv_foldl.symm.trans listed).toList_eq

end Snapshot

end SyscallTally.Counter
