import SyscallTally.Proofs.Counter.Tallies
import SyscallTally.Proofs.Text.Decimal
import SyscallTally.Text.Segments

/-!
Owns what can be told from report lines: a reader of text made of lines (`snapshots?`), which finds
in the lines of any snapshots just these snapshots (`snapshots?_lines`), and when two lists of
entries make the same line (`line_ofList_eq_iff`).

A line has parts of two kinds, one inside the other: items, each ended by a tab, and lines, each
ended by a newline. Neither mark stands inside a part, for a part is made of digits and a few other
characters. The reader leaves out what stands behind the last newline, so of a text that breaks off
it reads the whole lines.

Does not own: which lines a session writes.
-/

set_option autoImplicit false

namespace SyscallTally.Counter

open SyscallTally.Text SyscallTally.Text.Decimal

/-! ### Parts that are ended by a mark -/

section

variable {α β γ : Type} {isMark : α → Bool} {mark : α} {part rest : List α}

/-- Reads the parts of a list that are each ended by a mark. -/
def readEnded? (isMark : α → Bool) (read? : List α → Option β) (items : List α) :
    Option (List β) :=
  (segments isMark items).dropLast.mapM read?

theorem segments_of_free (free : ∀ item ∈ part, isMark item = false) :
    segments isMark part = [part] := by
  rw [segments_eq_splitOnP, List.splitOnP_eq_singleton free]

theorem segments_append_mark (free : ∀ item ∈ part, isMark item = false)
    (isTrue : isMark mark = true) (rest : List α) :
    segments isMark (part ++ mark :: rest) = part :: segments isMark rest := by
  simp only [segments_eq_splitOnP, List.splitOnP_append_cons part rest isTrue,
    List.splitOnP_eq_singleton free, List.singleton_append]

theorem readEnded?_of_free (read? : List α → Option β)
    (free : ∀ item ∈ part, isMark item = false) : readEnded? isMark read? part = some [] := by
  rw [readEnded?, segments_of_free free]
  rfl

theorem readEnded?_append_mark {read? : List α → Option β} {value : β}
    (free : ∀ item ∈ part, isMark item = false) (isTrue : isMark mark = true)
    (reads : read? part = some value) (rest : List α) :
    readEnded? isMark read? (part ++ mark :: rest) =
      (readEnded? isMark read? rest).map (value :: ·) := by
  rw [readEnded?, segments_append_mark free isTrue,
    List.dropLast_cons_of_ne_nil (segments_ne_nil isMark rest), List.mapM_cons, reads,
    Option.map_eq_bind]
  rfl

/-- Values that are written one after the other, each with a mark behind it, are read if no value is
written with a mark inside. -/
theorem readEnded?_written {read? : List α → Option β} {write : γ → List α} {value : γ → β}
    (free : ∀ written, ∀ item ∈ write written, isMark item = false) (isTrue : isMark mark = true)
    (reads : ∀ written, read? (write written) = some (value written)) (values : List γ)
    (unended : ∀ item ∈ rest, isMark item = false) :
    readEnded? isMark read? (values.flatMap (fun written => write written ++ [mark]) ++ rest) =
      some (values.map value) := by
  induction values with
  | nil => exact readEnded?_of_free read? unended
  | cons written values inductionHypothesis =>
      rw [List.flatMap_cons, List.append_assoc, List.append_assoc, List.singleton_append,
        readEnded?_append_mark (free written) isTrue (reads written), inductionHypothesis]
      rfl

end

/-! ### Reading lines -/

namespace Snapshot

/-- The entry that an item shows, without its tab. -/
def entry? : List Char → Option (UInt64 × UInt64)
  | 'I' :: 'D' :: ':' :: ' ' :: numbers =>
      match segments (· == ',') numbers with
      | [key, ' ' :: value] => do return (← word? key, ← word? value)
      | _ => none
  | _ => none

/-- The entries that a line shows, without its newline. -/
def entries? (line : List Char) : Option (List (UInt64 × UInt64)) :=
  readEnded? (· == '\t') entry? line

/-- The entries of the snapshots that a text shows in its whole lines. -/
def snapshots? (text : List Char) : Option (List (List (UInt64 × UInt64))) :=
  readEnded? (· == '\n') entries? text

/-- An item without its tab. -/
def itemFront (entry : UInt64 × UInt64) : List Char :=
  'I' :: 'D' :: ':' :: ' ' ::
    ((Nat.repr entry.1.toNat).toList ++ ',' :: ' ' :: (Nat.repr entry.2.toNat).toList)

/-- A line without its newline. -/
def lineFront (snapshot : Snapshot) : List Char :=
  snapshot.toList.flatMap fun entry => itemFront entry ++ ['\t']

theorem toList_item (entry : UInt64 × UInt64) :
    (item entry).toList = itemFront entry ++ ['\t'] := by
  simp [item, itemFront]

theorem toList_line (snapshot : Snapshot) :
    snapshot.line.toList = lineFront snapshot ++ ['\n'] := by
  simp [line, lineFront, List.flatMap_map, toList_item, String.toList_join]

/-! ### Marks are not inside -/

section

variable {mark : Char}

theorem free_of_repr (noDigit : mark.isDigit = false) (number : Nat) :
    ∀ char ∈ (Nat.repr number).toList, (char == mark) = false :=
  fun char member => beq_eq_false_iff_ne.mpr
    (ne_of_isDigit (isDigit_of_mem_repr number char member) noDigit)

theorem free_of_itemFront (noDigit : mark.isDigit = false)
    (other : ['I', 'D', ':', ' ', ','].contains mark = false) (entry : UInt64 × UInt64) :
    ∀ char ∈ itemFront entry, (char == mark) = false := by
  intro char member
  simp only [itemFront, List.mem_cons, List.mem_append] at member
  have key := free_of_repr noDigit entry.1.toNat char
  have value := free_of_repr noDigit entry.2.toNat char
  simp only [List.contains_eq_mem, decide_eq_false_iff_not, List.mem_cons, List.not_mem_nil,
    or_false, not_or] at other
  rw [beq_eq_false_iff_ne] at key value ⊢
  rintro rfl
  tauto

theorem newline_free_of_lineFront (snapshot : Snapshot) :
    ∀ char ∈ lineFront snapshot, (char == '\n') = false := by
  intro char member
  obtain ⟨entry, -, inItem⟩ := List.mem_flatMap.mp member
  rcases List.mem_append.mp inItem with front | tab
  · exact free_of_itemFront (by decide) (by decide) entry char front
  · rw [List.mem_singleton.mp tab]
    rfl

end

/-! ### What is read -/

theorem entry?_itemFront (entry : UInt64 × UInt64) : entry? (itemFront entry) = some entry := by
  have comma : ∀ char ∈ ' ' :: (Nat.repr entry.2.toNat).toList, (char == ',') = false :=
    List.forall_mem_cons.mpr ⟨rfl, free_of_repr rfl entry.2.toNat⟩
  have cut : segments (· == ',') ((Nat.repr entry.1.toNat).toList ++
        ',' :: ' ' :: (Nat.repr entry.2.toNat).toList) =
      [(Nat.repr entry.1.toNat).toList, ' ' :: (Nat.repr entry.2.toNat).toList] := by
    rw [segments_append_mark (free_of_repr rfl entry.1.toNat) rfl, segments_of_free comma]
  rw [itemFront, entry?, cut]
  simp only [word?_repr]
  rfl

theorem entries?_lineFront (snapshot : Snapshot) :
    entries? (lineFront snapshot) = some snapshot.toList := by
  have read := readEnded?_written (free_of_itemFront (by decide) (by decide))
    (beq_self_eq_true '\t') entry?_itemFront snapshot.toList (List.forall_mem_nil _)
  rwa [List.append_nil, List.map_id'] at read

/-- The lines of snapshots, with the beginning of another line behind them, are read as just these
snapshots. -/
theorem snapshots?_lines (snapshots : List Snapshot) {rest : List Char}
    (unended : ∀ char ∈ rest, (char == '\n') = false) :
    snapshots? (snapshots.flatMap (fun snapshot => snapshot.line.toList) ++ rest) =
      some (snapshots.map toList) := by
  simp only [toList_line]
  exact readEnded?_written newline_free_of_lineFront (beq_self_eq_true '\n') entries?_lineFront
    snapshots unended

theorem snapshots?_line (snapshot : Snapshot) :
    snapshots? snapshot.line.toList = some [snapshot.toList] := by
  have read : snapshots? ([snapshot].flatMap (fun snapshot => snapshot.line.toList) ++ []) = _ :=
    snapshots?_lines [snapshot] (List.forall_mem_nil _)
  rwa [List.flatMap_singleton, List.append_nil] at read

/-! ### Snapshots with the same line -/

variable {left right : Snapshot}

theorem toList_eq_iff :
    left.toList = right.toList ↔ ∀ key : UInt64, left.counts[key]? = right.counts[key]? := by
  constructor
  · intro same key
    refine Option.ext fun value => ?_
    rw [← Std.TreeMap.mem_toList_iff_getElem?_eq_some,
      ← Std.TreeMap.mem_toList_iff_getElem?_eq_some]
    show (key, value) ∈ left.toList ↔ (key, value) ∈ right.toList
    rw [same]
  · intro same
    exact (Std.TreeMap.Equiv.of_forall_constGet?_eq same).toList_eq

theorem line_eq_iff : left.line = right.line ↔ left.toList = right.toList := by
  constructor
  · intro same
    have both : some [left.toList] = some [right.toList] := by
      rw [← snapshots?_line, ← snapshots?_line, same]
    exact List.singleton_inj.mp (Option.some.inj both)
  · intro same
    rw [line, line, same]

/-- Lists of entries make the same line just when they give the same last value under each key. -/
theorem line_ofList_eq_iff {first second : List (UInt64 × UInt64)} :
    (ofList first).line = (ofList second).line ↔
      ∀ key, first.reverse.lookup key = second.reverse.lookup key := by
  simp only [line_eq_iff, toList_eq_iff, getElem?_ofList]

end Snapshot

end SyscallTally.Counter
