import Mathlib.Data.List.Forall2
import Mathlib.Data.List.ReduceOption
import SyscallTally.Proofs.Toml.Numbers
import SyscallTally.Proofs.Toml.Strings
import SyscallTally.Toml.Document

/-!
Owns the law of documents without headers: lines that each mean one thing are read as what they mean
(`linesWithin_flatten`), and assignments under different keys become the entries of the document in
their order (`document?_flatten`).

Assignments of written texts and of written integers are such lines.
-/

set_option autoImplicit false

namespace SyscallTally.Toml

/-! ### Written values -/

theorem written_front (text : List Char) :
    ∃ first body, written text = first :: body ∧ (first = '"' ∨ first = '\'') := by
  rw [written]
  cases styleOf text with
  | basic => exact ⟨'"', _, rfl, Or.inl rfl⟩
  | literal => exact ⟨'\'', _, rfl, Or.inr rfl⟩
  | basicLines => exact ⟨'"', _, rfl, Or.inl rfl⟩
  | literalLines => exact ⟨'\'', _, rfl, Or.inr rfl⟩

theorem value?_written (text rest : List Char) :
    value? (written text ++ '\n' :: rest) = some (.text text, '\n' :: rest) := by
  have unmarked : Unmarked ('\n' :: rest) := by
    constructor <;> simp
  have read := string?_written text unmarked
  obtain ⟨first, body, writtenEq, mark⟩ := written_front text
  have noArray : first ≠ '[' := by rcases mark with rfl | rfl <;> decide
  have noTable : first ≠ '\x7b' := by rcases mark with rfl | rfl <;> decide
  rw [writtenEq, List.cons_append] at read ⊢
  rw [value?, valueWithin_of_ne noArray noTable, scalarValue?, read]

/-! ### Lines -/

/-- A line, with its end, that means something whatever comes after it. -/
structure Means (line : List Char) (statement : Statement) : Prop where
  nonempty : line ≠ []
  reads : ∀ rest, line? (line ++ rest) = some (statement, rest)

/-- Lines are read one by one. -/
theorem linesWithin_flatten {lines : List (List Char)} {statements : List Statement}
    (meanings : List.Forall₂ Means lines statements) {limit : Nat}
    (enough : lines.flatten.length < limit) :
    linesWithin limit lines.flatten = some statements := by
  induction meanings generalizing limit with
  | nil =>
      obtain ⟨limit, rfl⟩ := Nat.exists_eq_add_of_lt enough
      rfl
  | @cons line statement lines statements meaning _ inductionHypothesis =>
      rw [List.flatten_cons, List.length_append] at enough
      have lineLength := List.length_pos_iff.mpr meaning.nonempty
      cases limit with
      | zero => omega
      | succ limit =>
          have read := meaning.reads lines.flatten
          rw [List.flatten_cons]
          obtain ⟨char, line, rfl⟩ := List.exists_cons_of_ne_nil meaning.nonempty
          rw [List.cons_append] at read ⊢
          rw [linesWithin, read]
          · have later : linesWithin limit lines.flatten = some statements :=
              inductionHypothesis (by omega)
            simp only [later, Option.map_some]
          · exact nofun

/-! ### Assignments -/

theorem skipSpaces_of_front {first : Char} (front : isSpace first = false) (rest : List Char) :
    skipSpaces (first :: rest) = first :: rest :=
  List.dropWhile_cons_of_neg (Bool.eq_false_iff.mp front)

theorem ne_of_isBare {char other : Char} (bare : isBare char = true)
    (otherwise : isBare other = false) : char ≠ other := by
  rintro rfl
  rw [bare] at otherwise
  cases otherwise

theorem isSpace_of_isBare {char : Char} (bare : isBare char = true) : isSpace char = false := by
  have noSpace : char ≠ ' ' := ne_of_isBare bare (by decide)
  have noTab : char ≠ '\t' := ne_of_isBare bare (by decide)
  simp [isSpace, noSpace, noTab]

section

variable {key : List Char} (bare : ∀ char ∈ key, isBare char = true) (named : key ≠ [])

include bare named

theorem key?_append {next : Char} (stop : isBare next = false) (rest : List Char) :
    key? (key ++ next :: rest) = some (key, next :: rest) := by
  have run : (key ++ next :: rest).takeWhile isBare = key := by
    rw [List.takeWhile_append_of_pos bare,
      List.takeWhile_cons_of_neg (Bool.eq_false_iff.mp stop), List.append_nil]
  obtain ⟨first, others, rfl⟩ := List.exists_cons_of_ne_nil named
  have firstBare := bare first List.mem_cons_self
  unfold key?
  split
  case h_1 same => exact absurd (List.cons.inj same).1 (ne_of_isBare firstBare (by decide))
  case h_2 same => exact absurd (List.cons.inj same).1 (ne_of_isBare firstBare (by decide))
  case h_3 =>
    simp only [run, List.isEmpty_cons, Bool.false_eq_true, if_false, List.drop_left]

theorem skipSpaces_append (rest : List Char) : skipSpaces (key ++ rest) = key ++ rest := by
  obtain ⟨first, others, rfl⟩ := List.exists_cons_of_ne_nil named
  exact skipSpaces_of_front (isSpace_of_isBare (bare first List.mem_cons_self)) (others ++ rest)

theorem keys?_append (rest : List Char) :
    keys? (key ++ ' ' :: '=' :: rest) = some ([key], '=' :: rest) := by
  show keysWithin (78 + 1) _ = _
  rw [keysWithin, skipSpaces_append bare named, key?_append bare named (by decide)]
  rfl

end

/-- A line that begins with a bare character is an assignment. -/
theorem lineBody?_of_isBare {first : Char} (bare : isBare first = true) (rest : List Char) :
    lineBody? (first :: rest) =
      (assignment? value? (first :: rest)).map fun read =>
        (.assign read.1.1 read.1.2, read.2) := by
  rw [lineBody?, skipSpaces_of_front (isSpace_of_isBare bare)]
  split
  case h_1 same => exact absurd (List.cons.inj same).1 (ne_of_isBare bare (by decide))
  case h_2 same => cases same
  case h_3 char others _ same =>
    obtain ⟨rfl, rfl⟩ := List.cons.inj same
    have noEnd : ¬(first = '#' ∨ first = '\n' ∨ first = '\r') := by
      rintro (rfl | rfl | rfl) <;> cases bare
    rw [if_neg noEnd]

/-- Whatever value is written after a bare key, the line assigns it to the key. -/
theorem means_assignmentLine {key value : List Char} {item : Item}
    (bare : ∀ char ∈ key, isBare char = true) (named : key ≠ [])
    (front : ∃ first body, value = first :: body ∧ isSpace first = false)
    (reads : ∀ rest, value? (value ++ '\n' :: rest) = some (item, '\n' :: rest)) :
    Means (assignmentLine key value) (.assign [key] item) where
  nonempty := by simp [assignmentLine]
  reads := fun rest => by
    have split : assignmentLine key value ++ rest =
        key ++ ' ' :: '=' :: ' ' :: (value ++ '\n' :: rest) := by
      simp [assignmentLine]
    have valueRead : value? (skipSpaces (' ' :: (value ++ '\n' :: rest))) =
        some (item, '\n' :: rest) := by
      obtain ⟨first, body, rfl, noSpace⟩ := front
      rw [← reads rest]
      exact congrArg value? (skipSpaces_of_front noSpace (body ++ '\n' :: rest))
    have assigned : assignment? value? (key ++ ' ' :: '=' :: ' ' :: (value ++ '\n' :: rest)) =
        some (([key], item), '\n' :: rest) := by
      rw [assignment?, keys?_append bare named]
      simp only [valueRead, Option.map_some]
    have body : lineBody? (key ++ ' ' :: '=' :: ' ' :: (value ++ '\n' :: rest)) =
        some (.assign [key] item, '\n' :: rest) := by
      obtain ⟨first, others, rfl⟩ := List.exists_cons_of_ne_nil named
      rw [List.cons_append] at assigned ⊢
      rw [lineBody?_of_isBare (bare first List.mem_cons_self), assigned]
      rfl
    rw [split, line?, body]
    rfl

/-! ### Documents -/

/-- Where no key occurs twice, every entry is what its key stands for. -/
theorem Entries.lookup_of_mem {entries : Entries} (distinct : (entries.map Prod.fst).Nodup) {key : Key}
    {item : Item} (member : (key, item) ∈ entries) : entries.lookup key = some item := by
  induction entries with
  | nil => cases member
  | cons entry entries inductionHypothesis =>
      rw [List.map_cons, List.nodup_cons] at distinct
      rw [List.lookup_cons]
      rcases List.mem_cons.mp member with rfl | member
      · rw [beq_self_eq_true]
      · have different : key ≠ entry.1 := fun same =>
          distinct.1 (List.mem_map.mpr ⟨(key, item), member, same⟩)
        rw [beq_eq_false_iff_ne.mpr different]
        exact inductionHypothesis distinct.2 member

/-- What a line without a header means: an assignment to one key, or nothing. -/
def Statement.ofEntry : Option (Key × Item) → Statement
  | none => .blank
  | some (key, item) => .assign [key] item

/-- Entries under different keys are added in their order. -/
theorem addAll_ofEntry {lines : List (Option (Key × Item))} {entries : Entries}
    (distinct : ((entries ++ lines.reduceOption).map Prod.fst).Nodup) :
    Draft.addAll (lines.map Statement.ofEntry) ⟨entries, []⟩ =
      some ⟨entries ++ lines.reduceOption, []⟩ := by
  induction lines generalizing entries with
  | nil => rw [List.map_nil, Draft.addAll, List.reduceOption_nil, List.append_nil]
  | cons line lines inductionHypothesis =>
      cases line with
      | none =>
          rw [List.reduceOption_cons_of_none] at distinct ⊢
          exact inductionHypothesis distinct
      | some entry =>
          obtain ⟨key, item⟩ := entry
          rw [List.reduceOption_cons_of_some] at distinct ⊢
          have absent : entries.lookup key = none := by
            rw [List.lookup_eq_none_iff]
            intro other member
            rw [List.map_append, List.map_cons, List.nodup_append] at distinct
            have apart := distinct.2.2 other.1 (List.mem_map_of_mem member) key List.mem_cons_self
            exact bne_iff_ne.mpr (Ne.symm apart)
          have added : Draft.add ⟨entries, []⟩ (.assign [key] item) =
              some ⟨entries ++ [(key, item)], []⟩ := by
            simp [Draft.add, Entries.within, Entries.assign, absent]
          rw [List.append_cons] at distinct
          rw [List.append_cons entries, ← inductionHypothesis distinct, List.map_cons,
            Statement.ofEntry, Draft.addAll, added]

/-- A document of assignments to different keys, with lines in between that say nothing, is the
table of these assignments. -/
theorem document?_flatten {texts : List (List Char)} {lines : List (Option (Key × Item))}
    (meanings : List.Forall₂ Means texts (lines.map Statement.ofEntry))
    (distinct : (lines.reduceOption.map Prod.fst).Nodup)
    (unmarked : texts.flatten.head? ≠ some '\uFEFF') :
    document? texts.flatten = some lines.reduceOption := by
  have noMark : withoutByteOrderMark texts.flatten = texts.flatten := by
    cases flat : texts.flatten with
    | nil => rfl
    | cons first rest =>
        rw [flat, List.head?_cons] at unmarked
        exact if_neg fun same => unmarked (congrArg some same)
  have read : lines? texts.flatten = some (lines.map Statement.ofEntry) :=
    linesWithin_flatten meanings (Nat.lt_succ_self _)
  have built : Draft.addAll (lines.map Statement.ofEntry) {} = some ⟨lines.reduceOption, []⟩ :=
    addAll_ofEntry distinct
  rw [document?, noMark, read]
  simp only [built, Option.map_some]

end SyscallTally.Toml
