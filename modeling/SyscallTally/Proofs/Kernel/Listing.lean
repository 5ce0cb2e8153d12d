import Mathlib.Data.Set.Basic
import SyscallTally.Proofs.Kernel.Symbols
import SyscallTally.Proofs.Text.Columns

/-!
Owns what a listing of symbols says, over all octets:

- a listing is read exactly if it is a text as a whole, although it is read line by line
  (`parse?_isSome_iff`);
- `exported`, the names in a text, are the third columns of its lines (`mem_exported`), and
  those of two texts with a newline between are those of both (`exported_append_newline`);
- so the layout of a listing does not matter (`listing_names_third_columns`).

Does not own: what the names are looked up for.
-/

set_option autoImplicit false

namespace SyscallTally.Kernel.Symbols

open SyscallTally.Text

/-! ### Lines of octets and lines of characters -/

/-- The octet of a newline is part of no other character. -/
theorem eq_newline_of_mem {char : Char} (member : newline ∈ String.utf8EncodeChar char) :
    char = '\n' := by
  have code : char.val.toNat = 10 := by
    rw [String.utf8EncodeChar] at member
    -- Of the four forms only that of a single octet has octets below 128.
    split at member
    · simp only [newline, List.mem_singleton, ← UInt8.toNat_inj, UInt8.toNat_ofNat',
        UInt8.reduceToNat] at member
      omega
    split at member
    · simp only [newline, List.mem_cons, List.not_mem_nil, or_false, ← UInt8.toNat_inj,
        UInt8.toNat_ofNat', UInt8.reduceToNat] at member
      omega
    split at member <;>
      · simp only [newline, List.mem_cons, List.not_mem_nil, or_false, ← UInt8.toNat_inj,
          UInt8.toNat_ofNat', UInt8.reduceToNat] at member
        omega
  exact Char.toNat_inj.mp code

theorem newline_not_mem_of {line : List Char} (free : '\n' ∉ line) :
    newline ∉ line.flatMap String.utf8EncodeChar := by
  intro member
  obtain ⟨char, inLine, inOctets⟩ := List.mem_flatMap.mp member
  exact free (eq_newline_of_mem inOctets ▸ inLine)

theorem chars?_flatMap (line : List Char) :
    Utf8.chars? (line.flatMap String.utf8EncodeChar) = some line :=
  Utf8.mapM_char?_eq_some_iff.mpr (Utf8.pieces_flatMap_encodeChar line)

theorem mapM_chars?_map (lines : List (List Char)) :
    (lines.map (·.flatMap String.utf8EncodeChar)).mapM Utf8.chars? = some lines := by
  induction lines with
  | nil => rfl
  | cons line lines inductionHypothesis =>
      rw [List.map_cons, List.mapM_cons, chars?_flatMap, inductionHypothesis]
      rfl

/-- No newline is left in a line. -/
theorem newline_not_mem_line {chars line : List Char} (isLine : line ∈ chars.splitOn '\n') :
    '\n' ∉ line := by
  rw [List.splitOn_eq_splitOnP, ← segments_eq_splitOnP] at isLine
  intro member
  exact Bool.false_ne_true ((isSeparator_of_mem_segments isLine _ member).symm.trans
    (beq_self_eq_true '\n'))

theorem segments_encode (text : String) :
    segments (· == newline) (Utf8.encode text) =
      (text.toList.splitOn '\n').map (·.flatMap String.utf8EncodeChar) := by
  have joined : ([newline] : Octets).intercalate
      ((text.toList.splitOn '\n').map (·.flatMap String.utf8EncodeChar)) = Utf8.encode text := by
    rw [intercalate_of_chars? (mapM_chars?_map _), List.intercalate_splitOn, Utf8.encode]
  have free : ∀ octets ∈ (text.toList.splitOn '\n').map (·.flatMap String.utf8EncodeChar),
      newline ∉ octets := by
    intro octets member
    obtain ⟨line, isLine, rfl⟩ := List.mem_map.mp member
    exact newline_not_mem_of (newline_not_mem_line isLine)
  have lines : (text.toList.splitOn '\n').map (·.flatMap String.utf8EncodeChar) ≠ [] :=
    mt List.map_eq_nil_iff.mp (List.splitOn_ne_nil _ _)
  -- Lists without newlines are recovered from what they make when joined by newlines.
  rw [segments_eq_splitOnP, ← List.splitOn_eq_splitOnP, ← joined]
  exact List.splitOn_intercalate newline free lines

theorem parse?_encode (text : String) :
    parse? (Utf8.encode text) = some ⟨(text.toList.splitOn '\n').filterMap nameOfLine?⟩ := by
  rw [parse?, segments_encode, mapM_chars?_map, Option.map_some]

theorem parse?_isSome_iff {listing : Octets} :
    (parse? listing).isSome ↔ ∃ text, Utf8.encode text = listing := by
  constructor
  · intro read
    obtain ⟨symbols, parsed⟩ := Option.isSome_iff_exists.mp read
    exact exists_text_of_parse? parsed
  · rintro ⟨text, rfl⟩
    rw [parse?_encode]
    rfl

/-! ### Names -/

/-- The names in a text that lists symbols. -/
def exported (text : String) : Set String :=
  {name | ∃ symbols, parse? (Utf8.encode text) = some symbols ∧ symbols.contains name = true}

theorem nameOfLine?_eq_some_iff {line : List Char} {name : String} :
    nameOfLine? line = some name ↔ (tokens isBlank line)[2]? = some name.toList := by
  rw [nameOfLine?, Option.map_eq_some_iff]
  constructor
  · rintro ⟨column, found, rfl⟩
    rwa [String.toList_ofList]
  · intro found
    exact ⟨name.toList, found, String.ofList_toList⟩

theorem mem_exported {text name : String} :
    name ∈ exported text ↔
      ∃ line ∈ text.toList.splitOn '\n', (tokens isBlank line)[2]? = some name.toList := by
  simp only [exported, Set.mem_ofPred_eq, parse?_encode, Option.some.injEq, exists_eq_left',
    contains, List.contains_iff_mem, List.mem_filterMap, nameOfLine?_eq_some_iff]

theorem mem_exported_iff_columns {text name : String} :
    name ∈ exported text ↔ ∃ line ∈ text.toList.splitOn '\n',
      ∃ words, Columns line words ∧ words[2]? = some name.toList := by
  simp only [mem_exported, columns_iff, exists_eq_left']

theorem mem_exported_iff_contains {text name : String} {symbols : Symbols}
    (parsed : parse? (Utf8.encode text) = some symbols) :
    name ∈ exported text ↔ symbols.contains name = true := by
  simp only [exported, Set.mem_ofPred_eq, parsed, Option.some.injEq, exists_eq_left']

/-- The names in a line by itself. -/
theorem mem_exported_line {line name : String} (free : '\n' ∉ line.toList) :
    name ∈ exported line ↔ (tokens isBlank line.toList)[2]? = some name.toList := by
  rw [mem_exported, List.splitOn_eq_singleton free]
  simp only [List.mem_singleton, exists_eq_left]

theorem exported_append_newline (first second : String) :
    exported (first ++ "\n" ++ second) = exported first ∪ exported second := by
  ext name
  have lines : (first ++ "\n" ++ second).toList.splitOn '\n' =
      first.toList.splitOn '\n' ++ second.toList.splitOn '\n' := by
    rw [String.toList_append, String.toList_append, List.append_assoc]
    exact List.splitOn_append_cons_self _ _
  simp only [Set.mem_union, mem_exported, lines, List.mem_append, or_and_right, exists_or]

theorem exported_empty : exported "" = ∅ := by
  ext name
  rw [mem_exported_line (by simp)]
  simp [tokens_nil]

theorem exported_intercalate (texts : List String) :
    exported ("\n".intercalate texts) = {name | ∃ text ∈ texts, name ∈ exported text} := by
  induction texts with
  | nil => simp [exported_empty]
  | cons text texts inductionHypothesis =>
      cases texts with
      | nil => simp
      | cons next texts =>
          rw [String.intercalate_cons_cons, exported_append_newline, inductionHypothesis]
          ext name
          simp

theorem exists_last_line (chars : List Char) :
    ∃ line, '\n' ∉ line ∧ (chars = line ∨ ∃ front, chars = front ++ '\n' :: line) := by
  induction chars with
  | nil => exact ⟨[], List.not_mem_nil, .inl rfl⟩
  | cons char chars inductionHypothesis =>
      obtain ⟨line, free, rfl | ⟨front, rfl⟩⟩ := inductionHypothesis
      · by_cases isNewline : char = '\n'
        · exact ⟨chars, free, .inr ⟨[], by rw [isNewline, List.nil_append]⟩⟩
        · exact ⟨char :: chars, List.not_mem_cons_of_ne_of_not_mem (Ne.symm isNewline) free,
            .inl rfl⟩
      · exact ⟨line, free, .inr ⟨char :: front, rfl⟩⟩

/-- White space behind the last line of a text changes no name. -/
theorem exported_append_blank {gap : String} (free : '\n' ∉ gap.toList)
    (blank : ∀ char ∈ gap.toList, isBlank char = true) (text : String) :
    exported (text ++ gap) = exported text := by
  have sameTokens (line : List Char) :
      tokens isBlank (line ++ gap.toList) = tokens isBlank line := by
    rw [tokens_append_gap (fun char first => blank char (List.mem_of_head? first)),
      tokens_gap blank, List.append_nil]
  obtain ⟨line, lineFree, last⟩ := exists_last_line text.toList
  have longerFree : '\n' ∉ line ++ gap.toList := by
    rw [List.mem_append, not_or]
    exact ⟨lineFree, free⟩
  ext name
  rw [mem_exported, mem_exported, String.toList_append]
  rcases last with whole | ⟨front, split⟩
  · rw [whole, List.splitOn_eq_singleton lineFree, List.splitOn_eq_singleton longerFree]
    simp only [List.mem_singleton, exists_eq_left, sameTokens]
  · rw [split, List.append_assoc, List.cons_append, List.splitOn_append_cons_self,
      List.splitOn_append_cons_self, List.splitOn_eq_singleton lineFree,
      List.splitOn_eq_singleton longerFree]
    simp only [List.mem_append, List.mem_singleton, or_and_right, exists_or, exists_eq_left,
      sameTokens]

/-- What stands behind the third column of a line is no name. -/
theorem exported_append_columns {line more : String} (lineFree : '\n' ∉ line.toList)
    (moreFree : '\n' ∉ more.toList)
    (ends : ∀ char, more.toList.head? = some char → isBlank char = true)
    (full : 3 ≤ (tokens isBlank line.toList).length) :
    exported (line ++ more) = exported line := by
  ext name
  have longerFree : '\n' ∉ (line ++ more).toList := by
    rw [String.toList_append, List.mem_append, not_or]
    exact ⟨lineFree, moreFree⟩
  rw [mem_exported_line lineFree, mem_exported_line longerFree, String.toList_append,
    tokens_append_gap ends, List.getElem?_append_left full]

theorem exported_of_short {line : String} (free : '\n' ∉ line.toList)
    (short : (tokens isBlank line.toList).length < 3) : exported line = ∅ := by
  ext name
  rw [mem_exported_line free, List.getElem?_eq_none (Nat.le_of_lt_succ short)]
  simp

/-- A name is not empty, and there is no white space in it. -/
theorem solid_of_mem_exported {text name : String} (listed : name ∈ exported text) :
    name ≠ "" ∧ ∀ char ∈ name.toList, isBlank char = false := by
  obtain ⟨line, -, column⟩ := mem_exported.mp listed
  obtain ⟨filled, solid⟩ := mem_tokens (List.mem_of_getElem? column)
  refine ⟨?_, solid⟩
  rintro rfl
  exact filled String.toList_empty

/-! ### The whole listing -/

/-- A listing is read exactly if it is well-formed text as a whole. Its names are the third columns
of its lines, and the names of two texts with a newline between are those of both. So the order of
texts, and how often one stands there, do not matter, nor do lines with fewer columns, carriage
returns in front of newlines, further columns, and a last newline. A name is never empty and has no
white space in it. -/
theorem listing_names_third_columns :
    (∀ listing, (parse? listing).isSome ↔ ∃ text, Utf8.encode text = listing) ∧
    (∀ text name, name ∈ exported text ↔ ∃ line ∈ text.toList.splitOn '\n',
      ∃ words, Columns line words ∧ words[2]? = some name.toList) ∧
    (∀ first second, exported (first ++ "\n" ++ second) = exported first ∪ exported second) ∧
    (∀ texts others : List String, (∀ text, text ∈ texts ↔ text ∈ others) →
      exported ("\n".intercalate texts) = exported ("\n".intercalate others)) ∧
    (∀ first line second words, '\n' ∉ line.toList → Columns line.toList words →
      words.length < 3 →
      exported (first ++ "\n" ++ line ++ "\n" ++ second) =
        exported (first ++ "\n" ++ second)) ∧
    (∀ first second, exported (first ++ "\r\n" ++ second) =
      exported (first ++ "\n" ++ second)) ∧
    (∀ line more words, '\n' ∉ line.toList → '\n' ∉ more.toList →
      Columns line.toList words → 3 ≤ words.length →
      (∀ char, more.toList.head? = some char → isBlank char = true) →
      exported (line ++ more) = exported line) ∧
    (∀ text, exported (text ++ "\n") = exported text) ∧
    (∀ text, ∀ name ∈ exported text,
      name ≠ "" ∧ ∀ char ∈ name.toList, isBlank char = false) := by
  refine ⟨fun _ => parse?_isSome_iff, fun _ _ => mem_exported_iff_columns,
    exported_append_newline, ?_, ?_, ?_, ?_, ?_, fun _ _ => solid_of_mem_exported⟩
  · intro texts others same
    simp only [exported_intercalate, same]
  · intro first line second words free columns short
    rw [← columns.tokens_eq] at short
    rw [exported_append_newline, exported_append_newline, exported_append_newline,
      exported_of_short free short, Set.union_empty]
  · intro first second
    have mark : "\r\n" = "\r" ++ "\n" := by decide
    have returns : "\r".toList = ['\r'] := rfl
    have free : '\n' ∉ "\r".toList := by
      rw [returns]
      decide
    have blank : ∀ char ∈ "\r".toList, isBlank char = true := by
      rw [returns]
      exact List.forall_mem_singleton.mpr rfl
    rw [mark, ← String.append_assoc, exported_append_newline, exported_append_newline,
      exported_append_blank free blank]
  · intro line more words lineFree moreFree columns full ends
    rw [← columns.tokens_eq] at full
    exact exported_append_columns lineFree moreFree ends full
  · intro text
    have closed := exported_append_newline text ""
    rwa [exported_empty, Set.union_empty, String.append_empty] at closed

end SyscallTally.Kernel.Symbols
