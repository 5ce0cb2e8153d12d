import SyscallTally.Toml.Strings
import SyscallTally.Toml.Writer

/-!
Owns the law of written texts: in whichever of its forms a text is written, it is read back as it
was, and the reader stops where the form ends (`string?_written`).

The forms on several lines need care at quotation marks, where the reader counts the whole run
before it decides. The inside of a form never has three marks in a row, so a run of three or more
can only be one that the closing marks end.
-/

set_option autoImplicit false

namespace SyscallTally.Toml

/-! ### Escapes -/

theorem hexDigit?_hexUpperDigit {digit : Nat} (small : digit < 16) :
    hexDigit? (Text.Quoted.hexUpperDigit digit) = some digit := by
  revert digit
  decide

theorem hexNumber?_fourHex {code : Nat} (small : code < 65536) (rest : List Char) :
    hexNumber? 4 0 (fourHex code ++ rest) = some code := by
  have isDigit (value : Nat) :
      hexDigit? (Text.Quoted.hexUpperDigit (value % 16)) = some (value % 16) :=
    hexDigit?_hexUpperDigit (Nat.mod_lt value (by omega))
  simp only [fourHex, List.map_cons, List.map_nil, List.cons_append, List.nil_append, hexNumber?,
    isDigit, Option.some.injEq]
  omega

theorem scalar?_toNat (char : Char) (low : char.toNat < 0xD800) :
    scalar? char.toNat = some char := by
  rw [scalar?, if_pos (Or.inl low), Char.ofNat_toNat]

theorem isPrintable_of_not_isControl {char : Char} (free : isControl char = false)
    (inLine : char ≠ '\n') : isPrintable char = true := by
  simp only [isControl, Bool.or_eq_false_iff, Bool.and_eq_false_iff, decide_eq_false_iff_not,
    bne_eq_false_iff_eq, beq_eq_false_iff_ne] at free
  simp only [isPrintable, isWide, Bool.or_eq_true, Bool.and_eq_true, decide_eq_true_eq]
  obtain ⟨(high | isTab) | isNewline, notDelete⟩ := free
  · rcases Nat.lt_or_ge char.toNat 0x80 with narrow | wide
    · exact Or.inl (Or.inr (by omega))
    · exact Or.inr wide
  · exact Or.inl (Or.inl isTab)
  · exact absurd isNewline inLine

/-- A character in a basic form stands for itself, or is escaped. -/
theorem escaped_cases {char : Char} (inLine : char ≠ '\n') :
    (escaped char = [char] ∧ isPrintable char = true ∧ char ≠ '\\' ∧ char ≠ '\r') ∨
      ∃ body, escaped char = '\\' :: body ∧
        ∀ rest, escape? (body ++ rest) = some (char, body.length) := by
  unfold escaped
  split
  case isTrue charEq => exact Or.inr ⟨['\\'], rfl, fun rest => by rw [charEq]; rfl⟩
  case isFalse notBackslash =>
    split
    case isTrue charEq => exact Or.inr ⟨['b'], rfl, fun rest => by rw [charEq]; rfl⟩
    split
    case isTrue charEq => exact Or.inr ⟨['t'], rfl, fun rest => by rw [charEq]; rfl⟩
    split
    case isTrue charEq => exact Or.inr ⟨['f'], rfl, fun rest => by rw [charEq]; rfl⟩
    split
    case isTrue charEq => exact Or.inr ⟨['r'], rfl, fun rest => by rw [charEq]; rfl⟩
    case isFalse notReturn =>
      split
      case isTrue control =>
        have low : char.toNat < 0x80 := by
          simp only [isControl, Bool.or_eq_true, Bool.and_eq_true, decide_eq_true_eq,
            beq_iff_eq] at control
          omega
        refine Or.inr ⟨'u' :: fourHex char.toNat, rfl, fun rest => ?_⟩
        rw [List.cons_append, escape?, hexNumber?_fourHex (by omega), Option.bind_some,
          scalar?_toNat char (by omega)]
        rfl
      case isFalse free =>
        exact Or.inl ⟨rfl, isPrintable_of_not_isControl (Bool.eq_false_iff.mpr free) inLine,
          notBackslash, notReturn⟩

/-! ### Readers of basic forms -/

/-- What the two readers of basic strings have in common: they skip what an escape has taken, and
take a plain character for itself. -/
structure ReadsBasic (read : Nat → Reader (List Char)) : Prop where
  skips : ∀ skipped char rest, read (skipped + 1) (char :: rest) = read skipped rest
  unescapes : ∀ rest char taken, escape? rest = some (char, taken) →
    read 0 ('\\' :: rest) = (read taken rest).map (consRead char)
  prints : ∀ char rest, char ≠ '"' → char ≠ '\\' → char ≠ '\n' → char ≠ '\r' →
    isPrintable char = true → read 0 (char :: rest) = (read 0 rest).map (consRead char)

theorem readsBasic_basicBody : ReadsBasic basicBody where
  skips := fun _ _ _ => rfl
  unescapes := by
    intro rest char taken escape
    rw [basicBody, if_neg (by decide), if_pos rfl, escape]
  prints := by
    intro char rest notQuote notBackslash _ _ printable
    rw [basicBody, if_neg notQuote, if_neg notBackslash, if_pos printable]

theorem readsBasic_basicLines : ReadsBasic basicLines where
  skips := fun _ _ _ => rfl
  unescapes := by
    intro rest char taken escape
    rw [basicLines, if_neg (by decide), if_pos rfl, escape]
  prints := by
    intro char rest notQuote notBackslash notNewline notReturn printable
    rw [basicLines, if_neg notQuote, if_neg notBackslash, if_neg notNewline, if_neg notReturn,
      if_pos printable]

namespace ReadsBasic

variable {read : Nat → Reader (List Char)} (basic : ReadsBasic read)
  {char : Char} {rest text left : List Char}

include basic

theorem skip (taken rest : List Char) : read taken.length (taken ++ rest) = read 0 rest := by
  induction taken with
  | nil => rfl
  | cons char taken inductionHypothesis =>
      rw [List.length_cons, List.cons_append, basic.skips, inductionHypothesis]

theorem of_escape (body : List Char)
    (escape : escape? (body ++ rest) = some (char, body.length))
    (after : read 0 rest = some (text, left)) :
    read 0 ('\\' :: (body ++ rest)) = some (char :: text, left) := by
  rw [basic.unescapes (body ++ rest) char body.length escape, basic.skip, after]
  rfl

theorem of_escaped (notQuote : char ≠ '"') (notNewline : char ≠ '\n')
    (after : read 0 rest = some (text, left)) :
    read 0 (escaped char ++ rest) = some (char :: text, left) := by
  rcases escaped_cases notNewline with
    ⟨itself, printable, notBackslash, notReturn⟩ | ⟨body, escape, escapes⟩
  · rw [itself, List.singleton_append,
      basic.prints char rest notQuote notBackslash notNewline notReturn printable, after]
    rfl
  · rw [escape, List.cons_append]
    exact basic.of_escape body (escapes rest) after

end ReadsBasic

/-! ### Forms on one line -/

theorem basicBody_basicInside (text rest : List Char) :
    basicBody 0 (basicInside text ++ '"' :: rest) = some (text, rest) := by
  induction text with
  | nil => rfl
  | cons char text inductionHypothesis =>
      rw [basicInside]
      split
      case isTrue charEq =>
        rw [charEq]
        exact readsBasic_basicBody.of_escape ['"'] rfl inductionHypothesis
      split
      case isTrue charEq =>
        rw [charEq]
        exact readsBasic_basicBody.of_escape ['n'] rfl inductionHypothesis
      case isFalse notQuote inLine =>
        rw [List.append_assoc]
        exact readsBasic_basicBody.of_escaped notQuote inLine inductionHypothesis

theorem literalBody_append {text : List Char} (free : ∀ char ∈ text, isControl char = false)
    (inLine : '\n' ∉ text) (unquoted : '\'' ∉ text) (rest : List Char) :
    literalBody (text ++ '\'' :: rest) = some (text, rest) := by
  induction text with
  | nil => rfl
  | cons char text inductionHypothesis =>
      simp only [List.mem_cons, not_or] at inLine unquoted
      have printable : isPrintable char = true :=
        isPrintable_of_not_isControl (free char List.mem_cons_self) (Ne.symm inLine.1)
      rw [List.cons_append, literalBody, if_neg (Ne.symm unquoted.1), if_pos printable,
        inductionHypothesis (fun other member => free other (List.mem_cons_of_mem char member))
          inLine.2 unquoted.2]
      rfl

/-! ### Runs of marks -/

theorem runLength_cons_self (mark : Char) (rest : List Char) :
    runLength mark (mark :: rest) = runLength mark rest + 1 := by
  rw [runLength, List.takeWhile_cons_of_pos (by simp), List.length_cons, runLength]

theorem runLength_cons_of_ne {mark char : Char} (other : char ≠ mark) (rest : List Char) :
    runLength mark (char :: rest) = 0 := by
  rw [runLength, List.takeWhile_cons_of_neg (by simp [other]), List.length_nil]

theorem runLength_le_length (mark : Char) (text : List Char) :
    runLength mark text ≤ text.length :=
  (List.takeWhile_prefix _).length_le

theorem runLength_of_head {mark : Char} {rest : List Char} (unmarked : rest.head? ≠ some mark) :
    runLength mark rest = 0 := by
  cases rest with
  | nil => rfl
  | cons char rest =>
      exact runLength_cons_of_ne (fun same => unmarked (by rw [same, List.head?_cons])) rest

theorem runLength_replicate_append (mark : Char) (count : Nat) (rest : List Char) :
    runLength mark (List.replicate count mark ++ rest) = count + runLength mark rest := by
  induction count with
  | zero => rw [List.replicate_zero, List.nil_append, Nat.zero_add]
  | succ count inductionHypothesis =>
      rw [List.replicate_succ, List.cons_append, runLength_cons_self, inductionHypothesis]
      omega

/-- A run goes on after a text only if the text is nothing but marks. -/
theorem runLength_append (mark : Char) (text rest : List Char) :
    runLength mark (text ++ rest) = runLength mark text ∨
      text = List.replicate (runLength mark text) mark := by
  induction text with
  | nil => exact Or.inr rfl
  | cons char text inductionHypothesis =>
      by_cases same : char = mark
      · rw [same, List.cons_append, runLength_cons_self, runLength_cons_self, List.replicate_succ]
        rcases inductionHypothesis with inner | allMarks
        · exact Or.inl (by rw [inner])
        · exact Or.inr (congrArg _ allMarks)
      · rw [List.cons_append, runLength_cons_of_ne same, runLength_cons_of_ne same]
        exact Or.inl rfl

/-- A text with its closing marks. -/
def closed (mark : Char) (text rest : List Char) : List Char :=
  text ++ mark :: mark :: mark :: rest

/-- The closing marks alone end a text. -/
theorem run_closing {mark : Char} {rest : List Char} (unmarked : rest.head? ≠ some mark) :
    runLength mark (mark :: mark :: mark :: rest) = 3 ∧
      closeRun mark 3 (mark :: mark :: mark :: rest) = ([], rest) := by
  rw [runLength_cons_self, runLength_cons_self, runLength_cons_self, runLength_of_head unmarked]
  exact ⟨rfl, rfl⟩

/-- At a run of at most two marks in front of a closed text, either the run is too short to end it,
or the text is over with it. -/
theorem run_closed {mark : Char} {text rest : List Char} (few : runLength mark text ≤ 2)
    (unmarked : rest.head? ≠ some mark) :
    runLength mark (closed mark text rest) < 3 ∨
      (text = List.replicate (runLength mark text) mark ∧
        3 ≤ runLength mark (closed mark text rest) ∧
        closeRun mark (runLength mark (closed mark text rest)) (closed mark text rest) =
          (text, rest)) := by
  rcases runLength_append mark text (mark :: mark :: mark :: rest) with inner | allMarks
  · exact Or.inl (by rw [closed, inner]; omega)
  · right
    have lengthEq : runLength mark (closed mark text rest) = runLength mark text + 3 := by
      conv => lhs; rw [closed, allMarks]
      rw [runLength_replicate_append, runLength_cons_self, runLength_cons_self,
        runLength_cons_self, runLength_of_head unmarked]
    refine ⟨allMarks, by omega, ?_⟩
    have keptEq : min 2 (runLength mark text + 3 - 3) = runLength mark text := by omega
    have textLength : text.length = runLength mark text := by
      conv => lhs; rw [allMarks, List.length_replicate]
    rw [lengthEq, closeRun, keptEq, ← allMarks, closed, ← textLength, List.drop_length_add_append]
    rfl

/-! ### Literal forms on several lines -/

theorem hasTriple_tail {mark char : Char} {text : List Char}
    (single : hasTriple mark (char :: text) = false) : hasTriple mark text = false := by
  match text with
  | [] | [_] => rfl
  | second :: third :: rest =>
      rw [hasTriple, Bool.or_eq_false_iff] at single
      exact single.2

theorem runLength_of_hasTriple {mark : Char} {text : List Char}
    (single : hasTriple mark text = false) : runLength mark text ≤ 2 := by
  match text with
  | [] => exact Nat.zero_le 2
  | [first] => exact Nat.le_succ_of_le (runLength_le_length mark [first])
  | [first, second] => exact runLength_le_length mark [first, second]
  | first :: second :: third :: rest =>
      by_cases firstEq : first = mark
      case neg =>
        rw [runLength_cons_of_ne firstEq]
        exact Nat.zero_le 2
      by_cases secondEq : second = mark
      case neg =>
        rw [firstEq, runLength_cons_self, runLength_cons_of_ne secondEq]
        omega
      have thirdNe : third ≠ mark := by
        rintro rfl
        simp [hasTriple, firstEq, secondEq] at single
      have lengthEq : runLength mark (first :: second :: third :: rest) = 2 := by
        rw [firstEq, secondEq, runLength_cons_self, runLength_cons_self,
          runLength_cons_of_ne thirdNe]
      exact Nat.le_of_eq lengthEq

theorem literalLines_closed {text : List Char} (free : ∀ char ∈ text, isControl char = false)
    (single : hasTriple '\'' text = false) {rest : List Char}
    (unmarked : rest.head? ≠ some '\'') :
    literalLines 0 (closed '\'' text rest) = some (text, rest) := by
  induction text with
  | nil =>
      obtain ⟨lengthEq, ends⟩ := run_closing unmarked
      rw [closed, List.nil_append, literalLines, if_pos rfl, lengthEq, if_pos (Nat.le_refl 3),
        ends]
  | cons char text inductionHypothesis =>
      have read := inductionHypothesis
        (fun other member => free other (List.mem_cons_of_mem char member))
        (hasTriple_tail single)
      by_cases isMark : char = '\''
      case pos =>
        rw [isMark] at single ⊢
        have atMark : closed '\'' ('\'' :: text) rest = '\'' :: closed '\'' text rest := rfl
        rcases run_closed (runLength_of_hasTriple single) unmarked with short | ⟨-, long, ends⟩
        · rw [atMark] at short ⊢
          rw [literalLines, if_pos rfl, if_neg (Nat.not_le.mpr short), read]
          rfl
        · rw [atMark] at long ends ⊢
          rw [literalLines, if_pos rfl, if_pos long, ends]
      case neg =>
        rw [closed, List.cons_append, literalLines, if_neg isMark, ← closed, read]
        by_cases isNewline : char = '\n'
        · rw [if_pos isNewline, isNewline]
          rfl
        · have notControl := free char List.mem_cons_self
          have notReturn : char ≠ '\r' := by
            rintro rfl
            cases notControl
          rw [if_neg isNewline, if_neg notReturn,
            if_pos (isPrintable_of_not_isControl notControl isNewline)]
          rfl

/-! ### Basic forms on several lines -/

/-- An escaped character begins no run of marks, no newline and no carriage return. -/
theorem escaped_front {char : Char} (notQuote : char ≠ '"') (notNewline : char ≠ '\n') :
    ∃ first body, escaped char = first :: body ∧ first ≠ '"' ∧ first ≠ '\n' ∧ first ≠ '\r' := by
  rcases escaped_cases notNewline with ⟨itself, -, -, notReturn⟩ | ⟨body, escape, -⟩
  · exact ⟨char, [], itself, notQuote, notNewline, notReturn⟩
  · exact ⟨'\\', body, escape, by decide, by decide, by decide⟩

/-- After some marks, so many may follow that there are two in a row. -/
theorem runLength_basicLinesInside {run : Nat} (few : run ≤ 2) (text : List Char) :
    run + runLength '"' (basicLinesInside run text) ≤ 2 := by
  induction text generalizing run with
  | nil => exact few
  | cons char text inductionHypothesis =>
      rw [basicLinesInside]
      split
      case isTrue isMark =>
        split
        case isTrue room =>
          rw [runLength_cons_self]
          have later : run + 1 + runLength '"' (basicLinesInside (run + 1) text) ≤ 2 :=
            inductionHypothesis room
          omega
        case isFalse => exact few
      split
      case isTrue => exact few
      case isFalse notQuote notNewline =>
        obtain ⟨first, body, escape, notMark, -, -⟩ := escaped_front notQuote notNewline
        rw [escape, List.cons_append, runLength_cons_of_ne notMark]
        exact few

/-- Marks that are written as they are stand for themselves. -/
theorem eq_of_basicLinesInside_marks {run count : Nat} {text : List Char}
    (allMarks : basicLinesInside run text = List.replicate count '"') :
    text = List.replicate count '"' := by
  induction text generalizing run count with
  | nil => exact allMarks
  | cons char text inductionHypothesis =>
      rw [basicLinesInside] at allMarks
      cases count with
      | zero =>
          split at allMarks
          case isTrue => split at allMarks <;> cases allMarks
          split at allMarks
          case isTrue => cases allMarks
          case isFalse notQuote notNewline =>
            obtain ⟨first, body, escape, -⟩ := escaped_front notQuote notNewline
            rw [escape] at allMarks
            cases allMarks
      | succ count =>
          rw [List.replicate_succ] at allMarks ⊢
          split at allMarks
          case isTrue isMark =>
            split at allMarks
            case isTrue =>
              rw [isMark, inductionHypothesis (List.cons.inj allMarks).2]
            case isFalse => exact absurd (List.cons.inj allMarks).1 (by decide)
          split at allMarks
          case isTrue => exact absurd (List.cons.inj allMarks).1 (by decide)
          case isFalse notQuote notNewline =>
            obtain ⟨first, body, escape, notMark, -⟩ := escaped_front notQuote notNewline
            rw [escape] at allMarks
            exact absurd (List.cons.inj allMarks).1 notMark

theorem basicLines_closed {run : Nat} (few : run ≤ 2) (text : List Char) {rest : List Char}
    (unmarked : rest.head? ≠ some '"') :
    basicLines 0 (closed '"' (basicLinesInside run text) rest) = some (text, rest) := by
  induction text generalizing run with
  | nil =>
      obtain ⟨lengthEq, ends⟩ := run_closing unmarked
      rw [closed, basicLinesInside, List.nil_append, basicLines, if_pos rfl, lengthEq,
        if_pos (Nat.le_refl 3), ends]
  | cons char text inductionHypothesis =>
      by_cases isMark : char = '"'
      case pos =>
        subst isMark
        by_cases room : run < 2
        case pos =>
          have inside : basicLinesInside run ('"' :: text) =
              '"' :: basicLinesInside (run + 1) text := by
            rw [basicLinesInside, if_pos rfl, if_pos room]
          have shortRun : runLength '"' (basicLinesInside run ('"' :: text)) ≤ 2 :=
            Nat.le_trans (Nat.le_add_left _ run) (runLength_basicLinesInside few _)
          have atMark : closed '"' (basicLinesInside run ('"' :: text)) rest =
              '"' :: closed '"' (basicLinesInside (run + 1) text) rest := by
            rw [inside]
            rfl
          rcases run_closed shortRun unmarked with short | ⟨allMarks, long, ends⟩
          · rw [atMark] at short ⊢
            rw [basicLines, if_pos rfl, if_neg (Nat.not_le.mpr short), inductionHypothesis room]
            rfl
          · have itself : '"' :: text = basicLinesInside run ('"' :: text) :=
              (eq_of_basicLinesInside_marks allMarks).trans allMarks.symm
            rw [atMark] at long ends ⊢
            rw [basicLines, if_pos rfl, if_pos long, ends, ← itself]
        case neg =>
          rw [basicLinesInside, if_pos rfl, if_neg room]
          exact readsBasic_basicLines.of_escape ['"'] rfl (inductionHypothesis (Nat.zero_le 2))
      case neg =>
        have read : basicLines 0 (closed '"' (basicLinesInside 0 text) rest) = some (text, rest) :=
          inductionHypothesis (Nat.zero_le 2)
        rw [basicLinesInside, if_neg isMark]
        split
        case isTrue isNewline =>
          rw [isNewline, closed, List.cons_append, basicLines, if_neg (by decide),
            if_neg (by decide), if_pos rfl, ← closed, read]
          rfl
        case isFalse notNewline =>
          rw [closed, List.append_assoc]
          exact readsBasic_basicLines.of_escaped isMark notNewline read

/-! ### Written texts -/

/-- What may stand after a written text: no quotation mark of either kind. -/
def Unmarked (rest : List Char) : Prop :=
  rest.head? ≠ some '"' ∧ rest.head? ≠ some '\''

theorem trimFirstLine_of_front {first : Char} (notNewline : first ≠ '\n') (notReturn : first ≠ '\r')
    (rest : List Char) : trimFirstLine (first :: rest) = first :: rest := by
  have none : newline? (first :: rest) = none := by
    unfold newline?
    split
    case h_1 same => exact absurd (List.cons.inj same).1 notNewline
    case h_2 same => exact absurd (List.cons.inj same).1 notReturn
    case h_3 => rfl
  rw [trimFirstLine, none, Option.getD_none]

/-- The newline of an opening is dropped, and nothing else is. -/
theorem trimFirstLine_opening {text inside : List Char}
    (front : '\n' ∉ text → ∃ first body, inside = first :: body ∧ first ≠ '\n' ∧ first ≠ '\r') :
    trimFirstLine (opening text ++ inside) = inside := by
  by_cases broken : '\n' ∈ text
  case pos =>
    rw [opening, if_pos (List.contains_iff_mem.mpr broken)]
    rfl
  case neg =>
    obtain ⟨first, body, rfl, notNewline, notReturn⟩ := front broken
    rw [opening, if_neg (fun found => broken (List.contains_iff_mem.mp found)), List.nil_append,
      trimFirstLine_of_front notNewline notReturn]

theorem string?_basic (text : List Char) {rest : List Char} (unmarked : Unmarked rest) :
    string? (writtenAs .basic text ++ rest) = some (text, rest) := by
  have written : writtenAs .basic text ++ rest = '"' :: (basicInside text ++ '"' :: rest) := by
    simp [writtenAs]
  have oneMark (after : List Char) : basicInside text ++ '"' :: rest ≠ '"' :: '"' :: after := by
    intro same
    cases text with
    | nil =>
        apply unmarked.1
        rw [(List.cons.inj same).2, List.head?_cons]
    | cons char text =>
        rw [basicInside] at same
        split at same
        case isTrue => exact absurd (List.cons.inj same).1 (by decide)
        split at same
        case isTrue => exact absurd (List.cons.inj same).1 (by decide)
        case isFalse notQuote inLine =>
          obtain ⟨first, body, escape, notMark, -⟩ := escaped_front notQuote inLine
          rw [escape] at same
          exact absurd (List.cons.inj same).1 notMark
  rw [written, string?, basicBody_basicInside]
  exact oneMark

theorem string?_literal {text : List Char} (free : ∀ char ∈ text, isControl char = false)
    (inLine : '\n' ∉ text) (unquoted : '\'' ∉ text) {rest : List Char} (unmarked : Unmarked rest) :
    string? (writtenAs .literal text ++ rest) = some (text, rest) := by
  have written : writtenAs .literal text ++ rest = '\'' :: (text ++ '\'' :: rest) := by
    simp [writtenAs]
  have oneMark (after : List Char) : text ++ '\'' :: rest ≠ '\'' :: '\'' :: after := by
    intro same
    cases text with
    | nil =>
        apply unmarked.2
        rw [(List.cons.inj same).2, List.head?_cons]
    | cons char text =>
        apply unquoted
        rw [(List.cons.inj same).1]
        exact List.mem_cons_self
  rw [written, string?, literalBody_append free inLine unquoted]
  exact oneMark

theorem string?_basicLines (text : List Char) {rest : List Char} (unmarked : Unmarked rest) :
    string? (writtenAs .basicLines text ++ rest) = some (text, rest) := by
  have written : writtenAs .basicLines text ++ rest =
      '"' :: '"' :: '"' :: (opening text ++ closed '"' (basicLinesInside 0 text) rest) := by
    simp [writtenAs, closed]
  have front (inLine : '\n' ∉ text) : ∃ first body,
      closed '"' (basicLinesInside 0 text) rest = first :: body ∧
        first ≠ '\n' ∧ first ≠ '\r' := by
    cases text with
    | nil => exact ⟨'"', _, rfl, by decide, by decide⟩
    | cons char text =>
        have notNewline : char ≠ '\n' := fun same => inLine (same ▸ List.mem_cons_self)
        rw [basicLinesInside, if_neg notNewline]
        split
        case isTrue => exact ⟨'"', _, rfl, by decide, by decide⟩
        case isFalse notQuote =>
          obtain ⟨first, body, escape, -, notBreak⟩ := escaped_front notQuote notNewline
          rw [escape]
          exact ⟨first, _, rfl, notBreak⟩
  rw [written, string?, trimFirstLine_opening front, basicLines_closed (Nat.zero_le 2) text
    unmarked.1]

theorem string?_literalLines {text : List Char} (free : ∀ char ∈ text, isControl char = false)
    (single : hasTriple '\'' text = false) {rest : List Char} (unmarked : Unmarked rest) :
    string? (writtenAs .literalLines text ++ rest) = some (text, rest) := by
  have written : writtenAs .literalLines text ++ rest =
      '\'' :: '\'' :: '\'' :: (opening text ++ closed '\'' text rest) := by
    simp [writtenAs, closed]
  have front (inLine : '\n' ∉ text) : ∃ first body,
      closed '\'' text rest = first :: body ∧ first ≠ '\n' ∧ first ≠ '\r' := by
    cases text with
    | nil => exact ⟨'\'', _, rfl, by decide, by decide⟩
    | cons char text =>
        refine ⟨char, _, rfl, fun same => inLine (same ▸ List.mem_cons_self), ?_⟩
        rintro rfl
        cases free '\r' List.mem_cons_self
  rw [written, string?, trimFirstLine_opening front, literalLines_closed free single unmarked.2]

/-- A written text is read back, and the reader stops where it ends. -/
theorem string?_written (text : List Char) {rest : List Char} (unmarked : Unmarked rest) :
    string? (written text ++ rest) = some (text, rest) := by
  rw [written, styleOf]
  split
  · exact string?_basic text unmarked
  split
  case isTrue plain =>
    simp only [Bool.and_eq_true, Bool.not_eq_true', List.any_eq_false, List.contains_eq_mem,
      decide_eq_false_iff_not, Bool.not_eq_true] at plain
    exact string?_literal plain.1.1 plain.2 plain.1.2 unmarked
  split
  · exact string?_basicLines text unmarked
  split
  case isTrue plain =>
    simp only [Bool.and_eq_true, Bool.not_eq_true', List.any_eq_false, Bool.not_eq_true] at plain
    exact string?_literalLines plain.1 plain.2 unmarked
  split
  · exact string?_basicLines text unmarked
  · exact string?_basic text unmarked

end SyscallTally.Toml
