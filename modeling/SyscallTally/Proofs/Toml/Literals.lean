import SyscallTally.Proofs.Toml.Strings

/-!
Owns the law of strings in whatever form: a string that is read as a whole is read the same where
something else stands behind it, and that is left (`string?_append`).

What a reader has found in a text it finds again in a longer one (`Continues`), since each decision
of a reader looks at what is there and not at where the text ends. There are two exceptions. A run
of quotation marks may go on behind the text, so no mark may stand there; and white space that a
line continuation skips may go on, but not behind a string that has been closed.
-/

set_option autoImplicit false

namespace SyscallTally.Toml

/-- Whether a reading finds what another has found, and leaves more. -/
def Continues (more : List Char) (before after : Option (List Char × List Char)) : Prop :=
  ∀ text left, before = some (text, left) → after = some (text, left ++ more)

namespace Continues

variable {more : List Char} {before after : Option (List Char × List Char)}

theorem of_none : Continues more none after := nofun

theorem of_some (text left : List Char) :
    Continues more (some (text, left)) (some (text, left ++ more)) := by
  rintro _ _ ⟨⟩
  rfl

theorem map (continues : Continues more before after) (char : Char) :
    Continues more (before.map (consRead char)) (after.map (consRead char)) := by
  intro text left read
  obtain ⟨⟨inner, rest⟩, found, consEq⟩ := Option.map_eq_some_iff.mp read
  rw [continues inner rest found]
  cases consEq
  rfl

end Continues

variable {mark : Char} {chars more : List Char}

/-! ### Escapes -/

theorem hexNumber?_append {count value number : Nat}
    (read : hexNumber? count value chars = some number) :
    hexNumber? count value (chars ++ more) = some number := by
  induction count generalizing value chars with
  | zero => exact read
  | succ count inductionHypothesis =>
      cases chars with
      | nil => cases read
      | cons char chars =>
          rw [List.cons_append, hexNumber?]
          rw [hexNumber?] at read
          cases digit : hexDigit? char with
          | none => simp only [digit, reduceCtorEq] at read
          | some digit' =>
              simp only [digit] at read
              exact inductionHypothesis read

theorem escape?_append {taken : Char × Nat} (read : escape? chars = some taken) :
    escape? (chars ++ more) = some taken := by
  have coded {count length : Nat} {rest : List Char}
      (found : ((hexNumber? count 0 rest).bind scalar?).map (fun char => (char, length)) =
        some taken) :
      ((hexNumber? count 0 (rest ++ more)).bind scalar?).map (fun char => (char, length)) =
        some taken := by
    obtain ⟨char, scalar, -⟩ := Option.map_eq_some_iff.mp found
    obtain ⟨number, digits, -⟩ := Option.bind_eq_some_iff.mp scalar
    rw [hexNumber?_append digits, ← digits, found]
  unfold escape? at read
  split at read
  case h_8 => exact coded read
  case h_9 => exact coded read
  case h_10 => cases read
  all_goals exact read

/-! ### Newlines and white space -/

/-- Whether the front of a text shows if it is a newline, whatever stands behind the text. -/
def Decided (chars : List Char) : Prop := chars ≠ [] ∧ chars ≠ ['\r']

namespace Decided

variable {rest : List Char} (decided : Decided chars)

include decided

theorem front {char : Char} (same : chars ++ more = char :: rest) :
    ∃ inner, chars = char :: inner := by
  rcases List.append_eq_cons_iff.mp same with ⟨empty, -⟩ | ⟨inner, isFront, -⟩
  · exact absurd empty decided.1
  · exact ⟨inner, isFront⟩

theorem front_return (same : chars ++ more = '\r' :: '\n' :: rest) :
    ∃ inner, chars = '\r' :: '\n' :: inner := by
  obtain ⟨inner, rfl⟩ := decided.front same
  rcases List.append_eq_cons_iff.mp (List.cons.inj same).2 with ⟨rfl, -⟩ | ⟨inner, rfl, -⟩
  · exact absurd rfl decided.2
  · exact ⟨inner, rfl⟩

theorem newline?_append : newline? (chars ++ more) = (newline? chars).map (· ++ more) := by
  fun_cases newline? chars with
  | case1 => rfl
  | case2 => rfl
  | case3 chars noFeed noReturn =>
      refine newline?.eq_3 _ (fun rest same => ?_) (fun rest same => ?_)
      · obtain ⟨inner, isFront⟩ := decided.front same
        exact noFeed inner isFront
      · obtain ⟨inner, isFront⟩ := decided.front_return same
        exact noReturn inner isFront

end Decided

/-- White space that ends inside a text ends there in a longer text, too. -/
theorem blankCount_append (decided : Decided (chars.drop (blankCount chars))) :
    blankCount (chars ++ more) = blankCount chars := by
  fun_induction blankCount chars with
  | case1 rest inductionHypothesis => exact congrArg (· + 1) (inductionHypothesis decided)
  | case2 rest inductionHypothesis => exact congrArg (· + 1) (inductionHypothesis decided)
  | case3 rest inductionHypothesis => exact congrArg (· + 1) (inductionHypothesis decided)
  | case4 rest inductionHypothesis => exact congrArg (· + 2) (inductionHypothesis decided)
  | case5 chars noSpace noTab noFeed noReturn =>
      refine blankCount.eq_5 _ (fun rest same => ?_) (fun rest same => ?_) (fun rest same => ?_)
        (fun rest same => ?_)
      · obtain ⟨inner, isFront⟩ := decided.front same
        exact noSpace inner isFront
      · obtain ⟨inner, isFront⟩ := decided.front same
        exact noTab inner isFront
      · obtain ⟨inner, isFront⟩ := decided.front same
        exact noFeed inner isFront
      · obtain ⟨inner, isFront⟩ := decided.front_return same
        exact noReturn inner isFront

theorem decided_of_newline? {rest : List Char} (read : newline? chars = some rest) :
    Decided chars := by
  constructor <;> rintro rfl <;> cases read

theorem continuation?_append {taken : Nat} (read : continuation? chars = some taken)
    (decided : Decided (chars.drop taken)) : continuation? (chars ++ more) = some taken := by
  unfold continuation? at read ⊢
  simp only at read ⊢
  cases newline : newline? (chars.drop (chars.takeWhile isSpace).length) with
  | none => simp only [newline, reduceCtorEq] at read
  | some rest =>
      simp only [newline, Option.some.injEq] at read
      subst read
      have ends := decided_of_newline? newline
      have short : (chars.takeWhile isSpace).length ≤ chars.length :=
        (List.takeWhile_prefix _).length_le
      have inside : (chars.takeWhile isSpace).length ≠ chars.length := by
        intro same
        rw [same, List.drop_length] at ends
        exact ends.1 rfl
      rw [List.takeWhile_append, if_neg inside, List.drop_append_of_le_length short,
        ends.newline?_append, newline, Option.map_some, blankCount_append decided]

/-- No escape begins with white space. -/
theorem escape?_of_continuation? {taken : Nat} (read : continuation? chars = some taken) :
    escape? (chars ++ more) = none := by
  cases chars with
  | nil => cases read
  | cons first rest =>
      have isBlank : isSpace first = true ∨ first = '\n' ∨ first = '\r' := by
        by_cases space : isSpace first = true
        · exact .inl space
        · right
          simp only [continuation?, List.takeWhile_cons_of_neg space, List.length_nil,
            List.drop_zero] at read
          cases newline : newline? (first :: rest) with
          | none => simp only [newline, reduceCtorEq] at read
          | some left =>
              unfold newline? at newline
              split at newline
              case h_1 same => exact .inl (List.cons.inj same).1
              case h_2 same => exact .inr (List.cons.inj same).1
              case h_3 => cases newline
      rw [isSpace, Bool.or_eq_true, decide_eq_true_eq, decide_eq_true_eq] at isBlank
      rcases isBlank with (rfl | rfl) | rfl | rfl <;> rfl

/-! ### Strings on one line -/

theorem continues_basicBody (skipped : Nat) (chars : List Char) :
    Continues more (basicBody skipped chars) (basicBody skipped (chars ++ more)) := by
  induction chars generalizing skipped with
  | nil =>
      rw [basicBody]
      exact .of_none
  | cons char rest inductionHypothesis =>
      cases skipped with
      | succ skipped => exact inductionHypothesis skipped
      | zero =>
          rw [List.cons_append, basicBody, basicBody]
          split
          · exact .of_some [] rest
          split
          · cases escape : escape? rest with
            | none => exact .of_none
            | some taken =>
                rw [escape?_append escape]
                exact (inductionHypothesis taken.2).map taken.1
          split
          · exact (inductionHypothesis 0).map char
          · exact .of_none

theorem continues_literalBody (chars : List Char) :
    Continues more (literalBody chars) (literalBody (chars ++ more)) := by
  induction chars with
  | nil =>
      rw [literalBody]
      exact .of_none
  | cons char rest inductionHypothesis =>
      rw [List.cons_append, literalBody, literalBody]
      split
      · exact .of_some [] rest
      split
      · exact inductionHypothesis.map char
      · exact .of_none

/-! ### Strings on several lines -/

theorem runLength_append_of_head (unmarked : more.head? ≠ some mark) (chars : List Char) :
    runLength mark (chars ++ more) = runLength mark chars := by
  rcases runLength_append mark chars more with same | allMarks
  · exact same
  · conv => lhs; rw [allMarks]
    rw [runLength_replicate_append, runLength_of_head unmarked, Nat.add_zero]

theorem continues_closeRun (long : 3 ≤ runLength mark chars) :
    Continues more (some (closeRun mark (runLength mark chars) chars))
      (some (closeRun mark (runLength mark chars) (chars ++ more))) := by
  have inside := runLength_le_length mark chars
  rw [closeRun, closeRun, List.drop_append_of_le_length (by omega)]
  exact .of_some _ _

theorem basicLines_eq_drop (skipped : Nat) (chars : List Char) :
    basicLines skipped chars = basicLines 0 (chars.drop skipped) := by
  induction chars generalizing skipped with
  | nil => rw [List.drop_nil, basicLines, basicLines]
  | cons char rest inductionHypothesis =>
      cases skipped with
      | zero => rfl
      | succ skipped => exact inductionHypothesis skipped

theorem decided_of_basicLines {read : List Char × List Char}
    (found : basicLines 0 chars = some read) : Decided chars := by
  constructor <;> rintro rfl <;> cases found

theorem decided_of_literalLines {read : List Char × List Char}
    (found : literalLines 0 chars = some read) : Decided chars := by
  constructor <;> rintro rfl <;> cases found

/-- A carriage return counts only with a line feed, which stands in the text or not at all. -/
theorem continues_return {before after : Option (List Char × List Char)}
    (continues : Continues more before after) :
    Continues more (if chars.head? = some '\n' then before.map (consRead '\n') else none)
      (if (chars ++ more).head? = some '\n' then after.map (consRead '\n') else none) := by
  split
  case isTrue feed =>
    rw [if_pos (by rw [List.head?_append, feed, Option.some_or])]
    exact continues.map '\n'
  case isFalse => exact .of_none

theorem continues_basicLines (unmarked : more.head? ≠ some '"') (skipped : Nat)
    (chars : List Char) :
    Continues more (basicLines skipped chars) (basicLines skipped (chars ++ more)) := by
  induction chars generalizing skipped with
  | nil =>
      rw [basicLines]
      exact .of_none
  | cons char rest inductionHypothesis =>
      cases skipped with
      | succ skipped => exact inductionHypothesis skipped
      | zero =>
          rw [List.cons_append, basicLines, basicLines, ← List.cons_append,
            runLength_append_of_head unmarked]
          split
          · simp only
            split
            case isTrue long => exact continues_closeRun long
            case isFalse => exact (inductionHypothesis 0).map '"'
          split
          · cases escape : escape? rest with
            | some taken =>
                rw [escape?_append escape]
                exact (inductionHypothesis taken.2).map taken.1
            | none =>
                cases continuation : continuation? rest with
                | none => exact .of_none
                | some taken =>
                    intro text left read
                    have decided : Decided (rest.drop taken) := by
                      simp only [basicLines_eq_drop taken] at read
                      exact decided_of_basicLines read
                    simp only [escape?_of_continuation? continuation,
                      continuation?_append continuation decided]
                    exact inductionHypothesis taken text left read
          split
          · exact (inductionHypothesis 0).map '\n'
          split
          · exact continues_return (inductionHypothesis 1)
          split
          · exact (inductionHypothesis 0).map char
          · exact .of_none

theorem continues_literalLines (unmarked : more.head? ≠ some '\'') (skipped : Nat)
    (chars : List Char) :
    Continues more (literalLines skipped chars) (literalLines skipped (chars ++ more)) := by
  induction chars generalizing skipped with
  | nil =>
      rw [literalLines]
      exact .of_none
  | cons char rest inductionHypothesis =>
      cases skipped with
      | succ skipped => exact inductionHypothesis skipped
      | zero =>
          rw [List.cons_append, literalLines, literalLines, ← List.cons_append,
            runLength_append_of_head unmarked]
          split
          · simp only
            split
            case isTrue long => exact continues_closeRun long
            case isFalse => exact (inductionHypothesis 0).map '\''
          split
          · exact (inductionHypothesis 0).map '\n'
          split
          · exact continues_return (inductionHypothesis 1)
          split
          · exact (inductionHypothesis 0).map char
          · exact .of_none

/-! ### Strings of any form -/

theorem trimFirstLine_append (decided : Decided chars) :
    trimFirstLine (chars ++ more) = trimFirstLine chars ++ more := by
  rw [trimFirstLine, trimFirstLine, decided.newline?_append]
  cases newline? chars <;> rfl

theorem decided_of_trimFirstLine (decided : Decided (trimFirstLine chars)) : Decided chars := by
  constructor
  · rintro rfl
    exact decided.1 rfl
  · rintro rfl
    exact decided.2 rfl

/-- Two marks open a string on several lines only with a third, which the string has or has not. -/
theorem no_opening_append (unmarked : more.head? ≠ some mark) (filled : chars ≠ [])
    (single : ∀ rest, chars ≠ mark :: mark :: rest) (rest : List Char) :
    chars ++ more ≠ mark :: mark :: rest := by
  intro same
  rcases List.append_eq_cons_iff.mp same with ⟨empty, -⟩ | ⟨inner, rfl, innerEq⟩
  · exact filled empty
  · rcases List.append_eq_cons_iff.mp innerEq.symm with ⟨-, front⟩ | ⟨inner, rfl, -⟩
    · exact unmarked (by rw [front, List.head?_cons])
    · exact single inner rfl

/-- A string that is read as a whole is read where something else stands behind it, and that is
left. -/
theorem string?_append {literal content : List Char} (read : string? literal = some (content, []))
    (unmarked : Unmarked more) : string? (literal ++ more) = some (content, more) := by
  unfold string? at read
  split at read
  case h_1 body =>
    have decided := decided_of_trimFirstLine (decided_of_basicLines read)
    have found := continues_basicLines unmarked.1 0 _ content [] read
    rw [← trimFirstLine_append decided] at found
    exact found
  case h_2 body single =>
    have filled : body ≠ [] := by
      rintro rfl
      cases read
    have found : basicBody 0 (body ++ more) = some (content, more) :=
      continues_basicBody 0 body content [] read
    rw [List.cons_append, string?, found]
    exact no_opening_append unmarked.1 filled single
  case h_3 body =>
    have decided := decided_of_trimFirstLine (decided_of_literalLines read)
    have found := continues_literalLines unmarked.2 0 _ content [] read
    rw [← trimFirstLine_append decided] at found
    exact found
  case h_4 body single =>
    have filled : body ≠ [] := by
      rintro rfl
      cases read
    have found : literalBody (body ++ more) = some (content, more) :=
      continues_literalBody body content [] read
    rw [List.cons_append, string?, found]
    exact no_opening_append unmarked.2 filled single
  case h_5 => cases read

end SyscallTally.Toml
