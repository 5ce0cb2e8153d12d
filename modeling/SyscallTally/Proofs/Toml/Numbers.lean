import SyscallTally.Proofs.Text.Decimal
import SyscallTally.Toml.Values

/-!
Owns the law of written integers: a number in decimal at the end of a line is read as an integer of
that value (`value?_toDigits`). Dates, times and floats are tried before; none of them ends where
its first digits do.
-/

set_option autoImplicit false

namespace SyscallTally.Toml

open SyscallTally.Text.Decimal

/-! ### Digits -/

section

variable {char : Char} (digit : char.isDigit = true)

include digit

theorem hexDigit?_of_isDigit : hexDigit? char = some (char.toNat - '0'.toNat) := by
  rw [hexDigit?, if_pos (isDigit_bounds digit)]

theorem isDigitOf_ten : isDigitOf 10 char = true := by
  have high : char.toNat ≤ '9'.toNat := (isDigit_bounds digit).2
  have nine : '9'.toNat = '0'.toNat + 9 := rfl
  rw [isDigitOf, hexDigit?_of_isDigit digit]
  exact decide_eq_true (by omega)

end

theorem moreDigits_cons {isDigit : Char → Bool} {char : Char} (digit : isDigit char = true)
    (rest : List Char) :
    moreDigits isDigit (char :: rest) = consRead char (moreDigits isDigit rest) := by
  cases rest with
  | nil =>
      show (if isDigit char then ([char], []) else ([], [char])) = ([char], [])
      rw [if_pos digit]
  | cons next rest => rw [moreDigits, if_pos digit]

theorem moreDigits_stop {isDigit : Char → Bool} {char : Char} (noDigit : isDigit char = false)
    (noUnderscore : char ≠ '_') (rest : List Char) :
    moreDigits isDigit (char :: rest) = ([], char :: rest) := by
  cases rest with
  | nil => rw [moreDigits, if_neg (Bool.eq_false_iff.mp noDigit)]
  | cons next rest =>
      rw [moreDigits, if_neg (Bool.eq_false_iff.mp noDigit),
        if_neg (fun both => noUnderscore both.1)]

theorem moreDigits_append {digits : List Char} (allDigits : ∀ char ∈ digits, char.isDigit = true)
    (rest : List Char) :
    moreDigits (isDigitOf 10) (digits ++ '\n' :: rest) = (digits, '\n' :: rest) := by
  induction digits with
  | nil => exact moreDigits_stop (by decide) (by decide) rest
  | cons char digits inductionHypothesis =>
      rw [List.cons_append, moreDigits_cons (isDigitOf_ten (allDigits char List.mem_cons_self)),
        inductionHypothesis fun other member =>
          allDigits other (List.mem_cons_of_mem char member)]
      rfl

theorem valueOf_eq_ofDigitChars {digits : List Char}
    (allDigits : ∀ char ∈ digits, char.isDigit = true) :
    valueOf 10 digits = Nat.ofDigitChars 10 digits 0 := by
  have fold (value : Nat) :
      digits.foldl (fun value char => value * 10 + (hexDigit? char).getD 0) value =
        Nat.ofDigitChars 10 digits value := by
    induction digits generalizing value with
    | nil => rw [Nat.ofDigitChars_nil, List.foldl_nil]
    | cons char digits inductionHypothesis =>
        rw [List.foldl_cons, Nat.ofDigitChars_cons,
          hexDigit?_of_isDigit (allDigits char List.mem_cons_self), Option.getD_some,
          Nat.mul_comm 10 value]
        exact inductionHypothesis
          (fun other member => allDigits other (List.mem_cons_of_mem char member)) _
  exact fold 0

/-! ### Numbers in decimal -/

/-- A number has no leading zero unless it is zero. -/
theorem toDigits_front_ne_zero {number : Nat} (positive : 0 < number) {first : Char}
    {digits : List Char} (digitsEq : Nat.toDigits 10 number = first :: digits) : first ≠ '0' := by
  induction number using Nat.strongRecOn generalizing first digits with
  | ind number inductionHypothesis =>
      rcases Nat.lt_or_ge number 10 with short | long
      · rw [Nat.toDigits_of_lt_base short] at digitsEq
        rw [← (List.cons.inj digitsEq).1]
        clear inductionHypothesis digitsEq
        revert positive
        revert number
        decide
      · rw [Nat.toDigits_of_base_le (by omega) long] at digitsEq
        obtain ⟨front, others, frontEq, -⟩ := toDigits_front (number / 10)
        rw [frontEq, List.cons_append] at digitsEq
        rw [← (List.cons.inj digitsEq).1]
        exact inductionHypothesis (number / 10) (by omega) (by omega) frontEq

/-! ### Readers that refuse a number -/

/-- Characters that begin with digits, perhaps none, and end the line after them. -/
def EndsLine (chars : List Char) : Prop :=
  ∃ digits rest, chars = digits ++ '\n' :: rest ∧ ∀ char ∈ digits, char.isDigit = true

theorem expect_of_endsLine {chars : List Char} (ends : EndsLine chars) (mark : Char)
    (noDigit : mark.isDigit = false) (inLine : '\n' ≠ mark) : expect mark chars = none := by
  obtain ⟨digits, rest, rfl, allDigits⟩ := ends
  cases digits with
  | nil => rw [List.nil_append, expect, if_neg inLine]
  | cons char digits =>
      rw [List.cons_append, expect,
        if_neg (ne_of_isDigit (allDigits char List.mem_cons_self) noDigit)]

theorem endsLine_of_fixedDigits? {count value number : Nat} {chars left : List Char}
    (ends : EndsLine chars) (read : fixedDigits? count value chars = some (number, left)) :
    EndsLine left := by
  induction count generalizing value chars with
  | zero =>
      rw [fixedDigits?] at read
      rw [← (Prod.mk.inj (Option.some.inj read)).2]
      exact ends
  | succ count inductionHypothesis =>
      obtain ⟨digits, rest, rfl, allDigits⟩ := ends
      cases digits with
      | nil => cases read
      | cons char digits =>
          have digitEq : Text.Decimal.digit? char = some (char.toNat - '0'.toNat) := by
            rw [Text.Decimal.digit?,
              if_pos (isDigit_bounds (allDigits char List.mem_cons_self))]
          rw [List.cons_append, fixedDigits?, digitEq] at read
          exact inductionHypothesis ⟨digits, rest, rfl,
            fun other member => allDigits other (List.mem_cons_of_mem char member)⟩ read

theorem endsLine_of_twoDigits? {low high number : Nat} {chars left : List Char}
    (ends : EndsLine chars) (read : twoDigits? low high chars = some (number, left)) :
    EndsLine left := by
  unfold twoDigits? at read
  split at read
  case h_1 value after fixed =>
    split at read
    · obtain ⟨rfl, rfl⟩ := Prod.mk.inj (Option.some.inj read)
      exact endsLine_of_fixedDigits? ends fixed
    · cases read
  case h_2 => cases read

theorem date?_of_endsLine {chars : List Char} (ends : EndsLine chars) : date? chars = none := by
  rw [date?]
  rcases year : fixedDigits? 4 0 chars with _ | ⟨value, left⟩
  · rfl
  · have noDash := expect_of_endsLine (endsLine_of_fixedDigits? ends year) '-' rfl
      (by decide)
    simp only [Option.bind_eq_bind, Option.bind_some, noDash, Option.bind_none]

theorem timeOfDay?_of_endsLine {chars : List Char} (ends : EndsLine chars) :
    timeOfDay? chars = none := by
  rw [timeOfDay?]
  rcases hour : twoDigits? 0 23 chars with _ | ⟨value, left⟩
  · rfl
  · have noColon := expect_of_endsLine (endsLine_of_twoDigits? ends hour) ':' rfl
      (by decide)
    simp only [Option.bind_eq_bind, Option.bind_some, noColon, Option.bind_none]

theorem moment?_of_endsLine {chars : List Char} (ends : EndsLine chars) : moment? chars = none := by
  rw [moment?, date?_of_endsLine ends]
  exact timeOfDay?_of_endsLine ends

section

variable {first : Char} (digit : first.isDigit = true) (rest : List Char)

include digit

theorem sign_of_isDigit : sign (first :: rest) = (false, first :: rest) := by
  unfold sign
  split
  case h_1 same => exact absurd (List.cons.inj same).1 (ne_of_isDigit digit rfl)
  case h_2 same => exact absurd (List.cons.inj same).1 (ne_of_isDigit digit rfl)
  case h_3 => rfl

theorem specialFloat?_of_isDigit : specialFloat? (first :: rest) = none := by
  rw [specialFloat?, sign_of_isDigit digit rest]
  split
  case h_1 same => exact absurd (List.cons.inj same).1 (ne_of_isDigit digit rfl)
  case h_2 same => exact absurd (List.cons.inj same).1 (ne_of_isDigit digit rfl)
  case h_3 => rfl

theorem string?_of_isDigit : string? (first :: rest) = none := by
  unfold string?
  split
  case h_1 same => exact absurd (List.cons.inj same).1 (ne_of_isDigit digit rfl)
  case h_2 same => exact absurd (List.cons.inj same).1 (ne_of_isDigit digit rfl)
  case h_3 same => exact absurd (List.cons.inj same).1 (ne_of_isDigit digit rfl)
  case h_4 same => exact absurd (List.cons.inj same).1 (ne_of_isDigit digit rfl)
  case h_5 => rfl

theorem boolean?_of_isDigit : boolean? (first :: rest) = none := by
  unfold boolean?
  split
  case h_1 same => exact absurd (List.cons.inj same).1 (ne_of_isDigit digit rfl)
  case h_2 same => exact absurd (List.cons.inj same).1 (ne_of_isDigit digit rfl)
  case h_3 => rfl

end

/-! ### Written integers -/

/-- Values other than arrays and inline tables nest nothing. -/
theorem valueWithin_of_ne {first : Char} (noArray : first ≠ '[') (noTable : first ≠ '\x7b')
    (depth : Nat) (rest : List Char) :
    valueWithin depth (first :: rest) = scalarValue? (first :: rest) := by
  cases depth with
  | zero => rfl
  | succ depth =>
      unfold valueWithin
      split
      case h_1 same => exact absurd (List.cons.inj same).1 noArray
      case h_2 same => exact absurd (List.cons.inj same).1 noTable
      case h_3 => rfl

theorem wholeDigits?_toDigits (number : Nat) (rest : List Char) :
    wholeDigits? (Nat.toDigits 10 number ++ '\n' :: rest) =
      some (Nat.toDigits 10 number, '\n' :: rest) := by
  rcases Nat.eq_zero_or_pos number with rfl | positive
  · rfl
  · obtain ⟨first, digits, digitsEq, digit⟩ := toDigits_front number
    have notZero := toDigits_front_ne_zero positive digitsEq
    have allDigits := isDigit_of_mem_toDigits number
    rw [digitsEq] at allDigits ⊢
    rw [List.cons_append, wholeDigits?, digits?, if_pos (isDigitOf_ten digit),
      moreDigits_append (fun char member => allDigits char (List.mem_cons_of_mem first member))]
    · rfl
    · exact fun _ same => notZero (List.cons.inj same).1

theorem signedDigits?_toDigits (number : Nat) (rest : List Char) :
    signedDigits? (Nat.toDigits 10 number ++ '\n' :: rest) =
      some ((false, Nat.toDigits 10 number), '\n' :: rest) := by
  have whole := wholeDigits?_toDigits number rest
  obtain ⟨first, digits, digitsEq, digit⟩ := toDigits_front number
  rw [digitsEq, List.cons_append] at whole ⊢
  rw [signedDigits?, sign_of_isDigit digit]
  simp only [whole, Option.map_some]

theorem float?_toDigits (number : Nat) (rest : List Char) :
    float? (Nat.toDigits 10 number ++ '\n' :: rest) = none := by
  have noDecimal : decimalFloat? (Nat.toDigits 10 number ++ '\n' :: rest) = none := by
    rw [decimalFloat?, signedDigits?_toDigits]
    rfl
  obtain ⟨first, digits, digitsEq, digit⟩ := toDigits_front number
  rw [float?, noDecimal, digitsEq, List.cons_append, specialFloat?_of_isDigit digit]

theorem integer?_toDigits {number : Nat} (small : number ≤ integerLimit) (rest : List Char) :
    integer? (Nat.toDigits 10 number ++ '\n' :: rest) = some ((number : Int), '\n' :: rest) := by
  have valueEq : valueOf 10 (Nat.toDigits 10 number) = number := by
    rw [valueOf_eq_ofDigitChars (isDigit_of_mem_toDigits number), Nat.ofDigitChars_ten_toDigits]
  have decimal : decimalInteger? (Nat.toDigits 10 number ++ '\n' :: rest) =
      some ((number : Int), '\n' :: rest) := by
    rw [decimalInteger?, signedDigits?_toDigits]
    simp only [valueEq, if_pos small, Bool.false_eq_true, if_false]
  rcases Nat.eq_zero_or_pos number with rfl | positive
  · exact decimal
  · obtain ⟨first, digits, digitsEq, digit⟩ := toDigits_front number
    have notZero := toDigits_front_ne_zero positive digitsEq
    rw [← decimal, digitsEq, List.cons_append]
    unfold integer?
    split
    case h_1 same => exact absurd (List.cons.inj same).1 notZero
    case h_2 same => exact absurd (List.cons.inj same).1 notZero
    case h_3 same => exact absurd (List.cons.inj same).1 notZero
    case h_4 => rfl

/-- A written integer at the end of a line is read as what it is. -/
theorem value?_toDigits {number : Nat} (small : number ≤ integerLimit) (rest : List Char) :
    value? (Nat.toDigits 10 number ++ '\n' :: rest) =
      some (.integer number, '\n' :: rest) := by
  have ends : EndsLine (Nat.toDigits 10 number ++ '\n' :: rest) :=
    ⟨_, rest, rfl, isDigit_of_mem_toDigits number⟩
  have asNumber : number? (Nat.toDigits 10 number ++ '\n' :: rest) =
      some (.integer number, '\n' :: rest) := by
    rw [number?, moment?_of_endsLine ends]
    simp only [float?_toDigits, integer?_toDigits small, Option.map_some]
  obtain ⟨first, digits, digitsEq, digit⟩ := toDigits_front number
  rw [digitsEq, List.cons_append] at asNumber ⊢
  rw [value?, valueWithin_of_ne (ne_of_isDigit digit rfl) (ne_of_isDigit digit rfl), scalarValue?,
    string?_of_isDigit digit, boolean?_of_isDigit digit]
  exact asNumber

end SyscallTally.Toml
