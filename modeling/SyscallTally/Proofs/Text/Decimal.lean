import SyscallTally.Text.Decimal

/-!
Owns the law of numbers in decimal: a number is written in digits only, of which there is at least
one, and a word that is written out is read back (`word?_repr`).
-/

set_option autoImplicit false

namespace SyscallTally.Text.Decimal

/-! ### Digits -/

section

variable {char : Char} (digit : char.isDigit = true)

include digit

theorem isDigit_bounds : '0' ≤ char ∧ char ≤ '9' := by
  simp only [Char.isDigit, Bool.and_eq_true, decide_eq_true_eq, ge_iff_le] at digit
  exact digit

theorem digit?_of_isDigit : digit? char = some (char.toNat - '0'.toNat) := by
  rw [digit?, if_pos (isDigit_bounds digit)]

theorem ne_of_isDigit {other : Char} (otherwise : other.isDigit = false) : char ≠ other := by
  rintro rfl
  rw [digit] at otherwise
  cases otherwise

end

theorem isDigit_of_mem_toDigits (number : Nat) :
    ∀ char ∈ Nat.toDigits 10 number, char.isDigit = true :=
  fun _ member => Nat.isDigit_of_mem_toDigits (by decide) (by decide) member

theorem toDigits_front (number : Nat) :
    ∃ first digits, Nat.toDigits 10 number = first :: digits ∧ first.isDigit = true := by
  obtain ⟨first, digits, digitsEq⟩ := List.exists_cons_of_ne_nil
    (Nat.toDigits_ne_nil (n := number) (b := 10))
  refine ⟨first, digits, digitsEq, isDigit_of_mem_toDigits number first ?_⟩
  rw [digitsEq]
  exact List.mem_cons_self

/-! ### Numbers that are written out -/

theorem isDigit_of_mem_repr (number : Nat) :
    ∀ char ∈ (Nat.repr number).toList, char.isDigit = true := by
  rw [Nat.toList_repr]
  exact isDigit_of_mem_toDigits number

theorem continueDigits?_of_isDigit {digits : List Char}
    (allDigits : ∀ char ∈ digits, char.isDigit = true) (value : Nat) :
    continueDigits? value digits = some (Nat.ofDigitChars 10 digits value) := by
  induction digits generalizing value with
  | nil => rw [Nat.ofDigitChars_nil, continueDigits?]
  | cons char digits inductionHypothesis =>
      rw [continueDigits?, digit?_of_isDigit (allDigits char List.mem_cons_self),
        Nat.ofDigitChars_cons, Nat.mul_comm 10 value]
      exact inductionHypothesis
        (fun other member => allDigits other (List.mem_cons_of_mem char member)) _

theorem ofDigits?_toDigits (number : Nat) : ofDigits? (Nat.toDigits 10 number) = some number := by
  have value := continueDigits?_of_isDigit (isDigit_of_mem_toDigits number) 0
  rw [Nat.ofDigitChars_ten_toDigits] at value
  obtain ⟨first, digits, digitsEq, -⟩ := toDigits_front number
  rw [digitsEq] at value ⊢
  exact value

theorem word?_of_unsigned {first : Char} {digits : List Char} {value : Nat}
    (unsigned : first ≠ '+') (denotes : ofDigits? (first :: digits) = some value)
    (small : value < UInt64.size) : word? (first :: digits) = some (UInt64.ofNat value) := by
  simp [word?, unsigned, denotes, small]

/-- A word that is written out is read back. -/
theorem word?_repr (number : UInt64) : word? (Nat.repr number.toNat).toList = some number := by
  obtain ⟨first, digits, digitsEq, digit⟩ := toDigits_front number.toNat
  have denotes := ofDigits?_toDigits number.toNat
  rw [Nat.toList_repr, digitsEq]
  rw [digitsEq] at denotes
  rw [word?_of_unsigned (ne_of_isDigit digit rfl) denotes number.toNat_lt, UInt64.ofNat_toNat]

example : word? "18446744073709551615".toList = some (UInt64.ofNat (2 ^ 64 - 1)) := by decide

end SyscallTally.Text.Decimal
