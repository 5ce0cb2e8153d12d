import Mathlib.Data.List.Forall2
import SyscallTally.Text.Utf8

/-!
Owns the agreement of the strict reading of octets with the encoding of texts: a text is what its
octets are read as (`decode?_encode`), and octets that are read as a text are its octets
(`encode_of_decode?`). There are no overlong forms, so that the second holds without exception.
-/

set_option autoImplicit false

namespace SyscallTally.Text.Utf8

/-! ### One scalar value -/

/-- The code after further octets of a scalar value. -/
def continued (value : Nat) (tail : Octets) : Nat :=
  tail.foldl (fun value octet => value * 64 + (octet.toNat - 0x80)) value

theorem continued_cons (value : Nat) (octet : UInt8) (tail : Octets) :
    continued value (octet :: tail) = continued (value * 64 + (octet.toNat - 0x80)) tail :=
  List.foldl_cons ..

/-- Octets that lie in the ranges promised for them. -/
def Fits (ranges : List OctetRange) (tail : Octets) : Prop :=
  List.Forall₂ (fun range octet => range.holds octet = true) ranges tail

theorem follow_append {ranges : List OctetRange} {tail : Octets} (fits : Fits ranges tail)
    (value : Nat) (taken rest : Octets) :
    follow value taken ranges (tail ++ rest) =
      (.scalar (Char.ofNat (continued value tail)), tail.length) := by
  induction fits generalizing value taken with
  | nil => rw [List.nil_append, follow, continued, List.foldl_nil, List.length_nil]
  | cons holds _ inductionHypothesis =>
      rw [List.cons_append, follow, if_pos holds, inductionHypothesis]
      simp only [continued_cons, List.length_cons]

theorem fits_of_follow {ranges : List OctetRange} {value : Nat} {taken rest : Octets} {char : Char}
    {count : Nat} (read : follow value taken ranges rest = (.scalar char, count)) :
    ∃ tail left, rest = tail ++ left ∧ tail.length = count ∧ Fits ranges tail ∧
      char = Char.ofNat (continued value tail) := by
  induction ranges generalizing value taken rest count with
  | nil =>
      simp only [follow, Prod.mk.injEq, Piece.scalar.injEq] at read
      exact ⟨[], rest, rfl, read.2, .nil, read.1.symm⟩
  | cons range ranges inductionHypothesis =>
      cases rest with
      | nil => simp only [follow, Prod.mk.injEq, reduceCtorEq, false_and] at read
      | cons octet rest =>
          rw [follow] at read
          split at read
          case isFalse => simp only [Prod.mk.injEq, reduceCtorEq, false_and] at read
          case isTrue holds =>
            simp only [Prod.mk.injEq] at read
            obtain ⟨tail, left, rfl, lengthEq, fits, charEq⟩ := inductionHypothesis
              (Prod.ext read.1 rfl)
            refine ⟨octet :: tail, left, rfl, ?_, .cons holds fits, ?_⟩
            · rw [List.length_cons, lengthEq, read.2]
            · rw [continued_cons, charEq]

theorem val_ofNat {code : Nat} (valid : code < 0xD800 ∨ (0xDFFF < code ∧ code < 0x110000)) :
    (Char.ofNat code).val.toNat = code := by
  have isValid : code.isValidChar := valid
  rw [Char.ofNat, dif_pos isValid]
  exact UInt32.toNat_ofNatLT

theorem holds_iff {low high octet : UInt8} :
    OctetRange.holds ⟨low, high⟩ octet = true ↔
      low.toNat ≤ octet.toNat ∧ octet.toNat ≤ high.toNat := by
  simp only [OctetRange.holds, Bool.and_eq_true, decide_eq_true_eq, UInt8.le_iff_toNat_le]

section

variable {first low high : UInt8} {value : Nat} {tail : Octets}

theorem encodeChar_one (lead : first.toNat = value) (short : value < 0x80) (fits : Fits [] tail) :
    String.utf8EncodeChar (Char.ofNat (continued value tail)) = first :: tail := by
  simp only [Fits, List.forall₂_nil_left_iff] at fits
  subst fits
  have codeEq : continued value [] = value := List.foldl_nil ..
  rw [codeEq, String.utf8EncodeChar, val_ofNat (by omega), if_pos (by omega)]
  simp only [List.cons.injEq, ← UInt8.toNat_inj, UInt8.toNat_ofNat', and_true]
  omega

theorem encodeChar_two (lead : first.toNat = value + 0xC0) (short : value < 0x20)
    (notOverlong : 2 ≤ value) (fits : Fits [continuation] tail) :
    String.utf8EncodeChar (Char.ofNat (continued value tail)) = first :: tail := by
  simp only [Fits, continuation, List.forall₂_cons_left_iff, List.forall₂_nil_left_iff, holds_iff,
    UInt8.reduceToNat] at fits
  obtain ⟨second, _, secondHolds, rfl, rfl⟩ := fits
  have codeEq : continued value [second] = value * 64 + (second.toNat - 0x80) := by
    rw [continued_cons, continued, List.foldl_nil]
  rw [codeEq, String.utf8EncodeChar, val_ofNat (by omega), if_neg (by omega), if_pos (by omega)]
  simp only [List.cons.injEq, ← UInt8.toNat_inj, UInt8.toNat_ofNat', and_true]
  omega

theorem encodeChar_three (lead : first.toNat = value + 0xE0) (short : value < 0x10)
    (isContinuation : 0x80 ≤ low.toNat ∧ high.toNat ≤ 0xBF)
    (notOverlong : value = 0 → 0xA0 ≤ low.toNat) (noSurrogate : value = 0xD → high.toNat ≤ 0x9F)
    (fits : Fits [⟨low, high⟩, continuation] tail) :
    String.utf8EncodeChar (Char.ofNat (continued value tail)) = first :: tail := by
  simp only [Fits, continuation, List.forall₂_cons_left_iff, List.forall₂_nil_left_iff, holds_iff,
    UInt8.reduceToNat] at fits
  obtain ⟨second, _, secondHolds, ⟨third, _, thirdHolds, rfl, rfl⟩, rfl⟩ := fits
  have codeEq : continued value [second, third] =
      (value * 64 + (second.toNat - 0x80)) * 64 + (third.toNat - 0x80) := by
    rw [continued_cons, continued_cons, continued, List.foldl_nil]
  rw [codeEq, String.utf8EncodeChar, val_ofNat (by omega), if_neg (by omega), if_neg (by omega),
    if_pos (by omega)]
  simp only [List.cons.injEq, ← UInt8.toNat_inj, UInt8.toNat_ofNat', and_true]
  omega

theorem encodeChar_four (lead : first.toNat = value + 0xF0) (short : value ≤ 4)
    (isContinuation : 0x80 ≤ low.toNat ∧ high.toNat ≤ 0xBF)
    (notOverlong : value = 0 → 0x90 ≤ low.toNat) (noExcess : value = 4 → high.toNat ≤ 0x8F)
    (fits : Fits [⟨low, high⟩, continuation, continuation] tail) :
    String.utf8EncodeChar (Char.ofNat (continued value tail)) = first :: tail := by
  simp only [Fits, continuation, List.forall₂_cons_left_iff, List.forall₂_nil_left_iff, holds_iff,
    UInt8.reduceToNat] at fits
  obtain ⟨second, _, secondHolds,
    ⟨third, _, thirdHolds, ⟨fourth, _, fourthHolds, rfl, rfl⟩, rfl⟩, rfl⟩ := fits
  have codeEq : continued value [second, third, fourth] =
      ((value * 64 + (second.toNat - 0x80)) * 64 + (third.toNat - 0x80)) * 64 +
        (fourth.toNat - 0x80) := by
    rw [continued_cons, continued_cons, continued_cons, continued, List.foldl_nil]
  rw [codeEq, String.utf8EncodeChar, val_ofNat (by omega), if_neg (by omega), if_neg (by omega),
    if_neg (by omega)]
  simp only [List.cons.injEq, ← UInt8.toNat_inj, UInt8.toNat_ofNat', and_true]
  omega

end

/-- What a first octet promises is kept by the encoding of a scalar value only. -/
theorem encodeChar_of_fits {first : UInt8} {value : Nat} {ranges : List OctetRange} {tail : Octets}
    (promised : lead? first = some (value, ranges)) (fits : Fits ranges tail) :
    String.utf8EncodeChar (Char.ofNat (continued value tail)) = first :: tail := by
  simp only [lead?, UInt8.lt_iff_toNat_lt, ← UInt8.toNat_inj, UInt8.reduceToNat] at promised
  split at promised
  · obtain ⟨rfl, rfl⟩ := Prod.mk.inj (Option.some.inj promised)
    exact encodeChar_one rfl (by omega) fits
  split at promised
  · cases promised
  split at promised
  · obtain ⟨rfl, rfl⟩ := Prod.mk.inj (Option.some.inj promised)
    exact encodeChar_two (by omega) (by omega) (by omega) fits
  split at promised
  · obtain ⟨rfl, rfl⟩ := Prod.mk.inj (Option.some.inj promised)
    exact encodeChar_three (by omega) (by omega) (by decide) (by decide) (by decide) fits
  split at promised
  · obtain ⟨rfl, rfl⟩ := Prod.mk.inj (Option.some.inj promised)
    exact encodeChar_three (by omega) (by omega) (by decide) (by decide) (by decide) fits
  split at promised
  · obtain ⟨rfl, rfl⟩ := Prod.mk.inj (Option.some.inj promised)
    exact encodeChar_three (by omega) (by omega) (by decide) (by omega) (by omega) fits
  split at promised
  · obtain ⟨rfl, rfl⟩ := Prod.mk.inj (Option.some.inj promised)
    exact encodeChar_four (by omega) (by omega) (by decide) (by decide) (by decide) fits
  split at promised
  · obtain ⟨rfl, rfl⟩ := Prod.mk.inj (Option.some.inj promised)
    exact encodeChar_four (by omega) (by omega) (by decide) (by omega) (by omega) fits
  split at promised
  · obtain ⟨rfl, rfl⟩ := Prod.mk.inj (Option.some.inj promised)
    exact encodeChar_four (by omega) (by omega) (by decide) (by decide) (by decide) fits
  · cases promised

/-- The octets of a scalar value are such as the first of them promises. -/
theorem fits_of_encodeChar {char : Char} {first : UInt8} {tail : Octets}
    (encoded : String.utf8EncodeChar char = first :: tail) :
    ∃ value ranges, lead? first = some (value, ranges) ∧ Fits ranges tail := by
  have valid := char.valid
  simp only [UInt32.isValidChar, Nat.isValidChar] at valid
  rw [String.utf8EncodeChar] at encoded
  simp only [lead?, UInt8.lt_iff_toNat_lt, ← UInt8.toNat_inj, UInt8.reduceToNat]
  split at encoded
  · obtain ⟨firstEq, rfl⟩ := List.cons.inj encoded
    simp only [← UInt8.toNat_inj, UInt8.toNat_ofNat'] at firstEq
    rw [if_pos (by omega)]
    exact ⟨_, _, rfl, .nil⟩
  split at encoded
  · obtain ⟨firstEq, rfl⟩ := List.cons.inj encoded
    simp only [← UInt8.toNat_inj, UInt8.toNat_ofNat'] at firstEq
    rw [if_neg (by omega), if_neg (by omega), if_pos (by omega)]
    refine ⟨_, _, rfl, .cons (holds_iff.mpr ?_) .nil⟩
    simp only [UInt8.toNat_ofNat', UInt8.reduceToNat]
    omega
  split at encoded
  · obtain ⟨firstEq, rfl⟩ := List.cons.inj encoded
    simp only [← UInt8.toNat_inj, UInt8.toNat_ofNat'] at firstEq
    rw [if_neg (by omega), if_neg (by omega), if_neg (by omega)]
    -- The first octet leaves the two narrowed ranges and the usual one.
    split
    · refine ⟨_, _, rfl, .cons (holds_iff.mpr ?_) (.cons (holds_iff.mpr ?_) .nil)⟩ <;>
        simp only [UInt8.toNat_ofNat', UInt8.reduceToNat] <;> omega
    split
    · refine ⟨_, _, rfl, .cons (holds_iff.mpr ?_) (.cons (holds_iff.mpr ?_) .nil)⟩ <;>
        simp only [UInt8.toNat_ofNat', UInt8.reduceToNat] <;> omega
    rw [if_pos (by omega)]
    refine ⟨_, _, rfl, .cons (holds_iff.mpr ?_) (.cons (holds_iff.mpr ?_) .nil)⟩ <;>
      simp only [UInt8.toNat_ofNat', UInt8.reduceToNat] <;> omega
  · obtain ⟨firstEq, rfl⟩ := List.cons.inj encoded
    simp only [← UInt8.toNat_inj, UInt8.toNat_ofNat'] at firstEq
    rw [if_neg (by omega), if_neg (by omega), if_neg (by omega), if_neg (by omega),
      if_neg (by omega), if_neg (by omega)]
    split
    · refine ⟨_, _, rfl, .cons (holds_iff.mpr ?_)
        (.cons (holds_iff.mpr ?_) (.cons (holds_iff.mpr ?_) .nil))⟩ <;>
        simp only [UInt8.toNat_ofNat', UInt8.reduceToNat] <;> omega
    split
    · refine ⟨_, _, rfl, .cons (holds_iff.mpr ?_)
        (.cons (holds_iff.mpr ?_) (.cons (holds_iff.mpr ?_) .nil))⟩ <;>
        simp only [UInt8.toNat_ofNat', UInt8.reduceToNat] <;> omega
    rw [if_pos (by omega)]
    refine ⟨_, _, rfl, .cons (holds_iff.mpr ?_)
      (.cons (holds_iff.mpr ?_) (.cons (holds_iff.mpr ?_) .nil))⟩ <;>
      simp only [UInt8.toNat_ofNat', UInt8.reduceToNat] <;> omega

theorem utf8EncodeChar_inj {char other : Char}
    (same : String.utf8EncodeChar char = String.utf8EncodeChar other) : char = other := by
  have textsEq : String.ofList [char] = String.ofList [other] := by
    rw [← String.toByteArray_inj, String.toByteArray_ofList, String.toByteArray_ofList,
      List.utf8Encode_singleton, List.utf8Encode_singleton, same]
  exact List.singleton_inj.mp (String.ofList_injective textsEq)

/-! ### Splitting -/

theorem front_of_encodeChar {char : Char} {first : UInt8} {tail : Octets}
    (encoded : String.utf8EncodeChar char = first :: tail) (rest : Octets) :
    front first (tail ++ rest) = (.scalar char, tail.length) := by
  obtain ⟨value, ranges, promised, fits⟩ := fits_of_encodeChar encoded
  have charEq : char = Char.ofNat (continued value tail) :=
    utf8EncodeChar_inj (encoded.trans (encodeChar_of_fits promised fits).symm)
  rw [front, promised, charEq]
  exact follow_append fits value [first] rest

theorem encodeChar_of_front {char : Char} {first : UInt8} {rest : Octets} {count : Nat}
    (read : front first rest = (.scalar char, count)) :
    ∃ tail left, rest = tail ++ left ∧ tail.length = count ∧
      String.utf8EncodeChar char = first :: tail := by
  rw [front] at read
  split at read
  case h_1 => simp only [Prod.mk.injEq, reduceCtorEq, false_and] at read
  case h_2 value ranges promised =>
    obtain ⟨tail, left, restEq, lengthEq, fits, charEq⟩ := fits_of_follow read
    rw [charEq]
    exact ⟨tail, left, restEq, lengthEq, encodeChar_of_fits promised fits⟩

theorem piecesAfter_append (tail rest : Octets) :
    piecesAfter tail.length (tail ++ rest) = pieces rest := by
  induction tail with
  | nil => rfl
  | cons octet tail inductionHypothesis =>
      rw [List.length_cons, List.cons_append, piecesAfter, inductionHypothesis]

theorem pieces_encodeChar_append (char : Char) (rest : Octets) :
    pieces (String.utf8EncodeChar char ++ rest) = .scalar char :: pieces rest := by
  obtain ⟨first, tail, encoded⟩ := List.exists_cons_of_ne_nil
    (String.utf8EncodeChar_ne_nil (c := char))
  rw [encoded, List.cons_append, pieces, piecesAfter, front_of_encodeChar encoded]
  exact congrArg (_ :: ·) (piecesAfter_append tail rest)

theorem pieces_flatMap_encodeChar (chars : List Char) :
    pieces (chars.flatMap String.utf8EncodeChar) = chars.map .scalar := by
  induction chars with
  | nil => rfl
  | cons char rest inductionHypothesis =>
      rw [List.flatMap_cons, pieces_encodeChar_append, inductionHypothesis, List.map_cons]

theorem flatMap_encodeChar_of_pieces {octets : Octets} {chars : List Char}
    (split : pieces octets = chars.map .scalar) :
    chars.flatMap String.utf8EncodeChar = octets := by
  induction chars generalizing octets with
  | nil =>
      cases octets with
      | nil => rfl
      | cons first rest => cases split
  | cons char chars inductionHypothesis =>
      cases octets with
      | nil => cases split
      | cons first rest =>
          obtain ⟨frontEq, restEq⟩ := List.cons.inj split
          rcases read : front first rest with ⟨piece, count⟩
          rw [read] at frontEq restEq
          subst frontEq
          obtain ⟨tail, left, rfl, rfl, encoded⟩ := encodeChar_of_front read
          rw [piecesAfter_append] at restEq
          rw [List.flatMap_cons, encoded, inductionHypothesis restEq, List.cons_append]

/-! ### Reading -/

theorem mapM_char?_eq_some_iff {pieces : List Piece} {chars : List Char} :
    pieces.mapM Piece.char? = some chars ↔ pieces = chars.map .scalar := by
  induction pieces generalizing chars with
  | nil => cases chars <;> simp
  | cons piece pieces inductionHypothesis =>
      cases piece with
      | scalar char =>
          cases chars <;>
            simp [Piece.char?, Option.bind_eq_some_iff, inductionHypothesis, and_comm]
      | broken octets => cases chars <;> simp [Piece.char?]

/-- A text is what its octets are read as. -/
theorem decode?_encode (text : String) : decode? (encode text) = some text := by
  have charsRead : chars? (encode text) = some text.toList :=
    mapM_char?_eq_some_iff.mpr (pieces_flatMap_encodeChar text.toList)
  rw [decode?, charsRead, Option.map_some, String.ofList_toList]

/-- Octets that are read as a text are the octets of it. -/
theorem encode_of_decode? {octets : Octets} {text : String} (read : decode? octets = some text) :
    encode text = octets := by
  obtain ⟨chars, charsRead, rfl⟩ := Option.map_eq_some_iff.mp read
  rw [encode, String.toList_ofList]
  exact flatMap_encodeChar_of_pieces (mapM_char?_eq_some_iff.mp charsRead)

theorem decode?_eq_some_iff {octets : Octets} {text : String} :
    decode? octets = some text ↔ encode text = octets := by
  constructor
  · exact encode_of_decode?
  · intro encoded
    rw [← encoded, decode?_encode]

end SyscallTally.Text.Utf8
