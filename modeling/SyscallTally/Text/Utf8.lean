/-!
Contract: text as octets. Files, paths, arguments and variables arrive as octets and need not be
text at all.

Owns:
- the split of octets into scalar values and ill-formed stretches, after the table of well-formed
  octet sequences of the Unicode standard;
- the three readings of that split: strict, lossy, and octet by octet.

Does not own: how an ill-formed octet is shown inside quotes.

## Why one split

Strict decoding, replacement by U+FFFD and the quoted form of a path must agree on where an
ill-formed stretch begins and ends. They are three views of `pieces`, so they cannot disagree.
-/

set_option autoImplicit false

namespace SyscallTally.Text

/-- Octets, the raw form of files, paths, arguments and variables. -/
abbrev Octets := List UInt8

end SyscallTally.Text

namespace SyscallTally.Text.Utf8

/-- A scalar value, or a maximal stretch of octets that begins no scalar value. -/
inductive Piece where
  | scalar (char : Char)
  | broken (octets : Octets)
deriving DecidableEq, Repr

/-- An inclusive range of octets. -/
structure OctetRange where
  low : UInt8
  high : UInt8
deriving DecidableEq, Repr

/-- Whether an octet lies in the range, ends included. -/
def OctetRange.holds (range : OctetRange) (octet : UInt8) : Bool :=
  range.low ≤ octet && octet ≤ range.high

/-- The range of an unrestricted continuation octet. -/
def continuation : OctetRange := ⟨0x80, 0xBF⟩

/-- What a first octet promises: the bits that it contributes and the ranges of the octets that
have to follow. The narrowed ranges exclude overlong forms, surrogates and values past U+10FFFF. -/
def lead? (octet : UInt8) : Option (Nat × List OctetRange) :=
  if octet < 0x80 then some (octet.toNat, [])
  else if octet < 0xC2 then none
  else if octet < 0xE0 then some (octet.toNat - 0xC0, [continuation])
  else if octet = 0xE0 then some (0x0, [⟨0xA0, 0xBF⟩, continuation])
  else if octet = 0xED then some (0xD, [⟨0x80, 0x9F⟩, continuation])
  else if octet < 0xF0 then some (octet.toNat - 0xE0, [continuation, continuation])
  else if octet = 0xF0 then some (0x0, [⟨0x90, 0xBF⟩, continuation, continuation])
  else if octet < 0xF4 then
    some (octet.toNat - 0xF0, [continuation, continuation, continuation])
  else if octet = 0xF4 then some (0x4, [⟨0x80, 0x8F⟩, continuation, continuation])
  else none

/-- Reads the promised octets. Every octet that fits is taken, also when a later one does not fit;
the count is that of the octets taken here. -/
def follow (value : Nat) (taken : Octets) : List OctetRange → Octets → Piece × Nat
  | [], _ => (.scalar (Char.ofNat value), 0)
  | _ :: _, [] => (.broken taken, 0)
  | range :: ranges, octet :: rest =>
      if range.holds octet then
        let (piece, count) :=
          follow (value * 64 + (octet.toNat - 0x80)) (taken ++ [octet]) ranges rest
        (piece, count + 1)
      else
        (.broken taken, 0)

/-- The piece that starts with the given octet, and how many octets of the rest belong to it. -/
def front (first : UInt8) (rest : Octets) : Piece × Nat :=
  match lead? first with
  | none => (.broken [first], 0)
  | some (value, ranges) => follow value [first] ranges rest

/-- The pieces after skipping octets that an earlier piece has taken. -/
def piecesAfter : Nat → Octets → List Piece
  | _, [] => []
  | skipped + 1, _ :: rest => piecesAfter skipped rest
  | 0, first :: rest =>
      (front first rest).1 :: piecesAfter (front first rest).2 rest

/-- Octets split into scalar values and ill-formed stretches, in order. -/
def pieces (octets : Octets) : List Piece := piecesAfter 0 octets

/-- The scalar value of a well-formed piece. -/
def Piece.char? : Piece → Option Char
  | .scalar char => some char
  | .broken _ => none

/-- The scalar value of a piece, with U+FFFD for a whole ill-formed stretch. -/
def Piece.charOrReplacement : Piece → Char
  | .scalar char => char
  | .broken _ => '\uFFFD'

/-- The characters of octets that are well-formed throughout. -/
def chars? (octets : Octets) : Option (List Char) := (pieces octets).mapM Piece.char?

/-- The text of octets that are well-formed throughout. -/
def decode? (octets : Octets) : Option String := (chars? octets).map String.ofList

/-- The text of any octets, each ill-formed stretch replaced by one U+FFFD. -/
def lossy (octets : Octets) : String :=
  String.ofList ((pieces octets).map Piece.charOrReplacement)

def encode (text : String) : Octets := text.toList.flatMap String.utf8EncodeChar

end SyscallTally.Text.Utf8
