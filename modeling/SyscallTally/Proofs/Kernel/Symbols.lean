import SyscallTally.Kernel.Symbols
import SyscallTally.Proofs.Text.Utf8

/-!
Owns what a listing must be for there to be symbols in it: a listing that is well-formed line by line
is a text as a whole (`exists_text_of_parse?`), since the newline that joins its lines is the octet
of a newline and nothing else.
-/

set_option autoImplicit false

namespace SyscallTally.Kernel.Symbols

open SyscallTally.Text

/-- Lines that are joined by newlines have the octets of the lines, joined by newlines. -/
theorem intercalate_of_chars? {parts : List Octets} {lines : List (List Char)}
    (read : parts.mapM Utf8.chars? = some lines) :
    ([newline] : Octets).intercalate parts =
      (['\n'].intercalate lines).flatMap String.utf8EncodeChar := by
  induction parts generalizing lines with
  | nil =>
      rw [List.mapM_nil] at read
      obtain rfl := Option.some.inj read
      rfl
  | cons part parts inductionHypothesis =>
      simp only [List.mapM_cons, Option.bind_eq_bind, Option.bind_eq_some_iff, Option.pure_def,
        Option.some.injEq] at read
      obtain ⟨line, lineRead, rest, restRead, rfl⟩ := read
      have partEq : line.flatMap String.utf8EncodeChar = part :=
        Utf8.flatMap_encodeChar_of_pieces (Utf8.mapM_char?_eq_some_iff.mp lineRead)
      have restEq := inductionHypothesis restRead
      cases parts with
      | nil =>
          rw [List.mapM_nil] at restRead
          obtain rfl := Option.some.inj restRead
          rw [List.intercalate_singleton, List.intercalate_singleton, partEq]
      | cons next parts =>
          simp only [List.mapM_cons, Option.bind_eq_bind, Option.bind_eq_some_iff, Option.pure_def,
            Option.some.injEq] at restRead
          obtain ⟨nextLine, -, later, -, rfl⟩ := restRead
          rw [List.intercalate_cons_cons, List.intercalate_cons_cons, restEq,
            List.flatMap_append, List.flatMap_append, partEq]
          rfl

theorem exists_text_of_parse? {listing : Octets} {symbols : Symbols}
    (parsed : parse? listing = some symbols) : ∃ text, Utf8.encode text = listing := by
  obtain ⟨lines, read, -⟩ := Option.map_eq_some_iff.mp parsed
  refine ⟨String.ofList (['\n'].intercalate lines), ?_⟩
  rw [Utf8.encode, String.toList_ofList, ← intercalate_of_chars? read, segments_eq_splitOnP]
  exact List.intercalate_splitOn newline

end SyscallTally.Kernel.Symbols
