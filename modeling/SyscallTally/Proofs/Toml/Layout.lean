import SyscallTally.Proofs.Toml.Lines
import SyscallTally.Proofs.Toml.Literals

/-!
Owns lines that are laid out freely: blank lines, and assignments of a string in any form to a bare
key, with white space wherever a line may have it (`means_blankLine`, `TextLine.means`). They say
what they say whatever stands behind them.

Does not own: lines as settings are saved, which have one layout only.
-/

set_option autoImplicit false

namespace SyscallTally.Toml

/-- White space within a line. -/
structure Gap where
  chars : List Char := []
  blank : chars.all isSpace = true := by decide

/-- The two forms of a newline. -/
inductive Newline where
  | feed
  | returnFeed
deriving DecidableEq, Repr

def Newline.chars : Newline → List Char
  | .feed => ['\n']
  | .returnFeed => ['\r', '\n']

/-- A line that assigns a string to a bare key. -/
structure TextLine where
  key : Key
  /-- The string as it stands in the line. -/
  literal : List Char
  /-- The string as it is read. -/
  content : List Char
  bare : ∀ char ∈ key, isBare char = true
  named : key ≠ []
  reads : string? literal = some (content, [])
  indent : Gap := {}
  beforeEquals : Gap := {}
  afterEquals : Gap := {}
  trailing : Gap := {}
  newline : Newline := .feed

def TextLine.chars (line : TextLine) : List Char :=
  line.indent.chars ++ (line.key ++ (line.beforeEquals.chars ++ '=' :: (line.afterEquals.chars ++
    (line.literal ++ (line.trailing.chars ++ line.newline.chars)))))

/-! ### Gaps and ends of lines -/

theorem skipSpaces_gap (gap : Gap) {first : Char} (solid : isSpace first = false)
    (rest : List Char) : skipSpaces (gap.chars ++ first :: rest) = first :: rest := by
  rw [skipSpaces, List.dropWhile_append_of_pos (List.all_eq_true.mp gap.blank)]
  exact skipSpaces_of_front solid rest

theorem Newline.front (newline : Newline) :
    ∃ first rest, newline.chars = first :: rest ∧ (first = '\n' ∨ first = '\r') := by
  cases newline with
  | feed => exact ⟨_, _, rfl, .inl rfl⟩
  | returnFeed => exact ⟨_, _, rfl, .inr rfl⟩

theorem lineBody?_gap (gap : Gap) {first : Char} (solid : isSpace first = false)
    (rest : List Char) : lineBody? (gap.chars ++ first :: rest) = lineBody? (first :: rest) := by
  rw [lineBody?, lineBody?, skipSpaces_gap gap solid, skipSpaces_of_front solid]

theorem lineEnd?_newline (gap : Gap) (newline : Newline) (rest : List Char) :
    lineEnd? (gap.chars ++ (newline.chars ++ rest)) = some rest := by
  cases newline with
  | feed =>
      rw [Newline.chars, List.singleton_append, lineEnd?, skipSpaces_gap gap rfl]
      rfl
  | returnFeed =>
      rw [Newline.chars, List.cons_append, lineEnd?, skipSpaces_gap gap rfl]
      rfl

/-- A line of white space says nothing. -/
theorem means_blankLine (gap : Gap) (newline : Newline) :
    Means (gap.chars ++ newline.chars) .blank where
  nonempty := by
    obtain ⟨first, rest, isFront, -⟩ := newline.front
    rw [isFront]
    exact List.append_ne_nil_of_right_ne_nil _ (List.cons_ne_nil first rest)
  reads := fun rest => by
    have body : lineBody? (gap.chars ++ (newline.chars ++ rest)) =
        some (.blank, newline.chars ++ rest) := by
      cases newline with
      | feed => exact lineBody?_gap gap rfl rest
      | returnFeed => exact lineBody?_gap gap rfl ('\n' :: rest)
    have ends : lineEnd? (newline.chars ++ rest) = some rest := lineEnd?_newline {} newline rest
    rw [List.append_assoc, line?, body]
    simp only [ends, Option.map_some]

/-- Neither white space nor a newline goes on with a string or with a bare key. -/
theorem gap_front (gap : Gap) (first : Char) (rest : List Char) :
    ∃ next others, gap.chars ++ first :: rest = next :: others ∧
      (isSpace next = true ∨ next = first) := by
  cases chars : gap.chars with
  | nil => exact ⟨first, rest, rfl, .inr rfl⟩
  | cons next others =>
      exact ⟨next, _, rfl, .inl (List.all_eq_true.mp gap.blank next (chars ▸ List.mem_cons_self))⟩

theorem unmarked_end (gap : Gap) (newline : Newline) (rest : List Char) :
    Unmarked (gap.chars ++ (newline.chars ++ rest)) := by
  obtain ⟨first, body, isFront, isNewline⟩ := newline.front
  obtain ⟨next, others, nextEq, isNext⟩ := gap_front gap first (body ++ rest)
  have isOther : isSpace next = true ∨ next = '\n' ∨ next = '\r' :=
    isNext.imp_right fun same => by rwa [same]
  rw [isFront, List.cons_append, nextEq]
  constructor <;> rintro ⟨⟩ <;> rcases isOther with space | same | same <;> contradiction

/-- No line begins with a mark of the byte order. -/
theorem Means.head?_ne {line : List Char} {statement : Statement} (means : Means line statement) :
    line.head? ≠ some '\uFEFF' := by
  intro marked
  obtain ⟨rest, rfl⟩ : ∃ rest, line = '\uFEFF' :: rest := List.head?_eq_some_iff.mp marked
  have unread : line? ('\uFEFF' :: rest ++ []) = none := rfl
  rw [means.reads []] at unread
  cases unread

/-! ### Assignments -/

theorem keys?_spaced {key : Key} (bare : ∀ char ∈ key, isBare char = true) (named : key ≠ [])
    (gap : Gap) (rest : List Char) :
    keys? (key ++ (gap.chars ++ '=' :: rest)) = some ([key], '=' :: rest) := by
  obtain ⟨next, others, nextEq, isNext⟩ := gap_front gap '=' rest
  have stop : isBare next = false := by
    rcases isNext with space | rfl
    · refine Bool.eq_false_iff.mpr fun isKey => ?_
      rw [isSpace_of_isBare isKey] at space
      cases space
    · rfl
  have skipped : skipSpaces (gap.chars ++ '=' :: rest) = '=' :: rest := skipSpaces_gap gap rfl rest
  rw [nextEq] at skipped ⊢
  show keysWithin (78 + 1) _ = _
  rw [keysWithin, skipSpaces_append bare named, key?_append bare named stop]
  simp only [skipped]
  rfl

namespace TextLine

theorem literal_front (line : TextLine) :
    ∃ first rest, line.literal = first :: rest ∧ (first = '"' ∨ first = '\'') := by
  have reads := line.reads
  unfold string? at reads
  split at reads
  case h_1 => exact ⟨_, _, by assumption, .inl rfl⟩
  case h_2 => exact ⟨_, _, by assumption, .inl rfl⟩
  case h_3 => exact ⟨_, _, by assumption, .inr rfl⟩
  case h_4 => exact ⟨_, _, by assumption, .inr rfl⟩
  case h_5 => cases reads

theorem value?_literal (line : TextLine) {rest : List Char} (unmarked : Unmarked rest) :
    value? (skipSpaces (line.afterEquals.chars ++ (line.literal ++ rest))) =
      some (.text line.content, rest) := by
  have read := string?_append line.reads unmarked
  obtain ⟨first, body, literalEq, mark⟩ := line.literal_front
  have noSpace : isSpace first = false := by rcases mark with rfl | rfl <;> rfl
  have noArray : first ≠ '[' := by rcases mark with rfl | rfl <;> decide
  have noTable : first ≠ '\x7b' := by rcases mark with rfl | rfl <;> decide
  rw [literalEq, List.cons_append] at read ⊢
  rw [skipSpaces_gap line.afterEquals noSpace, value?, valueWithin_of_ne noArray noTable,
    scalarValue?, read]

theorem lineBody?_chars (line : TextLine) {rest : List Char} (unmarked : Unmarked rest) :
    lineBody? (line.indent.chars ++ (line.key ++ (line.beforeEquals.chars ++
      '=' :: (line.afterEquals.chars ++ (line.literal ++ rest))))) =
        some (.assign [line.key] (.text line.content), rest) := by
  have assigned : assignment? value? (line.key ++ (line.beforeEquals.chars ++
      '=' :: (line.afterEquals.chars ++ (line.literal ++ rest)))) =
        some (([line.key], .text line.content), rest) := by
    rw [assignment?, keys?_spaced line.bare line.named]
    simp only [line.value?_literal unmarked, Option.map_some]
  obtain ⟨first, others, keyEq⟩ := List.exists_cons_of_ne_nil line.named
  have firstBare : isBare first = true := line.bare first (keyEq ▸ List.mem_cons_self)
  rw [keyEq, List.cons_append] at assigned ⊢
  rw [lineBody?_gap line.indent (isSpace_of_isBare firstBare), lineBody?_of_isBare firstBare,
    assigned]
  rfl

theorem means (line : TextLine) :
    Means line.chars (.assign [line.key] (.text line.content)) where
  nonempty := by
    obtain ⟨first, rest, isFront⟩ := List.exists_cons_of_ne_nil line.named
    simp [chars, isFront]
  reads := fun rest => by
    have body := line.lineBody?_chars (unmarked_end line.trailing line.newline rest)
    have split : line.chars ++ rest = line.indent.chars ++ (line.key ++
        (line.beforeEquals.chars ++ '=' :: (line.afterEquals.chars ++ (line.literal ++
          (line.trailing.chars ++ (line.newline.chars ++ rest)))))) := by
      simp [chars]
    rw [split, line?, body]
    simp only [lineEnd?_newline, Option.map_some]

end TextLine

end SyscallTally.Toml
