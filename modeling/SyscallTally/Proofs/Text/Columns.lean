import SyscallTally.Text.Blank
import SyscallTally.Text.Segments

/-!
Owns the columns of a line, as a relation that says what they are and not how they are found:
`Columns` holds of a line and its tokens between white space, and of nothing else (`columns_iff`).

The white space around and between columns is of any length and of any kind. What follows a column
after white space does not change the columns before (`tokens_append_gap`).
-/

set_option autoImplicit false

namespace SyscallTally.Text

/-! ### Tokens -/

section

variable {α : Type} {isSeparator : α → Bool} {separator : α} {left right part : List α}

theorem tokens_nil (isSeparator : α → Bool) : tokens isSeparator [] = [] := rfl

theorem tokens_append_separator (isTrue : isSeparator separator = true) (left right : List α) :
    tokens isSeparator (left ++ separator :: right) =
      tokens isSeparator left ++ tokens isSeparator right := by
  simp only [tokens, segments_eq_splitOnP, List.splitOnP_append_cons left right isTrue,
    List.filter_append]

theorem tokens_separator_cons (isTrue : isSeparator separator = true) (right : List α) :
    tokens isSeparator (separator :: right) = tokens isSeparator right :=
  tokens_append_separator isTrue [] right

theorem tokens_gap_append (gap : ∀ item ∈ left, isSeparator item = true) (right : List α) :
    tokens isSeparator (left ++ right) = tokens isSeparator right := by
  induction left with
  | nil => rfl
  | cons item left inductionHypothesis =>
      rw [List.cons_append, tokens_separator_cons (gap item List.mem_cons_self),
        inductionHypothesis fun other member => gap other (List.mem_cons_of_mem item member)]

theorem tokens_gap (gap : ∀ item ∈ left, isSeparator item = true) :
    tokens isSeparator left = [] := by
  rw [← List.append_nil left, tokens_gap_append gap, tokens_nil]

/-- What stands behind a separator comes after the tokens in front of it. -/
theorem tokens_append_gap (ends : ∀ item, right.head? = some item → isSeparator item = true)
    (left : List α) :
    tokens isSeparator (left ++ right) = tokens isSeparator left ++ tokens isSeparator right := by
  cases right with
  | nil => rw [List.append_nil, tokens_nil, List.append_nil]
  | cons item right =>
      have isTrue := ends item rfl
      rw [tokens_append_separator isTrue, tokens_separator_cons isTrue]

theorem tokens_word (filled : part ≠ []) (word : ∀ item ∈ part, isSeparator item = false) :
    tokens isSeparator part = [part] := by
  rw [tokens, segments_eq_splitOnP, List.splitOnP_eq_singleton word]
  cases part with
  | nil => exact absurd rfl filled
  | cons item part => rfl

theorem mem_tokens (member : part ∈ tokens isSeparator left) :
    part ≠ [] ∧ ∀ item ∈ part, isSeparator item = false := by
  obtain ⟨isPart, filled⟩ := List.mem_filter.mp member
  refine ⟨?_, isSeparator_of_mem_segments isPart⟩
  rintro rfl
  cases filled

end

/-! ### Columns -/

/-- The columns of a line: stretches without white space that are as long as can be, in order. -/
inductive Columns : List Char → List (List Char) → Prop where
  | none {gap : List Char} (blank : ∀ char ∈ gap, isBlank char = true) : Columns gap []
  | next {gap word rest : List Char} {words : List (List Char)}
      (blank : ∀ char ∈ gap, isBlank char = true) (filled : word ≠ [])
      (solid : ∀ char ∈ word, isBlank char = false)
      (ends : ∀ char, rest.head? = some char → isBlank char = true)
      (later : Columns rest words) : Columns (gap ++ (word ++ rest)) (word :: words)

namespace Columns

variable {line : List Char} {words : List (List Char)}

theorem tokens_eq (columns : Columns line words) : tokens isBlank line = words := by
  induction columns with
  | none blank => exact tokens_gap blank
  | next blank filled solid ends _ inductionHypothesis =>
      rw [tokens_gap_append blank, tokens_append_gap ends, tokens_word filled solid,
        inductionHypothesis, List.singleton_append]

end Columns

theorem exists_columns (line : List Char) : ∃ words, Columns line words := by
  induction line with
  | nil => exact ⟨[], .none fun _ member => nomatch member⟩
  | cons char line inductionHypothesis =>
      obtain ⟨words, columns⟩ := inductionHypothesis
      -- A character of white space widens the first gap, any other the first word if it is next.
      cases isBlankChar : isBlank char with
      | true =>
          cases columns with
          | none blank => exact ⟨[], .none (List.forall_mem_cons.mpr ⟨isBlankChar, blank⟩)⟩
          | next blank filled solid ends later =>
              exact ⟨_, .next (List.forall_mem_cons.mpr ⟨isBlankChar, blank⟩) filled solid ends
                later⟩
      | false =>
          have single : ∀ other ∈ [char], isBlank other = false :=
            List.forall_mem_singleton.mpr isBlankChar
          have noGap : ∀ other ∈ ([] : List Char), isBlank other = true :=
            fun _ member => nomatch member
          cases columns with
          | none blank =>
              refine ⟨[[char]], .next noGap (List.cons_ne_nil _ _) single ?_ (.none blank)⟩
              exact fun other first => blank other (List.mem_of_head? first)
          | @next gap word rest words blank filled solid ends later =>
              cases gap with
              | nil =>
                  exact ⟨(char :: word) :: words, .next noGap (List.cons_ne_nil _ _)
                    (List.forall_mem_cons.mpr ⟨isBlankChar, solid⟩) ends later⟩
              | cons first gap =>
                  refine ⟨[char] :: word :: words, .next noGap (List.cons_ne_nil _ _) single ?_
                    (.next blank filled solid ends later)⟩
                  intro other isFirst
                  obtain rfl : first = other := Option.some.inj isFirst
                  exact blank first List.mem_cons_self

theorem columns_iff {line : List Char} {words : List (List Char)} :
    Columns line words ↔ tokens isBlank line = words := by
  constructor
  · exact Columns.tokens_eq
  · intro found
    obtain ⟨others, columns⟩ := exists_columns line
    rwa [← found, columns.tokens_eq]

end SyscallTally.Text
