/-!
Contract: cutting a list at separators.

Owns:
- `segments`, the parts between separators, empty parts included;
- `tokens`, the non-empty parts.

Lines and columns of a listing are both cut this way: lines at the newline octet, columns at white
space.
-/

set_option autoImplicit false

namespace SyscallTally.Text

variable {α : Type}

/-- The parts after one more item in front: a separator opens a new part, any other item goes to the
front of the first. -/
def addInFront (isSeparator : α → Bool) (item : α) (parts : List (List α)) : List (List α) :=
  if isSeparator item then [] :: parts else parts.modifyHead (item :: ·)

/-- The parts between separators. There is always one more part than there are separators. -/
def segments (isSeparator : α → Bool) (items : List α) : List (List α) :=
  items.foldr (addInFront isSeparator) [[]]

/-- The non-empty parts between separators. -/
def tokens (isSeparator : α → Bool) (items : List α) : List (List α) :=
  (segments isSeparator items).filter (fun part => !part.isEmpty)

/-! ### Parts and the core library's split -/

theorem segments_cons (isSeparator : α → Bool) (item : α) (items : List α) :
    segments isSeparator (item :: items) =
      addInFront isSeparator item (segments isSeparator items) := rfl

theorem segments_eq_splitOnP (isSeparator : α → Bool) (items : List α) :
    segments isSeparator items = items.splitOnP isSeparator := by
  induction items with
  | nil => rw [List.splitOnP_nil]; rfl
  | cons item items inductionHypothesis =>
      rw [segments_cons, inductionHypothesis, List.splitOnP_cons_eq_if_modifyHead]
      rfl

theorem segments_ne_nil (isSeparator : α → Bool) (items : List α) :
    segments isSeparator items ≠ [] := by
  rw [segments_eq_splitOnP]
  exact List.splitOnP_ne_nil isSeparator items

/-- No separator is left in a part. -/
theorem isSeparator_of_mem_segments {isSeparator : α → Bool} {items part : List α}
    (isPart : part ∈ segments isSeparator items) : ∀ item ∈ part, isSeparator item = false := by
  induction items generalizing part with
  | nil =>
      rw [List.mem_singleton.mp isPart]
      exact fun _ member => nomatch member
  | cons item items inductionHypothesis =>
      rw [segments_cons, addInFront] at isPart
      split at isPart
      case isTrue =>
        rcases List.mem_cons.mp isPart with rfl | isPart
        · exact fun _ member => nomatch member
        · exact inductionHypothesis isPart
      case isFalse notSeparator =>
        obtain ⟨first, others, partsEq⟩ :=
          List.exists_cons_of_ne_nil (segments_ne_nil isSeparator items)
        rw [partsEq, List.modifyHead_cons] at isPart
        rcases List.mem_cons.mp isPart with rfl | isPart
        · intro other member
          rcases List.mem_cons.mp member with rfl | member
          · exact Bool.eq_false_iff.mpr notSeparator
          · exact inductionHypothesis (partsEq ▸ List.mem_cons_self) other member
        · exact inductionHypothesis (partsEq ▸ List.mem_cons_of_mem first isPart)

/-- Items that do not end in a separator have a last part that is not empty. -/
theorem segments_last {isSeparator : α → Bool} {items : List α} (nonempty : items ≠ [])
    (ends : ∀ item, items.getLast? = some item → isSeparator item = false) :
    ∃ front last, segments isSeparator items = front ++ [last] ∧ last ≠ [] := by
  induction items with
  | nil => exact absurd rfl nonempty
  | cons item items inductionHypothesis =>
      rw [segments_cons, addInFront]
      cases items with
      | nil =>
          rw [if_neg (Bool.eq_false_iff.mp (ends item rfl))]
          exact ⟨[], [item], rfl, List.cons_ne_nil item []⟩
      | cons next items =>
          rw [List.getLast?_cons_cons] at ends
          obtain ⟨front, last, partsEq, filled⟩ :=
            inductionHypothesis (List.cons_ne_nil next items) ends
          rw [partsEq]
          split
          · exact ⟨[] :: front, last, rfl, filled⟩
          · cases front with
            | nil => exact ⟨[], item :: last, rfl, List.cons_ne_nil item last⟩
            | cons first front => exact ⟨(item :: first) :: front, last, rfl, filled⟩

end SyscallTally.Text
