import SyscallTally.Files.Path

/-!
Owns the relation of the two readings of a path: the names that are walked, and the parent that is
taken from the text. A parent is a first part of its path and walks fewer names
(`within_of_parent?`). Where the path ends in a name, the walk along the parent falls short by that
name only, and by dots (`parent?_of_parts`).
-/

set_option autoImplicit false

namespace SyscallTally.Files.Path

open SyscallTally.Text

/-! ### Parts -/

/-- The parts between the slashes of a path, its first slash left out. -/
def parts (path : Path) : List Name :=
  segments (· == slash) (if isAbsolute path then path.tail else path)

/-- A name that a path walks: not empty. -/
def isName (part : Name) : Bool := !part.isEmpty

theorem eq_slash_cons {path : Path} (absolute : isAbsolute path = true) :
    path = slash :: path.tail := by
  cases path with
  | nil => cases absolute
  | cons first rest =>
      rw [isAbsolute, List.head?_cons, beq_iff_eq] at absolute
      rw [Option.some.inj absolute, List.tail_cons]

theorem names_slash_cons (path : Path) : names (slash :: path) = names path := by
  rw [names, names, tokens, segments_cons, addInFront, if_pos (by decide)]
  rfl

theorem names_eq_filter_parts (path : Path) : names path = (parts path).filter isName := by
  cases absolute : isAbsolute path with
  | false =>
      rw [parts, absolute]
      rfl
  | true =>
      rw [parts, absolute, eq_slash_cons absolute, names_slash_cons]
      rfl

theorem slash_not_mem_parts {path : Path} {part : Name} (isPart : part ∈ parts path) :
    slash ∉ part := by
  intro member
  have notSlash := isSeparator_of_mem_segments isPart slash member
  cases notSlash

theorem ofParts_parts (path : Path) :
    ofParts (parts path) = if isAbsolute path then path.tail else path := by
  rw [ofParts, parts, segments_eq_splitOnP]
  exact List.intercalate_splitOn slash

theorem names_ofParts {parts : List Name} (clean : ∀ part ∈ parts, slash ∉ part) :
    names (ofParts parts) = parts.filter isName := by
  cases parts with
  | nil => rfl
  | cons first rest =>
      have split : segments (· == slash) (ofParts (first :: rest)) = first :: rest := by
        rw [segments_eq_splitOnP]
        exact List.splitOn_intercalate slash clean (List.cons_ne_nil first rest)
      rw [names, tokens, split]
      rfl

/-! ### Trimmed parts -/

/-- What is trimmed at the end of some parts is not walked, or is a dot. -/
theorem trimParts_append (relative : Bool) (parts : List Name) :
    ∃ trimmed, parts = trimParts relative parts ++ trimmed ∧
      ∀ part ∈ trimmed, isName part = true → part = dot := by
  induction parts generalizing relative with
  | nil => exact ⟨[], rfl, nofun⟩
  | cons part rest inductionHypothesis =>
      obtain ⟨trimmed, restEq, dots⟩ := inductionHypothesis false
      rw [trimParts]
      split
      case h_1 none =>
        rw [none, List.nil_append] at restEq
        split
        case isTrue => exact ⟨trimmed, by rw [← restEq]; rfl, dots⟩
        case isFalse insignificant =>
          refine ⟨part :: rest, rfl, fun other member filled => ?_⟩
          rcases List.mem_cons.mp member with rfl | member
          · simp only [isSignificant, isName] at insignificant filled
            rw [filled] at insignificant
            simp at insignificant
            exact insignificant.2
          · exact dots other (restEq ▸ member) filled
      case h_2 =>
        exact ⟨trimmed, congrArg (part :: ·) restEq, dots⟩

theorem trimParts_of_significant (relative : Bool) (front : List Name) {last : Name}
    (filled : isName last = true) (noDot : last ≠ dot) :
    trimParts relative (front ++ [last]) = front ++ [last] := by
  induction front generalizing relative with
  | nil =>
      have significant : isSignificant relative last = true := by
        simp only [isSignificant, isName] at filled ⊢
        simp [filled, noDot]
      rw [List.nil_append, trimParts, trimParts]
      exact if_pos significant
  | cons part front inductionHypothesis =>
      rw [List.cons_append, trimParts, inductionHypothesis]
      cases front <;> rfl

/-- What is left of trimmed parts ends in a name. -/
theorem isName_of_getLast?_trimParts {relative : Bool} {parts : List Name} {last : Name}
    (lastEq : (trimParts relative parts).getLast? = some last) : isName last = true := by
  induction parts generalizing relative with
  | nil => cases lastEq
  | cons part rest inductionHypothesis =>
      rw [trimParts] at lastEq
      split at lastEq
      case h_1 =>
        split at lastEq
        case isTrue significant =>
          obtain rfl := Option.some.inj lastEq
          exact (Bool.and_eq_true_iff.mp significant).1
        case isFalse => cases lastEq
      case h_2 =>
        cases keptEq : trimParts false rest with
        | nil => contradiction
        | cons second others =>
            rw [keptEq, List.getLast?_cons_cons, ← keptEq] at lastEq
            exact inductionHypothesis lastEq

theorem ofParts_cons_cons (first second : Name) (rest : List Name) :
    ofParts (first :: second :: rest) = first ++ slash :: ofParts (second :: rest) := by
  simp [ofParts, List.intercalate, List.intersperse]

theorem ofParts_within (front rest : List Name) : ofParts front <+: ofParts (front ++ rest) := by
  induction front with
  | nil => exact List.nil_prefix
  | cons first front inductionHypothesis =>
      cases front with
      | nil =>
          cases rest with
          | nil => exact List.prefix_rfl
          | cons second rest =>
              rw [List.singleton_append, ofParts_cons_cons]
              have single : ofParts [first] = first := by
                simp [ofParts, List.intercalate]
              rw [single]
              exact List.prefix_append first _
      | cons second front =>
          rw [List.cons_append, List.cons_append, ofParts_cons_cons, ofParts_cons_cons,
            List.prefix_append_right_inj, List.cons_prefix_cons]
          exact ⟨rfl, inductionHypothesis⟩

/-! ### Parents -/

/-- A path that ends in a name has that name as its last part. -/
theorem parts_last {path : Path} (nonempty : path ≠ []) (unslashed : endsInSlash path = false) :
    ∃ front last, parts path = front ++ [last] ∧ isName last = true := by
  have ends : ∀ octet, path.getLast? = some octet → (octet == slash) = false := by
    intro octet lastEq
    rw [endsInSlash, lastEq] at unslashed
    exact unslashed
  have filled : (if isAbsolute path then path.tail else path) ≠ [] ∧
      ∀ octet, (if isAbsolute path then path.tail else path).getLast? = some octet →
        (octet == slash) = false := by
    split
    case isTrue absolute =>
      have pathEq := eq_slash_cons absolute
      cases tailEq : path.tail with
      | nil =>
          rw [tailEq] at pathEq
          rw [pathEq] at unslashed
          cases unslashed
      | cons first rest =>
          rw [pathEq, tailEq, List.getLast?_cons_cons] at ends
          exact ⟨List.cons_ne_nil first rest, ends⟩
    case isFalse => exact ⟨nonempty, ends⟩
  obtain ⟨front, last, partsEq, lastFilled⟩ := segments_last filled.1 filled.2
  refine ⟨front, last, partsEq, ?_⟩
  cases last with
  | nil => exact absurd rfl lastFilled
  | cons => rfl

/-- The path that goes along the first parts of another, from where that starts. -/
def along (path : Path) (front : List Name) : Path :=
  if isAbsolute path then slash :: ofParts front else ofParts front

theorem along_within {path : Path} {front rest : List Name} (partsEq : parts path = front ++ rest) :
    along path front <+: path := by
  have within : ofParts front <+: if isAbsolute path then path.tail else path := by
    rw [← ofParts_parts, partsEq]
    exact ofParts_within front rest
  unfold along
  cases absolute : isAbsolute path with
  | false =>
      rw [absolute] at within
      exact within
  | true =>
      rw [absolute] at within
      rw [eq_slash_cons absolute]
      exact List.cons_prefix_cons.mpr ⟨rfl, within⟩

theorem names_along {path : Path} {front rest : List Name} (partsEq : parts path = front ++ rest) :
    names path = names (along path front) ++ rest.filter isName := by
  have clean : ∀ part ∈ front, slash ∉ part := fun part member =>
    slash_not_mem_parts (partsEq ▸ List.mem_append_left _ member)
  have alongEq : names (along path front) = names (ofParts front) := by
    unfold along
    split
    case isTrue => exact names_slash_cons _
    case isFalse => rfl
  rw [alongEq, names_ofParts clean, names_eq_filter_parts, partsEq, List.filter_append]

theorem parent?_eq_some {path : Path} {front : List Name} {last : Name}
    (kept : trimParts (!isAbsolute path) (parts path) = front ++ [last]) :
    parent? path = some (along path (trimParts (!isAbsolute path) front)) := by
  unfold parts at kept
  unfold parent?
  simp only [kept]
  split
  case h_1 none => exact absurd none (List.concat_ne_nil last _)
  case h_2 =>
    rw [List.dropLast_concat]
    rfl

/-- A parent is a first part of its path, and the path walks more names than the parent. -/
theorem within_of_parent? {path parent : Path} (isParent : parent? path = some parent) :
    parent <+: path ∧ parent.length < path.length ∧
      ∃ first rest, names path = names parent ++ first :: rest := by
  obtain ⟨trimmed, partsEq, -⟩ := trimParts_append (!isAbsolute path) (parts path)
  rcases List.eq_nil_or_concat (trimParts (!isAbsolute path) (parts path)) with
    none | ⟨front, last, kept⟩
  case inl =>
    unfold parts at none
    unfold parent? at isParent
    simp only [none, reduceCtorEq] at isParent
  case inr =>
    rw [List.concat_eq_append] at kept
    rw [parent?_eq_some kept] at isParent
    obtain rfl := Option.some.inj isParent
    have filled : isName last = true :=
      isName_of_getLast?_trimParts (kept ▸ List.getLast?_concat)
    obtain ⟨cut, frontEq, -⟩ := trimParts_append (!isAbsolute path) front
    generalize trimParts (!isAbsolute path) front = short at frontEq
    subst frontEq
    have split : parts path = short ++ (cut ++ last :: trimmed) := by
      rw [partsEq, kept]
      simp
    obtain ⟨first, rest, restEq⟩ : ∃ first rest,
        (cut ++ last :: trimmed).filter isName = first :: rest := by
      apply List.exists_cons_of_ne_nil
      apply List.ne_nil_of_mem (a := last)
      simp [filled]
    have namesEq := names_along split
    rw [restEq] at namesEq
    have within := along_within split
    refine ⟨within, Nat.lt_of_le_of_ne within.length_le fun same => ?_, first, rest, namesEq⟩
    rw [within.eq_of_length same] at namesEq
    exact List.cons_ne_nil first rest (List.self_eq_append_right.mp namesEq)

/-- The parent of a path that ends in a name: a first part of it, on which the names are the same
but for that one, and for dots in front of it. -/
theorem parent?_of_parts {path : Path} {front : List Name} {last : Name}
    (partsEq : parts path = front ++ [last]) (filled : isName last = true) (noDot : last ≠ dot) :
    ∃ parent, parent? path = some parent ∧ parent <+: path ∧
      ∃ dots, names path = names parent ++ dots ++ [last] ∧ ∀ name ∈ dots, name = dot := by
  have kept : trimParts (!isAbsolute path) (parts path) = front ++ [last] := by
    rw [partsEq, trimParts_of_significant _ _ filled noDot]
  have isParent := parent?_eq_some kept
  obtain ⟨trimmed, frontEq, onlyDots⟩ := trimParts_append (!isAbsolute path) front
  generalize trimParts (!isAbsolute path) front = short at isParent frontEq
  subst frontEq
  rw [List.append_assoc] at partsEq
  refine ⟨_, isParent, along_within partsEq, trimmed.filter isName, ?_, ?_⟩
  · rw [names_along partsEq, List.filter_append, List.filter_cons_of_pos filled, List.filter_nil,
      List.append_assoc]
  · intro name member
    obtain ⟨isTrimmed, isFilled⟩ := List.mem_filter.mp member
    exact onlyDots name isTrimmed isFilled

end SyscallTally.Files.Path
