import SyscallTally.Proofs.Files.Rewriting

/-!
Owns what a file that has been written is afterwards, whether or not it was there before: it is
located where it was written, holds what was written, and may be written again
(`located_of_write`).

A store in which there is more than in another (`Extends`) has all of its walks. So the walk to the
directory of a new file is not disturbed by the file.
-/

set_option autoImplicit false

namespace SyscallTally.Files.Store

variable {store later : Store} {path : Path} {contents : Contents}

/-! ### Stores that hold more -/

/-- A later store in which there is still something wherever there was something, and a directory
wherever there was one. -/
structure Extends (store later : Store) : Prop where
  workingDirectory : later.workingDirectory = store.workingDirectory
  isDirectory : ∀ place, store.isDirectory place = true → later.isDirectory place = true
  present : ∀ place, (store.node? place).isSome = true → (later.node? place).isSome = true

theorem extends_put {place : Place} (noDirectory : store.isDirectory place = false) (node : Node) :
    store.Extends (store.put place node) where
  workingDirectory := rfl
  isDirectory := by
    intro other directory
    have different : other ≠ place := by
      rintro rfl
      rw [noDirectory] at directory
      cases directory
    rw [isDirectory, node?_put noDirectory, if_neg different]
    exact directory
  present := by
    intro other present
    rw [node?_put noDirectory]
    split
    case isTrue => rfl
    case isFalse => exact present

theorem Extends.start_eq (extension : store.Extends later) (path : Path) :
    later.start path = store.start path := by
  rw [start, start, extension.workingDirectory]

theorem Extends.enter (extension : store.Extends later) {here next : Place} {name : Name}
    (entered : store.enter here name = .ok next) : later.enter here name = .ok next := by
  obtain ⟨directory, enters⟩ := enters_of_enter entered
  apply enter_of_enters (extension.isDirectory here directory)
  cases enters with
  | stays nameEq => exact .stays nameEq
  | ascends nameEq => exact .ascends nameEq
  | descends proper short present => exact .descends proper short (extension.present _ present)

theorem Extends.walk (extension : store.Extends later) {here there : Place} {names : List Name}
    (walked : store.walk here names = .ok there) : later.walk here names = .ok there := by
  induction names generalizing here with
  | nil => exact walked
  | cons name names inductionHypothesis =>
      rw [Store.walk] at walked ⊢
      cases entered : store.enter here name with
      | error fault =>
          rw [entered] at walked
          cases walked
      | ok next =>
          rw [entered] at walked
          rw [extension.enter entered]
          exact inductionHypothesis walked

/-! ### Written files -/

theorem lastName_eq_ok {place : Place} {name : Name}
    (found : store.lastName path = .ok (place, some name)) :
    Path.fault? path = none ∧ store.isDirectory place = true ∧
      ∃ before, Path.names path = before ++ [name] ∧
        store.walk (store.start path) before = .ok place := by
  rw [lastName] at found
  cases faultless : Path.fault? path with
  | some fault =>
      rw [faultless] at found
      cases found
  | none =>
      rw [faultless] at found
      cases walked : store.walk (store.start path) (Path.names path).dropLast with
      | error fault =>
          rw [walked] at found
          cases found
      | ok here =>
          simp only [walked] at found
          split at found
          case isFalse => cases found
          case isTrue directory =>
            obtain ⟨rfl, last⟩ := Prod.mk.inj (Except.ok.inj found)
            obtain ⟨before, namesEq⟩ := List.getLast?_eq_some_iff.mp last
            rw [namesEq, List.dropLast_concat] at walked
            exact ⟨rfl, directory, before, namesEq, walked⟩

/-- A file that has been written is where it was written, and holds what was written. It has no
guard. -/
theorem located_of_write (written : store.write path contents = .ok later) :
    ∃ above name, later = store.put (above ++ [name]) (.file contents) ∧
      later.Located path above name contents ∧ later.guard? (above ++ [name]) = none := by
  rw [write] at written
  split at written
  case h_1 => cases written
  case h_2 => cases written
  case h_3 place name found =>
    obtain ⟨faultless, directory, before, namesEq, walked⟩ := lastName_eq_ok found
    split at written
    case isTrue => cases written
    case isFalse writable =>
      split at written
      case isTrue => cases written
      case isFalse short =>
        split at written
        case isTrue => cases written
        case isFalse vacant =>
          split at written
          case h_1 => cases written
          case h_2 free =>
            obtain rfl := Except.ok.inj written
            simp only [Bool.or_eq_true, Bool.not_eq_true', not_or, Bool.not_eq_true,
              Bool.not_eq_false] at writable
            have noDirectory := Bool.eq_false_iff.mpr vacant
            have extension := extends_put noDirectory (.file contents)
            refine ⟨place, name, rfl, ?_, by rw [guard?_put, guard?_of_refusal? free]⟩
            exact {
              faultless
              unslashed := writable.1
              walks := ⟨before, namesEq, by rw [extension.start_eq, extension.walk walked]⟩
              directory := extension.isDirectory place directory
              proper := writable.2
              short := Nat.le_of_not_lt short
              file := by rw [node?_put noDirectory, if_pos rfl] }

end SyscallTally.Files.Store
