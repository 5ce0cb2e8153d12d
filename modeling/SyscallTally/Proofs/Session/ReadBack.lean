import SyscallTally.Proofs.Counter.Lines
import SyscallTally.Proofs.Session.Output

/-!
Owns what the output of a counting session tells of the snapshots that the session has read
(`output_reads_back`): all of them, unless the output has failed in the middle of a line, and then
all but the last.

Text is read back by `Snapshot.snapshots?`, which knows nothing of sessions. What an output has
taken is whole lines and at most the beginning of another (`Untorn`), and a beginning that is not the
whole line has no newline.
-/

set_option autoImplicit false

namespace SyscallTally.Session

open SyscallTally.Counter SyscallTally.Counter.Snapshot SyscallTally.Probe

/-! ### Snapshots of a history -/

/-- The snapshots that were read. -/
def readSnapshots (history : List Happening) : List Snapshot :=
  history.filterMap fun
    | .read (.ok snapshot) => some snapshot
    | _ => none

/-- The snapshots whose lines the output has taken whole: all that were read, or all but the
last. -/
def written (history : List Happening) : List Snapshot :=
  if accepted history = (readLines history).flatten then readSnapshots history
  else (readSnapshots history).dropLast

section

variable {history : List Happening} {problem : Problem}

theorem readLines_eq_map (history : List Happening) :
    readLines history = (readSnapshots history).map fun snapshot => snapshot.line.toList := by
  rw [readSnapshots, List.map_filterMap]
  refine List.filterMap_congr fun happening _ => ?_
  cases happening with
  | read result => cases result <;> rfl
  | _ => rfl

/-- The last line is that of the last snapshot. -/
theorem readLines_of_concat {earlier : List Snapshot} {last : Snapshot}
    (isLast : readSnapshots history = earlier ++ [last]) :
    readLines history =
      (earlier.map fun snapshot => snapshot.line.toList) ++ [last.line.toList] := by
  rw [readLines_eq_map, isLast, List.map_append, List.map_singleton]

theorem snapshots?_of_whole (whole : accepted history = (readLines history).flatten) :
    snapshots? (accepted history) = some ((readSnapshots history).map toList) := by
  have read : snapshots? ((readSnapshots history).flatMap (·.line.toList) ++ []) = _ :=
    snapshots?_lines (readSnapshots history) (List.forall_mem_nil _)
  rwa [List.append_nil, List.flatMap_def, ← readLines_eq_map, ← whole] at read

/-- Reading back finds the lines that are there as a whole. -/
theorem snapshots?_of_untorn (untorn : Untorn history) :
    snapshots? (accepted history) = some ((written history).map toList) := by
  rw [written]
  split
  case isTrue whole => exact snapshots?_of_whole whole
  case isFalse notWhole =>
    obtain ⟨front, begins, taken⟩ := untorn
    rcases List.eq_nil_or_concat (readSnapshots history) with nothing | ⟨earlier, last, isLast⟩
    · have noLine : readLines history = [] := by rw [readLines_eq_map, nothing, List.map_nil]
      rw [noLine] at begins taken notWhole
      have empty : front = [] := List.prefix_nil.mp begins
      exact absurd (taken.trans empty) notWhole
    · rw [List.concat_eq_append] at isLast
      have lines := readLines_of_concat isLast
      rw [lines, List.getLastD_concat, toList_line, List.prefix_concat_iff] at begins
      rw [lines, List.dropLast_concat, ← List.flatMap_def] at taken
      rw [isLast, List.dropLast_concat, taken]
      rcases begins with wholeLine | inLine
      · refine absurd ?_ notWhole
        rw [lines, List.flatten_concat, ← List.flatMap_def, taken, toList_line, wholeLine]
      · exact snapshots?_lines earlier fun char member =>
          newline_free_of_lineFront last char (inLine.subset member)

theorem whole_concat {happening : Happening} (takes : accepted [happening] = [])
    (reads : readLines [happening] = [])
    (whole : accepted history = (readLines history).flatten) :
    accepted (history ++ [happening]) = (readLines (history ++ [happening])).flatten := by
  rw [accepted_concat, readLines_concat, takes, reads, List.append_nil, List.append_nil, whole]

/-- Where the reports of a session have failed, but no write has, every line was taken. -/
theorem whole_of_ended (follows : Stage.Follows .idle history (.ended problem))
    (otherwise : ∀ reason, problem ≠ writeProblem reason) :
    accepted history = (readLines history).flatten := by
  rcases List.eq_nil_or_concat history with rfl | ⟨earlier, last, rfl⟩
  · cases follows
  · rw [List.concat_eq_append] at follows ⊢
    obtain ⟨stage, before, after⟩ := follows.split
    have fits : Fits earlier stage := fits_nil.follows before
    cases after with
    | cons step nothing =>
        cases step with
        | read snapshot => cases nothing
        | taken char text rest => cases nothing
        | flushed => cases nothing
        | notTaken char rest =>
            cases nothing
            exact absurd rfl (otherwise _)
        | refused char rest reason =>
            cases nothing
            exact absurd rfl (otherwise _)
        | unread failure => exact whole_concat rfl rfl fits.1
        | unflushed reason =>
            obtain ⟨lines, front, read, taken, -⟩ := fits
            refine whole_concat rfl rfl ?_
            rw [read, taken, List.append_nil, List.flatten_concat]

end

/-! ### Sessions -/

/-- What has passed in a counting session, on whatever platform and among whatever surroundings, and
how the session has ended, if it has. -/
inductive Passes : List Happening → Except Problem Unit → Prop where
  | goesOn {ω π : Type} {platform : Platform ω π} {around : Surroundings ω} {settings : Settings}
      {world : ω} {reports : Nat} {told : Told ω}
      (got : reached (telling platform) around.telling settings reports { state := world } =
        some told) : Passes told.history (.ok ())
  | ends {ω π : Type} {platform : Platform ω π} {around : Surroundings ω} {settings : Settings}
      {world : ω} {rounds : Nat} {ending : Ending (Told ω)} (counting : settings.probe = .count)
      (ends : run (telling platform) around.telling settings rounds { state := world } =
        some ending) : Passes ending.world.history ending.result

namespace Passes

variable {history : List Happening} {result : Except Problem Unit}

theorem untorn (passes : Passes history result) : Untorn history := by
  cases passes with
  | goesOn got => exact (fits_nil.follows (follows_of_reached got)).untorn
  | ends counting ends =>
      obtain ⟨_, follows, -⟩ := follows_of_run counting ends
      exact (fits_nil.follows follows).untorn

theorem whole (passes : Passes history result)
    (otherwise : ∀ reason, result ≠ .error (writeProblem reason)) :
    accepted history = (readLines history).flatten := by
  cases passes with
  | goesOn got => exact (fits_nil.follows (follows_of_reached got)).1
  | ends counting ends =>
      obtain ⟨reported, follows, failed⟩ := follows_of_run counting ends
      cases reported with
      | ok => exact (fits_nil.follows follows).1
      | error problem =>
          refine whole_of_ended follows fun reason same => otherwise reason ?_
          rw [failed problem rfl, same]

end Passes

/-- Report lines are read back unambiguously. The lines of any snapshots, written one after the
other, are read as just these snapshots. In every line the keys ascend, and two lists of entries
make the same line just when they have the same last value under each key. What the output of a
session has taken is read as the snapshots whose lines it has taken whole, which are all that the
session has read unless it ends with a failed write. So sessions with the same output, on whatever
platforms and with whatever settings, have written the same snapshots and, unless a write has
failed, have read the same. -/
theorem output_reads_back :
    (∀ snapshots : List Snapshot,
      snapshots? (snapshots.flatMap fun snapshot => snapshot.line.toList) =
        some (snapshots.map toList)) ∧
    (∀ snapshot : Snapshot, ∃ entries : List (UInt64 × UInt64),
      snapshot.line = String.join (entries.map item) ++ "\n" ∧
      snapshots? snapshot.line.toList = some [entries] ∧
      entries.Pairwise fun left right => left.1 < right.1) ∧
    (∀ first second : List (UInt64 × UInt64),
      (ofList first).line = (ofList second).line ↔
        ∀ key, first.reverse.lookup key = second.reverse.lookup key) ∧
    (∀ history result, Passes history result →
      snapshots? (accepted history) = some ((written history).map toList) ∧
      ((∀ reason, result ≠ .error (writeProblem reason)) →
        written history = readSnapshots history)) ∧
    (∀ first firstResult second secondResult,
      Passes first firstResult → Passes second secondResult → accepted first = accepted second →
        (written first).map toList = (written second).map toList ∧
        ((∀ reason, firstResult ≠ .error (writeProblem reason) ∧
            secondResult ≠ .error (writeProblem reason)) →
          (readSnapshots first).map toList = (readSnapshots second).map toList)) := by
  have told {history : List Happening} {result : Except Problem Unit}
      (passes : Passes history result) :
      snapshots? (accepted history) = some ((written history).map toList) ∧
      ((∀ reason, result ≠ .error (writeProblem reason)) →
        written history = readSnapshots history) :=
    ⟨snapshots?_of_untorn passes.untorn, fun otherwise => if_pos (passes.whole otherwise)⟩
  refine ⟨?_, ?_, fun _ _ => line_ofList_eq_iff, fun _ _ => told, ?_⟩
  · intro snapshots
    have read : snapshots? (snapshots.flatMap (fun snapshot => snapshot.line.toList) ++ []) = _ :=
      snapshots?_lines snapshots (List.forall_mem_nil _)
    rwa [List.append_nil] at read
  · intro snapshot
    exact ⟨snapshot.toList, rfl, snapshots?_line snapshot, toList_ascending snapshot⟩
  · intro first firstResult second secondResult firstPasses secondPasses same
    obtain ⟨firstRead, firstAll⟩ := told firstPasses
    obtain ⟨secondRead, secondAll⟩ := told secondPasses
    have sameWritten : (written first).map toList = (written second).map toList := by
      rw [same, secondRead] at firstRead
      exact (Option.some.inj firstRead).symm
    refine ⟨sameWritten, fun otherwise => ?_⟩
    rwa [← firstAll fun reason => (otherwise reason).1,
      ← secondAll fun reason => (otherwise reason).2]

theorem output_reads_back_full :
    ∃ history result, Passes history result ∧ accepted history = "ID: 7, 1\t\nID: 7,".toList ∧
      (readSnapshots history).length = 2 ∧ (written history).map toList = [[(7, 1)]] := by
  have outputs : (run (telling Platform.Scripted.platform) narrowOutput.telling {} 2
      { state := twoReads }).map (fun ending => (accepted ending.world.history,
        (readSnapshots ending.world.history).length)) =
      some ("ID: 7, 1\t\nID: 7,".toList, 2) := by
    decide +kernel
  obtain ⟨ending, ends, same⟩ := Option.map_eq_some_iff.mp outputs
  obtain ⟨taken, reads⟩ := Prod.mk.inj same
  have passes : Passes ending.world.history ending.result := .ends rfl ends
  have read := (output_reads_back.2.2.2.1 _ _ passes).1
  have shown : snapshots? "ID: 7, 1\t\nID: 7,".toList = some [[(7, 1)]] := by decide +kernel
  rw [taken, shown] at read
  exact ⟨_, _, passes, taken, reads, (Option.some.inj read).symm⟩

end SyscallTally.Session
