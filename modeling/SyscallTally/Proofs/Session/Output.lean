import SyscallTally.Proofs.Session.Telling

/-!
Owns what a counting session gives to its output, whatever the output takes of it and however it
fails (`output_is_never_torn`).

Between its steps a session is at a stage: it has nothing to write, it has the rest of a line to
write, or it is over. `Stage.Step` is all that can happen at a stage, and the loops of the session
only ever make such steps: the loop that writes a line (`follows_writeAll`), and around it the loop
of reports (`follows_rounds`). What a history says of the output at each stage is kept by each step
(`Fits.step`), and so holds of every beginning of every history.
-/

set_option autoImplicit false

namespace SyscallTally.Session

open SyscallTally.Counter SyscallTally.Probe

variable {ω π : Type}

/-! ### What a history says -/

/-- The text that the output has taken. -/
def accepted (history : List Happening) : List Char :=
  history.flatMap fun
    | .taken text => text
    | _ => []

/-- The lines of the snapshots that were read. -/
def readLines (history : List Happening) : List (List Char) :=
  history.filterMap fun
    | .read (.ok snapshot) => some snapshot.line.toList
    | _ => none

/-- The text that waits for a flush, after one more happening. -/
def pendingAfter (text : List Char) : Happening → List Char
  | .taken more => text ++ more
  | .flushed => []
  | _ => text

/-- The text that the output has taken since it was last flushed. -/
def pending (history : List Happening) : List Char := history.foldl pendingAfter []

/-- The problem of a session whose output fails while a line is written. -/
def writeProblem (reason : String) : Problem := ⟨.output reason, ["Failed to write report"]⟩

/-- The problem of a session whose output fails to flush a line. -/
def flushProblem (reason : String) : Problem := ⟨.output reason, ["Failed to flush report"]⟩

/-- The problem that a session ends with because of a happening at its output. -/
def Happening.problem? : Happening → Option Problem
  | .taken [] => some (writeProblem nothingTaken)
  | .refused reason => some (writeProblem reason)
  | .unflushed reason => some (flushProblem reason)
  | _ => none

/-- Whether the output was asked to flush. -/
def Happening.isFlush : Happening → Bool
  | .flushed => true
  | .unflushed _ => true
  | _ => false

/-- Whether the last thing that has happened is that the output took something. -/
def JustTaken (history : List Happening) : Prop :=
  ∃ earlier text, history = earlier ++ [.taken text]

section

variable (history : List Happening) (happening : Happening)

theorem accepted_concat : accepted (history ++ [happening]) =
    accepted history ++ accepted [happening] := List.flatMap_append

theorem readLines_concat : readLines (history ++ [happening]) =
    readLines history ++ readLines [happening] := List.filterMap_append

theorem pending_concat : pending (history ++ [happening]) =
    pendingAfter (pending history) happening := List.foldl_append

theorem justTaken_concat_iff :
    JustTaken (history ++ [happening]) ↔ ∃ text, happening = .taken text := by
  constructor
  · rintro ⟨earlier, text, same⟩
    obtain ⟨-, last⟩ := List.append_inj' same rfl
    exact ⟨text, List.singleton_inj.mp last⟩
  · rintro ⟨text, rfl⟩
    exact ⟨history, text, rfl⟩

end

/-! ### Lines -/

section

variable {char : Char}

theorem isAscii_of_all {text : String} (ascii : text.toList.all (·.toNat < 0x80) = true)
    (member : char ∈ text.toList) : char.toNat < 0x80 :=
  of_decide_eq_true (List.all_eq_true.mp ascii char member)

theorem isAscii_of_mem_repr {number : Nat} (member : char ∈ (Nat.repr number).toList) :
    char.toNat < 0x80 := by
  rw [Nat.repr, String.toList_ofList] at member
  have digit : char.isDigit = true := Nat.isDigit_of_mem_toDigits (by decide) (by decide) member
  simp only [Char.isDigit, Bool.and_eq_true, decide_eq_true_eq] at digit
  exact Nat.lt_of_le_of_lt digit.2 (by decide)

theorem isAscii_of_mem_item {entry : UInt64 × UInt64}
    (member : char ∈ (Snapshot.item entry).toList) : char.toNat < 0x80 := by
  simp only [Snapshot.item, String.toList_append, List.mem_append] at member
  rcases member with (((name | key) | comma) | count) | tab
  · exact isAscii_of_all (by decide) name
  · exact isAscii_of_mem_repr key
  · exact isAscii_of_all (by decide) comma
  · exact isAscii_of_mem_repr count
  · exact isAscii_of_all (by decide) tab

/-- A line is written in ASCII, so its characters are its octets. -/
theorem isAscii_of_mem_line {snapshot : Snapshot} (member : char ∈ snapshot.line.toList) :
    char.toNat < 0x80 := by
  simp only [Snapshot.line, String.toList_append, String.toList_join, List.mem_append,
    List.mem_flatMap, List.mem_map] at member
  rcases member with ⟨_, ⟨entry, -, rfl⟩, inItem⟩ | newline
  · exact isAscii_of_mem_item inItem
  · exact isAscii_of_all (by decide) newline

end

theorem line_ne_nil (snapshot : Snapshot) : snapshot.line.toList ≠ [] := by
  simp [Snapshot.line]

theorem exists_line_of_mem {history : List Happening} {line : List Char}
    (member : line ∈ readLines history) : ∃ snapshot : Snapshot, line = snapshot.line.toList := by
  obtain ⟨happening, -, isLine⟩ := List.mem_filterMap.mp member
  split at isLine
  case h_1 snapshot => exact ⟨snapshot, (Option.some.inj isLine).symm⟩
  case h_2 => cases isLine

/-! ### Stages -/

/-- Where a session is between two happenings. -/
inductive Stage where
  /-- It has nothing to write. -/
  | idle
  /-- It has the rest of a line to write, or a whole line to be flushed. -/
  | writing (rest : List Char)
  | ended (problem : Problem)

/-- What can happen at a stage. -/
inductive Stage.Step : Stage → Happening → Stage → Prop where
  | read (snapshot : Snapshot) :
      Step .idle (.read (.ok snapshot)) (.writing snapshot.line.toList)
  | unread (failure : Failure) : Step .idle (.read (.error failure)) (.ended (.ofFailure failure))
  | taken (char : Char) (text rest : List Char) :
      Step (.writing (char :: text ++ rest)) (.taken (char :: text)) (.writing rest)
  | notTaken (char : Char) (rest : List Char) :
      Step (.writing (char :: rest)) (.taken []) (.ended (writeProblem nothingTaken))
  | refused (char : Char) (rest : List Char) (reason : String) :
      Step (.writing (char :: rest)) (.refused reason) (.ended (writeProblem reason))
  | flushed : Step (.writing []) .flushed .idle
  | unflushed (reason : String) :
      Step (.writing []) (.unflushed reason) (.ended (flushProblem reason))

/-- From one stage to another, one happening after the other. -/
inductive Stage.Follows : Stage → List Happening → Stage → Prop where
  | nil (stage : Stage) : Follows stage [] stage
  | cons {stage next last : Stage} {happening : Happening} {rest : List Happening}
      (step : Step stage happening next) (follows : Follows next rest last) :
      Follows stage (happening :: rest) last

namespace Stage.Follows

variable {first middle last : Stage} {early late : List Happening}

theorem append (before : Follows first early middle) (after : Follows middle late last) :
    Follows first (early ++ late) last := by
  induction before with
  | nil => exact after
  | cons step _ inductionHypothesis => exact .cons step (inductionHypothesis after)

theorem split (follows : Follows first (early ++ late) last) :
    ∃ middle, Follows first early middle ∧ Follows middle late last := by
  induction early generalizing first with
  | nil => exact ⟨first, .nil first, follows⟩
  | cons happening rest inductionHypothesis =>
      cases follows with
      | cons step follows =>
          obtain ⟨middle, before, after⟩ := inductionHypothesis follows
          exact ⟨middle, .cons step before, after⟩

theorem of_ended {problem : Problem} (follows : Follows (.ended problem) late last) :
    late = [] ∧ last = .ended problem := by
  cases follows with
  | nil => exact ⟨rfl, rfl⟩
  | cons step => cases step

end Stage.Follows

/-! ### The loops of a session -/

variable {platform : Platform ω π} {around : Surroundings ω} {probe : π} {told later : Told ω}

/-- The stage after a line has been written, or not. -/
def stageOfWriting : Except String Unit → Stage
  | .error reason => .ended (writeProblem reason)
  | .ok () => .writing []

/-- The stage after a report, or after all reports. -/
def stageOfResult : Except Problem Unit → Stage
  | .error problem => .ended problem
  | .ok () => .idle

theorem follows_writeAll {skipped : Nat} {text : List Char} {result : Except String Unit}
    (writing : writeAll around.telling skipped text told = (result, later)) :
    ∃ history, later.history = told.history ++ history ∧
      Stage.Follows (.writing (text.drop skipped)) history (stageOfWriting result) := by
  -- Only where nothing is left to be skipped is the output offered anything: all that follows.
  induction text generalizing skipped told with
  | nil =>
      have ended : ((Except.ok () : Except String Unit), told) = (result, later) := by
        rw [← writing]
        cases skipped <;> rfl
      cases ended
      exact ⟨[], (List.append_nil _).symm, by rw [List.drop_nil]; exact .nil _⟩
  | cons char rest inductionHypothesis =>
      cases skipped with
      | succ skipped => exact inductionHypothesis writing
      | zero =>
          rw [writeAll] at writing
          rcases offering : around.write (char :: rest) told.state with ⟨reason | taken, after⟩
          · rw [write_telling_of_error offering] at writing
            cases writing
            exact ⟨_, rfl, .cons (.refused char rest reason) (.nil _)⟩
          · rw [write_telling_of_ok offering] at writing
            cases taken with
            | zero =>
                cases writing
                exact ⟨_, rfl, .cons (.notTaken char rest) (.nil _)⟩
            | succ taken =>
                obtain ⟨history, grown, follows⟩ := inductionHypothesis writing
                refine ⟨.taken (char :: rest.take taken) :: history, ?_, ?_⟩
                · rw [grown, Told.after, List.append_assoc]
                  rfl
                · have step := Stage.Step.taken char (rest.take taken) (rest.drop taken)
                  rw [List.cons_append, List.take_append_drop] at step
                  exact .cons step follows

theorem follows_report {snapshot : Snapshot} {result : Except Problem Unit}
    (reporting : report around.telling snapshot told = (result, later)) :
    ∃ history, later.history = told.history ++ history ∧
      Stage.Follows (.writing snapshot.line.toList) history (stageOfResult result) := by
  rw [report] at reporting
  rcases writing : writeAll around.telling 0 snapshot.line.toList told with
    ⟨reason | ⟨⟩, written⟩
  · rw [writing] at reporting
    cases reporting
    exact follows_writeAll writing
  · obtain ⟨history, grown, follows⟩ := follows_writeAll writing
    change Stage.Follows _ history (.writing []) at follows
    rw [writing] at reporting
    rcases flushing : around.flush written.state with ⟨reason | ⟨⟩, after⟩
    · simp only [flush_telling_of_error flushing] at reporting
      cases reporting
      refine ⟨history ++ [.unflushed reason], ?_,
        follows.append (.cons (.unflushed reason) (.nil _))⟩
      rw [Told.after, grown, List.append_assoc]
    · simp only [flush_telling_of_ok flushing] at reporting
      cases reporting
      refine ⟨history ++ [.flushed], ?_, follows.append (.cons .flushed (.nil _))⟩
      rw [Told.after, grown, List.append_assoc]

theorem readTable_telling {result : Except Failure Snapshot} {log : List LogRecord}
    (reading : (telling platform).readTable probe told = ⟨result, later, log⟩) :
    later.history = told.history ++ [.read result] := by
  have reads : (telling platform).readTable probe told =
    (platform.readTable probe told.state).onPart
      (told.after (.read (platform.readTable probe told.state).result)) := rfl
  rw [reads] at reading
  cases reading
  rfl

theorem pause_telling {interval : Nat} {cancelled : Bool}
    (pausing : around.telling.pause interval told = (cancelled, later)) :
    later.history = told.history := by
  cases pausing
  rfl

theorem follows_rounds {interval rounds : Nat} {ending : Ending (Told ω)}
    (going : Rounds (telling platform) around.telling interval probe rounds told ending) :
    ∃ history, ending.world.history = told.history ++ history ∧
      Stage.Follows .idle history (stageOfResult ending.result) := by
  induction going with
  | cancelled pausing =>
      exact ⟨[], by rw [pause_telling pausing, List.append_nil], .nil _⟩
  | unread pausing reading =>
      refine ⟨_, ?_, .cons (.unread _) (.nil _)⟩
      rw [readTable_telling reading, pause_telling pausing]
  | unreported pausing reading reporting =>
      obtain ⟨history, grown, follows⟩ := follows_report reporting
      refine ⟨_, ?_, .cons (.read _) follows⟩
      rw [grown, readTable_telling reading, pause_telling pausing, List.append_assoc]
      rfl
  | reported pausing reading reporting goingOn inductionHypothesis =>
      obtain ⟨history, grown, follows⟩ := follows_report reporting
      obtain ⟨more, grownMore, followsMore⟩ := inductionHypothesis
      refine ⟨_, ?_, .cons (.read _) (follows.append followsMore)⟩
      rw [Ending.following, grownMore, grown, readTable_telling reading, pause_telling pausing]
      simp only [List.append_assoc]
      rfl

theorem follows_afterReports {interval reports : Nat}
    (got : afterReports (telling platform) around.telling interval probe reports told =
      some later) :
    ∃ history, later.history = told.history ++ history ∧ Stage.Follows .idle history .idle := by
  induction reports generalizing later with
  | zero =>
      cases got
      exact ⟨[], (List.append_nil _).symm, .nil _⟩
  | succ reports inductionHypothesis =>
      obtain ⟨before, gotBefore, whole⟩ := Option.bind_eq_some_iff.mp got
      obtain ⟨history, grown, follows⟩ := inductionHypothesis gotBefore
      obtain ⟨after, snapshot, left, log, pausing, reading, reporting⟩ :=
        round?_eq_some_iff.mp whole
      obtain ⟨more, grownMore, followsMore⟩ := follows_report reporting
      refine ⟨history ++ .read (.ok snapshot) :: more, ?_,
        follows.append (.cons (.read _) followsMore)⟩
      rw [grownMore, readTable_telling reading, pause_telling pausing, grown]
      simp only [List.append_assoc]
      rfl

/-! ### What holds at each stage -/

/-- Whether the output has taken whole lines, in the order in which they were read, and then at most
the beginning of the last of them. -/
def Untorn (history : List Happening) : Prop :=
  ∃ front, front <+: (readLines history).getLastD [] ∧
    accepted history = (readLines history).dropLast.flatten ++ front

/-- Whether the output has just taken the end of a line. -/
def EndsLine (history : List Happening) : Prop :=
  JustTaken history ∧ accepted history = (readLines history).flatten

/-- What a history says at a stage of the session. -/
def Fits (history : List Happening) : Stage → Prop
  | .idle =>
      accepted history = (readLines history).flatten ∧ pending history = [] ∧
        ¬ JustTaken history
  | .writing rest =>
      ∃ earlier front, readLines history = earlier ++ [front ++ rest] ∧
        accepted history = earlier.flatten ++ front ∧ pending history = front ∧
        (rest = [] → JustTaken history)
  | .ended problem =>
      Untorn history ∧ (pending history ≠ [] →
        ∃ before last, history = before ++ [last] ∧ last.problem? = some problem)

theorem untorn_of_whole {history : List Happening}
    (whole : accepted history = (readLines history).flatten) : Untorn history := by
  refine ⟨(readLines history).getLastD [], List.prefix_rfl, ?_⟩
  rw [whole]
  rcases List.eq_nil_or_concat (readLines history) with nothing | ⟨earlier, last, read⟩
  · rw [nothing]
    rfl
  · rw [read, List.concat_eq_append, List.getLastD_concat, List.dropLast_concat,
      List.flatten_concat]

theorem untorn_of_writing {history : List Happening} {earlier : List (List Char)}
    {front rest : List Char} (read : readLines history = earlier ++ [front ++ rest])
    (taken : accepted history = earlier.flatten ++ front) : Untorn history := by
  refine ⟨front, ?_, ?_⟩
  · rw [read, List.getLastD_concat]
    exact List.prefix_append _ _
  · rw [read, List.dropLast_concat]
    exact taken

theorem Fits.untorn {history : List Happening} {stage : Stage} (fits : Fits history stage) :
    Untorn history := by
  cases stage with
  | idle => exact untorn_of_whole fits.1
  | writing rest =>
      obtain ⟨earlier, front, read, taken, -⟩ := fits
      exact untorn_of_writing read taken
  | ended problem => exact fits.1

theorem Fits.fails {history : List Happening} {rest : List Char} {happening : Happening}
    {problem : Problem} (fits : Fits history (.writing rest)) (takes : accepted [happening] = [])
    (reads : readLines [happening] = []) (ends : happening.problem? = some problem) :
    Fits (history ++ [happening]) (.ended problem) := by
  obtain ⟨earlier, front, read, taken, -⟩ := fits
  have sameLines : readLines (history ++ [happening]) = earlier ++ [front ++ rest] := by
    rw [readLines_concat, reads, List.append_nil, read]
  have sameText : accepted (history ++ [happening]) = earlier.flatten ++ front := by
    rw [accepted_concat, takes, List.append_nil, taken]
  exact ⟨untorn_of_writing sameLines sameText, fun _ => ⟨history, happening, rfl, ends⟩⟩

theorem Fits.step {history : List Happening} {stage next : Stage} {happening : Happening}
    (fits : Fits history stage) (step : stage.Step happening next) :
    Fits (history ++ [happening]) next := by
  cases step with
  | read snapshot =>
      obtain ⟨whole, nothing, -⟩ := fits
      refine ⟨readLines history, [], ?_, ?_, ?_, fun empty => absurd empty (line_ne_nil snapshot)⟩
      · rw [readLines_concat]
        rfl
      · rw [accepted_concat, whole]
        rfl
      · rw [pending_concat, nothing]
        rfl
  | unread failure =>
      obtain ⟨whole, nothing, -⟩ := fits
      have reads : readLines [.read (.error failure)] = [] := rfl
      have takes : accepted [.read (.error failure)] = [] := rfl
      refine ⟨untorn_of_whole ?_, fun waits => absurd ?_ waits⟩
      · rw [accepted_concat, readLines_concat, reads, takes, List.append_nil, List.append_nil,
          whole]
      · rw [pending_concat, nothing]
        rfl
  | taken char text rest =>
      obtain ⟨earlier, front, read, taken, waits, -⟩ := fits
      refine ⟨earlier, front ++ char :: text, ?_, ?_, ?_, fun _ => ⟨history, _, rfl⟩⟩
      · have reads : readLines [.taken (char :: text)] = [] := rfl
        rw [readLines_concat, reads, List.append_nil, read, List.append_assoc]
      · have takes : accepted [.taken (char :: text)] = char :: text := List.flatMap_singleton _ _
        rw [accepted_concat, takes, taken, List.append_assoc]
      · rw [pending_concat, waits]
        rfl
  | notTaken char rest => exact fits.fails rfl rfl rfl
  | refused char rest reason => exact fits.fails rfl rfl rfl
  | flushed =>
      obtain ⟨earlier, front, read, taken, -⟩ := fits
      have reads : readLines [.flushed] = [] := rfl
      have takes : accepted [.flushed] = [] := rfl
      refine ⟨?_, ?_, ?_⟩
      · rw [accepted_concat, readLines_concat, reads, takes, List.append_nil, List.append_nil, read,
          taken, List.append_nil, List.flatten_concat]
      · rw [pending_concat]
        rfl
      · rw [justTaken_concat_iff]
        rintro ⟨text, same⟩
        cases same
  | unflushed reason => exact fits.fails rfl rfl rfl

theorem Fits.follows {history more : List Happening} {stage last : Stage}
    (fits : Fits history stage) (follows : stage.Follows more last) :
    Fits (history ++ more) last := by
  induction follows generalizing history with
  | nil =>
      rw [List.append_nil]
      exact fits
  | cons step _ inductionHypothesis =>
      have kept := inductionHypothesis (fits.step step)
      rwa [List.append_assoc] at kept

theorem fits_nil : Fits [] .idle := ⟨rfl, rfl, fun ⟨_, _, same⟩ => by simp at same⟩

/-! ### Histories of sessions -/

/-- Whether the output has been served in order: at every moment it has taken whole lines and at
most the beginning of the last one, and it is asked to flush exactly when it has taken the end of a
line. All of it is ASCII: what is said of characters holds of octets. -/
structure Orderly (history : List Happening) : Prop where
  ascii : ∀ line ∈ readLines history, ∀ char ∈ line, char.toNat < 0x80
  untorn : ∀ before, before <+: history → Untorn before
  flushes : ∀ before next after, history = before ++ next :: after →
    (next.isFlush = true ↔ EndsLine before)

/-- At a stage at which something can happen, a flush can happen exactly at the end of a line. -/
theorem isFlush_iff {history : List Happening} {stage next : Stage} {happening : Happening}
    (fits : Fits history stage) (step : stage.Step happening next) :
    happening.isFlush = true ↔ EndsLine history := by
  have midLine {char : Char} {rest : List Char} (fits : Fits history (.writing (char :: rest))) :
      ¬ EndsLine history := by
    rintro ⟨-, whole⟩
    obtain ⟨earlier, front, read, taken, -⟩ := fits
    rw [read, taken, List.flatten_concat] at whole
    simp at whole
  have atEnd (fits : Fits history (.writing [])) : EndsLine history := by
    obtain ⟨earlier, front, read, taken, -, justTaken⟩ := fits
    refine ⟨justTaken rfl, ?_⟩
    rw [read, taken, List.append_nil, List.flatten_concat]
  cases step with
  | read snapshot => exact iff_of_false nofun fun ends => fits.2.2 ends.1
  | unread failure => exact iff_of_false nofun fun ends => fits.2.2 ends.1
  | taken char text rest => exact iff_of_false nofun (midLine fits)
  | notTaken char rest => exact iff_of_false nofun (midLine fits)
  | refused char rest reason => exact iff_of_false nofun (midLine fits)
  | flushed => exact iff_of_true rfl (atEnd fits)
  | unflushed reason => exact iff_of_true rfl (atEnd fits)

theorem orderly_of_follows {history : List Happening} {last : Stage}
    (follows : Stage.Follows .idle history last) : Orderly history where
  ascii := by
    intro line read char member
    obtain ⟨snapshot, rfl⟩ := exists_line_of_mem read
    exact isAscii_of_mem_line member
  untorn := by
    rintro before ⟨after, rfl⟩
    obtain ⟨stage, first, -⟩ := follows.split
    exact (fits_nil.follows first).untorn
  flushes := by
    rintro before next after rfl
    obtain ⟨stage, first, rest⟩ := follows.split
    cases rest with
    | cons step _ => exact isFlush_iff (fits_nil.follows first) step

theorem ends_of_problem? {before after : List Happening} {next : Happening} {problem : Problem}
    {last : Stage} (follows : Stage.Follows .idle (before ++ next :: after) last)
    (ends : next.problem? = some problem) : after = [] ∧ last = .ended problem := by
  obtain ⟨stage, -, rest⟩ := follows.split
  cases rest with
  | cons step rest =>
      cases step with
      | read snapshot => cases ends
      | unread failure => cases ends
      | taken char text rest => cases ends
      | flushed => cases ends
      | notTaken char _ =>
          cases ends
          exact rest.of_ended
      | refused char _ reason =>
          cases ends
          exact rest.of_ended
      | unflushed reason =>
          cases ends
          exact rest.of_ended

variable {settings : Settings} {world : ω}

theorem history_detach (platform : Platform ω π) (probe : π) (told : Told ω) :
    ((telling platform).detach probe told).2.state.history = told.history := rfl

/-- The history of a session that has ended is that of its reports, and if they have failed, the
session ends with their problem. -/
theorem follows_of_run {rounds : Nat} {ending : Ending (Told ω)}
    (counting : settings.probe = .count)
    (ends : run (telling platform) around.telling settings rounds { state := world } =
      some ending) :
    ∃ reported, Stage.Follows .idle ending.world.history (stageOfResult reported) ∧
      ∀ problem, reported = .error problem → ending.result = .error problem := by
  rcases attaching : platform.attachProbe settings.event settings.probe world with
    ⟨failure | probe, attached, log⟩
  · rw [run_of_unattached (attachProbe_telling { state := world } attaching)] at ends
    cases ends
    exact ⟨.ok (), .nil _, nofun⟩
  · obtain ⟨started, loop⟩ := run_of_counting around.telling counting
      (attachProbe_telling { state := world } attaching)
    rw [loop, Option.map_eq_some_iff] at ends
    obtain ⟨reports, reporting, rfl⟩ := ends
    obtain ⟨history, grown, follows⟩ := follows_rounds (Rounds.of_reportEach reporting)
    refine ⟨reports.result, ?_, ?_⟩
    · have same : ((finish (telling platform) probe (reports.following [started])).following
          log).world.history = history := by
        show ((telling platform).detach probe reports.world).2.state.history = history
        rw [history_detach, grown]
        rfl
      rw [same]
      exact follows
    · intro problem failed
      show combine reports.result _ = _
      rw [failed, combine]

/-- The history of a session that has just made a number of reports. -/
theorem follows_of_reached {reports : Nat} {told : Told ω}
    (got : reached (telling platform) around.telling settings reports { state := world } =
      some told) : Stage.Follows .idle told.history .idle := by
  rcases attaching : platform.attachProbe settings.event settings.probe world with
    ⟨failure | probe, attached, log⟩
  · simp only [reached, attachProbe_telling { state := world } attaching, reduceCtorEq] at got
  · rw [reached_of_attached (attachProbe_telling { state := world } attaching)] at got
    obtain ⟨history, grown, follows⟩ := follows_afterReports got
    have same : told.history = history := grown
    rwa [same]

/-- Whatever the output takes of each line and however it fails: at every moment it has taken whole
lines of the snapshots read so far, in their order, and at most the beginning of the last one. It is
asked to flush exactly when it has taken the end of a line. Between two reports, and when the
session ends well, it has taken every line and nothing waits for a flush. Something does only if the
output has failed at the last report, with whose problem the session ends; and after such a failure
nothing is read or written. -/
theorem output_is_never_torn (platform : Platform ω π) (around : Surroundings ω)
    (settings : Settings) (world : ω) (counting : settings.probe = .count) :
    let session := fun rounds =>
      run (telling platform) around.telling settings rounds { state := world }
    (∀ rounds, (run platform around settings rounds world).map
        (fun ending => (ending.result, ending.world)) =
      (session rounds).map fun ending => (ending.result, ending.world.state)) ∧
    (∀ reports told,
      reached (telling platform) around.telling settings reports { state := world } = some told →
        Orderly told.history ∧ accepted told.history = (readLines told.history).flatten ∧
          pending told.history = []) ∧
    (∀ rounds ending, session rounds = some ending →
      let history := ending.world.history
      Orderly history ∧
      (ending.result = .ok () →
        accepted history = (readLines history).flatten ∧ pending history = []) ∧
      (pending history ≠ [] → ∃ before last problem, history = before ++ [last] ∧
        last.problem? = some problem ∧ ending.result = .error problem) ∧
      (∀ before next after problem, history = before ++ next :: after →
        next.problem? = some problem → after = [] ∧ ending.result = .error problem)) := by
  intro session
  refine ⟨run_telling platform around { state := world } counting, ?_, ?_⟩
  · intro reports told got
    have follows := follows_of_reached got
    obtain ⟨whole, nothing, -⟩ := fits_nil.follows follows
    exact ⟨orderly_of_follows follows, whole, nothing⟩
  · intro rounds ending ends history
    obtain ⟨reported, follows, failed⟩ := follows_of_run counting ends
    have fits : Fits history (stageOfResult reported) := fits_nil.follows follows
    refine ⟨orderly_of_follows follows, ?_, ?_, ?_⟩
    · intro endsWell
      cases reported with
      | ok => exact ⟨fits.1, fits.2.1⟩
      | error problem =>
          rw [failed problem rfl] at endsWell
          cases endsWell
    · intro waits
      cases reported with
      | ok => exact absurd fits.2.1 waits
      | error problem =>
          obtain ⟨before, last, isLast, isProblem⟩ := fits.2 waits
          exact ⟨before, last, problem, isLast, isProblem, failed problem rfl⟩
    · intro before next after problem split isProblem
      have followsSplit : Stage.Follows .idle (before ++ next :: after) (stageOfResult reported) :=
        split ▸ follows
      obtain ⟨nothing, isEnd⟩ := ends_of_problem? followsSplit isProblem
      cases reported with
      | ok => cases isEnd
      | error other =>
          cases isEnd
          exact ⟨nothing, failed problem rfl⟩

/-- Two snapshots to read, with one call more in the second. -/
def twoReads : Platform.Scripted.State where
  symbols := ⟨["execve"]⟩
  reads := [.ok (.ofList [(7, 1)]), .ok (.ofList [(7, 2)])]

/-- An output that takes three characters at a time and is full in the middle of the second line. -/
def narrowOutput : Surroundings Platform.Scripted.State where
  pause _ state := (false, state)
  awaitCancel := some
  write text state :=
    if state.readCount = 2 ∧ text.length < 6 then (.error "full", state)
    else (.ok (min 3 text.length), state)
  flush state := (.ok (), state)

theorem output_is_never_torn_full :
    ∃ ending,
      run (telling Platform.Scripted.platform) narrowOutput.telling {} 2 { state := twoReads } =
        some ending ∧
      accepted ending.world.history = "ID: 7, 1\t\nID: 7,".toList ∧
      pending ending.world.history = "ID: 7,".toList ∧
      ending.result = .error (writeProblem "full") ∧ Orderly ending.world.history := by
  have outputs : (run (telling Platform.Scripted.platform) narrowOutput.telling {} 2
      { state := twoReads }).map (fun ending => (accepted ending.world.history,
        pending ending.world.history, ending.world.history.getLast?.bind Happening.problem?)) =
      some ("ID: 7, 1\t\nID: 7,".toList, "ID: 7,".toList, some (writeProblem "full")) := by
    decide +kernel
  obtain ⟨ending, ends, same⟩ := Option.map_eq_some_iff.mp outputs
  obtain ⟨taken, same⟩ := Prod.mk.inj same
  obtain ⟨waiting, lastProblem⟩ := Prod.mk.inj same
  have session := output_is_never_torn Platform.Scripted.platform narrowOutput {} twoReads rfl
  obtain ⟨orderly, -, fails, -⟩ := session.2.2 2 ending ends
  obtain ⟨before, last, problem, isLast, isProblem, result⟩ := fails (by rw [waiting]; decide)
  rw [isLast, List.getLast?_concat, Option.bind_some, isProblem] at lastProblem
  obtain rfl := Option.some.inj lastProblem
  exact ⟨ending, ends, taken, waiting, result, orderly⟩

end SyscallTally.Session
