import SyscallTally.Proofs.Counter.Crowd
import SyscallTally.Proofs.Platform.Bench
import SyscallTally.Proofs.Platform.Memory

/-!
Owns the life of any number of probes on one platform in memory, over every sequence of attaching,
detaching, releasing, reading and occurrences (`probes_share_count_and_table`).

All probes share one number of attached probes and one table. `Effect` is all that a step can do to
them, and `Sound` is what every step keeps: the number is that of the live counting probes on the
bench. What a counter has gained is told by following the steps (`acceptedOccurrences`).
-/

set_option autoImplicit false

namespace SyscallTally.Platform.Memory

open SyscallTally.Counter SyscallTally.Kernel SyscallTally.Probe

/-! ### Bookkeeping -/

/-- One occurrence. Whoever brings it about sees a refusal; the platform goes on without it. -/
def occur (credentials : UInt64) (state : State) : State := (trigger credentials state).2

/-- Whether a probe counts occurrences and is attached. -/
def isLive (probe : Probe) : Bool :=
  platform.isAttached probe && platform.program probe == countProgram

/-- The number of live counting probes on a bench. -/
def liveProbes (bench : Bench State Probe) : Nat :=
  bench.probes.countP fun probe => probe.any isLive

/-- Whether a step is an occurrence under a key that is not refused, while probes are attached. -/
def isAccepted (key : UInt64) (state : State) : Step UInt64 → Bool
  | .occur credentials =>
      userKey credentials == key && decide (0 < state.attached)
        && (trigger credentials state).1.isNone
  | _ => false

/-- The number of accepted occurrences under a key in the course of some steps. -/
def acceptedOccurrences (key : UInt64) : List (Step UInt64) → Bench State Probe → Nat
  | [], _ => 0
  | step :: rest, bench =>
      (isAccepted key bench.state step).toNat
        + acceptedOccurrences key rest (bench.advance platform occur step)

/-! ### Single probes -/

/-- Whether a probe runs the program of some kind, on the table of that kind. -/
def Probe.OfSomeKind (probe : Probe) : Prop :=
  ∃ kind : Kind, probe.program = kind.artifact.program ∧ probe.table = kind.artifact.table

variable {bench : Bench State Probe} {number : Nat} {probe : Probe} {state : State}

theorem isLive_attachedTo (target : Target) (kind : Kind) :
    isLive (Probe.attachedTo target kind) = decide (kind = .count) := by
  cases kind <;> rfl

theorem table_eq_of_counting (known : probe.OfSomeKind) (counting : probe.program = countProgram) :
    probe.table = some counterTable := by
  obtain ⟨kind, program, table⟩ := known
  cases kind with
  | count => exact table
  | hello => exact absurd (program.symm.trans counting) (by decide)

theorem table_eq_of_not_counting (known : probe.OfSomeKind)
    (other : probe.program ≠ countProgram) : probe.table = none := by
  obtain ⟨kind, program, table⟩ := known
  cases kind with
  | hello => exact table
  | count => exact absurd program other

/-- Detaching always succeeds, and the platform counts one probe less if the probe was live. -/
theorem detach_eq (known : probe.OfSomeKind) (state : State) :
    ∃ detached : Probe, platform.detach probe state =
        (detached, ⟨.ok (), { state with attached := state.attached - (isLive probe).toNat }, []⟩) ∧
      detached.OfSomeKind ∧ isLive detached = false := by
  refine ⟨{ probe with attached := false }, ?_, known, rfl⟩
  show detach probe state = _
  obtain ⟨program, target, table, attached⟩ := probe
  cases attached with
  | false => simp [detach, isLive, platform]
  | true =>
      by_cases counting : program = countProgram
      · obtain rfl : table = some counterTable := table_eq_of_counting known counting
        simp [detach, isLive, platform, counting]
      · obtain rfl : table = none := table_eq_of_not_counting known counting
        have other : (program == countProgram) = false := beq_eq_false_iff_ne.mpr counting
        simp [detach, isLive, platform, other]

/-- A live probe reads the table; any other is refused. Nothing changes. -/
theorem readTable_of_live (known : probe.OfSomeKind) (live : isLive probe = true) :
    platform.readTable probe state = ⟨.ok state.table.snapshot, state, []⟩ := by
  simp only [isLive, Bool.and_eq_true, beq_iff_eq] at live
  have table := table_eq_of_counting known live.2
  have attached : probe.attached = true := live.1
  show readTable probe state = _
  simp only [readTable, table, attached, if_true]

theorem readTable_of_not_live (state : State) (known : probe.OfSomeKind)
    (dead : isLive probe = false) :
    ∃ name reason, platform.readTable probe state =
      ⟨.error (.tableRead name reason), state, []⟩ := by
  show ∃ name reason, readTable probe state = _
  by_cases counting : probe.program = countProgram
  · have detached : probe.attached = false := by
      simpa [isLive, platform, counting] using dead
    have table := table_eq_of_counting known counting
    refine ⟨counterTable, "probe is detached", ?_⟩
    simp only [readTable, table, detached, Bool.false_eq_true, if_false]
  · have table := table_eq_of_not_counting known counting
    refine ⟨probe.program, "probe has no table", ?_⟩
    simp only [readTable, table]

/-! ### Steps -/

/-- What every step on a bench keeps. -/
structure Sound (bench : Bench State Probe) : Prop where
  kinds : ∀ probe, some probe ∈ bench.probes → probe.OfSomeKind
  balanced : bench.state.attached = liveProbes bench
  capacity : bench.state.table.capacity = limit
  fits : bench.state.table.counts.size ≤ limit

/-- Taking a probe off the bench, or leaving a detached one in its place, takes it out of the
count. -/
theorem Sound.retire (sound : Sound bench) (found : bench.probe? number = some probe)
    {left : Option Probe} (known : ∀ probe, left = some probe → probe.OfSomeKind)
    (dead : left.any isLive = false) :
    Sound { bench with
      state := { bench.state with attached := bench.state.attached - (isLive probe).toNat }
      probes := bench.probes.set number left } where
  kinds := by
    intro other member
    rcases List.mem_or_eq_of_mem_set member with old | new
    · exact sound.kinds other old
    · exact known other new.symm
  balanced := by
    have moved := Crowd.countP_set_add (fun probe : Option Probe => probe.any isLive)
      (Bench.probe?_eq_some_iff.mp found) left
    rw [dead, Option.any_some, Bool.toNat_false, Nat.add_zero] at moved
    show bench.state.attached - _ = ((bench.probes.set number left).countP _ : Int)
    rw [sound.balanced]
    unfold liveProbes
    omega
  capacity := sound.capacity
  fits := sound.fits

theorem Sound.attach (sound : Sound bench) (target : Target) (kind : Kind) :
    Sound { bench with
      state := bench.state.withProbe kind
      probes := bench.probes ++ [some (Probe.attachedTo target kind)] } where
  kinds := by
    intro other member
    rcases List.mem_append.mp member with old | new
    · exact sound.kinds other old
    · obtain rfl := Option.some.inj (List.mem_singleton.mp new)
      exact ⟨kind, rfl, rfl⟩
  balanced := by
    show bench.state.attached + (if kind = .count then 1 else 0) =
      ((bench.probes ++ [some (Probe.attachedTo target kind)]).countP _ : Int)
    rw [List.countP_append, List.countP_singleton, Option.any_some, isLive_attachedTo,
      sound.balanced]
    unfold liveProbes
    cases kind <;> simp
  capacity := sound.capacity
  fits := sound.fits

/-- An occurrence that is not counted changes nothing. -/
theorem state_occur_of_refused {credentials : UInt64} {code : Int}
    (refused : (trigger credentials state).1 = some code) : occur credentials state = state := by
  unfold occur
  by_cases live : 0 < state.attached
  · by_cases room : state.table.HasRoom (userKey credentials)
    · simp only [trigger_of_hasRoom live room, reduceCtorEq] at refused
    · rw [trigger_of_full live room]
  · rw [trigger_of_idle live]

theorem Sound.occur (sound : Sound bench) (credentials : UInt64) :
    Sound { bench with state := Memory.occur credentials bench.state } := by
  unfold Memory.occur
  by_cases live : 0 < bench.state.attached
  · by_cases room : bench.state.table.HasRoom (userKey credentials)
    · rw [trigger_of_hasRoom live room]
      have fits : bench.state.table.counts.size ≤ bench.state.table.capacity :=
        sound.capacity ▸ sound.fits
      exact ⟨sound.kinds, sound.balanced, sound.capacity,
        sound.capacity ▸ Table.size_store_le_of_hasRoom room fits⟩
    · rw [trigger_of_full live room]
      exact sound
  · rw [trigger_of_idle live]
    exact sound

/-! ### What each step does to a bench -/

theorem attach_cases_of_bench (bench : Bench State Probe) (event : String) (kind : Kind) :
    (∃ failure log, bench.attach platform event kind = (.error failure, bench, log)) ∨
      ∃ target log, bench.attach platform event kind =
        (.ok bench.probes.length, { bench with
          state := bench.state.withProbe kind
          probes := bench.probes ++ [some (Probe.attachedTo target kind)] }, log) := by
  rcases attachProbe_cases event kind bench.state with
    ⟨failure, log, attaching⟩ | ⟨target, log, attaching⟩
  · exact .inl ⟨failure, log, by simp only [Bench.attach, attaching]⟩
  · exact .inr ⟨target, log, by simp only [Bench.attach, attaching]⟩

theorem advance_detach (sound : Sound bench) (found : bench.probe? number = some probe) :
    ∃ detached : Probe, detached.OfSomeKind ∧ isLive detached = false ∧
      bench.advance platform occur (.detach number) = { bench with
        state := { bench.state with attached := bench.state.attached - (isLive probe).toNat }
        probes := bench.probes.set number (some detached) } := by
  obtain ⟨detached, detaching, known, dead⟩ :=
    detach_eq (sound.kinds probe (Bench.mem_of_probe? found)) bench.state
  exact ⟨detached, known, dead, by simp only [Bench.advance, found, Bench.detach, detaching]⟩

theorem advance_release (sound : Sound bench) (found : bench.probe? number = some probe) :
    bench.advance platform occur (.release number) = { bench with
      state := { bench.state with attached := bench.state.attached - (isLive probe).toNat }
      probes := bench.probes.set number none } := by
  obtain ⟨detached, detaching, -, -⟩ :=
    detach_eq (sound.kinds probe (Bench.mem_of_probe? found)) bench.state
  simp only [Bench.advance, found, Bench.release, detaching]

/-- Reading changes at most the list of kept snapshots. -/
theorem advance_read (sound : Sound bench) (number : Nat) :
    (bench.advance platform occur (.read number)).state = bench.state ∧
      (bench.advance platform occur (.read number)).probes = bench.probes := by
  cases found : bench.probe? number with
  | none => simp only [Bench.advance, found, and_self]
  | some probe =>
      have known := sound.kinds probe (Bench.mem_of_probe? found)
      cases live : isLive probe with
      | true => simp only [Bench.advance, found, Bench.read, readTable_of_live known live, and_self]
      | false =>
          obtain ⟨name, reason, reading⟩ := readTable_of_not_live bench.state known live
          simp only [Bench.advance, found, Bench.read, reading, and_self]

/-- What a step can do to a bench. -/
inductive Effect (bench : Bench State Probe) : Step UInt64 → Bench State Probe → Prop where
  | nothing {step : Step UInt64} {later : Bench State Probe}
      (quiet : ∀ credentials, step ≠ .occur credentials) (state : later.state = bench.state)
      (probes : later.probes = bench.probes) : Effect bench step later
  | attached (event : String) (kind : Kind) (target : Target) :
      Effect bench (.attach event kind) { bench with
        state := bench.state.withProbe kind
        probes := bench.probes ++ [some (Probe.attachedTo target kind)] }
  | retired {step : Step UInt64} {number : Nat} {probe : Probe} {left : Option Probe}
      (quiet : ∀ credentials, step ≠ .occur credentials)
      (found : bench.probe? number = some probe)
      (known : ∀ probe, left = some probe → probe.OfSomeKind) (dead : left.any isLive = false) :
      Effect bench step { bench with
        state := { bench.state with attached := bench.state.attached - (isLive probe).toNat }
        probes := bench.probes.set number left }
  | occurred (credentials : UInt64) :
      Effect bench (.occur credentials)
        { bench with state := Memory.occur credentials bench.state }

theorem effect_advance (sound : Sound bench) (step : Step UInt64) :
    Effect bench step (bench.advance platform occur step) := by
  cases step with
  | attach event kind =>
      rcases attach_cases_of_bench bench event kind with
        ⟨failure, log, attaching⟩ | ⟨target, log, attaching⟩
      · simp only [Bench.advance, attaching]
        exact .nothing (by simp) rfl rfl
      · simp only [Bench.advance, attaching]
        exact .attached event kind target
  | detach number =>
      cases found : bench.probe? number with
      | none =>
          simp only [Bench.advance, found]
          exact .nothing (by simp) rfl rfl
      | some probe =>
          obtain ⟨detached, known, dead, advanced⟩ := advance_detach sound found
          rw [advanced]
          refine .retired (by simp) found ?_ dead
          rintro _ ⟨⟩
          exact known
  | release number =>
      cases found : bench.probe? number with
      | none =>
          simp only [Bench.advance, found]
          exact .nothing (by simp) rfl rfl
      | some probe =>
          rw [advance_release sound found]
          exact .retired (by simp) found (by simp) rfl
  | read number =>
      obtain ⟨state, probes⟩ := advance_read sound number
      exact .nothing (by simp) state probes
  | occur credentials => exact .occurred credentials

theorem Sound.advance (sound : Sound bench) (step : Step UInt64) :
    Sound (bench.advance platform Memory.occur step) := by
  have effect := effect_advance sound step
  generalize bench.advance platform Memory.occur step = later at effect ⊢
  cases effect with
  | nothing _ state probes =>
      refine ⟨?_, ?_, ?_, ?_⟩
      · rw [probes]
        exact sound.kinds
      · unfold liveProbes
        rw [state, probes]
        exact sound.balanced
      · rw [state]
        exact sound.capacity
      · rw [state]
        exact sound.fits
  | attached event kind target => exact sound.attach target kind
  | retired _ found known dead => exact sound.retire found known dead
  | occurred credentials => exact sound.occur credentials

theorem Sound.run (sound : Sound bench) (steps : List (Step UInt64)) :
    Sound (bench.run platform Memory.occur steps) :=
  Bench.run_preserves Sound (fun _ step held => held.advance step) steps sound

/-! ### Counters -/

theorem isAccepted_of_quiet {step : Step UInt64} (quiet : ∀ credentials, step ≠ .occur credentials)
    (key : UInt64) (state : State) : isAccepted key state step = false := by
  cases step with
  | occur credentials => exact absurd rfl (quiet credentials)
  | _ => rfl

/-- A counter gains one in each accepted occurrence under its key, and changes in no other step. -/
theorem count_advance (sound : Sound bench) (key : UInt64) (step : Step UInt64) :
    (bench.advance platform occur step).state.table.count key =
      bench.state.table.count key + UInt64.ofNat (isAccepted key bench.state step).toNat := by
  have effect := effect_advance sound step
  generalize bench.advance platform occur step = later at effect ⊢
  cases effect with
  | nothing quiet state _ =>
      rw [state, isAccepted_of_quiet quiet]
      exact (UInt64.add_zero _).symm
  | attached event kind target => exact (UInt64.add_zero _).symm
  | retired quiet _ _ _ =>
      rw [isAccepted_of_quiet quiet]
      exact (UInt64.add_zero _).symm
  | occurred credentials =>
      show (occur credentials bench.state).table.count key = _
      by_cases live : 0 < bench.state.attached
      · by_cases room : bench.state.table.HasRoom (userKey credentials)
        · simp only [occur, isAccepted, trigger_of_hasRoom live room, Table.count_store_succ, live,
            decide_true, Option.isNone_none, Bool.and_true, beq_eq_decide]
        · simp [occur, isAccepted, trigger_of_full live room]
      · simp [occur, isAccepted, trigger_of_idle live, live]

theorem count_run (sound : Sound bench) (key : UInt64) (steps : List (Step UInt64)) :
    (bench.run platform occur steps).state.table.count key =
      bench.state.table.count key + UInt64.ofNat (acceptedOccurrences key steps bench) := by
  induction steps generalizing bench with
  | nil => exact (UInt64.add_zero _).symm
  | cons step rest inductionHypothesis =>
      show ((bench.advance platform occur step).run platform occur rest).state.table.count key = _
      rw [inductionHypothesis (sound.advance step), count_advance sound, acceptedOccurrences,
        UInt64.ofNat_add, UInt64.add_assoc]

/-! ### Refusals, and probes that only log -/

/-- An occurrence is refused exactly when a counting probe is attached, its key is new and the table
is full. -/
theorem refused_iff (sound : Sound bench) (credentials : UInt64) (code : Int) :
    (trigger credentials bench.state).1 = some code ↔
      code = fullCode ∧ 0 < liveProbes bench ∧ userKey credentials ∉ bench.state.table.counts ∧
        bench.state.table.counts.size = limit := by
  have fits := sound.fits
  have live : 0 < bench.state.attached ↔ 0 < liveProbes bench := by
    rw [sound.balanced]
    omega
  have full : ¬ bench.state.table.HasRoom (userKey credentials) ↔
      userKey credentials ∉ bench.state.table.counts ∧
        bench.state.table.counts.size = limit := by
    rw [Table.HasRoom, not_or, sound.capacity]
    refine and_congr_right fun _ => ?_
    omega
  rw [← live, ← full]
  by_cases isLive : 0 < bench.state.attached
  · by_cases room : bench.state.table.HasRoom (userKey credentials)
    · simp [trigger_of_hasRoom isLive room, room]
    · simp [trigger_of_full isLive room, room, isLive, eq_comm]
  · simp [trigger_of_idle isLive, isLive]

theorem isLive_of_hello (logging : probe.program = helloProgram) : isLive probe = false := by
  have other : (probe.program == countProgram) = false := by
    rw [logging]
    decide
  simp only [isLive, platform, other, Bool.and_false]

/-- Whatever is done to a probe that only logs, the platform stays as it was. -/
theorem state_eq_of_hello (sound : Sound bench) (found : bench.probe? number = some probe)
    (logging : probe.program = helloProgram) :
    (bench.advance platform occur (.detach number)).state = bench.state ∧
      (bench.advance platform occur (.release number)).state = bench.state ∧
      (bench.advance platform occur (.read number)).state = bench.state := by
  have dead := isLive_of_hello logging
  have same : { bench.state with attached := bench.state.attached - ((isLive probe).toNat : Int) } =
      bench.state := by
    rw [dead, Bool.toNat_false, Int.natCast_zero, Int.sub_zero]
  obtain ⟨detached, -, -, detaching⟩ := advance_detach sound found
  refine ⟨?_, ?_, (advance_read sound number).1⟩
  · rw [detaching]
    exact same
  · rw [advance_release sound found]
    exact same

theorem sound_fresh (state : State) (table : state.table = Table.empty limit)
    (attached : state.attached = 0) : Sound { state } where
  kinds := nofun
  balanced := attached
  capacity := by rw [table]; rfl
  fits := by rw [table]; exact Nat.zero_le _

/-- However a fresh platform is set up, and whatever has been done on it with any number of probes:
its count of attached probes is the number of live counting probes. A failed attachment changes
nothing, and neither count nor table is ever touched through a probe that only logs. Each counter is
the number of occurrences accepted under its key. An occurrence is refused only under a new key, by
a full table, while a counting probe is attached, and then changes nothing. A live counting probe
reads the table as it is, and no other probe reads anything. -/
theorem probes_share_count_and_table (symbols : Symbols)
    (privileged rejecting hasLogger hasTable : Bool) (steps : List (Step UInt64)) :
    let start : Bench State Probe :=
      { state := { symbols, privileged, rejecting, hasLogger, hasTable } }
    let bench := start.run platform occur steps
    bench.state.attached = liveProbes bench ∧
    (∀ event kind failure later log,
      bench.attach platform event kind = (.error failure, later, log) → later = bench) ∧
    (∀ event, (bench.advance platform occur (.attach event .hello)).state = bench.state) ∧
    (∀ number probe, bench.probe? number = some probe → probe.program = helloProgram →
      (bench.advance platform occur (.detach number)).state = bench.state ∧
      (bench.advance platform occur (.release number)).state = bench.state ∧
      (bench.advance platform occur (.read number)).state = bench.state) ∧
    (∀ key, bench.state.table.count key = UInt64.ofNat (acceptedOccurrences key steps start)) ∧
    (∀ credentials code, (trigger credentials bench.state).1 = some code ↔
      code = fullCode ∧ 0 < liveProbes bench ∧ userKey credentials ∉ bench.state.table.counts ∧
        bench.state.table.counts.size = 10240) ∧
    (∀ credentials code, (trigger credentials bench.state).1 = some code →
      bench.advance platform occur (.occur credentials) = bench) ∧
    (∀ number probe, bench.probe? number = some probe → isLive probe = true →
      ∃ snapshot, (bench.read platform probe).1 = .ok snapshot ∧
        snapshot.toList = bench.state.table.counts.toList) ∧
    (∀ number probe, bench.probe? number = some probe → isLive probe = false →
      ∃ name reason, (bench.read platform probe).1 = .error (.tableRead name reason)) := by
  intro start bench
  have soundStart : Sound start := sound_fresh _ rfl rfl
  have sound : Sound bench := soundStart.run steps
  refine ⟨sound.balanced, ?_, ?_, fun _ _ => state_eq_of_hello sound, ?_, refused_iff sound, ?_,
    ?_, ?_⟩
  · intro event kind failure later log attaching
    rcases attach_cases_of_bench bench event kind with
      ⟨failure', log', failed⟩ | ⟨target, log', attached⟩
    · rw [failed] at attaching
      exact (congrArg (fun answer => answer.2.1) attaching).symm
    · rw [attached] at attaching
      exact absurd (congrArg Prod.fst attaching) nofun
  · intro event
    rcases attach_cases_of_bench bench event .hello with
      ⟨failure, log, failed⟩ | ⟨target, log, attached⟩
    · simp only [Bench.advance, failed]
    · simp only [Bench.advance, attached, withProbe_hello]
  · intro key
    rw [count_run soundStart key steps, Table.count_of_not_mem Std.TreeMap.not_mem_emptyc,
      UInt64.zero_add]
  · intro credentials code refused
    show { bench with state := occur credentials bench.state } = bench
    rw [state_occur_of_refused refused]
  · intro number probe found live
    have known := sound.kinds probe (Bench.mem_of_probe? found)
    exact ⟨bench.state.table.snapshot,
      by simp only [Bench.read, readTable_of_live known live], rfl⟩
  · intro number probe found dead
    have known := sound.kinds probe (Bench.mem_of_probe? found)
    obtain ⟨name, reason, reading⟩ := readTable_of_not_live bench.state known dead
    exact ⟨name, reason, by simp only [Bench.read, reading]⟩

end SyscallTally.Platform.Memory
