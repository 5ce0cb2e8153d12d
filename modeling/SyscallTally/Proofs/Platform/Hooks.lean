import SyscallTally.Proofs.Platform.Requests

/-!
Owns the correspondence of attached probes and enabled hooks, over every sequence of attaching,
reading, detaching and releasing in any kernel (`hooks_match_probes`).

A probe has the number of its hook, on the bench and in the kernel. `Matched` is what every step
keeps: the enabled hooks are those of the attached probes, each at the post that its probe was
attached to, and no hook has been disabled twice. Between the steps the kernel, the files and the
user may change as they like.
-/

set_option autoImplicit false

namespace SyscallTally.Platform.Loaded

open SyscallTally.Counter SyscallTally.Kernel SyscallTally.Probe

/-! ### Incidents -/

/-- What happens around the probes: calls of a symbol, or a change of what they depend on. -/
inductive Incident where
  | called (calls : Calls) (race : Race)
  | newConduct (conduct : Conduct)
  | newFiles (files : Files.Store)
  | newUser (effectiveUser : Nat)

def Incident.befall (host : Host) : Incident → Host
  | .called calls race =>
      { host with
        machine := (host.machine.callTimes calls.symbol calls.credentials race calls.times).2 }
  | .newConduct conduct => { host with machine := { host.machine with conduct } }
  | .newFiles files => { host with files }
  | .newUser effectiveUser => { host with effectiveUser }

/-- An incident asks the kernel for nothing in the name of a probe. -/
def Recorded.befall (incident : Incident) (recorded : Recorded) : Recorded :=
  recorded.withHost (incident.befall recorded.host)

theorem Incident.posts_befall (incident : Incident) (host : Host) :
    (incident.befall host).machine.posts = host.machine.posts := by
  cases incident with
  | called calls race => exact Machine.posts_callTimes _ _ _ _ _
  | newConduct conduct => rfl
  | newFiles files => rfl
  | newUser effectiveUser => rfl

/-! ### Hooks and probes -/

/-- The numbers of the hooks that the kernel was asked to disable. -/
def Recorded.unhooked (recorded : Recorded) : List Nat :=
  recorded.requests.filterMap Request.unhooked?

/-- The post of a probe: the symbol of its target, and the program that it runs there. -/
def Probe.post (probe : Probe) : Post :=
  ⟨probe.target.symbol, Kind.ofProgram? probe.program, probe.attached⟩

/-- What every step on a bench keeps. -/
structure Matched (bench : Bench Recorded Probe) : Prop where
  enabled : bench.state.host.machine.posts.map (·.enabled) =
    bench.probes.map (·.any Probe.attached)
  held : ∀ number probe, bench.probe? number = some probe →
    probe.hook = number ∧ bench.state.host.machine.posts[number]? = some probe.post
  disabledOnce : bench.state.unhooked.Nodup
  spent : ∀ number ∈ bench.state.unhooked, number < bench.probes.length ∧
    ∀ probe, bench.probe? number = some probe → probe.attached = false

variable {paths : Paths} {bench : Bench Recorded Probe} {number : Nat} {probe : Probe}
  {recorded : Recorded}

theorem Matched.length_eq (matched : Matched bench) :
    bench.state.host.machine.hooks.length = bench.probes.length := by
  have same := congrArg List.length matched.enabled
  simpa [Machine.posts] using same

/-- A step that changes neither probes nor posts and disables no hook keeps everything matched. -/
theorem Matched.of_same (matched : Matched bench) {later : Bench Recorded Probe}
    (probes : later.probes = bench.probes)
    (posts : later.state.host.machine.posts = bench.state.host.machine.posts)
    (unhooked : later.state.unhooked = bench.state.unhooked) : Matched later := by
  have sameProbe (number : Nat) : later.probe? number = bench.probe? number := by
    unfold Bench.probe?
    rw [probes]
  refine ⟨?_, ?_, ?_, ?_⟩
  · rw [posts, probes]
    exact matched.enabled
  · intro number probe found
    rw [posts]
    exact matched.held number probe (sameProbe number ▸ found)
  · rw [unhooked]
    exact matched.disabledOnce
  · intro number disabled
    rw [unhooked] at disabled
    rw [probes, sameProbe]
    exact matched.spent number disabled

/-! ### Attaching -/

theorem Recorded.unhooked_after (recorded : Recorded) (further : List Request) (host : Host) :
    (recorded.after further host).unhooked =
      recorded.unhooked ++ further.filterMap Request.unhooked? := List.filterMap_append

theorem unhooked_attachRequests (paths : Paths) (target : Target) (artifact : Artifact)
    (recorded : Recorded) (host : Host) :
    (recorded.after (attachRequests paths target artifact recorded.host) host).unhooked =
      recorded.unhooked := by
  have none : (attachRequests paths target artifact recorded.host).filterMap
      Request.unhooked? = [] := by
    unfold attachRequests
    repeat' split
    all_goals rfl
  rw [Recorded.unhooked_after, none, List.append_nil]

theorem Matched.attach (matched : Matched bench) (target : Target) (artifact : Artifact)
    (table : Option (String × MapSpec)) {state : Recorded}
    (host : state.host = bench.state.host.withHook target artifact table)
    (unhooked : state.unhooked = bench.state.unhooked) :
    Matched { bench with
      state
      probes := bench.probes ++ [some (bench.state.host.newProbe target artifact table)] } := by
  have posts : state.host.machine.posts =
      bench.state.host.machine.posts ++ [(bench.state.host.newProbe target artifact table).post] :=
    host ▸ Machine.posts_withHook _ _ _
  have lengths : bench.state.host.machine.posts.length = bench.probes.length := by
    rw [Machine.posts, List.length_map, matched.length_eq]
  refine ⟨?_, ?_, ?_, ?_⟩
  · show state.host.machine.posts.map _ = _
    rw [posts, List.map_append, List.map_append, matched.enabled]
    rfl
  · intro number probe found
    show probe.hook = number ∧ state.host.machine.posts[number]? = _
    rw [posts]
    by_cases old : number < bench.probes.length
    · rw [Bench.probe?_eq_some_iff, List.getElem?_append_left old] at found
      rw [List.getElem?_append_left (lengths ▸ old)]
      exact matched.held number probe (Bench.probe?_eq_some_iff.mpr found)
    · have new : number = bench.probes.length := by
        have below := Bench.lt_of_probe? found
        rw [List.length_append, List.length_singleton] at below
        omega
      rw [Bench.probe?_eq_some_iff, new, List.getElem?_concat_length] at found
      obtain rfl := Option.some.inj (Option.some.inj found)
      rw [new, ← lengths, List.getElem?_concat_length, lengths]
      exact ⟨matched.length_eq, rfl⟩
  · exact unhooked ▸ matched.disabledOnce
  · intro number disabled
    obtain ⟨below, detached⟩ := matched.spent number (unhooked ▸ disabled)
    refine ⟨?_, fun probe found => ?_⟩
    · rw [List.length_append]
      exact Nat.lt_add_right _ below
    · rw [Bench.probe?_eq_some_iff, List.getElem?_append_left below] at found
      exact detached probe (Bench.probe?_eq_some_iff.mpr found)

/-! ### Detaching -/

theorem detach_of_attached (attached : probe.attached = true) (recorded : Recorded) :
    (recording paths).detach probe recorded = ({ probe with attached := false },
      ⟨.ok (), recorded.after [.unhook probe.hook]
        { recorded.host with machine := recorded.host.machine.unhook probe.hook },
        [⟨.info, "detached " ++ probe.program ++ " from " ++ probe.target.symbol⟩]⟩) := by
  show ((detach probe recorded.host).1, (detach probe recorded.host).2.onPart
    (recorded.after (detachRequests probe))) = _
  simp only [detach, detachRequests, attached, if_true]
  rfl

/-- A probe that is not attached has nothing to be detached, and the kernel is not asked again. -/
theorem detach_of_detached (detached : probe.attached = false) (recorded : Recorded) :
    (recording paths).detach probe recorded = (probe, ⟨.ok (), recorded, []⟩) := by
  show ((detach probe recorded.host).1, (detach probe recorded.host).2.onPart
    (recorded.after (detachRequests probe))) = _
  simp only [detach, detachRequests, detached, Bool.false_eq_true, if_false, Response.onPart,
    Recorded.after, List.append_nil]

theorem recording_retires (paths : Paths) : (recording paths).Retires := by
  intro probe recorded
  cases attached : probe.attached with
  | true =>
      rw [detach_of_attached attached]
      rfl
  | false =>
      rw [detach_of_detached attached]
      exact attached

/-- A probe after it has been detached. -/
def Probe.detached (probe : Probe) : Probe := { probe with attached := false }

theorem detached_eq_of_detached (detached : probe.attached = false) : probe.detached = probe := by
  unfold Probe.detached
  rw [← detached]

theorem fst_detach (paths : Paths) (probe : Probe) (recorded : Recorded) :
    ((recording paths).detach probe recorded).1 = probe.detached := by
  cases attached : probe.attached with
  | true => rw [detach_of_attached attached, Probe.detached]
  | false => rw [detach_of_detached attached, detached_eq_of_detached attached]

theorem getElem?_posts_detach (paths : Paths) (matched : Matched bench)
    (found : bench.probe? number = some probe) (place : Nat) :
    ((recording paths).detach probe bench.state).2.state.host.machine.posts[place]? =
      if number = place then some probe.detached.post
      else bench.state.host.machine.posts[place]? := by
  obtain ⟨hook, held⟩ := matched.held number probe found
  cases attached : probe.attached with
  | true =>
      rw [detach_of_attached attached, hook]
      show (bench.state.host.machine.unhook number).posts[place]? = _
      rw [Machine.getElem?_posts_unhook]
      by_cases own : number = place
      · rw [if_pos own, if_pos own, ← own, held]
        rfl
      · rw [if_neg own, if_neg own]
  | false =>
      rw [detach_of_detached attached, detached_eq_of_detached attached]
      by_cases own : number = place
      · rw [if_pos own, ← own]
        exact held
      · rw [if_neg own]

/-- The kernel is asked to disable a hook only for a probe that is attached. -/
theorem unhooked_detach (paths : Paths) (matched : Matched bench)
    (found : bench.probe? number = some probe) :
    ((recording paths).detach probe bench.state).2.state.unhooked =
      bench.state.unhooked ++ if probe.attached then [number] else [] := by
  obtain ⟨hook, -⟩ := matched.held number probe found
  cases attached : probe.attached with
  | true =>
      rw [detach_of_attached attached, hook, if_pos rfl]
      exact Recorded.unhooked_after _ _ _
  | false =>
      rw [detach_of_detached attached, if_neg nofun, List.append_nil]

theorem Matched.nodup_unhooked_detach (paths : Paths) (matched : Matched bench)
    (found : bench.probe? number = some probe) :
    ((recording paths).detach probe bench.state).2.state.unhooked.Nodup := by
  rw [unhooked_detach paths matched found]
  cases attached : probe.attached with
  | true =>
      rw [if_pos rfl, List.nodup_append]
      refine ⟨matched.disabledOnce, by simp, ?_⟩
      -- A hook that had been disabled before would be that of a detached probe.
      intro place disabled other own same
      obtain rfl := List.mem_singleton.mp own
      have detached := (matched.spent place disabled).2 probe (same ▸ found)
      rw [attached] at detached
      cases detached
  | false =>
      rw [if_neg nofun, List.append_nil]
      exact matched.disabledOnce

theorem Matched.spent_detach (paths : Paths) (matched : Matched bench)
    (found : bench.probe? number = some probe) {place : Nat}
    (disabled : place ∈ ((recording paths).detach probe bench.state).2.state.unhooked) :
    place < bench.probes.length ∧
      (number ≠ place → ∀ other, bench.probe? place = some other → other.attached = false) := by
  rw [unhooked_detach paths matched found, List.mem_append] at disabled
  rcases disabled with old | new
  · exact ⟨(matched.spent place old).1, fun _ => (matched.spent place old).2⟩
  · have own : place = number := by
      by_cases attached : probe.attached
      · rw [if_pos attached] at new
        exact List.mem_singleton.mp new
      · rw [if_neg attached] at new
        cases new
    exact ⟨own ▸ Bench.lt_of_probe? found, fun other => absurd own.symm other⟩

/-- Detaching a probe and leaving it where it is, or giving it up, takes its hook away. -/
theorem Matched.retire (paths : Paths) (matched : Matched bench)
    (found : bench.probe? number = some probe) {left : Option Probe}
    (leaves : ∀ other, left = some other → other = probe.detached) :
    Matched { bench with
      state := ((recording paths).detach probe bench.state).2.state
      probes := bench.probes.set number left } := by
  have below := Bench.lt_of_probe? found
  have posts := getElem?_posts_detach paths matched found
  have dead : left.any Probe.attached = false := by
    cases left with
    | none => rfl
    | some other => rw [leaves other rfl]; rfl
  refine ⟨?_, ?_, matched.nodup_unhooked_detach paths found, ?_⟩
  · apply List.ext_getElem?
    intro place
    show (Machine.posts _ |>.map _)[place]? = ((bench.probes.set number left).map _)[place]?
    rw [List.getElem?_map, posts, List.getElem?_map, List.getElem?_set]
    by_cases own : number = place
    · rw [if_pos own, if_pos own, if_pos (own ▸ below)]
      exact congrArg some dead.symm
    · rw [if_neg own, if_neg own, ← List.getElem?_map, ← List.getElem?_map, matched.enabled]
  · intro place other here
    refine ⟨?_, (posts place).trans ?_⟩
    · rcases Bench.probe?_of_set (Bench.probe?_eq_some_iff.mp here) with
        ⟨rfl, isLeft⟩ | ⟨-, old⟩
      · rw [leaves other isLeft]
        exact (matched.held number probe found).1
      · exact (matched.held place other old).1
    · rcases Bench.probe?_of_set (Bench.probe?_eq_some_iff.mp here) with
        ⟨own, isLeft⟩ | ⟨own, old⟩
      · rw [if_pos own, leaves other isLeft]
      · rw [if_neg own]
        exact (matched.held place other old).2
  · intro place disabled
    obtain ⟨known, spent⟩ := matched.spent_detach paths found disabled
    refine ⟨by rwa [List.length_set], fun other here => ?_⟩
    rcases Bench.probe?_of_set (Bench.probe?_eq_some_iff.mp here) with ⟨-, isLeft⟩ | ⟨own, old⟩
    · rw [leaves other isLeft]
      rfl
    · exact spent own other old

/-! ### Every step -/

theorem posts_readTable (probe : Probe) (host : Host) :
    (readTable probe host).state.machine.posts = host.machine.posts := by
  unfold readTable
  cases probe.table with
  | none => rfl
  | some found =>
      cases probe.attached with
      | false => rfl
      | true =>
          cases layout : checkLayout found.2 with
          | error refusal => simp only [layout, Bool.not_true, Bool.false_eq_true, if_false]
          | ok =>
              have walked := Machine.posts_walk probe.hook host.machine
              simp only [layout, Bool.not_true, Bool.false_eq_true, if_false]
              rcases walking : host.machine.walk probe.hook with ⟨refusal | entries, machine⟩
              case error => simpa only [walking] using walked
              case ok => simpa only [walking] using walked

theorem unhooked_readTable (paths : Paths) (probe : Probe) (recorded : Recorded) :
    ((recording paths).readTable probe recorded).state.unhooked = recorded.unhooked := by
  have none : (readRequests probe).filterMap Request.unhooked? = [] := by
    unfold readRequests
    repeat' split
    all_goals rfl
  show (recorded.after (readRequests probe) _).unhooked = _
  rw [Recorded.unhooked_after, none, List.append_nil]

theorem Matched.advance (matched : Matched bench) (step : Step Incident) :
    Matched (bench.advance (recording paths) Recorded.befall step) := by
  cases step with
  | attach event kind =>
      rcases recording_attachProbe_cases paths event kind bench.state with
        ⟨failure, log, attaching, -⟩ | ⟨target, made, -, rfl, ⟨failure, log, attaching, -⟩ |
          ⟨object, table, log, -, attaching⟩⟩
      · simp only [Bench.advance, Bench.attach, attaching]
        exact matched
      · simp only [Bench.advance, Bench.attach, attaching]
        exact matched.of_same rfl rfl (unhooked_attachRequests paths target _ _ _)
      · simp only [Bench.advance, Bench.attach, attaching]
        exact matched.attach target _ table rfl (unhooked_attachRequests paths target _ _ _)
  | detach number =>
      cases found : bench.probe? number with
      | none =>
          simp only [Bench.advance, found]
          exact matched
      | some probe =>
          simp only [Bench.advance, found, Bench.detach, fst_detach]
          refine matched.retire paths found ?_
          rintro _ ⟨⟩
          rfl
  | release number =>
      cases found : bench.probe? number with
      | none =>
          simp only [Bench.advance, found]
          exact matched
      | some probe =>
          simp only [Bench.advance, found, Bench.release]
          exact matched.retire paths found (by simp)
  | read number =>
      cases found : bench.probe? number with
      | none =>
          simp only [Bench.advance, found]
          exact matched
      | some probe =>
          have posts : ((recording paths).readTable probe bench.state).state.host.machine.posts =
            bench.state.host.machine.posts := posts_readTable probe bench.state.host
          have unhooked := unhooked_readTable paths probe bench.state
          simp only [Bench.advance, found, Bench.read]
          cases ((recording paths).readTable probe bench.state).result with
          | error failure => exact matched.of_same rfl posts unhooked
          | ok snapshot => exact matched.of_same rfl posts unhooked
  | occur incident =>
      exact matched.of_same rfl (incident.posts_befall bench.state.host) rfl

theorem Matched.run (matched : Matched bench) (steps : List (Step Incident)) :
    Matched (bench.run (recording paths) Recorded.befall steps) :=
  Bench.run_preserves Matched (fun _ step held => held.advance step) steps matched

theorem matched_fresh {host : Host} (hooks : host.machine.hooks = []) :
    Matched { state := { host } } where
  enabled := by
    show (host.machine.hooks.map _).map _ = _
    rw [hooks]
    rfl
  held := nofun
  disabledOnce := List.nodup_nil
  spent := nofun

/-! ### What is matched -/

theorem Matched.enabledCount_eq (matched : Matched bench) :
    bench.state.host.machine.enabledCount = bench.probes.countP (·.any Probe.attached) := by
  have counted := congrArg (List.countP id) matched.enabled
  rw [List.countP_map, List.countP_map] at counted
  rw [Machine.enabledCount_eq]
  exact counted

/-- The enabled hooks are those of the attached probes, number by number. -/
theorem Matched.enabled_iff (matched : Matched bench) (number : Nat) (post : Post) :
    bench.state.host.machine.posts[number]? = some post ∧ post.enabled = true ↔
      ∃ probe, bench.probe? number = some probe ∧ probe.attached = true ∧ probe.post = post := by
  constructor
  · rintro ⟨here, enabled⟩
    have slot := congrArg (·[number]?) matched.enabled
    simp only [List.getElem?_map, here, Option.map_some, enabled] at slot
    obtain ⟨held, found, attached⟩ := Option.map_eq_some_iff.mp slot.symm
    cases held with
    | none => cases attached
    | some probe =>
        have present := Bench.probe?_eq_some_iff.mpr found
        have same := (matched.held number probe present).2
        rw [here] at same
        exact ⟨probe, present, attached, (Option.some.inj same).symm⟩
  · rintro ⟨probe, found, attached, rfl⟩
    exact ⟨(matched.held number probe found).2, attached⟩

/-! ### Attaching, reading and releasing on a bench -/

/-- Attaching succeeds exactly if the event resolves, the user may load programs, and every stage of
attaching succeeds. -/
theorem attach_isOk_iff (bench : Bench Recorded Probe) (event : String) (kind : Kind) :
    (∃ number, (bench.attach (recording paths) event kind).1 = .ok number) ↔
      ∃ target object, Admitted paths event bench.state.host target ∧
        Attachable paths kind.artifact bench.state.host object := by
  rcases recording_attachProbe_cases paths event kind bench.state with
    ⟨failure, log, attaching, unadmitted⟩ | ⟨target, made, admitted, -,
      ⟨failure, log, attaching, unattachable⟩ | ⟨object, table, log, attachable, attaching⟩⟩
  · simp only [Bench.attach, attaching, reduceCtorEq, exists_false, false_iff]
    rintro ⟨target, object, admitted, -⟩
    exact unadmitted target admitted
  · simp only [Bench.attach, attaching, reduceCtorEq, exists_false, false_iff]
    rintro ⟨-, object, -, attachable⟩
    exact unattachable object attachable
  · simp only [Bench.attach, attaching, Except.ok.injEq, exists_eq', true_iff]
    exact ⟨target, object, admitted, attachable⟩

/-- For the counting program a log plays no part. -/
theorem attachable_count_iff {host : Host} {object : Object} :
    Attachable paths Kind.count.artifact host object ↔
      loadObject paths host = .ok object ∧ (∃ table, object.map? counterTable = some table) ∧
        host.machine.loadProgram object countProgram = .ok () ∧ host.machine.conduct.Hooks := by
  constructor
  · intro attachable
    exact ⟨attachable.loads, attachable.hasTable counterTable rfl, attachable.loadsProgram,
      attachable.hooks⟩
  · rintro ⟨loads, hasTable, loadsProgram, hooks⟩
    refine ⟨loads, nofun, ?_, loadsProgram, hooks⟩
    rintro _ ⟨⟩
    exact hasTable

/-- A failed attachment leaves the host and the probes as they were. Where the event is not resolved
or the user may not load programs, the kernel has not been asked for anything. -/
theorem attach_of_failed {event : String} {kind : Kind} {failure : Failure}
    {later : Bench Recorded Probe} {log : List LogRecord}
    (failed : bench.attach (recording paths) event kind = (.error failure, later, log)) :
    later.state.host = bench.state.host ∧ later.probes = bench.probes ∧
      ((∀ target, ¬ Admitted paths event bench.state.host target) → later = bench) := by
  rcases recording_attachProbe_cases paths event kind bench.state with
    ⟨_, _, attaching, -⟩ | ⟨target, made, admitted, -, ⟨_, _, attaching, -⟩ |
      ⟨object, table, _, -, attaching⟩⟩
  · simp only [Bench.attach, attaching, Prod.mk.injEq] at failed
    obtain ⟨-, rfl, -⟩ := failed
    exact ⟨rfl, rfl, fun _ => rfl⟩
  · simp only [Bench.attach, attaching, Prod.mk.injEq] at failed
    obtain ⟨-, rfl, -⟩ := failed
    exact ⟨rfl, rfl, fun unadmitted => absurd admitted (unadmitted target)⟩
  · simp only [Bench.attach, attaching, Prod.mk.injEq, reduceCtorEq, false_and] at failed

/-- A probe that is not attached reads nothing, and the kernel is not asked. -/
theorem readTable_of_detached (paths : Paths) (detached : probe.attached = false)
    (recorded : Recorded) :
    ∃ table reason, (recording paths).readTable probe recorded =
      ⟨.error (.tableRead table reason), recorded, []⟩ := by
  show ∃ table reason, (readTable probe recorded.host).onPart
    (recorded.after (readRequests probe)) = _
  unfold readTable readRequests
  cases probe.table with
  | none =>
      refine ⟨probe.program, "probe has no table", ?_⟩
      simp only [Response.onPart, Recorded.after, List.append_nil]
  | some found =>
      refine ⟨found.1, "probe is detached", ?_⟩
      simp only [detached, Bool.not_false, if_true, Response.onPart, Recorded.after,
        List.append_nil]

/-- A probe that is not attached reads nothing, and neither detaching it nor giving it up detaches
anything. -/
theorem idle_of_detached (paths : Paths) (found : bench.probe? number = some probe)
    (detached : probe.attached = false) :
    (∃ table reason,
        bench.read (recording paths) probe = (.error (.tableRead table reason), bench, [])) ∧
      bench.detach (recording paths) number probe = (.ok (), bench, []) ∧
      bench.release (recording paths) number probe =
        ({ bench with probes := bench.probes.set number none }, []) := by
  refine ⟨?_, ?_, ?_⟩
  · obtain ⟨table, reason, reading⟩ := readTable_of_detached paths detached bench.state
    exact ⟨table, reason, by simp only [Bench.read, reading]⟩
  · obtain ⟨below, here⟩ := List.getElem?_eq_some_iff.mp (Bench.probe?_eq_some_iff.mp found)
    simp only [Bench.detach, detach_of_detached detached, ← here, List.set_getElem_self]
  · simp only [Bench.release, detach_of_detached detached]

/-- Whatever is done on a host whose kernel has no hooks, and whatever happens around it: the
enabled hooks are exactly those of the attached probes, each on the symbol of its probe's target. A
failed attachment leaves all hooks and probes as they were; where it fails because the event is not
resolved or the user may not load programs, the kernel has not been asked for anything. A counting
probe is attached whether or not its object has a log. After a probe has been detached, its number
reads nothing for good, and detaching it again or giving it up detaches nothing; no hook is disabled
twice. -/
theorem hooks_match_probes (paths : Paths) (files : Files.Store) (effectiveUser : Nat)
    (conduct : Conduct) (order : WalkOrder) (steps : List (Step Incident)) :
    let host : Host := { files, effectiveUser, machine := { conduct, order } }
    let bench := Bench.run (recording paths) Recorded.befall steps { state := { host } }
    let now := bench.state.host
    bench.seen Recorded.host =
      Bench.run (platform paths) (fun incident host => incident.befall host) steps
        { state := host } ∧
    now.machine.enabledCount = bench.probes.countP (·.any Probe.attached) ∧
    (∀ number post, now.machine.posts[number]? = some post ∧ post.enabled = true ↔
      ∃ probe, bench.probe? number = some probe ∧ probe.attached = true ∧ probe.post = post) ∧
    (∀ event kind failure later log,
      bench.attach (recording paths) event kind = (.error failure, later, log) →
        later.state.host = now ∧ later.probes = bench.probes ∧
          ((∀ target, ¬ Admitted paths event now target) → later = bench)) ∧
    (∀ event, (∃ number, (bench.attach (recording paths) event .count).1 = .ok number) ↔
      ∃ target object, Admitted paths event now target ∧
        loadObject paths now = .ok object ∧ (∃ table, object.map? counterTable = some table) ∧
        now.machine.loadProgram object countProgram = .ok () ∧ now.machine.conduct.Hooks) ∧
    (∀ number probe further, bench.probe? number = some probe →
      let later := (bench.advance (recording paths) Recorded.befall (.detach number)).run
        (recording paths) Recorded.befall further
      ∀ left, later.probe? number = some left →
        (∃ table reason,
          later.read (recording paths) left = (.error (.tableRead table reason), later, [])) ∧
        later.detach (recording paths) number left = (.ok (), later, []) ∧
        later.release (recording paths) number left =
          ({ later with probes := later.probes.set number none }, [])) ∧
    bench.state.unhooked.Nodup := by
  intro host bench now
  have matched : Matched bench := (matched_fresh rfl).run steps
  refine ⟨(recording_covers paths).seen_run (fun _ _ => rfl) _ steps, matched.enabledCount_eq,
    matched.enabled_iff, fun _ _ _ _ _ => attach_of_failed, ?_, ?_, matched.disabledOnce⟩
  · intro event
    rw [attach_isOk_iff]
    simp only [attachable_count_iff]
    rfl
  · intro number probe further found later left here
    have detached : left.attached = false :=
      Bench.not_attached_of_detached (recording_retires paths) found further here
    exact idle_of_detached paths here detached

end SyscallTally.Platform.Loaded
