import SyscallTally.Kernel.Machine

/-!
Owns what a kernel does that nothing disturbs:

- a program that calls no routine of its object is linked by itself (`Object.link_of_alone`);
- an occurrence is recorded on a hook's table by the rule for tables (`counterMap_quiet`), on each
  hook of the symbol that is called (`getElem?_call`);
- a program is hooked unless the kernel refuses one of three things (`hook_of_hooks`,
  `hook_of_not_hooks`), and calls and walks leave every hook at its `Post`;
- a walk reads every entry of a hook's table, in whatever order (`walk_of_walksAll`).
-/

set_option autoImplicit false

namespace SyscallTally.Kernel

open SyscallTally.Counter SyscallTally.Probe

theorem Object.link_of_alone {object : Object} (maps : object.mapsAreFound = true)
    (alone : ∀ program ∈ object.programs, ∃ routine,
      object.routine? program.home program.address = some routine ∧
        object.callees routine = []) : object.link = .ok () := by
  have calls : object.callsAreFound = true := by
    apply List.all_eq_true.mpr
    intro program listed
    obtain ⟨routine, found, calls⟩ := alone program listed
    unfold Object.programLinks
    rw [found]
    simp only [calls]
    rw [Object.linksFrom]
  unfold Object.link
  rw [maps, calls]
  rfl

/-- Alone on a table, the kernel's operations are those of the table. -/
theorem counterMap_quiet : counterMap .quiet = Table.counterMap := by
  have increments : (counterMap .quiet).increment = Table.counterMap.increment := by
    funext key table
    show (if lookup key table then (true, (table.increment key).2) else (false, table)) =
      table.increment key
    by_cases present : key ∈ table.counts
    · have found : lookup key table = true := present
      rw [if_pos found, Table.increment_of_mem present]
    · have missed : ¬ lookup key table = true := present
      rw [if_neg missed, Table.increment_of_not_mem present]
  have insertions : (counterMap .quiet).insertNew = Table.counterMap.insertNew := by
    funext key value table
    show (insertionOfCode (insertNoExist key value table).1, (insertNoExist key value table).2) =
      table.insertNew key value
    by_cases present : key ∈ table.counts
    · rw [insertNoExist, Table.insertNew_of_mem present]
      rfl
    · by_cases room : table.counts.size < table.capacity
      · rw [insertNoExist, Table.insertNew_of_room present room]
        rfl
      · rw [insertNoExist, Table.insertNew_of_full present (Nat.le_of_not_lt room)]
        rfl
  calc counterMap .quiet
      = ⟨(counterMap .quiet).increment, (counterMap .quiet).insertNew⟩ := rfl
    _ = Table.counterMap := by rw [increments, insertions]

/-- A kernel that lets nothing happen around the walks of a table, and answers all that they ask. -/
structure Conduct.WalksAll (conduct : Conduct) : Prop where
  nextKey : conduct.nextKeyError = none
  lookup : conduct.lookupError = none
  vanishing : conduct.vanishing = []
  before : conduct.beforeWalks = []

/-- A hook without its table: where it is, what it runs, and whether it is enabled. -/
structure Post where
  symbol : String
  kind : Option Kind
  enabled : Bool
deriving DecidableEq, Repr

def Hook.post (hook : Hook) : Post := ⟨hook.symbol, hook.kind, hook.enabled⟩

/-- A kernel that hooks any program that it has loaded. -/
structure Conduct.Hooks (conduct : Conduct) : Prop where
  opens : conduct.refusesOpen = false
  binds : conduct.refusesBind = false
  enables : conduct.refusesEnable = false

namespace Machine

variable {machine : Machine} {symbol : String} {credentials : UInt64} {number : Nat}
  {table : Table}

/-! ### Calls -/

/-- A call leaves a counting hook on its symbol with an occurrence more on its table. -/
theorem getElem?_call (credentials : UInt64) (race : Race)
    (hooked : machine.hooks[number]? = some ⟨symbol, some .count, table, true⟩) :
    (machine.call symbol credentials race).2.hooks[number]? =
      some ⟨symbol, some .count,
        (record (counterMap race) (userKey credentials) table).2, true⟩ := by
  show ((machine.hooks.map (Hook.call symbol credentials race)).map (·.2))[number]? = _
  rw [List.getElem?_map, List.getElem?_map, hooked]
  simp only [Option.map_some, Hook.call, and_self, if_true]
  rfl

theorem callTimes_succ (race : Race) (times : Nat) :
    (machine.callTimes symbol credentials race (times + 1)).2 =
      ((machine.call symbol credentials race).2.callTimes symbol credentials race times).2 := by
  cases times <;> rfl

/-! ### Hooks -/

/-- The kernel with one more program hooked. -/
def withHook (symbol program : String) (capacity : Nat) (machine : Machine) : Machine :=
  { machine with
    hooks := machine.hooks ++ [⟨symbol, Kind.ofProgram? program, Table.empty capacity, true⟩]
    stopped := machine.stopped || machine.conduct.stop = .onEnable }

theorem hook_of_hooks (hooks : machine.conduct.Hooks) (symbol program : String) (capacity : Nat) :
    machine.hook symbol program capacity =
      .ok (machine.hooks.length, machine.withHook symbol program capacity) := by
  unfold hook
  rw [hooks.opens, hooks.binds, hooks.enables]
  rfl

theorem hook_of_not_hooks (refuses : ¬ machine.conduct.Hooks) (symbol program : String)
    (capacity : Nat) : ∃ refusal, machine.hook symbol program capacity = .error refusal := by
  unfold hook
  cases opens : machine.conduct.refusesOpen with
  | true => exact ⟨_, rfl⟩
  | false =>
      cases binds : machine.conduct.refusesBind with
      | true => exact ⟨_, rfl⟩
      | false =>
          cases enables : machine.conduct.refusesEnable with
          | true => exact ⟨_, rfl⟩
          | false => exact absurd ⟨opens, binds, enables⟩ refuses

/-! ### Posts -/

/-- The posts of all hooks, by their numbers. -/
def posts (machine : Machine) : List Post := machine.hooks.map Hook.post

theorem enabledCount_eq (machine : Machine) :
    machine.enabledCount = machine.posts.countP (·.enabled) := by
  unfold enabledCount posts
  rw [List.countP_map]
  rfl

theorem posts_withHook (symbol program : String) (capacity : Nat) :
    (machine.withHook symbol program capacity).posts =
      machine.posts ++ [⟨symbol, Kind.ofProgram? program, true⟩] := List.map_append

theorem getElem?_posts_unhook (machine : Machine) (number place : Nat) :
    (machine.unhook number).posts[place]? =
      if number = place then
        machine.posts[place]?.map fun post => { post with enabled := false }
      else machine.posts[place]? := by
  unfold posts unhook
  rw [List.getElem?_map, List.getElem?_map, List.getElem?_modify]
  cases machine.hooks[place]? with
  | none => split <;> rfl
  | some hook =>
      show some (Hook.post (if number = place then _ else _)) = _
      split <;> rfl

/-- Calls change tables and nothing else of a hook. -/
theorem posts_call (symbol : String) (credentials : UInt64) (race : Race) (machine : Machine) :
    (machine.call symbol credentials race).2.posts = machine.posts := by
  show ((machine.hooks.map (Hook.call symbol credentials race)).map (·.2)).map Hook.post = _
  rw [List.map_map, List.map_map]
  refine List.map_congr_left fun hook _ => ?_
  show (hook.call symbol credentials race).2.post = hook.post
  obtain ⟨station, kind, table, enabled⟩ := hook
  cases kind with
  | none => rfl
  | some kind =>
      unfold Hook.call
      dsimp only
      split <;> rfl

theorem posts_callTimes (symbol : String) (credentials : UInt64) (race : Race) (times : Nat)
    (machine : Machine) :
    (machine.callTimes symbol credentials race times).2.posts = machine.posts := by
  induction times generalizing machine with
  | zero => rfl
  | succ times inductionHypothesis => rw [callTimes_succ, inductionHypothesis, posts_call]

/-- A walk, and what happens just before it, leaves every hook at its post. -/
theorem posts_walk (number : Nat) (machine : Machine) :
    (machine.walk number).2.posts = machine.posts := by
  have before (calls : List Calls) : (calls.foldl (fun machine calls => machine.occur calls)
      machine).posts = machine.posts := by
    induction calls generalizing machine with
    | nil => rfl
    | cons first rest inductionHypothesis =>
        rw [List.foldl_cons, inductionHypothesis]
        exact posts_callTimes _ _ _ _ machine
  have walked : (machine.walk number).2 = machine.beginWalk := by
    unfold walk
    dsimp only
    split <;> rfl
  rw [walked]
  exact before _

/-! ### Walks -/

/-- The machine at the start of a walk before which nothing happens. -/
theorem beginWalk_of_walksAll (walksAll : machine.conduct.WalksAll) :
    machine.beginWalk.hooks = machine.hooks ∧ machine.beginWalk.conduct = machine.conduct := by
  have nothing : machine.conduct.beforeWalks[machine.walks]?.getD [] = [] := by
    rw [walksAll.before]
    rfl
  unfold beginWalk
  rw [nothing]
  exact ⟨rfl, rfl⟩

theorem lookUpAll_of_walksAll {conduct : Conduct} (walksAll : conduct.WalksAll)
    (entries : List (UInt64 × UInt64)) : lookUpAll conduct entries = .ok entries := by
  induction entries with
  | nil => rfl
  | cons entry rest inductionHypothesis =>
      rw [lookUpAll, walksAll.lookup, walksAll.vanishing, inductionHypothesis]
      rfl

/-- A walk reads the entries of a hook's table and leaves all tables alone. -/
theorem walk_of_walksAll {hook : Hook} (walksAll : machine.conduct.WalksAll)
    (hooked : machine.hooks[number]? = some hook) :
    ∃ entries next, machine.walk number = (.ok entries, next) ∧
      entries.Perm hook.table.counts.toList ∧
      next.hooks = machine.hooks ∧ next.conduct = machine.conduct := by
  obtain ⟨hooks, conduct⟩ := beginWalk_of_walksAll walksAll
  refine ⟨machine.beginWalk.order.arrange machine.beginWalk.walks hook.table.counts.toList,
    machine.beginWalk, ?_, machine.beginWalk.order.perm _ _, hooks, conduct⟩
  unfold walk
  simp only [hooks, hooked, conduct, walksAll.nextKey, ite_self, lookUpAll_of_walksAll walksAll]

end Machine

end SyscallTally.Kernel
