import SyscallTally.Proofs.Files.Paths
import SyscallTally.Proofs.Files.Walks

/-!
Owns what can be done to a file that can be read: its directory is there (`createChain_parent`), it
can be written anew unless there is a guard on it (`Located.write_eq`), and then holds what was
written (`Located.put`).

A file is found where a walk ends that goes through directories only, in a proper name that is its
last (`Located`). Reading and writing follow from that, and it outlasts writing.
-/

set_option autoImplicit false

namespace SyscallTally.Files.Store

variable {store : Store} {path : Path} {above : Place} {name : Name} {contents : Contents}

/-! ### Where a file is -/

/-- A path leads to a file of a name in a directory. -/
structure Located (store : Store) (path : Path) (above : Place) (name : Name)
    (contents : Contents) : Prop where
  faultless : Path.fault? path = none
  unslashed : Path.endsInSlash path = false
  walks : ∃ before, Path.names path = before ++ [name] ∧
    store.walk (store.start path) before = .ok above
  directory : store.isDirectory above = true
  proper : isProper name = true
  short : name.length ≤ Path.nameLimit
  file : store.node? (above ++ [name]) = some (.file contents)

theorem not_isDirectory_of_file {place : Place} (file : store.node? place = some (.file contents)) :
    store.isDirectory place = false := by
  rw [isDirectory, file]
  rfl

theorem read_eq_ok_iff :
    store.read path = .ok contents ↔
      Path.fault? path = none ∧ Path.endsInSlash path = false ∧
        ∃ place, store.walk (store.start path) (Path.names path) = .ok place ∧
          store.node? place = some (.file contents) := by
  rw [Store.read, openNode]
  cases faultless : Path.fault? path with
  | some fault => simp
  | none =>
      cases walked : store.walk (store.start path) (Path.names path) with
      | error fault => simp
      | ok place =>
          rcases found : store.node? place with _ | _ | held
          · simp [found]
          · simp [found]
          · cases unslashed : Path.endsInSlash path with
            | true => simp [found]
            | false => simp [found]

theorem pathExists_of_read (read : store.read path = .ok contents) :
    store.pathExists path = true := by
  rw [Store.read] at read
  rw [pathExists]
  cases opened : store.openNode path with
  | error fault =>
      rw [opened] at read
      cases read
  | ok node => rfl

/-- Whatever can be read is located somewhere. -/
theorem located_of_read (read : store.read path = .ok contents) :
    ∃ above name, store.Located path above name contents := by
  obtain ⟨faultless, unslashed, place, walked, file⟩ := read_eq_ok_iff.mp read
  have noDirectory := not_isDirectory_of_file file
  rcases List.eq_nil_or_concat (Path.names path) with none | ⟨before, name, namesEq⟩
  case inl =>
    rw [none] at walked
    obtain rfl := Except.ok.inj walked
    rw [isDirectory_start] at noDirectory
    cases noDirectory
  case inr =>
    rw [List.concat_eq_append] at namesEq
    rw [namesEq] at walked
    obtain ⟨above, reached, entered⟩ := walk_split walked
    rw [walk_singleton] at entered
    obtain ⟨directory, enters⟩ := enters_of_enter entered
    cases enters with
    | stays =>
        rw [directory] at noDirectory
        cases noDirectory
    | ascends =>
        -- The walk has come down to where it turns back, so it turns back to a directory.
        have grounded := grounded_of_walk (store.grounded_start path) reached
        have stillDirectory : store.isDirectory above.dropLast = true := by
          cases above with
          | nil => exact directory
          | cons first rest =>
              refine grounded _ (List.dropLast_prefix _) fun same => ?_
              have shorter := congrArg List.length same
              rw [List.length_dropLast, List.length_cons] at shorter
              omega
        rw [stillDirectory] at noDirectory
        cases noDirectory
    | descends proper short present =>
        exact ⟨above, name, faultless, unslashed, ⟨before, namesEq, reached⟩, directory, proper,
          short, file⟩

/-! ### Reading and writing -/

namespace Located

variable (located : store.Located path above name contents)

include located

theorem present : (store.node? (above ++ [name])).isSome = true := by
  rw [located.file]
  rfl

theorem enter_eq : store.enter above name = .ok (above ++ [name]) :=
  enter_of_enters located.directory (.descends located.proper located.short located.present)

theorem read_eq : store.read path = .ok contents := by
  obtain ⟨before, namesEq, reached⟩ := located.walks
  refine read_eq_ok_iff.mpr ⟨located.faultless, located.unslashed, above ++ [name], ?_,
    located.file⟩
  rw [namesEq, walk_append, reached]
  exact (walk_singleton above name).trans located.enter_eq

theorem lastName_eq : store.lastName path = .ok (above, some name) := by
  obtain ⟨before, namesEq, reached⟩ := located.walks
  rw [lastName, located.faultless]
  simp only [namesEq, List.dropLast_concat, reached, located.directory, if_true,
    List.getLast?_concat]

/-- Nothing but a guard on the file keeps it from being written. -/
theorem write_eq (fresh : Contents) :
    store.write path fresh =
      match store.guard? (above ++ [name]) with
      | some guard => .error guard.fault
      | none => .ok (store.put (above ++ [name]) (.file fresh)) := by
  rw [write, located.lastName_eq]
  simp only [located.unslashed, located.proper, Bool.not_true, Bool.or_false, Bool.false_eq_true,
    if_false, if_neg (Nat.not_lt.mpr located.short), not_isDirectory_of_file located.file,
    refusal?_of_isSome located.present]
  cases store.guard? (above ++ [name]) <;> rfl

theorem write_of_unguarded (unguarded : store.guard? (above ++ [name]) = none)
    (fresh : Contents) :
    store.write path fresh = .ok (store.put (above ++ [name]) (.file fresh)) := by
  rw [located.write_eq, unguarded]

/-- Where a write is refused it is for a guard on the file. -/
theorem guard?_of_unwritten {fresh : Contents} {fault : Fault}
    (failed : store.write path fresh = .error fault) :
    ∃ guard, store.guard? (above ++ [name]) = some guard ∧ guard.fault = fault := by
  rw [located.write_eq] at failed
  cases guarded : store.guard? (above ++ [name]) with
  | none =>
      rw [guarded] at failed
      cases failed
  | some guard =>
      rw [guarded] at failed
      exact ⟨guard, rfl, Except.error.inj failed⟩

theorem guard?_of_written {fresh : Contents} {later : Store}
    (written : store.write path fresh = .ok later) : store.guard? (above ++ [name]) = none := by
  rw [located.write_eq] at written
  cases guarded : store.guard? (above ++ [name]) with
  | none => rfl
  | some guard =>
      rw [guarded] at written
      cases written

end Located

/-! ### What is left after writing -/

theorem lookup_filter_ne {nodes : List (Place × Node)} {place other : Place}
    (different : other ≠ place) :
    (nodes.filter (·.1 != place)).lookup other = nodes.lookup other := by
  induction nodes with
  | nil => rfl
  | cons entry nodes inductionHypothesis =>
      by_cases same : entry.1 = place
      · have skipped : (other == entry.1) = false :=
          beq_eq_false_iff_ne.mpr fun found => different (found.trans same)
        rw [List.filter_cons_of_neg (by simp [same]), inductionHypothesis, List.lookup_cons,
          skipped]
      · rw [List.filter_cons_of_pos (by simp [same]), List.lookup_cons, List.lookup_cons,
          inductionHypothesis]

/-- What is put where there is no directory is found there, and all else is found as before. -/
theorem node?_put {place : Place} (noDirectory : store.isDirectory place = false) (node : Node)
    (other : Place) :
    (store.put place node).node? other = if other = place then some node else store.node? other := by
  by_cases isAbove : other.isPrefixOf store.workingDirectory = true
  · have different : other ≠ place := by
      rintro rfl
      rw [isDirectory_of_within (List.isPrefixOf_iff_prefix.mp isAbove)] at noDirectory
      cases noDirectory
    rw [if_neg different, node?, node?, put, if_pos isAbove, if_pos isAbove]
  · rw [node?, node?, put, if_neg isAbove, if_neg isAbove, List.lookup_cons]
    by_cases same : other = place
    · rw [if_pos same, same, beq_self_eq_true]
    · rw [if_neg same, beq_eq_false_iff_ne.mpr same]
      exact lookup_filter_ne same

/-- Stores between which no walk can tell a difference. -/
structure SameShape (store later : Store) : Prop where
  workingDirectory : later.workingDirectory = store.workingDirectory
  isDirectory : ∀ place, later.isDirectory place = store.isDirectory place
  present : ∀ place, (later.node? place).isSome = (store.node? place).isSome

theorem sameShape_put {place : Place} (file : store.node? place = some (.file contents))
    (fresh : Contents) : store.SameShape (store.put place (.file fresh)) where
  workingDirectory := rfl
  isDirectory := fun other => by
    rw [isDirectory, isDirectory, node?_put (not_isDirectory_of_file file)]
    split
    case isTrue same => rw [same, file]; rfl
    case isFalse => rfl
  present := fun other => by
    rw [node?_put (not_isDirectory_of_file file)]
    split
    case isTrue same => rw [same, file]; rfl
    case isFalse => rfl

theorem SameShape.enter_eq {later : Store} (same : store.SameShape later) (here : Place)
    (name : Name) : later.enter here name = store.enter here name := by
  rw [enter, enter, same.isDirectory, same.present]

theorem SameShape.walk_eq {later : Store} (same : store.SameShape later) (here : Place)
    (names : List Name) : later.walk here names = store.walk here names := by
  induction names generalizing here with
  | nil => rfl
  | cons name names inductionHypothesis =>
      rw [walk, walk, same.enter_eq]
      cases store.enter here name with
      | error fault => rfl
      | ok next => exact inductionHypothesis next

namespace Located

variable (located : store.Located path above name contents)

include located

/-- A file that has been written is where it was, and holds what was written. -/
theorem put (fresh : Contents) :
    (store.put (above ++ [name]) (.file fresh)).Located path above name fresh where
  faultless := located.faultless
  unslashed := located.unslashed
  walks := by
    obtain ⟨before, namesEq, reached⟩ := located.walks
    refine ⟨before, namesEq, ?_⟩
    rw [(sameShape_put located.file fresh).walk_eq]
    exact reached
  directory := by
    rw [(sameShape_put located.file fresh).isDirectory]
    exact located.directory
  proper := located.proper
  short := located.short
  file := by rw [node?_put (not_isDirectory_of_file located.file), if_pos rfl]

end Located

/-- Of two things put at one place only the later is left. -/
theorem put_put (store : Store) (place : Place) (first second : Node) :
    (store.put place first).put place second = store.put place second := by
  have kept : (store.nodes.filter (·.1 != place)).filter (·.1 != place) =
      store.nodes.filter (·.1 != place) := List.filter_eq_self.mpr fun entry member =>
    (List.mem_filter.mp member).2
  simp [Store.put, kept]

/-! ### The directory of a file -/

theorem fault?_eq_none_iff :
    Path.fault? path = none ↔
      path.contains 0 = false ∧ path ≠ [] ∧ path.length < Path.lengthLimit := by
  rw [Path.fault?]
  cases zero : path.contains 0 with
  | true => simp
  | false =>
      cases path with
      | nil => simp
      | cons first rest =>
          simp only [Bool.false_eq_true, if_false, List.isEmpty_cons]
          split
          case isTrue long =>
            exact iff_of_false nofun fun all => Nat.not_lt.mpr long all.2.2
          case isFalse short =>
            exact iff_of_true rfl ⟨trivial, List.cons_ne_nil first rest, Nat.lt_of_not_le short⟩

theorem fault?_of_within {parent : Path} (within : parent <+: path) (nonempty : parent ≠ [])
    (faultless : Path.fault? path = none) : Path.fault? parent = none := by
  obtain ⟨noZero, -, short⟩ := fault?_eq_none_iff.mp faultless
  refine fault?_eq_none_iff.mpr ⟨?_, nonempty, Nat.lt_of_le_of_lt within.length_le short⟩
  rw [List.contains_eq_mem, decide_eq_false_iff_not] at noZero ⊢
  exact fun member => noZero (within.subset member)

theorem start_of_within {parent : Path} (within : parent <+: path) (nonempty : parent ≠ []) :
    store.start parent = store.start path := by
  obtain ⟨rest, rfl⟩ := within
  obtain ⟨first, others, rfl⟩ := List.exists_cons_of_ne_nil nonempty
  rfl

/-- A directory that a path leads to cannot be created, and is no worse for it. -/
theorem settled_of_walk {place : Place} (faultless : Path.fault? path = none)
    (walked : store.walk (store.start path) (Path.names path) = .ok place)
    (directory : store.isDirectory place = true) :
    store.createDirectory path = .error .alreadyExists ∧ store.namesDirectory path = true := by
  constructor
  · rw [createDirectory, lastName, faultless]
    rcases List.eq_nil_or_concat (Path.names path) with none | ⟨before, name, namesEq⟩
    case inl =>
      have atStart : store.walk (store.start path) [] = .ok (store.start path) := rfl
      simp only [none, List.dropLast_nil, atStart, isDirectory_start, if_true,
        List.getLast?_nil]
    case inr =>
      rw [List.concat_eq_append] at namesEq
      rw [namesEq] at walked
      obtain ⟨above, reached, entered⟩ := walk_split walked
      rw [walk_singleton] at entered
      obtain ⟨aboveDirectory, enters⟩ := enters_of_enter entered
      simp only [namesEq, List.dropLast_concat, reached, aboveDirectory, if_true,
        List.getLast?_concat]
      cases enters with
      | stays nameEq => rw [nameEq]; rfl
      | ascends nameEq => rw [nameEq]; rfl
      | descends proper short present =>
          rw [proper, if_neg (by decide), if_neg (Nat.not_lt.mpr short), if_pos present]
  · have node : store.node? place = some .directory := eq_of_beq directory
    rw [namesDirectory, openNode, faultless]
    simp only [walked, node]

namespace Located

variable (located : store.Located path above name contents)

include located

/-- The parent of a path that leads to a file leads to the directory of the file. -/
theorem parent? :
    ∃ parent, Path.parent? path = some parent ∧ parent <+: path ∧
      (parent ≠ [] → store.walk (store.start parent) (Path.names parent) = .ok above) := by
  obtain ⟨before, namesEq, reached⟩ := located.walks
  have nonempty := (fault?_eq_none_iff.mp located.faultless).2.1
  obtain ⟨front, last, partsEq, filled⟩ := Path.parts_last nonempty located.unslashed
  have lastEq : last = name := by
    rw [Path.names_eq_filter_parts, partsEq, List.filter_append,
      List.filter_cons_of_pos filled, List.filter_nil] at namesEq
    exact List.singleton_inj.mp (List.append_inj' namesEq rfl).2
  have noDot : last ≠ dot := by
    rw [lastEq]
    rintro rfl
    cases located.proper
  obtain ⟨parent, isParent, within, dots, sameNames, onlyDots⟩ :=
    Path.parent?_of_parts partsEq filled noDot
  refine ⟨parent, isParent, within, fun named => ?_⟩
  rw [lastEq] at sameNames
  have beforeEq : before = Path.names parent ++ dots :=
    (List.append_inj' (namesEq.symm.trans sameNames) rfl).1
  rw [beforeEq] at reached
  obtain ⟨place, walked, dotted⟩ := walk_split reached
  rw [start_of_within within named, walked, eq_of_walk_dots onlyDots dotted]

theorem createChain_parent {parent : Path} (isParent : Path.parent? path = some parent) :
    store.createChain parent = (.ok (), store) := by
  obtain ⟨other, isOther, within, walked⟩ := located.parent?
  obtain rfl := Option.some.inj (isParent.symm.trans isOther)
  cases parent with
  | nil => rfl
  | cons first rest =>
      have faultless := fault?_of_within within (List.cons_ne_nil first rest) located.faultless
      obtain ⟨already, settled⟩ := settled_of_walk faultless
        (walked (List.cons_ne_nil first rest)) located.directory
      rw [createChain, createChainWithin, already]
      simp only [List.isEmpty_cons, Bool.false_eq_true, if_false, settle, settled, if_true]

end Located

end SyscallTally.Files.Store
