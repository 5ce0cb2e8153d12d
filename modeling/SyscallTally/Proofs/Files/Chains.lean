import SyscallTally.Proofs.Files.Creation

/-!
Owns what creating a directory with those above it does, also when it fails half-way.

- Nothing is lost, and all that is new are directories (`Grows`). In particular no file is created,
  and every file keeps what it holds.
- A failure is never for nothing: there is no such directory afterwards either
  (`Chain.absent`). So there is no file in it that could be read.
- A path that led nowhere may lead to a file afterwards, but only by climbing out of a new directory
  (`Grows.read_of_level`).

`Chain` has one rule for each way in which a creation can go.
-/

set_option autoImplicit false

namespace SyscallTally.Files.Store

variable {store later above : Store} {path parent : Path} {fault : Fault} {limit : Nat}

/-! ### Stores with more directories -/

/-- A later store with the same things at the same places, and perhaps directories where there was
nothing. -/
structure Grows (store later : Store) : Prop where
  workingDirectory : later.workingDirectory = store.workingDirectory
  guards : later.guards = store.guards
  node? : ∀ place, later.node? place = store.node? place ∨
    store.node? place = none ∧ later.node? place = some .directory

theorem Grows.refl (store : Store) : store.Grows store := ⟨rfl, rfl, fun _ => .inl rfl⟩

theorem Grows.trans (first : store.Grows above) (second : above.Grows later) :
    store.Grows later where
  workingDirectory := second.workingDirectory.trans first.workingDirectory
  guards := second.guards.trans first.guards
  node? := by
    intro place
    rcases second.node? place with kept | ⟨vacant, directory⟩
    · rw [kept]
      exact first.node? place
    · rcases first.node? place with kept | ⟨-, occupied⟩
      · exact .inr ⟨kept.symm.trans vacant, directory⟩
      · rw [occupied] at vacant
        cases vacant

theorem grows_put_directory {place : Place} (vacant : store.node? place = none) :
    store.Grows (store.put place .directory) where
  workingDirectory := rfl
  guards := rfl
  node? := by
    have noDirectory : store.isDirectory place = false := by
      rw [isDirectory, vacant]
      rfl
    intro other
    rw [node?_put noDirectory]
    split
    case isTrue same => exact .inr ⟨same ▸ vacant, rfl⟩
    case isFalse => exact .inl rfl

theorem Grows.node?_eq_file_iff (grows : store.Grows later) (place : Place)
    (contents : Contents) :
    later.node? place = some (.file contents) ↔ store.node? place = some (.file contents) := by
  rcases grows.node? place with kept | ⟨vacant, directory⟩
  · rw [kept]
  · rw [vacant, directory]
    exact iff_of_false nofun nofun

theorem Grows.extends (grows : store.Grows later) : store.Extends later where
  workingDirectory := grows.workingDirectory
  isDirectory := by
    intro place directory
    rcases grows.node? place with kept | ⟨-, found⟩
    · rw [isDirectory, kept]
      exact directory
    · rw [isDirectory, found]
      rfl
  present := by
    intro place present
    rcases grows.node? place with kept | ⟨-, found⟩
    · rw [kept]
      exact present
    · rw [found]
      rfl

/-- What could be read before can be read as it was. -/
theorem Grows.read {contents : Contents} (grows : store.Grows later)
    (read : store.read path = .ok contents) : later.read path = .ok contents := by
  obtain ⟨faultless, unslashed, place, walked, file⟩ := read_eq_ok_iff.mp read
  refine read_eq_ok_iff.mpr ⟨faultless, unslashed, place, ?_,
    (grows.node?_eq_file_iff place contents).mpr file⟩
  rw [grows.extends.start_eq]
  exact grows.extends.walk walked

/-- A path that led somewhere leads to no other file than before. -/
theorem Grows.read_of_pathExists {contents : Contents} (grows : store.Grows later)
    (present : store.pathExists path = true) (read : later.read path = .ok contents) :
    store.read path = .ok contents := by
  obtain ⟨faultless, unslashed, place, walked, file⟩ := read_eq_ok_iff.mp read
  rw [grows.extends.start_eq] at walked
  rw [pathExists, openNode, faultless] at present
  cases walkedBefore : store.walk (store.start path) (Path.names path) with
  | error fault => simp only [walkedBefore, Bool.false_eq_true] at present
  | ok before =>
      obtain rfl := Except.ok.inj ((grows.extends.walk walkedBefore).symm.trans walked)
      exact read_eq_ok_iff.mpr ⟨faultless, unslashed, before, walkedBefore,
        (grows.node?_eq_file_iff before contents).mp file⟩

/-- Where a path leads to another file than before, or to one for the first time, there is a new
directory. -/
theorem Grows.exists_created {contents : Contents} (grows : store.Grows later)
    (unread : store.read path ≠ .ok contents) (read : later.read path = .ok contents) :
    ∃ place, store.node? place = none ∧ later.node? place = some .directory := by
  refine Classical.byContradiction fun nothingNew => ?_
  have same (place : Place) : later.node? place = store.node? place :=
    (grows.node? place).resolve_right fun created => nothingNew ⟨place, created⟩
  have back : later.Extends store := {
    workingDirectory := grows.workingDirectory.symm
    isDirectory := fun place directory => by rwa [isDirectory, ← same]
    present := fun place present => by rwa [← same] }
  obtain ⟨faultless, unslashed, place, walked, file⟩ := read_eq_ok_iff.mp read
  refine unread (read_eq_ok_iff.mpr ⟨faultless, unslashed, place, ?_, same place ▸ file⟩)
  rw [back.start_eq]
  exact back.walk walked

/-! ### Paths that never climb -/

/-- Whether all that is there stands in directories. -/
def Rooted (store : Store) : Prop :=
  ∀ place, (store.node? place).isSome = true → store.Grounded place

/-- A walk down to a file that was there before goes through no new directory. -/
theorem Grows.walk_of_level {here there : Place} {names : List Name} {contents : Contents}
    (grows : store.Grows later) (grounded : store.Grounded there)
    (file : store.node? there = some (.file contents)) (level : dotDot ∉ names)
    (walked : later.walk here names = .ok there) : store.walk here names = .ok there := by
  induction names generalizing here with
  | nil => exact walked
  | cons name names inductionHypothesis =>
      have within := within_of_walk level walked
      obtain ⟨noClimb, level⟩ := List.ne_and_not_mem_of_not_mem_cons level
      have fileLater := (grows.node?_eq_file_iff there contents).mpr file
      rw [walk] at walked ⊢
      cases entered : later.enter here name with
      | error fault =>
          rw [entered] at walked
          cases walked
      | ok next =>
          rw [entered] at walked
          obtain ⟨directory, enters⟩ := enters_of_enter entered
          have different : here ≠ there := by
            rintro rfl
            rw [not_isDirectory_of_file fileLater] at directory
            cases directory
          have enteredBefore : store.Enters here name next := by
            cases enters with
            | stays nameEq => exact .stays nameEq
            | ascends nameEq => exact absurd nameEq.symm noClimb
            | descends proper short _ =>
                refine .descends proper short ?_
                by_cases last : here ++ [name] = there
                · rw [last, file]
                  rfl
                · have standing := grounded _ (within_of_walk level walked) last
                  rw [eq_of_beq standing]
                  rfl
          rw [enter_of_enters (grounded here within different) enteredBefore]
          exact inductionHypothesis level walked

/-- New directories bring no file within reach of a path that never climbs. -/
theorem Grows.read_of_level {contents : Contents} (grows : store.Grows later)
    (rooted : store.Rooted) (level : dotDot ∉ Path.names path)
    (read : later.read path = .ok contents) : store.read path = .ok contents := by
  obtain ⟨faultless, unslashed, place, walked, fileLater⟩ := read_eq_ok_iff.mp read
  have file := (grows.node?_eq_file_iff place contents).mp fileLater
  rw [grows.extends.start_eq] at walked
  have grounded := rooted place (by rw [file]; rfl)
  exact read_eq_ok_iff.mpr ⟨faultless, unslashed, place,
    grows.walk_of_level grounded file level walked, file⟩

/-! ### Paths to directories -/

theorem namesDirectory_iff :
    store.namesDirectory path = true ↔ Path.fault? path = none ∧
      ∃ place, store.walk (store.start path) (Path.names path) = .ok place ∧
        store.isDirectory place = true := by
  rw [namesDirectory, openNode]
  cases faultless : Path.fault? path with
  | some fault => simp
  | none =>
      cases walked : store.walk (store.start path) (Path.names path) with
      | error fault => simp
      | ok place =>
          rcases found : store.node? place with _ | _ | contents
          · simp [isDirectory, found]
          · simp [isDirectory, found]
          · cases Path.endsInSlash path <;> simp [isDirectory, found]

theorem isDirectory_of_walk_cons {here there : Place} {name : Name} {names : List Name}
    (walked : store.walk here (name :: names) = .ok there) : store.isDirectory here = true := by
  rw [walk] at walked
  cases entered : store.enter here name with
  | error fault =>
      rw [entered] at walked
      cases walked
  | ok next => exact (enters_of_enter entered).1

/-- Above a directory there are directories. -/
theorem namesDirectory_parent (isParent : Path.parent? path = some parent) (named : parent ≠ [])
    (directory : store.namesDirectory path = true) : store.namesDirectory parent = true := by
  obtain ⟨faultless, place, walked, -⟩ := namesDirectory_iff.mp directory
  obtain ⟨within, -, first, rest, namesEq⟩ := Path.within_of_parent? isParent
  rw [namesEq] at walked
  obtain ⟨next, reached, onward⟩ := walk_split walked
  refine namesDirectory_iff.mpr ⟨fault?_of_within within named faultless, next, ?_,
    isDirectory_of_walk_cons onward⟩
  rw [start_of_within within named]
  exact reached

/-! ### Creating -/

theorem createDirectory_of_namesDirectory (directory : store.namesDirectory path = true) :
    store.createDirectory path = .error .alreadyExists := by
  obtain ⟨faultless, place, walked, isDirectory⟩ := namesDirectory_iff.mp directory
  exact (settled_of_walk faultless walked isDirectory).1

theorem grows_createDirectory (created : store.createDirectory path = .ok later) :
    store.Grows later := by
  rw [createDirectory] at created
  split at created
  case h_1 => cases created
  case h_2 => cases created
  case h_3 =>
    split at created
    case isTrue => cases created
    case isFalse =>
      split at created
      case isTrue => cases created
      case isFalse =>
        split at created
        case isTrue => cases created
        case isFalse vacant =>
          split at created
          case h_1 => cases created
          case h_2 =>
            obtain rfl := Except.ok.inj created
            exact grows_put_directory (Option.not_isSome_iff_eq_none.mp vacant)

/-- The ways in which the creation of a directory and those above it can go. -/
inductive Chain : Store → Path → Except Fault Unit → Store → Prop where
  | kept {store : Store} {path : Path} : Chain store path (.ok ()) store
  | created {store later : Store} {path : Path}
      (creating : store.createDirectory path = .ok later) : Chain store path (.ok ()) later
  | refused {store : Store} {path : Path} {fault : Fault} (named : path ≠ [])
      (absent : store.namesDirectory path = false) : Chain store path (.error fault) store
  | refusedAbove {store above : Store} {path parent : Path} {fault : Fault}
      (isParent : Path.parent? path = some parent)
      (chain : Chain store parent (.error fault) above) : Chain store path (.error fault) above
  | onward {store above later : Store} {path parent : Path} {result : Except Fault Unit}
      (chain : Chain store parent (.ok ()) above) (last : Chain above path result later) :
      Chain store path result later

theorem chain_settle (named : path ≠ []) (fault : Fault) :
    Chain store path (store.settle path fault).1 (store.settle path fault).2 := by
  unfold settle
  cases directory : store.namesDirectory path with
  | true => exact .kept
  | false => exact .refused named directory

theorem chain_createChainWithin (enough : path.length < limit) :
    Chain store path (createChainWithin limit path store).1
      (createChainWithin limit path store).2 := by
  induction limit generalizing path store with
  | zero => cases enough
  | succ limit inductionHypothesis =>
      rw [createChainWithin]
      split
      case isTrue => exact .kept
      case isFalse filled =>
        have named : path ≠ [] := fun empty => filled (List.isEmpty_iff.mpr empty)
        cases creating : store.createDirectory path with
        | ok created => exact .created creating
        | error fault =>
            cases fault with
            | missing =>
                cases isParent : Path.parent? path with
                | none =>
                    refine .refused named (Bool.eq_false_iff.mpr fun directory => ?_)
                    rw [createDirectory_of_namesDirectory directory] at creating
                    cases creating
                | some parent =>
                    have shorter := (Path.within_of_parent? isParent).2.1
                    have chain : Chain store parent _ _ :=
                      inductionHypothesis (by omega : parent.length < limit)
                    rcases creatingAbove : createChainWithin limit parent store with
                      ⟨fault | ⟨⟩, above⟩
                    · rw [creatingAbove] at chain
                      simp only [creatingAbove]
                      exact .refusedAbove isParent chain
                    · rw [creatingAbove] at chain
                      simp only [creatingAbove]
                      cases again : above.createDirectory path with
                      | ok created => exact .onward chain (.created again)
                      | error fault => exact .onward chain (chain_settle named fault)
            | _ => exact chain_settle named _

theorem chain_createChain (store : Store) (path : Path) :
    Chain store path (store.createChain path).1 (store.createChain path).2 :=
  chain_createChainWithin (Nat.lt_succ_self path.length)

theorem Chain.grows {result : Except Fault Unit} (chain : Chain store path result later) :
    store.Grows later := by
  induction chain with
  | kept => exact .refl _
  | created creating => exact grows_createDirectory creating
  | refused => exact .refl _
  | refusedAbove _ _ inductionHypothesis => exact inductionHypothesis
  | onward _ _ first second => exact first.trans second

/-- Where the creation of a directory has failed there is none. -/
theorem Chain.absent (chain : Chain store path (.error fault) later) :
    path ≠ [] ∧ later.namesDirectory path = false := by
  generalize resultEq : Except.error fault = result at chain
  induction chain with
  | kept => cases resultEq
  | created => cases resultEq
  | refused named absent => exact ⟨named, absent⟩
  | refusedAbove isParent _ inductionHypothesis =>
      obtain ⟨named, absent⟩ := inductionHypothesis resultEq
      refine ⟨?_, Bool.eq_false_iff.mpr fun directory => ?_⟩
      · rintro rfl
        cases isParent
      · rw [namesDirectory_parent isParent named directory] at absent
        cases absent
  | onward _ _ _ inductionHypothesis => exact inductionHypothesis resultEq

/-- No file can be read whose directory could not be created. -/
theorem read_ne_ok_of_failed {contents : Contents} (isParent : Path.parent? path = some parent)
    (failed : store.createChain parent = (.error fault, later)) :
    later.read path ≠ .ok contents := by
  intro read
  have chain := chain_createChain store parent
  rw [failed] at chain
  obtain ⟨named, absent⟩ := chain.absent
  obtain ⟨above, name, located⟩ := located_of_read read
  obtain ⟨other, isOther, within, walked⟩ := located.parent?
  obtain rfl := Option.some.inj (isParent.symm.trans isOther)
  have faultless := fault?_of_within within named located.faultless
  rw [namesDirectory_iff.mpr ⟨faultless, above, walked named, located.directory⟩] at absent
  cases absent

end SyscallTally.Files.Store
