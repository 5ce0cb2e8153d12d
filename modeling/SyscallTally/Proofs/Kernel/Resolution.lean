import SyscallTally.Proofs.Kernel.Listing

/-!
Owns what an event stands for among the symbols of a listing:

- `IsStem`, the stem of the kernel: the first with which the call that every kernel has is listed;
- `StandsFor`, the symbol of an event: the event itself before anything put together with a stem;
- resolution finds that symbol, and fails in the event's name where there is none
  (`resolution_follows_listing`).

Does not own: which names a listing has.
-/

set_option autoImplicit false

namespace SyscallTally.Kernel.Symbols

open SyscallTally.Text SyscallTally.Probe

/-- Whether a stem is the first of the three under which the call `bpf` is listed. -/
def IsStem (symbols : Symbols) (stem : String) : Prop :=
  ∃ before after, ["sys_", "__x64_sys_", "__ia32_sys_"] = before ++ stem :: after ∧
    symbols.contains (stem ++ "bpf") = true ∧
    ∀ other ∈ before, symbols.contains (other ++ "bpf") = false

/-- Whether an event stands for a symbol. One that is listed itself stands for nothing else. -/
inductive StandsFor (symbols : Symbols) (event : String) : String → Prop where
  | itself (listed : symbols.contains event = true) : StandsFor symbols event event
  | entry {stem : String} (unlisted : symbols.contains event = false)
      (isStem : symbols.IsStem stem) (listed : symbols.contains (stem ++ event) = true) :
      StandsFor symbols event (stem ++ event)

section

variable {symbols : Symbols} {event symbol stem : String} {target : Target}

theorem stem?_eq_some_iff : symbols.stem? = some stem ↔ symbols.IsStem stem := by
  rw [stem?, List.find?_eq_some_iff_append]
  constructor
  · rintro ⟨listed, before, after, split, earlier⟩
    refine ⟨before, after, split, listed, fun other member => ?_⟩
    simpa only [Bool.not_eq_true', witnessCall] using earlier other member
  · rintro ⟨before, after, split, listed, earlier⟩
    refine ⟨listed, before, after, split, fun other member => ?_⟩
    simpa only [Bool.not_eq_true', witnessCall] using earlier other member

theorem IsStem.unique {other : String} (isStem : symbols.IsStem stem)
    (isOther : symbols.IsStem other) : stem = other :=
  Option.some.inj ((stem?_eq_some_iff.mpr isStem).symm.trans (stem?_eq_some_iff.mpr isOther))

theorem StandsFor.listed (standsFor : symbols.StandsFor event symbol) :
    symbols.contains symbol = true := by
  cases standsFor with
  | itself listed => exact listed
  | entry _ _ listed => exact listed

theorem StandsFor.eq_of_listed (standsFor : symbols.StandsFor event symbol)
    (isListed : symbols.contains event = true) : symbol = event := by
  cases standsFor with
  | itself => rfl
  | entry unlisted => exact absurd isListed (Bool.eq_false_iff.mp unlisted)

theorem StandsFor.eq_of_unlisted (standsFor : symbols.StandsFor event symbol)
    (unlisted : symbols.contains event = false) :
    ∃ stem, symbols.IsStem stem ∧ symbol = stem ++ event := by
  cases standsFor with
  | itself isListed => exact absurd isListed (Bool.eq_false_iff.mp unlisted)
  | entry _ isStem => exact ⟨_, isStem, rfl⟩

theorem StandsFor.mem_of_mem (standsFor : symbols.StandsFor event symbol) {char : Char}
    (inEvent : char ∈ event.toList) : char ∈ symbol.toList := by
  cases standsFor with
  | itself => exact inEvent
  | entry =>
      rw [String.toList_append]
      exact List.mem_append_right _ inEvent

theorem exists_standsFor_iff :
    (∃ symbol, symbols.StandsFor event symbol) ↔
      symbols.contains event = true ∨
        ∃ stem, symbols.IsStem stem ∧ symbols.contains (stem ++ event) = true := by
  constructor
  · rintro ⟨symbol, standsFor⟩
    cases standsFor with
    | itself listed => exact .inl listed
    | entry _ isStem listed => exact .inr ⟨_, isStem, listed⟩
  · intro found
    cases isListed : symbols.contains event with
    | true => exact ⟨event, .itself isListed⟩
    | false =>
        obtain ⟨stem, isStem, listed⟩ := found.resolve_left (Bool.eq_false_iff.mp isListed)
        exact ⟨stem ++ event, .entry isListed isStem listed⟩

theorem resolve_of_standsFor (filled : event ≠ "") (standsFor : symbols.StandsFor event symbol) :
    symbols.resolve event = .ok ⟨event, symbol⟩ := by
  rw [resolve, if_neg filled]
  cases standsFor with
  | itself listed => rw [if_pos listed]
  | entry unlisted isStem listed =>
      rw [if_neg (Bool.eq_false_iff.mp unlisted), stem?_eq_some_iff.mpr isStem]
      simp only [if_pos listed]

theorem standsFor_of_resolve (resolved : symbols.resolve event = .ok target) :
    event ≠ "" ∧ target.name = event ∧ symbols.StandsFor event target.symbol := by
  rw [resolve] at resolved
  split at resolved
  case isTrue => cases resolved
  case isFalse filled =>
    split at resolved
    case isTrue listed =>
      obtain rfl := Except.ok.inj resolved
      exact ⟨filled, rfl, .itself listed⟩
    case isFalse unlisted =>
      split at resolved
      case h_1 => cases resolved
      case h_2 stem found =>
        simp only at resolved
        split at resolved
        case isTrue listed =>
          obtain rfl := Except.ok.inj resolved
          exact ⟨filled, rfl,
            .entry (Bool.eq_false_iff.mpr unlisted) (stem?_eq_some_iff.mp found) listed⟩
        case isFalse => cases resolved

theorem resolve_isOk_iff :
    (∃ target, symbols.resolve event = .ok target) ↔
      event ≠ "" ∧ ∃ symbol, symbols.StandsFor event symbol := by
  constructor
  · rintro ⟨target, resolved⟩
    obtain ⟨filled, -, standsFor⟩ := standsFor_of_resolve resolved
    exact ⟨filled, target.symbol, standsFor⟩
  · rintro ⟨filled, symbol, standsFor⟩
    exact ⟨⟨event, symbol⟩, resolve_of_standsFor filled standsFor⟩

theorem resolve_error_of_unresolved (unresolved : ¬ ∃ target, symbols.resolve event = .ok target) :
    ∃ reason, symbols.resolve event = .error (.resolution event reason) := by
  cases result : symbols.resolve event with
  | ok target => exact absurd ⟨target, result⟩ unresolved
  | error failure =>
      obtain ⟨reason, rfl⟩ := resolve_fails_in_own_name result
      exact ⟨reason, rfl⟩

end

/-- For the symbols of any text, which are the third columns of its lines and have at most one stem:
an event is resolved exactly if it is not empty and is listed, or its name behind the stem is. It is
resolved to itself if it is listed, and else to that other symbol, which is listed, not empty and
without white space, and is resolved to itself. Resolution fails in the event's name in all other
cases, so for an empty event and one with white space in it. -/
theorem resolution_follows_listing (text : String) :
    ∃ symbols, parse? (Utf8.encode text) = some symbols ∧
      (∀ name, symbols.contains name = true ↔ ∃ line ∈ text.toList.splitOn '\n',
        ∃ words, Columns line words ∧ words[2]? = some name.toList) ∧
      (∀ stem other, symbols.IsStem stem → symbols.IsStem other → stem = other) ∧
      (∀ event, (∃ target, symbols.resolve event = .ok target) ↔
        event ≠ "" ∧ (symbols.contains event = true ∨
          ∃ stem, symbols.IsStem stem ∧ symbols.contains (stem ++ event) = true)) ∧
      (∀ event target, symbols.resolve event = .ok target →
        target.name = event ∧
        (symbols.contains event = true → target.symbol = event) ∧
        (symbols.contains event = false →
          ∃ stem, symbols.IsStem stem ∧ target.symbol = stem ++ event) ∧
        symbols.contains target.symbol = true ∧ target.symbol ≠ "" ∧
        (∀ char ∈ target.symbol.toList, isBlank char = false) ∧
        symbols.resolve target.symbol = .ok ⟨target.symbol, target.symbol⟩) ∧
      (∀ event, (¬ ∃ target, symbols.resolve event = .ok target) →
        ∃ reason, symbols.resolve event = .error (.resolution event reason)) ∧
      (∀ event, event = "" ∨ (∃ char ∈ event.toList, isBlank char = true) →
        ∃ reason, symbols.resolve event = .error (.resolution event reason)) := by
  obtain ⟨symbols, parsed⟩ := Option.isSome_iff_exists.mp (parse?_isSome_iff.mpr ⟨text, rfl⟩)
  have solid (name : String) (listed : symbols.contains name = true) :
      name ≠ "" ∧ ∀ char ∈ name.toList, isBlank char = false :=
    solid_of_mem_exported ((mem_exported_iff_contains parsed).mpr listed)
  refine ⟨symbols, parsed, fun name => ?_, fun _ _ => IsStem.unique, fun event => ?_,
    fun event target resolved => ?_, fun event => resolve_error_of_unresolved,
    fun event unfit => ?_⟩
  · rw [← mem_exported_iff_contains parsed, mem_exported_iff_columns]
  · rw [resolve_isOk_iff, exists_standsFor_iff]
  · obtain ⟨-, name, standsFor⟩ := standsFor_of_resolve resolved
    obtain ⟨filled, unbroken⟩ := solid target.symbol standsFor.listed
    have again := resolve_of_standsFor filled (.itself standsFor.listed)
    exact ⟨name, standsFor.eq_of_listed, standsFor.eq_of_unlisted, standsFor.listed, filled,
      unbroken, again⟩
  · refine resolve_error_of_unresolved fun ⟨target, resolved⟩ => ?_
    obtain ⟨filled, -, standsFor⟩ := standsFor_of_resolve resolved
    obtain ⟨char, inEvent, blank⟩ := unfit.resolve_left filled
    have unbroken := (solid target.symbol standsFor.listed).2 char (standsFor.mem_of_mem inEvent)
    exact Bool.false_ne_true (unbroken.symm.trans blank)

end SyscallTally.Kernel.Symbols
