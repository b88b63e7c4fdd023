import Mathlib.Data.List.Basic
import AgentDesktop.TraceRead

/-!
# Commands that are not paired

A trace tells of every command when it starts and when it ends. A start without an
end is a command that hung or crashed, so the reader looks for them. It keeps a table
of the commands that are running, under a key made of the segment, the process and
the command.

What there is to find is said by a pairing that keeps every open start: an end closes
one of its own command, and is unmatched where there is none. The table tells the
same as long as it never has to keep two of them under one key, and never takes one
for another (`reportsExactly_iff`). The first happens when a command is started again
before it ends, the second when two commands have one key.
-/

namespace AgentDesktop

/-! ## What there is to find -/

/-- A command, with the process and the segment it is run in. -/
structure Command where
  segment : String
  writerPid : ℕ
  command : String
  deriving DecidableEq

/-- What an event says of a command. -/
inductive PairEvent
  | start (command : Command)
  /-- It ends. -/
  | finish (command : Command)
  /-- Nothing. -/
  | other

/-- The command of an event. -/
def commandOf (event : Json) : Command :=
  ⟨((event.get "segment").bind Json.asStr).getD "",
    (((event.get "writer_pid").bind Json.asU64).map UInt64.toNat).getD 0,
    ((event.get "command").bind Json.asStr).getD "unknown"⟩

/-- What an event says of its command. -/
def pairEventOf (event : Json) : PairEvent :=
  match (event.get "event").bind Json.asStr with
  | none => .other
  | some name =>
    if name = "command.start" then .start (commandOf event)
    else if name = "command.end" then .finish (commandOf event)
    else .other

/-- **A pairing of starts and ends.** -/
structure Pairing where
  /-- The starts that no end has closed. -/
  opened : List Command
  /-- The ends that had no start to close. -/
  unmatchedEnds : List Command

/-- One event more. -/
def Pairing.next (pairing : Pairing) (event : Json) : Pairing :=
  match pairEventOf event with
  | .start command => { pairing with opened := command :: pairing.opened }
  | .finish command =>
    if command ∈ pairing.opened then { pairing with opened := pairing.opened.erase command }
    else { pairing with unmatchedEnds := pairing.unmatchedEnds ++ [command] }
  | .other => pairing

/-- The pairing of a list of events. -/
def pairingOf (events : List Json) : Pairing := events.foldl Pairing.next ⟨[], []⟩

/-- What is said of a start. -/
def startMessage (command : Command) : String :=
  "Unpaired command.start for '" ++ command.command ++ "' in segment " ++ command.segment

/-- What is said of an end. -/
def endMessage (command : Command) : String :=
  "Unpaired command.end for '" ++ command.command ++ "' in segment " ++ command.segment

/-- What there is to say of a list of events. -/
def unpairedMessages (events : List Json) : List String :=
  (pairingOf events).unmatchedEnds.map endMessage ++ (pairingOf events).opened.map startMessage

/-! ## What is found -/

/-- The key of a command in the table. -/
def keyOf (command : Command) : String :=
  command.segment ++ ":" ++ toString command.writerPid ++ ":" ++ command.command

/-- What the table has of a command. -/
def bindingOf (command : Command) : String × String × String :=
  (keyOf command, command.command, command.segment)

/-- The table after a list of events. -/
def commandPairsOf (events : List Json) : CommandPairs :=
  events.foldl CommandPairs.next ⟨AssocMap.empty, []⟩

/-- Something is said at an event. -/
def WarnsAt (before : List Json) (event : Json) : Prop :=
  (commandPairsOf (before ++ [event])).warnings ≠ (commandPairsOf before).warnings

/-- An event is the end of a command that has no open start. -/
def IsUnmatchedEnd (before : List Json) (event : Json) : Prop :=
  ∃ command, pairEventOf event = .finish command ∧ command ∉ (pairingOf before).opened

/-- **Exactly what there is to find is reported**: the ends are reported where they are unmatched,
and what is said is what there is to say. -/
structure ReportsExactly (events : List Json) : Prop where
  /-- An end is reported where it is unmatched. -/
  ends : ∀ before event after, events = before ++ event :: after →
    (WarnsAt before event ↔ IsUnmatchedEnd before event)
  /-- What is said is what there is to say. -/
  messages : (detectUnpairedCommands events).Perm (unpairedMessages events)

/-- An event is told apart from the open starts: it starts no command under a key that is open, and
ends none under a key that is open for another. -/
def ToldApart (opened : List Command) (event : Json) : Prop :=
  ∀ other ∈ opened,
    (∀ command, pairEventOf event = .start command → keyOf command ≠ keyOf other)
    ∧ ∀ command, pairEventOf event = .finish command → keyOf command = keyOf other →
      command = other

/-- **The keys tell the commands apart**: no command is started while a start is open under its
key, and none is ended while another is open under it. -/
def KeysTellApart (events : List Json) : Prop :=
  ∀ before event after, events = before ++ event :: after →
    ToldApart (pairingOf before).opened event

theorem pairingOf_concat (before : List Json) (event : Json) :
    pairingOf (before ++ [event]) = (pairingOf before).next event := by
  unfold pairingOf
  rw [List.foldl_concat]

theorem commandPairsOf_concat (before : List Json) (event : Json) :
    commandPairsOf (before ++ [event]) = (commandPairsOf before).next event := by
  unfold commandPairsOf
  rw [List.foldl_concat]

/-! ## One event -/

theorem CommandPairs.next_of_start {event : Json} {command : Command} (pairs : CommandPairs)
    (hevent : pairEventOf event = .start command) :
    pairs.next event
      = { pairs with
          started := pairs.started.insert (keyOf command) (command.command, command.segment) } := by
  unfold pairEventOf at hevent
  unfold CommandPairs.next
  cases hname : (event.get "event").bind Json.asStr with
  | none => rw [hname] at hevent; cases hevent
  | some name =>
    rw [hname] at hevent
    by_cases hstart : name = "command.start"
    · simp only [if_pos hstart, PairEvent.start.injEq] at hevent
      rw [← hevent]
      exact if_pos hstart
    · simp only [if_neg hstart] at hevent
      split at hevent <;> cases hevent

theorem CommandPairs.next_of_finish {event : Json} {command : Command} (pairs : CommandPairs)
    (hevent : pairEventOf event = .finish command) :
    pairs.next event
      = if (pairs.started.get (keyOf command)).isSome then
          { pairs with started := pairs.started.retain (fun other _ => other ≠ keyOf command) }
        else { pairs with warnings := pairs.warnings ++ [endMessage command] } := by
  unfold pairEventOf at hevent
  unfold CommandPairs.next
  cases hname : (event.get "event").bind Json.asStr with
  | none => rw [hname] at hevent; cases hevent
  | some name =>
    rw [hname] at hevent
    by_cases hstart : name = "command.start"
    · simp only [if_pos hstart] at hevent
      cases hevent
    · by_cases hend : name = "command.end"
      · simp only [if_neg hstart, if_pos hend, PairEvent.finish.injEq] at hevent
        rw [← hevent]
        exact (if_neg hstart).trans (if_pos hend)
      · simp only [if_neg hstart, if_neg hend] at hevent
        cases hevent

theorem CommandPairs.next_of_other {event : Json} (pairs : CommandPairs)
    (hevent : pairEventOf event = .other) : pairs.next event = pairs := by
  unfold pairEventOf at hevent
  unfold CommandPairs.next
  cases hname : (event.get "event").bind Json.asStr with
  | none => rfl
  | some name =>
    rw [hname] at hevent
    by_cases hstart : name = "command.start"
    · simp only [if_pos hstart] at hevent
      cases hevent
    · by_cases hend : name = "command.end"
      · simp only [if_neg hstart, if_pos hend] at hevent
        cases hevent
      · exact (if_neg hstart).trans (if_neg hend)

/-- **Where something is said**: at an end whose key is not in the table. -/
theorem CommandPairs.warnings_next_ne_iff (pairs : CommandPairs) (event : Json) :
    (pairs.next event).warnings ≠ pairs.warnings
      ↔ ∃ command, pairEventOf event = .finish command ∧ keyOf command ∉ pairs.started.keys := by
  cases hevent : pairEventOf event with
  | start command =>
    rw [next_of_start pairs hevent]
    refine ⟨fun h => absurd rfl h, ?_⟩
    rintro ⟨other, ⟨⟩, -⟩
  | other =>
    rw [next_of_other pairs hevent]
    refine ⟨fun h => absurd rfl h, ?_⟩
    rintro ⟨other, ⟨⟩, -⟩
  | finish command =>
    rw [next_of_finish pairs hevent]
    cases hget : pairs.started.get (keyOf command) with
    | none =>
      refine ⟨fun _ => ⟨command, rfl, AssocMap.get_eq_none_iff.mp hget⟩, fun _ => ?_⟩
      show pairs.warnings ++ [endMessage command] ≠ pairs.warnings
      intro h
      have hlength := congrArg List.length h
      rw [List.length_append] at hlength
      exact absurd hlength (Nat.succ_ne_self _)
    | some info =>
      refine ⟨fun h => absurd rfl h, ?_⟩
      rintro ⟨other, hother, hnot⟩
      obtain rfl := PairEvent.finish.inj hother
      rw [AssocMap.get_eq_none_iff.mpr hnot] at hget
      cases hget

/-! ## When the keys tell the commands apart

The table holds one binding under each key. As long as no key is used for two commands at once, the
bindings are the open starts, one by one, and each event does to the table what it does to the
pairing. -/

/-- **The table has what the pairing has**: one binding for each open start. -/
structure Tracks (pairs : CommandPairs) (pairing : Pairing) : Prop where
  /-- The bindings are those of the open starts. -/
  started : pairs.started.entries.Perm (pairing.opened.map bindingOf)
  /-- What was said is said of the unmatched ends. -/
  warnings : pairs.warnings = pairing.unmatchedEnds.map endMessage

namespace Tracks

variable {pairs : CommandPairs} {pairing : Pairing}

theorem mem_keys_iff (htracks : Tracks pairs pairing) (key : String) :
    key ∈ pairs.started.keys ↔ ∃ command ∈ pairing.opened, keyOf command = key := by
  have hkeys : pairs.started.keys.Perm (pairing.opened.map keyOf) := by
    have hperm := htracks.started.map Prod.fst
    rwa [List.map_map] at hperm
  rw [hkeys.mem_iff, List.mem_map]

theorem nodup_keyOf (htracks : Tracks pairs pairing) : (pairing.opened.map keyOf).Nodup := by
  have hperm := htracks.started.map Prod.fst
  rw [List.map_map] at hperm
  exact hperm.nodup_iff.mp pairs.started.nodup

theorem next_of_start {event : Json} {command : Command} (htracks : Tracks pairs pairing)
    (hevent : pairEventOf event = .start command)
    (hfree : ∀ other ∈ pairing.opened, keyOf command ≠ keyOf other) :
    Tracks (pairs.next event) (pairing.next event) := by
  have hnot : keyOf command ∉ pairs.started.keys := by
    rw [htracks.mem_keys_iff]
    rintro ⟨other, hother, hkey⟩
    exact hfree other hother hkey.symm
  unfold Pairing.next
  rw [CommandPairs.next_of_start pairs hevent, hevent]
  refine ⟨?_, htracks.warnings⟩
  show (pairs.started.insert _ _).entries.Perm (bindingOf command :: pairing.opened.map bindingOf)
  rw [AssocMap.entries_insert_of_notMem _ hnot]
  exact (List.perm_append_singleton _ _).trans (htracks.started.cons _)

/-- An end under a key that is its own, or that nobody has, is told as the pairing tells it. -/
theorem next_of_finish {event : Json} {command : Command} (htracks : Tracks pairs pairing)
    (hevent : pairEventOf event = .finish command)
    (hown : ∀ other ∈ pairing.opened, keyOf command = keyOf other → command = other) :
    Tracks (pairs.next event) (pairing.next event)
      ∧ (keyOf command ∈ pairs.started.keys ↔ command ∈ pairing.opened) := by
  have hmem : keyOf command ∈ pairs.started.keys ↔ command ∈ pairing.opened := by
    rw [htracks.mem_keys_iff]
    refine ⟨?_, fun h => ⟨command, h, rfl⟩⟩
    rintro ⟨other, hother, hkey⟩
    rw [hown other hother hkey.symm]
    exact hother
  refine ⟨?_, hmem⟩
  unfold Pairing.next
  rw [CommandPairs.next_of_finish pairs hevent, hevent]
  cases hget : pairs.started.get (keyOf command) with
  | none =>
    have hnot : command ∉ pairing.opened := fun h =>
      AssocMap.get_eq_none_iff.mp hget (hmem.mpr h)
    show Tracks _ (if command ∈ pairing.opened then _ else _)
    rw [if_neg hnot]
    refine ⟨htracks.started, ?_⟩
    show pairs.warnings ++ [endMessage command] = (pairing.unmatchedEnds ++ [command]).map endMessage
    rw [List.map_append, htracks.warnings]
    rfl
  | some info =>
    have hopen : command ∈ pairing.opened := hmem.mp (AssocMap.mem_keys
      (AssocMap.get_eq_some_iff.mp hget))
    show Tracks _ (if command ∈ pairing.opened then _ else _)
    rw [if_pos hopen]
    refine ⟨?_, htracks.warnings⟩
    -- the key is that of one open start, so what is kept is what the others have
    have hsplit := List.perm_cons_erase hopen
    have hnodup := (hsplit.map keyOf).nodup_iff.mp htracks.nodup_keyOf
    rw [List.map_cons, List.nodup_cons] at hnodup
    refine (htracks.started.filter _).trans ?_
    refine ((hsplit.map bindingOf).filter _).trans ?_
    rw [List.map_cons, List.filter_cons_of_neg (by simp [bindingOf]), List.filter_eq_self.mpr]
    intro binding hbinding
    obtain ⟨other, hother, rfl⟩ := List.mem_map.mp hbinding
    refine decide_eq_true ?_
    intro hkey
    exact hnodup.1 (List.mem_map.mpr ⟨other, hother, hkey⟩)

/-- **An event that is told apart** is kept track of, and is reported where it is unmatched. -/
theorem next {event : Json} (htracks : Tracks pairs pairing)
    (htold : ToldApart pairing.opened event) :
    Tracks (pairs.next event) (pairing.next event)
      ∧ ((pairs.next event).warnings ≠ pairs.warnings
        ↔ ∃ command, pairEventOf event = .finish command ∧ command ∉ pairing.opened) := by
  rw [CommandPairs.warnings_next_ne_iff]
  cases hkind : pairEventOf event with
  | start command =>
    refine ⟨htracks.next_of_start hkind (fun other hother => (htold other hother).1 command hkind),
      ?_⟩
    constructor <;> rintro ⟨other, ⟨⟩, -⟩
  | finish command =>
    obtain ⟨hnext, hmem⟩ := htracks.next_of_finish hkind
      (fun other hother => (htold other hother).2 command hkind)
    refine ⟨hnext, exists_congr (fun other => and_congr_right (fun hother => ?_))⟩
    rw [← PairEvent.finish.inj hother, not_iff_not]
    exact hmem
  | other =>
    refine ⟨?_, ?_⟩
    · unfold Pairing.next
      rw [CommandPairs.next_of_other pairs hkind, hkind]
      exact htracks
    · constructor <;> rintro ⟨other, ⟨⟩, -⟩

end Tracks

/-- **The table has what the pairing has, all along.** -/
theorem KeysTellApart.tracks {events : List Json} (hkeys : KeysTellApart events)
    (before after : List Json) (hsplit : events = before ++ after) :
    Tracks (commandPairsOf before) (pairingOf before) := by
  induction before using List.reverseRecOn generalizing after with
  | nil => exact ⟨List.Perm.refl _, rfl⟩
  | append_singleton before event ih =>
    rw [List.append_assoc] at hsplit
    rw [commandPairsOf_concat, pairingOf_concat]
    exact ((ih _ hsplit).next (hkeys before event after hsplit)).1

/-- **Where the keys tell the commands apart, exactly what there is to find is reported.** -/
theorem KeysTellApart.reportsExactly {events : List Json} (hkeys : KeysTellApart events) :
    ReportsExactly events := by
  refine ⟨fun before event after hsplit => ?_, ?_⟩
  · unfold WarnsAt
    rw [commandPairsOf_concat]
    exact ((hkeys.tracks before _ hsplit).next (hkeys before event after hsplit)).2
  · have htracks := hkeys.tracks events [] (List.append_nil _).symm
    have hstarts := ((sortByKey_perm Prod.fst _).trans htracks.started).map
      (fun binding => "Unpaired command.start for '" ++ binding.2.1 ++ "' in segment "
        ++ binding.2.2)
    rw [List.map_map] at hstarts
    unfold unpairedMessages
    rw [← htracks.warnings]
    exact hstarts.append_left _

/-! ## When they do not

For the converse, something has to be lost for good. A start whose binding is overwritten is open
and no longer in the table; no later event brings it back without a report that is wrong, so it is
missing at the end. -/

/-- What the table has forgotten is not found again: as long as the ends are reported where they are
unmatched, it stays behind the pairing by as much. -/
theorem behind_next {pairs : CommandPairs} {pairing : Pairing} {event : Json} {lag : ℕ}
    (hends : (pairs.next event).warnings ≠ pairs.warnings
      ↔ ∃ command, pairEventOf event = .finish command ∧ command ∉ pairing.opened)
    (hbehind : pairs.started.entries.length + lag ≤ pairing.opened.length) :
    (pairs.next event).started.entries.length + lag ≤ (pairing.next event).opened.length := by
  rw [CommandPairs.warnings_next_ne_iff] at hends
  unfold Pairing.next
  cases hkind : pairEventOf event with
  | other =>
    rw [CommandPairs.next_of_other pairs hkind]
    exact hbehind
  | start command =>
    rw [CommandPairs.next_of_start pairs hkind]
    show (pairs.started.insert _ _).entries.length + lag ≤ pairing.opened.length + 1
    by_cases hmem : keyOf command ∈ pairs.started.keys
    · rw [AssocMap.entries_insert_of_mem _ hmem, List.length_map]
      exact Nat.le_succ_of_le hbehind
    · rw [AssocMap.entries_insert_of_notMem _ hmem, List.length_append, Nat.add_right_comm]
      exact Nat.succ_le_succ hbehind
  | finish command =>
    have hends' : keyOf command ∉ pairs.started.keys ↔ command ∉ pairing.opened := by
      constructor
      · intro hnot
        obtain ⟨other, hother, hopen⟩ := hends.mp ⟨command, hkind, hnot⟩
        rw [hkind] at hother
        rwa [PairEvent.finish.inj hother]
      · intro hnot
        obtain ⟨other, hother, hkey⟩ := hends.mpr ⟨command, hkind, hnot⟩
        rw [hkind] at hother
        rwa [PairEvent.finish.inj hother]
    rw [CommandPairs.next_of_finish pairs hkind]
    show _ ≤ (if command ∈ pairing.opened then _ else _ : Pairing).opened.length
    cases hget : pairs.started.get (keyOf command) with
    | none =>
      have hnot := hends'.mp (AssocMap.get_eq_none_iff.mp hget)
      rw [if_neg hnot]
      exact hbehind
    | some info =>
      have hmem := AssocMap.mem_keys (AssocMap.get_eq_some_iff.mp hget)
      have hopen : command ∈ pairing.opened := by
        by_contra hnot
        exact hends'.mpr hnot hmem
      rw [if_pos hopen]
      show (pairs.started.retain _).entries.length + lag ≤ (pairing.opened.erase command).length
      rw [List.length_erase_of_mem hopen]
      -- one binding goes, and one open start
      have hless : (pairs.started.retain (fun other _ => other ≠ keyOf command)).entries.length
          < pairs.started.entries.length := by
        obtain ⟨binding, hbinding, hkey⟩ := List.mem_map.mp hmem
        refine List.length_filter_lt_length_iff_exists.mpr ⟨binding, hbinding, ?_⟩
        simpa using hkey
      exact Nat.le_pred_of_lt (Nat.lt_of_lt_of_le (Nat.add_lt_add_right hless lag) hbehind)

/-- **A start that is forgotten is missing at the end.** -/
theorem behind_at_end {events before after : List Json} (hexact : ReportsExactly events)
    (hsplit : events = before ++ after) {lag : ℕ}
    (hbehind : (commandPairsOf before).started.entries.length + lag
      ≤ (pairingOf before).opened.length) :
    (commandPairsOf events).started.entries.length + lag ≤ (pairingOf events).opened.length := by
  induction after generalizing before with
  | nil =>
    rw [List.append_nil] at hsplit
    rw [hsplit]
    exact hbehind
  | cons event after ih =>
    have hsplit' : events = before ++ [event] ++ after := by
      rw [hsplit, List.append_assoc]
      rfl
    refine ih hsplit' ?_
    have hends := hexact.ends before event after hsplit
    unfold WarnsAt IsUnmatchedEnd at hends
    rw [commandPairsOf_concat] at hends ⊢
    rw [pairingOf_concat]
    exact behind_next hends hbehind

theorem length_warnings {events : List Json} (hexact : ReportsExactly events)
    (before after : List Json) (hsplit : events = before ++ after) :
    (commandPairsOf before).warnings.length = (pairingOf before).unmatchedEnds.length := by
  induction before using List.reverseRecOn generalizing after with
  | nil => rfl
  | append_singleton before event ih =>
    rw [List.append_assoc] at hsplit
    have hlength := ih _ hsplit
    have hends := hexact.ends before event after hsplit
    unfold WarnsAt IsUnmatchedEnd at hends
    rw [commandPairsOf_concat] at hends
    rw [CommandPairs.warnings_next_ne_iff] at hends
    rw [commandPairsOf_concat, pairingOf_concat]
    unfold Pairing.next
    cases hkind : pairEventOf event with
    | start command =>
      rw [CommandPairs.next_of_start _ hkind]
      exact hlength
    | other =>
      rw [CommandPairs.next_of_other _ hkind]
      exact hlength
    | finish command =>
      simp only [hkind, PairEvent.finish.injEq, exists_eq_left'] at hends
      rw [CommandPairs.next_of_finish _ hkind]
      show _ = (if command ∈ (pairingOf before).opened then _ else _ : Pairing).unmatchedEnds.length
      cases hget : (commandPairsOf before).started.get (keyOf command) with
      | none =>
        rw [if_neg (hends.mp (AssocMap.get_eq_none_iff.mp hget))]
        show (_ ++ [_]).length = (_ ++ [_]).length
        rw [List.length_append, List.length_append, hlength]
        rfl
      | some info =>
        have hmem := AssocMap.mem_keys (AssocMap.get_eq_some_iff.mp hget)
        rw [if_pos (not_not.mp (fun hnot => hends.mpr hnot hmem))]
        exact hlength

/-- **Where exactly what there is to find is reported, no start was forgotten.** -/
theorem ReportsExactly.length_opened {events : List Json} (hexact : ReportsExactly events) :
    (commandPairsOf events).started.entries.length = (pairingOf events).opened.length := by
  have hlength := hexact.messages.length_eq
  have hwarnings := length_warnings hexact events [] (List.append_nil _).symm
  unfold unpairedMessages at hlength
  rw [List.length_append, List.length_map, List.length_map] at hlength
  have hdetect : (detectUnpairedCommands events).length
      = (commandPairsOf events).warnings.length
        + (commandPairsOf events).started.entries.length := by
    show ((commandPairsOf events).warnings ++ (sortByKey Prod.fst _).map _).length = _
    rw [List.length_append, List.length_map, (sortByKey_perm _ _).length_eq]
    rfl
  rw [hdetect, hwarnings] at hlength
  exact Nat.add_left_cancel hlength

/-- An event that is reported as it should be, and after which nothing is forgotten, is told apart
from the open starts. -/
theorem toldApart_of_exact {pairs : CommandPairs} {pairing : Pairing} {event : Json}
    (htracks : Tracks pairs pairing)
    (hends : (pairs.next event).warnings ≠ pairs.warnings
      ↔ ∃ command, pairEventOf event = .finish command ∧ command ∉ pairing.opened)
    (hkept : ¬ (pairs.next event).started.entries.length + 1 ≤ (pairing.next event).opened.length) :
    ToldApart pairing.opened event := by
  intro other hother
  refine ⟨fun command hkind hkey => hkept ?_, fun command hkind hkey => ?_⟩
  · -- the binding of the open start would be replaced
    have hmem : keyOf command ∈ pairs.started.keys :=
      (htracks.mem_keys_iff _).mpr ⟨other, hother, hkey.symm⟩
    have hlength := htracks.started.length_eq
    rw [List.length_map] at hlength
    unfold Pairing.next
    rw [CommandPairs.next_of_start pairs hkind, hkind]
    show (pairs.started.insert _ _).entries.length + 1 ≤ pairing.opened.length + 1
    rw [AssocMap.entries_insert_of_mem _ hmem, List.length_map, hlength]
  · have hmem : keyOf command ∈ pairs.started.keys :=
      (htracks.mem_keys_iff _).mpr ⟨other, hother, hkey.symm⟩
    have hopen : command ∈ pairing.opened := by
      by_contra hnot
      obtain ⟨command', hkind', hfree⟩ :=
        (CommandPairs.warnings_next_ne_iff pairs event).mp (hends.mpr ⟨command, hkind, hnot⟩)
      rw [hkind] at hkind'
      rw [← PairEvent.finish.inj hkind'] at hfree
      exact hfree hmem
    exact List.inj_on_of_nodup_map htracks.nodup_keyOf hopen hother hkey

/-- **Where exactly what there is to find is reported, the keys tell the commands apart.** -/
theorem ReportsExactly.keysTellApart {events : List Json} (hexact : ReportsExactly events) :
    KeysTellApart events := by
  have hnone : ∀ before after, events = before ++ after →
      ¬ (commandPairsOf before).started.entries.length + 1 ≤ (pairingOf before).opened.length := by
    intro before after hsplit hbehind
    have hend := behind_at_end hexact hsplit hbehind
    rw [hexact.length_opened] at hend
    exact Nat.not_succ_le_self _ hend
  have htold : ∀ before event after, events = before ++ event :: after →
      Tracks (commandPairsOf before) (pairingOf before) →
      ToldApart (pairingOf before).opened event := by
    intro before event after hsplit htracks
    have hends := hexact.ends before event after hsplit
    unfold WarnsAt IsUnmatchedEnd at hends
    rw [commandPairsOf_concat] at hends
    refine toldApart_of_exact htracks hends ?_
    have hafter := hnone (before ++ [event]) after (by rw [hsplit, List.append_assoc]; rfl)
    rwa [commandPairsOf_concat, pairingOf_concat] at hafter
  have htracks : ∀ before after, events = before ++ after →
      Tracks (commandPairsOf before) (pairingOf before) := by
    intro before after hsplit
    induction before using List.reverseRecOn generalizing after with
    | nil => exact ⟨List.Perm.refl _, rfl⟩
    | append_singleton before event ih =>
      rw [List.append_assoc] at hsplit
      have hbefore := ih _ hsplit
      rw [commandPairsOf_concat, pairingOf_concat]
      exact (hbefore.next (htold before event after hsplit hbefore)).1
  intro before event after hsplit
  exact htold before event after hsplit (htracks before _ hsplit)

/-- **Unpaired commands are told exactly when the keys tell the commands apart**: when no command is
started while a start is open under its key, and none is ended while another is open under it. -/
theorem reportsExactly_iff (events : List Json) : ReportsExactly events ↔ KeysTellApart events :=
  ⟨ReportsExactly.keysTellApart, KeysTellApart.reportsExactly⟩

/-- An event of a command. -/
def sampleCommandEvent (name : String) : Json :=
  .obj [("event", .str name), ("command", .str "snapshot"), ("segment", .str "7-1"),
    ("writer_pid", .num 7)]

/-- **A start is forgotten** when its command is started again: of two starts and one end nothing is
said. -/
theorem detectUnpairedCommands_forgets_start : ¬ ∀ events, ReportsExactly events := by
  intro hclaim
  have hmessages := (hclaim [sampleCommandEvent "command.start", sampleCommandEvent "command.start",
    sampleCommandEvent "command.end"]).messages.length_eq
  revert hmessages
  decide +kernel

end AgentDesktop
