import ChatWarden.Bot.Run
import ChatWarden.Proofs.Closers.Turns

/-!
# What a run of the bot closes

A run opens the client for requests over HTTP, and registers closers when the bot is made. When the
connection ends, however it does, its components are closed in turn: the connection first, then the
tasks, then the client. The client stays open if the run breaks off before it has registered any
closer, which it does with a negative number of slots, or if the closer of another component is
cancelled.

Results:
* `Run.whole_of_connects` and `Run.whole_of_broken`: the two ways of a run.
* `run_closes_all`: what is closed in every run, and in which order.
* `client_left_open`: runs that leave their client open.
-/

namespace ChatWarden

namespace Run

open Closers (Turn ranOf)

variable {settings : Config.Settings} {identity : Config.Identity} {equipment : Equipment}
  {ending : Ending}

/-- A whole run: the bot is set up, and taken down when its connection ends. -/
def whole (settings : Config.Settings) (identity : Config.Identity) (equipment : Equipment)
    (ending : Ending) : List Event × Ending :=
  match begin settings identity equipment with
  | (events, .error fault) => (events, .failed fault)
  | (events, .ok run) => (events ++ (run.finish ending).1, (run.finish ending).2)

/-- The run comes to its connection: it is to have no negative number of slots, and the bot can be
    made. -/
def Connects (settings : Config.Settings) (equipment : Equipment) : Prop :=
  0 ≤ settings.maxConcurrent ∧ equipment.trouble = none

/-- No closer of a component is ever cancelled. -/
def Equipment.isSteady (equipment : Equipment) : Bool :=
  equipment.connection.isSteady && equipment.tasks.isSteady && equipment.client.isSteady

/-- What the run itself registers, in order. -/
def components (equipment : Equipment) : List Registration :=
  [⟨0, "http client", equipment.client⟩, ⟨1, "message tasks", equipment.tasks⟩,
    ⟨2, "twitch connection", equipment.connection⟩]

/-- The turns of the components when the connection has ended. -/
def turns (equipment : Equipment) : List Turn :=
  { count := 3 : Closers }.turns (components equipment).reverse

/-- The closer that an event runs, by the number and the name of its registration. -/
def Event.closing? : Event → Option (Nat × String)
  | .ran registration component => some (registration, component)
  | _ => none

/-- The closers that are run, in order. -/
def closings (events : List Event) : List (Nat × String) := events.filterMap Event.closing?

/-! ## The ways of a run -/

/-- What is seen of a run in front of its connection. -/
def opening (identity : Config.Identity) (equipment : Equipment) : List Event :=
  .openedClient :: registry.records.map .wrote ++ (closersOf equipment).events.map .ofClosers ++
    [.wrote (Bot.record .info ("Connecting to Twitch as " ++ Bot.shown identity.user ++ "..."))]

/-- The record of a connection that was cancelled. -/
def signal (ending : Ending) : List Event :=
  if ending == .cancelled then [.wrote (Bot.record .info "Received shutdown signal")] else []

/-- What is seen of a run behind the turns of its components. -/
def farewell (isCancelled : Bool) : List Event :=
  if isCancelled then []
  else [.ofClosers Closers.allStopped, .wrote (Bot.record .info "Twitch bot stopped")]

theorem connects_iff : (∃ run, (begin settings identity equipment).2 = .ok run) ↔
    Connects settings equipment := by
  unfold begin Supervision.Supervisor.ofSlots? Connects
  by_cases h : settings.maxConcurrent < 0
  · rw [if_pos h]
    exact iff_of_false (fun ⟨_, hnone⟩ => by cases hnone) fun hslots => Int.not_le.mpr h hslots.1
  · rw [if_neg h]
    cases equipment.trouble <;> simp [Int.not_lt.mp h]

/-- The bot that a run has made when it comes to its connection. -/
def made (settings : Config.Settings) (identity : Config.Identity) (equipment : Equipment) : Run :=
  ⟨botOf settings identity registry.value, { closersOf equipment with events := [] }⟩

/-- All components are closed in turn, unless a closer is cancelled. -/
theorem finish_made : (made settings identity equipment).finish ending =
    (signal ending ++ ((turns equipment).flatMap Turn.events).map .ofClosers ++
      farewell ((turns equipment).any Turn.isCancelled),
      if (turns equipment).any Turn.isCancelled then .cancelled else outcomeOf ending) := by
  have hshut := Closers.shutDown_turns (made settings identity equipment).closers
    (List.cons_ne_nil _ _)
  obtain ⟨hevents, hcancelled⟩ : ((made settings identity equipment).closers.shutDown).1.events =
      (turns equipment).flatMap Turn.events ++
        (if (turns equipment).any Turn.isCancelled then [] else [Closers.allStopped]) ∧
      ((made settings identity equipment).closers.shutDown).2 =
        (turns equipment).any Turn.isCancelled := hshut
  unfold finish
  dsimp only
  rw [hevents, hcancelled]
  cases (turns equipment).any Turn.isCancelled with
  | true => simp [signal, farewell]
  | false => simp [signal, farewell]

/-- A run that comes to its connection goes on to close its components. -/
theorem whole_of_connects (h : Connects settings equipment) :
    whole settings identity equipment ending =
      (opening identity equipment ++ ((made settings identity equipment).finish ending).1,
        ((made settings identity equipment).finish ending).2) := by
  unfold whole begin Supervision.Supervisor.ofSlots?
  rw [if_neg (Int.not_lt.mpr h.1), h.2]
  rfl

/-- A run that breaks off before its connection closes nothing. -/
theorem whole_of_broken (identity : Config.Identity) (ending : Ending)
    (h : ¬Connects settings equipment) : ∃ fault,
    (settings.maxConcurrent < 0 ∧ fault = .unreadable ∨
      0 ≤ settings.maxConcurrent ∧ equipment.trouble = some fault) ∧
    whole settings identity equipment ending =
      (.openedClient :: registry.records.map .wrote, .failed fault) := by
  unfold whole begin Supervision.Supervisor.ofSlots?
  by_cases hslots : settings.maxConcurrent < 0
  · rw [if_pos hslots]
    exact ⟨.unreadable, .inl ⟨hslots, rfl⟩, rfl⟩
  · rw [if_neg hslots]
    cases htrouble : equipment.trouble with
    | none => exact absurd ⟨Int.not_lt.mp hslots, htrouble⟩ h
    | some fault => exact ⟨fault, .inr ⟨Int.not_lt.mp hslots, rfl⟩, rfl⟩

/-! ## What is closed -/

theorem closings_append (front back : List Event) :
    closings (front ++ back) = closings front ++ closings back := List.filterMap_append

theorem closings_records (records : List Log.Record) : closings (records.map .wrote) = [] := by
  simp [closings, Event.closing?]

theorem closings_closers (events : List Closers.Event) :
    closings (events.map .ofClosers) = ranOf events := by
  rw [closings, ranOf, List.filterMap_map]
  exact congrArg (List.filterMap · events) (funext fun event => by cases event <;> rfl)

/-- In front of its connection a run closes nothing. -/
theorem closings_opening : closings (opening identity equipment) = [] := by
  have hopened : closings (.openedClient :: registry.records.map .wrote) = [] :=
    closings_records registry.records
  have hregistered : closings ((closersOf equipment).events.map .ofClosers) = [] :=
    closings_closers _
  rw [opening, closings_append, closings_append, hopened, hregistered]
  rfl

/-- A run that comes to its connection runs what its components have it run. -/
theorem closings_whole (h : Connects settings equipment) :
    closings (whole settings identity equipment ending).1 =
      ranOf ((turns equipment).flatMap Turn.events) := by
  have hsignal : closings (signal ending) = [] := by
    unfold signal
    split <;> rfl
  have hfarewell (isCancelled : Bool) : closings (farewell isCancelled) = [] := by
    cases isCancelled <;> rfl
  rw [whole_of_connects h, finish_made]
  simp only [closings_append, closings_opening, hsignal, hfarewell, closings_closers,
    List.nil_append, List.append_nil]

/-- Every component is closed once in its turn. -/
theorem closings_own (h : Connects settings equipment) :
    (closings (whole settings identity equipment ending).1).filter (·.1 < 3) =
      (turns equipment).map fun turn => (turn.registration.number, turn.registration.name) := by
  rw [closings_whole h]
  exact Closers.turns_ran ⟨le_rfl, nofun, nofun⟩ (by simp [components])

/-- The components have their turns in the reverse order of their registration. -/
theorem turns_prefix (equipment : Equipment) :
    ((turns equipment).map fun turn => (turn.registration.number, turn.registration.name)) <+:
      [(2, "twitch connection"), (1, "message tasks"), (0, "http client")] := by
  have hprefix := (Closers.turns_prefix { count := 3 } (components equipment).reverse).map
    fun r => (r.number, r.name)
  rwa [List.map_map] at hprefix

theorem turns_of_steady (h : equipment.isSteady = true) :
    ((turns equipment).map fun turn => (turn.registration.number, turn.registration.name)) =
      [(2, "twitch connection"), (1, "message tasks"), (0, "http client")] := by
  obtain ⟨⟨hconnection, htasks⟩, hclient⟩ :
      (equipment.connection.isSteady = true ∧ equipment.tasks.isSteady = true) ∧
        equipment.client.isSteady = true := by
    simpa [Equipment.isSteady] using h
  have hsteady : Closers.Steady { count := 3 } ((components equipment).reverse.map .run) :=
    ⟨nofun, by simp [components, Closers.Task.isSteady, hconnection, htasks, hclient]⟩
  have hall := congrArg (List.map fun r => (r.number, r.name)) (Closers.turns_of_steady hsteady)
  rwa [List.map_map] at hall

/-- The client has its turn just if no closer of another component is cancelled. -/
theorem client_turn_iff : ((turns equipment).map fun turn =>
      (turn.registration.number, turn.registration.name)).count (0, "http client") = 1 ↔
    ∀ turn ∈ turns equipment, turn.isCancelled = true → turn.registration.number = 0 := by
  have hturns : turns equipment = Closers.turns { count := 3 }
      [⟨2, "twitch connection", equipment.connection⟩, ⟨1, "message tasks", equipment.tasks⟩,
        ⟨0, "http client", equipment.client⟩] := rfl
  rw [hturns]
  simp only [Closers.turns]
  split
  · next hconnection => simp [hconnection]
  · next hconnection =>
    split
    · next htasks => simp [hconnection, htasks]
    · next htasks => simp [hconnection, htasks]

theorem opened_once : (whole settings identity equipment ending).1.count .openedClient = 1 := by
  have hrecords (records : List Log.Record) : .openedClient ∉ records.map Event.wrote := by simp
  have hclosers (events : List Closers.Event) : .openedClient ∉ events.map Event.ofClosers := by
    rintro hmem
    obtain ⟨event, -, hevent⟩ := List.mem_map.mp hmem
    cases event <;> cases hevent
  by_cases h : Connects settings equipment
  · have hsignal : .openedClient ∉ signal ending := by
      unfold signal
      split <;> simp
    have hfarewell (isCancelled : Bool) : .openedClient ∉ farewell isCancelled := by
      cases isCancelled <;> simp [farewell, Event.ofClosers, Closers.allStopped]
    rw [whole_of_connects h, finish_made, opening, List.append_assoc, List.append_assoc,
      List.cons_append, List.count_cons_self, List.count_eq_zero.mpr]
    simp [hrecords, hclosers, hsignal, hfarewell]
  · obtain ⟨fault, -, hwhole⟩ := whole_of_broken identity ending h
    rw [hwhole, List.count_cons_self, List.count_eq_zero.mpr (hrecords _)]

end Run

/-- **What is closed in every run.** A run opens the client once. It comes to its connection just if
    it is to have zero slots or more and the bot can be made. The client is closed, and then once,
    just if the run comes to its connection and no closer of another component is cancelled. Behind
    a connection, however it ends, the components have their turns: the connection, the tasks and
    the client, all of them if no closer is ever cancelled, whichever of them fail. Each is closed
    once in its turn, and its turn is over before the next one begins. A run that breaks off before
    its connection closes nothing. -/
theorem run_closes_all (settings : Config.Settings) (identity : Config.Identity)
    (equipment : Run.Equipment) (ending : Ending) :
    let run := Run.whole settings identity equipment ending
    let turns := Run.turns equipment
    let own := (Run.closings run.1).filter (·.1 < 3)
    run.1.count .openedClient = 1 ∧
    ((∃ bot, (Run.begin settings identity equipment).2 = .ok bot) ↔
      Run.Connects settings equipment) ∧
    ((Run.closings run.1).count (0, "http client") = 1 ↔ Run.Connects settings equipment ∧
      ∀ turn ∈ turns, turn.isCancelled = true → turn.registration.number = 0) ∧
    (Run.Connects settings equipment →
      own = turns.map (fun turn => (turn.registration.number, turn.registration.name)) ∧
      own <+: [(2, "twitch connection"), (1, "message tasks"), (0, "http client")] ∧
      (equipment.isSteady = true →
        own = [(2, "twitch connection"), (1, "message tasks"), (0, "http client")]) ∧
      (turns.flatMap Closers.Turn.events).map .ofClosers <:+: run.1 ∧
      run.2 = if turns.any Closers.Turn.isCancelled then .cancelled else Run.outcomeOf ending) ∧
    (¬Run.Connects settings equipment → Run.closings run.1 = [] ∧ ∃ fault, run.2 = .failed fault ∧
      (settings.maxConcurrent < 0 ∧ fault = .unreadable ∨
        0 ≤ settings.maxConcurrent ∧ equipment.trouble = some fault)) := by
  intro run turns own
  have hbroken (h : ¬Run.Connects settings equipment) :
      Run.closings run.1 = [] ∧ ∃ fault, run.2 = .failed fault ∧
        (settings.maxConcurrent < 0 ∧ fault = .unreadable ∨
          0 ≤ settings.maxConcurrent ∧ equipment.trouble = some fault) := by
    obtain ⟨fault, hfault, hwhole⟩ := Run.whole_of_broken identity ending h
    unfold run
    rw [hwhole]
    exact ⟨Run.closings_records Run.registry.records, fault, rfl, hfault⟩
  refine ⟨Run.opened_once, Run.connects_iff, ⟨fun honce => ?_, fun ⟨h, hturns⟩ => ?_⟩, fun h => ?_,
    hbroken⟩
  · by_cases h : Run.Connects settings equipment
    · rw [← List.count_filter (p := fun closing => closing.1 < 3) rfl, Run.closings_own h] at honce
      exact ⟨h, Run.client_turn_iff.mp honce⟩
    · rw [(hbroken h).1] at honce
      cases honce
  · rw [← List.count_filter (p := fun closing => closing.1 < 3) rfl, Run.closings_own h]
    exact Run.client_turn_iff.mpr hturns
  · have hown : own = turns.map fun turn =>
        (turn.registration.number, turn.registration.name) := Run.closings_own h
    refine ⟨hown, hown ▸ Run.turns_prefix equipment, fun hsteady => ?_, ?_, ?_⟩
    · rw [hown, Run.turns_of_steady hsteady]
    · unfold run
      rw [Run.whole_of_connects h, Run.finish_made]
      exact ⟨Run.opening identity equipment ++ Run.signal ending,
        Run.farewell ((Run.turns equipment).any Closers.Turn.isCancelled),
        by simp only [turns, List.append_assoc]⟩
    · unfold run
      rw [Run.whole_of_connects h, Run.finish_made]

/-- The client stays open in a run with a negative number of slots, and in one whose connection is
    cancelled while it is closed. -/
theorem client_left_open :
    let broken := Run.whole { maxConcurrent := -1 } {} {} .returned
    let cutOff := Run.whole {} {} { connection := .ends .cancelled } .returned
    (Run.Event.openedClient ∈ broken.1 ∧ Run.closings broken.1 = [] ∧
      broken.2 = .failed .unreadable) ∧
    Run.Event.openedClient ∈ cutOff.1 ∧ Run.closings cutOff.1 = [(2, "twitch connection")] ∧
      cutOff.2 = .cancelled := by
  intro broken cutOff
  constructor
  · have hbroken : ¬Run.Connects { maxConcurrent := -1 } {} := fun h => absurd h.1 (by decide)
    obtain ⟨fault, ⟨-, rfl⟩ | ⟨hslots, -⟩, hwhole⟩ := Run.whole_of_broken {} .returned hbroken
    · unfold broken
      rw [hwhole]
      exact ⟨List.mem_cons_self, Run.closings_records _, rfl⟩
    · exact absurd hslots (by decide)
  · have hconnects : Run.Connects {} { connection := .ends .cancelled } := ⟨by decide, rfl⟩
    have hturns : Run.turns { connection := .ends .cancelled } = [⟨⟨2, "twitch connection",
        .ends .cancelled⟩, [.wrote (Closers.record .info "Stopping twitch connection"),
          .ran 2 "twitch connection"], true⟩] := by
      simp [Run.turns, Run.components, Closers.turns, Closers.behind, Closers.work, Closers.unwound,
        Closers.wrote]
    unfold cutOff
    refine ⟨?_, ?_, ?_⟩
    · rw [Run.whole_of_connects hconnects, Run.opening]
      exact List.mem_cons_self
    · rw [Run.closings_whole hconnects, hturns]
      rfl
    · rw [Run.whole_of_connects hconnects, Run.finish_made, hturns]
      rfl

end ChatWarden
