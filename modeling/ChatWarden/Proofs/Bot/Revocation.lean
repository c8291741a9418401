import ChatWarden.Proofs.Bot.Guard
import ChatWarden.Proofs.Bot.World

/-!
# Revoked trust counts at once

The handlers of lines take turns in any order, one request at a time. Each of them carries its own
way through the gate along, whatever the others do between its requests: nothing privileged happens
but behind a look-up of its own that found a live row, so trust that was taken away before that
look-up is gone.

Results:
* `Scene.Sound.step`: every event keeps the requests of a handler a path of its own work, and the
  database one that answered them all in their order.
* `revocation_immediate`: what follows for every order of events.
-/

namespace ChatWarden

open Store (Condition Database)

/-! ## Scenes -/

/-- A line on its way: its work so far has left this to do. -/
structure Handler where
  text : String
  sender : String
  rest : Work (Except Failure Unit)

/-- A request that one of the handlers made, with its answer and the database just before. -/
structure Moment where
  who : Nat
  before : Database
  exchange : Exchange

/-- All lines on their way, in the order in which they came, and all that happened. -/
structure Scene where
  world : World
  handlers : List Handler := []
  moments : List Moment := []

/-- What can happen next. -/
inductive Event where
  /-- A line comes. -/
  | arrives (text sender : String)
  /-- One of the handlers makes its next request, if it has one left. -/
  | acts (who : Nat)

namespace Scene

/-- The scene after an event. -/
def step (setup : Setup) (surroundings : Surroundings) (scene : Scene) : Event → Scene
  | .arrives text sender =>
    { scene with
      handlers := scene.handlers ++ [⟨text, sender, (setup.handle text sender).attempt⟩] }
  | .acts who =>
    match scene.handlers[who]? with
    | some ⟨text, sender, .ask request next⟩ =>
      let (answer, world) := scene.world.answer surroundings request
      { world
        handlers := scene.handlers.set who ⟨text, sender, next answer⟩
        moments := scene.moments ++ [⟨who, scene.world.db, ⟨request, answer⟩⟩] }
    | _ => scene

/-- The scene after some events. -/
def play (setup : Setup) (surroundings : Surroundings) (scene : Scene) (events : List Event) :
    Scene := events.foldl (step setup surroundings) scene

end Scene

/-- What one of the handlers asked for at some moments, in order. -/
def exchangesOf (who : Nat) (moments : List Moment) : List Exchange :=
  (moments.filter (·.who == who)).map (·.exchange)

@[simp] theorem exchangesOf_append (who : Nat) (past future : List Moment) :
    exchangesOf who (past ++ future) = exchangesOf who past ++ exchangesOf who future := by
  simp [exchangesOf]

theorem exchangesOf_cons_of_eq {who : Nat} {moment : Moment} (h : moment.who = who)
    (rest : List Moment) :
    exchangesOf who (moment :: rest) = moment.exchange :: exchangesOf who rest := by
  simp [exchangesOf, h]

theorem exchangesOf_cons_of_ne {who : Nat} {moment : Moment} (h : moment.who ≠ who)
    (rest : List Moment) : exchangesOf who (moment :: rest) = exchangesOf who rest := by
  simp [exchangesOf, h]

theorem exchangesOf_eq_nil {who : Nat} {moments : List Moment}
    (h : ∀ moment ∈ moments, moment.who ≠ who) : exchangesOf who moments = [] := by
  simpa [exchangesOf] using h

theorem mem_exchangesOf {who : Nat} {moments : List Moment} {exchange : Exchange} :
    exchange ∈ exchangesOf who moments ↔
      ∃ moment ∈ moments, moment.who = who ∧ moment.exchange = exchange := by
  simp [exchangesOf, and_assoc]

/-! ## The database along the moments -/

/-- The database answers the moments one after the other. -/
inductive Passes : Database → List Moment → Database → Prop
  | nil (db : Database) : Passes db [] db
  | cons {moment : Moment} {next last : Database} {rest : List Moment} :
      moment.before.Answers moment.exchange next → Passes next rest last →
      Passes moment.before (moment :: rest) last

namespace Passes

variable {db middle last : Database} {past future : List Moment} {moment : Moment}

theorem append (h : Passes db past middle) (h' : Passes middle future last) :
    Passes db (past ++ future) last := by
  induction h with
  | nil db => exact h'
  | cons hfirst _ ih => exact .cons hfirst (ih h')

/-- At every moment the database is the one that the moments before led to. -/
theorem split (h : Passes db (past ++ moment :: future) last) :
    ∃ next, Passes db past moment.before ∧ moment.before.Answers moment.exchange next ∧
      Passes next future last := by
  induction past generalizing db with
  | nil =>
    cases h with
    | cons hfirst hrest => exact ⟨_, .nil _, hfirst, hrest⟩
  | cons first past ih =>
    cases h with
    | cons hfirst hrest =>
      obtain ⟨next, hpast, hmoment, hfuture⟩ := ih hrest
      exact ⟨next, .cons hfirst hpast, hmoment, hfuture⟩

/-- Nobody becomes trusted unless trust is granted. -/
theorem trusts (h : Passes db past last) {user : String}
    (hn : ∀ moment ∈ past, moment.exchange ≠ ⟨.store (.trust user), .ok ()⟩)
    (ht : last.Trusts user) : db.Trusts user := by
  induction h with
  | nil db => exact ht
  | cons hfirst _ ih =>
    obtain ⟨hgrant, hrest⟩ := List.forall_mem_cons.mp hn
    exact (hfirst.granted (ih hrest ht)).resolve_right hgrant

end Passes

/-! ## The invariant of all events -/

namespace Scene

variable {setup : Setup} {surroundings : Surroundings} {start : Database} {scene : Scene}

/-- What every scene keeps: each handler is on a path of the work on its own line, every moment is
    one of a handler, and the database answered all moments in their order. -/
structure Sound (setup : Setup) (start : Database) (scene : Scene) : Prop where
  leads {who : Nat} {handler : Handler} : scene.handlers[who]? = some handler →
    (setup.handle handler.text handler.sender).attempt.Leads
      (exchangesOf who scene.moments) handler.rest
  who_lt {moment : Moment} : moment ∈ scene.moments → moment.who < scene.handlers.length
  passes : Passes start scene.moments scene.world.db

theorem Sound.arrives (h : scene.Sound setup start) (text sender : String) :
    (scene.step setup surroundings (.arrives text sender)).Sound setup start := by
  refine ⟨fun {who handler} hh => ?_, fun {moment} hm => ?_, h.passes⟩
  · by_cases hwho : who < scene.handlers.length
    · exact h.leads (by rwa [step, List.getElem?_append_left hwho] at hh)
    · -- the new handler has made no request yet
      have hnone : exchangesOf who scene.moments = [] :=
        exchangesOf_eq_nil fun moment hm => by have := h.who_lt hm; omega
      rw [step, List.getElem?_append_right (by omega), List.getElem?_singleton] at hh
      split at hh
      · cases hh
        show Work.Leads _ (exchangesOf who scene.moments) _
        rw [hnone]
        exact .nil _
      · cases hh
  · have hlt := h.who_lt hm
    show moment.who < (scene.handlers ++ [_]).length
    rw [List.length_append]
    omega

theorem Sound.acts (h : scene.Sound setup start) (who : Nat) :
    (scene.step setup surroundings (.acts who)).Sound setup start := by
  simp only [Scene.step]
  split
  · next text sender request next hwho =>
    have hlt : who < scene.handlers.length := (List.getElem?_eq_some_iff.mp hwho).1
    have hanswers := scene.world.answers surroundings request
    refine ⟨fun {other handler} hh => ?_, fun {moment} hm => ?_, ?_⟩
    · rw [exchangesOf_append]
      by_cases ho : who = other
      · subst ho
        rw [List.getElem?_set_self hlt] at hh
        obtain rfl := Option.some.inj hh
        rw [exchangesOf_cons_of_eq (rfl : Moment.who ⟨who, scene.world.db, _⟩ = who)]
        exact (h.leads hwho).snoc _
      · rw [List.getElem?_set_ne ho] at hh
        rw [exchangesOf_cons_of_ne ho]
        simpa [exchangesOf] using h.leads hh
    · rw [List.length_set]
      rcases List.mem_append.mp hm with hm | hm
      · exact h.who_lt hm
      · rw [List.mem_singleton.mp hm]
        exact hlt
    · exact h.passes.append (@Passes.cons ⟨who, scene.world.db, _⟩ _ _ _ hanswers (.nil _))
  · exact h

theorem Sound.step (h : scene.Sound setup start) (event : Event) :
    (scene.step setup surroundings event).Sound setup start := by
  cases event with
  | arrives text sender => exact h.arrives text sender
  | acts who => exact h.acts who

theorem Sound.play (h : scene.Sound setup start) (events : List Event) :
    (scene.play setup surroundings events).Sound setup start := by
  induction events generalizing scene with
  | nil => exact h
  | cons event rest ih => exact ih (h.step event)

/-! ## Privilege and revocation -/

/-- What is privileged follows a look-up of the same handler that found a live row of its sender. -/
theorem Sound.looked_up (h : scene.Sound setup start) {past future : List Moment} {moment : Moment}
    {handler : Handler} (hm : scene.moments = past ++ moment :: future)
    (hh : scene.handlers[moment.who]? = some handler)
    (hp : moment.exchange.request.IsPrivileged) :
    ∃ lookup ∈ past, lookup.who = moment.who ∧
      lookup.exchange = ⟨.store (.isTrusted handler.sender), .ok true⟩ ∧
      lookup.before.Trusts handler.sender := by
  have hl := h.leads hh
  rw [hm, exchangesOf_append, exchangesOf_cons_of_eq rfl] at hl
  obtain ⟨rest, hfirst⟩ := (setup.handle_guarded handler.text handler.sender).path_granted hl hp
  have hmem : ⟨.store (.isTrusted handler.sender), .ok true⟩ ∈ exchangesOf moment.who past := by
    rw [hfirst]
    exact List.mem_cons_self
  obtain ⟨lookup, hlookup, hwho, hexchange⟩ := mem_exchangesOf.mp hmem
  refine ⟨lookup, hlookup, hwho, hexchange, ?_⟩
  obtain ⟨before, after, rfl⟩ := List.append_of_mem hlookup
  have hpasses := h.passes
  rw [hm, List.append_assoc, List.cons_append] at hpasses
  obtain ⟨next, -, hanswers, -⟩ := hpasses.split
  rw [hexchange] at hanswers
  exact hanswers.trusts

/-- A handler whose sender was looked up after trust was revoked, and not granted again, is left
    with the denial. -/
theorem Sound.denied (h : scene.Sound setup start) {past between future : List Moment}
    {revoked lookup : Moment} {handler : Handler} {answer : Except Store.Failure Bool}
    (hm : scene.moments = past ++ revoked :: (between ++ lookup :: future))
    (hh : scene.handlers[lookup.who]? = some handler)
    (hrevoked : revoked.exchange = ⟨.store (.untrust handler.sender), .ok ()⟩)
    (hbetween : ∀ moment ∈ between, moment.exchange ≠ ⟨.store (.trust handler.sender), .ok ()⟩)
    (hlookup : lookup.exchange = ⟨.store (.isTrusted handler.sender), answer⟩) :
    Denied handler.sender (exchangesOf lookup.who scene.moments) handler.rest := by
  have hpasses := h.passes
  rw [hm] at hpasses
  obtain ⟨next, -, hrevokes, hrest⟩ := hpasses.split
  obtain ⟨_, hquiet, hanswers, -⟩ := hrest.split
  rw [hrevoked] at hrevokes
  rw [hlookup] at hanswers
  have hanswer : answer ≠ .ok true := by
    rintro rfl
    exact hrevokes.not_trusts (hquiet.trusts hbetween hanswers.trusts)
  have hmem : ⟨.store (.isTrusted handler.sender), answer⟩ ∈
      exchangesOf lookup.who scene.moments :=
    mem_exchangesOf.mpr ⟨lookup, by simp [hm], rfl, hlookup⟩
  exact (setup.handle_guarded handler.text handler.sender).path_refused (h.leads hh) hmem hanswer

end Scene

/-- **Revocation.** In whatever order lines come and handlers act, and whatever fails meanwhile:
    what is privileged is done by a handler only after a look-up of its own that was made when its
    sender had a live row. A handler whose look-up comes after trust in its sender was revoked, and
    not granted again in between, does nothing privileged and says nothing but the denial. -/
theorem revocation_immediate (setup : Setup) (surroundings : Surroundings) (start : World)
    (events : List Event) :
    let scene := Scene.play setup surroundings { world := start } events
    (∀ past moment future, scene.moments = past ++ moment :: future →
      ∃ handler, scene.handlers[moment.who]? = some handler ∧
        (moment.exchange.request.IsPrivileged →
          ∃ lookup ∈ past, lookup.who = moment.who ∧
            lookup.exchange = ⟨.store (.isTrusted handler.sender), .ok true⟩ ∧
            lookup.before.Trusts handler.sender)) ∧
    (∀ past revoked between lookup future handler answer,
      scene.moments = past ++ revoked :: (between ++ lookup :: future) →
      scene.handlers[lookup.who]? = some handler →
      revoked.exchange = ⟨.store (.untrust handler.sender), .ok ()⟩ →
      (∀ moment ∈ between, moment.exchange ≠ ⟨.store (.trust handler.sender), .ok ()⟩) →
      lookup.exchange = ⟨.store (.isTrusted handler.sender), answer⟩ →
      Denied handler.sender (exchangesOf lookup.who scene.moments) handler.rest) := by
  intro scene
  have hstart : Scene.Sound setup start.db { world := start } :=
    ⟨fun hh => by simp at hh, fun hm => by simp at hm, .nil _⟩
  have h : scene.Sound setup start.db := hstart.play events
  constructor
  · intro past moment future hm
    have hlt : moment.who < scene.handlers.length := h.who_lt (by simp [hm])
    have hh : scene.handlers[moment.who]? = some scene.handlers[moment.who] :=
      List.getElem?_eq_getElem hlt
    exact ⟨_, hh, h.looked_up hm hh⟩
  · intro past revoked between lookup future handler answer hm hh hrevoked hbetween hlookup
    exact h.denied hm hh hrevoked hbetween hlookup

/-- Bob is trusted when his line comes, but the revocation of his trust overtakes his look-up. -/
def overtaken : Scene :=
  let setup : Setup :=
    { tools := ⟨.shared, "", ⟨⟨"", .whole 1⟩, ⟨"", .whole 1⟩⟩⟩
      registry := Builtin.registry.value
      mark := "!"
      channel := "den" }
  let start : World := { db := (((Database.fresh "bot.db").trust "alice").2.trust "bob").2 }
  Scene.play setup .calm { world := start }
    [.arrives "!addcmd hi hello" "bob", .arrives "!untrust bob" "alice",
      .acts 1, .acts 1, .acts 0, .acts 0, .acts 0, .acts 0, .acts 0]

theorem revocation_immediate_overtaken :
    Denied "bob" (exchangesOf 0 overtaken.moments) (.done (.ok ())) ∧
      Exchange.sent (exchangesOf 0 overtaken.moments) =
        ["@bob you are not authorized to run this command."] := by
  refine ⟨?_, by decide +kernel⟩
  have hbob : overtaken.handlers[0]? = some ⟨"!addcmd hi hello", "bob", .done (.ok ())⟩ := by
    with_unfolding_all rfl
  exact (revocation_immediate _ .calm _ _).2 [_] ⟨1, _, _⟩ [] ⟨0, _, _⟩ _
    ⟨"!addcmd hi hello", "bob", .done (.ok ())⟩ (.ok false) (by with_unfolding_all rfl) hbob rfl
    (by simp) rfl

end ChatWarden
