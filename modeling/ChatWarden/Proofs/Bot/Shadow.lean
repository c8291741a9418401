import ChatWarden.Proofs.Bot.Confinement
import ChatWarden.Proofs.Bot.Sent
import ChatWarden.Proofs.Store.Commute
import ChatWarden.Proofs.Store.Shadow

/-!
# Commands in the shadow of built-in ones

A row under the name of a built-in command is never met: calls of that name go to the built-in
command, and the commands that write rows refuse it. So two tables of commands that differ in such
rows only cannot be told apart by anything but the listing of all commands, and the listing writes
nothing.

Results:
* `Setup.handle_avoids`: lines that list no commands ask for no row in the shadow.
* `Work.record_shadowed`: work that asks for none takes the same path over both tables.
* `shadowed_rows_inert`: two runs over the same lines.
-/

namespace ChatWarden

open Store (Condition Database)

/-! ## Requests -/

/-- Requests to the store that are about no hidden command, and all others. -/
def Request.AvoidsHidden (hidden : String → Bool) (request : Request) : Prop :=
  ∀ query, request = .store query → query.AvoidsHidden hidden

theorem Request.AvoidsHidden.of_area {hidden : String → Bool} {request : Request}
    (h : request.area ≠ .store) : request.AvoidsHidden hidden := by
  rintro query rfl
  exact absurd rfl h

/-- Requests that only look things up in the store, and those that do not concern it. -/
def Request.IsLooking (request : Request) : Prop :=
  request.area ≠ .store ∨ request.IsLookup ∨ request = .store .listNames

/-- A listing leaves the database as it was. -/
theorem Store.Condition.listing_alike (condition : Condition) (db : Database) :
    db.Alike (condition.perform (·.answer .listNames) db).2 := by
  cases condition with
  | breaks done failure => exact .refl db
  | stands medium =>
    obtain ⟨path, _, commands, trusted, clock⟩ := db
    cases medium <;> cases commands <;> exact ⟨_, rfl⟩

/-- Databases that are alike agree with the same ones. -/
theorem Store.Database.AgreesOff.of_alike {hidden : String → Bool} {db db' other other' : Database}
    (h : db.AgreesOff hidden other) (halike : db.Alike db') (halike' : other.Alike other') :
    db'.AgreesOff hidden other' := by
  obtain ⟨medium, rfl⟩ := halike
  obtain ⟨medium', rfl⟩ := halike'
  exact ⟨h.path, h.trusted, h.clock, h.commands⟩

namespace World

variable {hidden : String → Bool} {world world' : World} {request : Request}

/-- A request that avoids the hidden names is answered alike. -/
theorem answer_shadowed (surroundings : Surroundings) (hasked : world.asked = world'.asked)
    (h : world.db.AgreesOff hidden world'.db) (hr : request.AvoidsHidden hidden) :
    (world.answer surroundings request).1 = (world'.answer surroundings request).1 ∧
      (world.answer surroundings request).2.db.AgreesOff hidden
        (world'.answer surroundings request).2.db := by
  cases request with
  | store query =>
    simp only [answer, ← hasked]
    exact h.perform (surroundings.condition world.asked) (hr query rfl)
  | _ => exact ⟨congrArg (surroundings.answer · _) hasked, h⟩

/-- Looking things up leaves the database alike. -/
theorem answer_looking (surroundings : Surroundings) (world : World) (hr : request.IsLooking) :
    world.db.Alike (world.answer surroundings request).2.db := by
  cases request with
  | store query =>
    rcases hr with harea | ⟨user, hlookup⟩ | hlisting
    · exact absurd rfl harea
    · obtain rfl := Request.store.inj hlookup
      exact (surroundings.condition world.asked).lookUp_alike world.db user
    · obtain rfl := Request.store.inj hlisting
      exact (surroundings.condition world.asked).listing_alike world.db
  | _ => exact .refl world.db

end World

/-! ## Work -/

/-- Work that avoids the hidden names takes the same path over databases that agree off them, and
    leaves databases that do. -/
theorem Work.record_shadowed {α : Type} {hidden : String → Bool} (surroundings : Surroundings)
    {work : Work α} (h : work.Within (Request.AvoidsHidden hidden) fun _ => True) :
    ∀ {world world' : World}, world.asked = world'.asked → world.db.AgreesOff hidden world'.db →
      (work.record (World.answer surroundings) world).1 =
          (work.record (World.answer surroundings) world').1 ∧
        (work.record (World.answer surroundings) world).2.1 =
          (work.record (World.answer surroundings) world').2.1 ∧
        (work.record (World.answer surroundings) world).2.2.db.AgreesOff hidden
          (work.record (World.answer surroundings) world').2.2.db := by
  induction work with
  | done value => exact fun _ hagree => ⟨rfl, rfl, hagree⟩
  | ask request next ih =>
    intro world world' hasked hagree
    obtain ⟨hanswer, hafter⟩ := World.answer_shadowed surroundings hasked hagree h.1
    have hnext : (world.answer surroundings request).2.asked =
        (world'.answer surroundings request).2.asked := by
      rw [World.answer_asked, World.answer_asked, hasked]
    obtain ⟨hpath, houtcome, hlast⟩ := ih _ (h.2 _) hnext hafter
    simp only [record]
    rw [← hanswer]
    exact ⟨congrArg _ hpath, houtcome, hlast⟩

/-- Work that only looks things up leaves the database alike. -/
theorem Work.record_looking {α : Type} (surroundings : Surroundings) {work : Work α}
    (h : work.Within Request.IsLooking fun _ => True) : ∀ world : World,
      world.db.Alike (work.record (World.answer surroundings) world).2.2.db := by
  induction work with
  | done value => exact fun world => .refl world.db
  | ask request next ih =>
    exact fun world => (World.answer_looking surroundings world h.1).trans (ih _ (h.2 _) _)

/-! ## Lines -/

namespace Setup

variable (setup : Setup) (text sender : String)

/-- The line calls the command that lists all commands. -/
def listsCommands : Bool := setup.called? text matches some (.commands, _)

/-- The names of built-in commands hide what stands under them in the store. -/
abbrev hides (name : String) : Bool := setup.registry.contains name

theorem not_hides {name : String} (h : setup.registry.get? name = none) :
    setup.hides name = false := by
  rw [hides, Registry.contains, List.any_eq_false]
  exact List.find?_eq_none.mp h

/-- A command other than the listing asks for nothing that is hidden. -/
theorem execute_avoids {command : Builtin} (hcommand : command ≠ .commands) (args : String) :
    (Builtin.execute setup.tools setup.registry command args sender).AsksOnly
      (Request.AvoidsHidden setup.hides) := by
  by_cases hcustom : ∃ action, command = .custom action
  · obtain ⟨action, rfl⟩ := hcustom
    refine (CustomAdmin.execute_asks setup.hides action args sender).widen ?_
    rintro request (⟨rfl, hpasses⟩ | hlog)
    · rintro query hquery
      obtain rfl := Request.store.inj hquery
      cases action with
      | create => exact hpasses.2.2
      | update => exact hpasses.2.2
      | delete => exact hpasses.2
    · exact .of_area (by simp [hlog])
  · refine (Builtin.execute_asks ..).widen fun request hr => ?_
    rcases hr.store_cases with harea | ⟨hlisting, -⟩ | ⟨action, haction, -⟩ | ⟨action, -, rfl⟩
    · exact .of_area harea
    · exact absurd hlisting hcommand
    · exact absurd ⟨action, haction⟩ hcustom
    · rintro query hquery
      obtain rfl := Request.store.inj hquery
      cases action <;> trivial

/-- The gate asks for nothing that is hidden. -/
theorem invoke_avoids {command : Builtin} (hcommand : command ≠ .commands) (args : String) :
    (Gate.invoke (Builtin.execute setup.tools setup.registry command) command args
      sender).AsksOnly (Request.AvoidsHidden setup.hides) := by
  refine .bind (Gate.isAllowed_asks command ?_ fun request hr => .of_area (by simp [hr]))
    fun allowed => .ite (fun _ => setup.execute_avoids sender hcommand args) fun _ => by simp
  rintro query hquery
  obtain rfl := Request.store.inj hquery
  trivial

/-- A line that lists no commands asks for nothing that is hidden. -/
theorem handle_avoids (h : setup.listsCommands text = false) :
    (setup.handle text sender).AsksOnly (Request.AvoidsHidden setup.hides) := by
  have hfinish (reply : Reply) : (setup.finish reply).AsksOnly (Request.AvoidsHidden setup.hides) :=
    (setup.finish_not_store reply).widen fun _ => .of_area
  cases hcall : Chat.Call.ofLine? setup.mark text with
  | none =>
    rw [handle_eq, Dispatcher.resolve, dispatcher, hcall]
    refine .bind ((resolveSubject_asks ..).widen fun request hr => ?_) hfinish
    exact .of_area (by simp [hr])
  | some call =>
    cases hget : setup.registry.get? call.name with
    | none =>
      rw [handle_eq, Dispatcher.resolve, dispatcher, hcall]
      simp only [Dispatcher.resolveCall, hget]
      refine .bind ((resolveCustom_asks ..).widen ?_) hfinish
      rintro request (rfl | hr)
      · rintro query hquery
        obtain rfl := Request.store.inj hquery
        exact setup.not_hides hget
      · exact .of_area (by simp [hr])
    | some command =>
      have hcommand : command ≠ .commands := by
        rintro rfl
        simp [listsCommands, called?, hcall, hget] at h
      rw [handle_eq_of_builtin setup text sender hcall hget]
      refine .bind (setup.invoke_avoids sender hcommand call.args) fun reply => ?_
      refine (setup.finishCall_asks sender call reply).widen fun request hr => .of_area ?_
      rcases hr with hr | hr <;> simp [hr]

/-- A line that lists the commands only looks things up. -/
theorem handle_looking (h : setup.listsCommands text = true) :
    (setup.handle text sender).AsksOnly Request.IsLooking := by
  have hcalled : ∃ args, setup.called? text = some (.commands, args) := by
    unfold listsCommands at h
    split at h
    · next args heq => exact ⟨args, heq⟩
    · cases h
  obtain ⟨args, hcalled⟩ := hcalled
  refine .bind ?_ fun reply => (setup.finish_not_store reply).widen fun _ => .inl
  have hasks := setup.resolve_asks text sender
    (motive := fun called request => (∃ args, called = some (.commands, args)) → request.IsLooking)
    (fun _ request hr _ => .inl (by simp [hr])) (fun _ _ => .inr (.inl ⟨sender, rfl⟩))
    (fun _ hnone => by simp at hnone) fun command args => ?_
  · exact hasks.widen fun request hr => hr ⟨args, hcalled⟩
  · refine (Builtin.execute_asks ..).widen fun request hr => ?_
    rintro ⟨_, heq⟩
    obtain ⟨rfl, -⟩ := Prod.mk.inj (Option.some.inj heq)
    rcases hr with rfl | hr
    · exact .inr (.inr rfl)
    · exact .inl (by simp [hr])

/-- Handles lines one after the other, each to its end and in surroundings of its own. -/
def handleEach (setup : Setup) :
    Database → List (String × String × Surroundings) → List Handling × Database
  | db, [] => ([], db)
  | db, (text, sender, surroundings) :: rest =>
    let (path, outcome, world) :=
      (setup.handle text sender).attempt.record (World.answer surroundings) { db }
    let (lines, last) := setup.handleEach world.db rest
    (⟨text, sender, db, path, outcome, world.db⟩ :: lines, last)

/-- The same line was handled twice, and what was asked, answered and sent for it is the same
    unless it lists the commands. -/
structure SameButListing (line line' : Handling) : Prop where
  text : line.text = line'.text
  sender : line.sender = line'.sender
  path : setup.listsCommands line.text = false → line.path = line'.path
  outcome : setup.listsCommands line.text = false → line.outcome = line'.outcome

/-- One line over databases that agree leaves databases that do. -/
theorem handle_shadowed {db other : Database} (h : db.AgreesOff setup.hides other)
    (surroundings : Surroundings) :
    let run (db : Database) :=
      (setup.handle text sender).attempt.record (World.answer surroundings) { db }
    (setup.listsCommands text = false →
        (run db).1 = (run other).1 ∧ (run db).2.1 = (run other).2.1) ∧
      (run db).2.2.db.AgreesOff setup.hides (run other).2.2.db := by
  intro run
  cases hlists : setup.listsCommands text with
  | false =>
    obtain ⟨hpath, houtcome, hlast⟩ := @Work.record_shadowed _ _ surroundings _
      (Job.within_iff.mp (setup.handle_avoids text sender hlists)) { db } { db := other } rfl h
    exact ⟨fun _ => ⟨hpath, houtcome⟩, hlast⟩
  | true =>
    have hlooking := Work.record_looking surroundings
      (Job.within_iff.mp (setup.handle_looking text sender hlists))
    exact ⟨nofun, h.of_alike (hlooking { db }) (hlooking { db := other })⟩

theorem handleEach_shadowed (lines : List (String × String × Surroundings)) :
    ∀ {db other : Database}, db.AgreesOff setup.hides other →
      List.Forall₂ setup.SameButListing (setup.handleEach db lines).1
          (setup.handleEach other lines).1 ∧
        (setup.handleEach db lines).2.AgreesOff setup.hides (setup.handleEach other lines).2 := by
  induction lines with
  | nil => exact fun h => ⟨.nil, h⟩
  | cons line rest ih =>
    obtain ⟨text, sender, surroundings⟩ := line
    intro db other h
    obtain ⟨hsame, hafter⟩ := setup.handle_shadowed text sender h surroundings
    obtain ⟨hrest, hlast⟩ := ih hafter
    exact ⟨.cons ⟨rfl, rfl, fun hlists => (hsame hlists).1, fun hlists => (hsame hlists).2⟩ hrest,
      hlast⟩

end Setup

/-- **Shadowed rows are inert.** Take two databases that differ at most in rows under the names of
    built-in commands, and handle the same lines over each of them, in the same surroundings. Every
    line that does not list the commands asks, gets and sends the same in both runs, and so has the
    same reply. In the end both databases have the same trusted users, and the same live response
    under every name that is not that of a built-in command. -/
theorem shadowed_rows_inert (setup : Setup) (lines : List (String × String × Surroundings))
    {db other : Database} (h : db.AgreesOff setup.registry.contains other) :
    let run := setup.handleEach db lines
    let run' := setup.handleEach other lines
    List.Forall₂ setup.SameButListing run.1 run'.1 ∧
      List.Forall₂ (fun line line' => setup.listsCommands line.text = false →
        setup.reply? line.text line.sender line.path =
            setup.reply? line'.text line'.sender line'.path ∧
          Exchange.sent line.path = Exchange.sent line'.path) run.1 run'.1 ∧
      run.2.trusted = run'.2.trusted ∧
      ∀ name, setup.registry.contains name = false →
        run.2.responses name = run'.2.responses name := by
  intro run run'
  obtain ⟨hsame, hlast⟩ := setup.handleEach_shadowed lines h
  refine ⟨hsame, hsame.imp fun line line' hline hlists => ?_, hlast.trusted,
    fun name hname => hlast.responses hname⟩
  rw [hline.text, hline.sender, hline.path hlists]
  exact ⟨rfl, rfl⟩

/-- The same lines over a database with a row named like a built-in command, and over a fresh
    one. -/
theorem shadowed_rows_inert_ping :
    let setup := Setup.ofRun {} {}
    let shadowed : Database :=
      { Database.fresh "bot.db" with commands := some ⟨[⟨1, "ping", "gotcha", 1, 1, none⟩], 1⟩ }
    let lines : List (String × String × Surroundings) :=
      [("!ping", "eve", .calm), ("!gotcha", "eve", .calm)]
    let run := setup.handleEach shadowed lines
    let run' := setup.handleEach (.fresh "bot.db") lines
    shadowed.AgreesOff setup.registry.contains (.fresh "bot.db") ∧
      List.Forall₂ setup.SameButListing run.1 run'.1 ∧
      run.1.map (fun line => Exchange.sent line.path) = [["Pong!"], []] ∧
      run'.1.map (fun line => Exchange.sent line.path) = [["Pong!"], []] := by
  intro setup shadowed lines run run'
  have hagree : shadowed.AgreesOff setup.registry.contains (.fresh "bot.db") := by
    refine ⟨rfl, rfl, rfl, .inr ⟨_, _, rfl, rfl, ?_, Store.Table.distinct_empty, ?_⟩⟩
    · exact List.nodup_singleton _
    · intro name hname
      have hne : ("ping" == name) = false := by
        rw [beq_eq_false_iff_ne]
        rintro rfl
        revert hname
        decide +kernel
      simp only [Store.CommandTable.responses, Store.CommandTable.response?, Store.Table.live?,
        Store.CommandRow.key_eq, List.find?_cons, hne, Bool.false_and]
  exact ⟨hagree, (shadowed_rows_inert setup lines hagree).1, by decide +kernel, by decide +kernel⟩

end ChatWarden
