import ChatWarden.Proofs.Bot.Confinement
import ChatWarden.Proofs.Bot.Reorder
import ChatWarden.Proofs.Bot.Tally

/-!
# Lines at the same time

Lines that do not change trust do not get in each other's way, however their handlers take turns:
all of them end as if they had been handled one after the other, in the order of their statements
on the commands.

Results:
* `Met.play`: the requests of all handlers together were answered under their numbers.
* `Sound.exists_serial`: the lines can be put in the order of their statements.
* `Sound.replay`: handled one after the other in such an order, they take the same paths.
* `commands_serializable`: all of this for every order of events, with the tally of each name.
-/

namespace ChatWarden

open Store (Condition Database)

/-! ## The requests of a scene -/

/-- What one of the handlers asked for, with the numbers of the requests. -/
def numberedOf (who : Nat) (moments : List Moment) : List Numbered :=
  moments.zipIdx.filter (Numbered.who · == who)

theorem numberedOf_exchanges (who : Nat) (moments : List Moment) :
    (numberedOf who moments).map (·.1.exchange) = exchangesOf who moments := by
  have hmoments : (moments.zipIdx.map Prod.fst).filter (·.who == who) =
      (numberedOf who moments).map Prod.fst := List.filter_map
  rw [exchangesOf, ← List.zipIdx_map_fst 0 moments, hmoments, List.map_map, List.zipIdx_map_fst]
  rfl

namespace Scene

variable {setup : Setup} {surroundings : Surroundings} {start : Database} {scene : Scene}

/-- The requests of all handlers were answered under their numbers, in their order. -/
structure Met (surroundings : Surroundings) (start : Database) (scene : Scene) : Prop where
  meets : Meets surroundings start scene.moments.zipIdx scene.world.db
  asked : scene.world.asked = scene.moments.length

theorem Met.step (h : scene.Met surroundings start) (event : Event) :
    (scene.step setup surroundings event).Met surroundings start := by
  obtain ⟨⟨db, asked⟩, handlers, moments⟩ := scene
  obtain ⟨hmeets, hasked⟩ := h
  obtain rfl : asked = moments.length := hasked
  cases event with
  | arrives text sender => exact ⟨hmeets, rfl⟩
  | acts who =>
    simp only [Scene.step]
    split
    · next text sender request next hwho =>
      -- the new request has the number of requests before it
      let moment : Moment :=
        ⟨who, db, ⟨request, (World.answer surroundings ⟨db, moments.length⟩ request).1⟩⟩
      have hsnoc : Meets surroundings start (moments.zipIdx ++ [(moment, moments.length)])
          (World.answer surroundings ⟨db, moments.length⟩ request).2.db := hmeets.snoc rfl
      have hzip : (moments ++ [moment]).zipIdx =
          moments.zipIdx ++ [(moment, moments.length)] := by
        simp [List.zipIdx_append]
      refine ⟨?_, ?_⟩
      · rw [← hzip] at hsnoc
        exact hsnoc
      · show (World.answer surroundings ⟨db, moments.length⟩ request).2.asked =
          (moments ++ [moment]).length
        rw [World.answer_asked, List.length_append, List.length_singleton]
    · exact ⟨hmeets, rfl⟩

theorem Met.play (h : scene.Met surroundings start) (events : List Event) :
    (scene.play setup surroundings events).Met surroundings start := by
  induction events generalizing scene with
  | nil => exact h
  | cons event rest ih => exact ih (h.step event)

/-! ## Serial orders -/

/-- The handlers that made a statement on the commands, in the order of their statements. -/
def statementOrder (scene : Scene) : List Nat :=
  (scene.moments.filter (·.exchange.request.isStatement)).map (·.who)

/-- An order of all handlers in which those that made a statement on the commands come in the order
    of their statements. -/
structure IsSerial (scene : Scene) (order : List Nat) : Prop where
  perm : order.Perm (List.range scene.handlers.length)
  statements : scene.statementOrder.Sublist order

/-- Every handler makes at most one statement on the commands. -/
theorem Sound.once (h : scene.Sound setup start) (who : Nat) :
    (exchangesOf who scene.moments).countP (·.request.isStatement) ≤ 1 := by
  cases hwho : scene.handlers[who]? with
  | none =>
    have hnone : exchangesOf who scene.moments = [] :=
      exchangesOf_eq_nil fun moment hm => by
        have := h.who_lt hm
        have := List.getElem?_eq_none_iff.mp hwho
        omega
    simp [hnone]
  | some handler =>
    obtain ⟨more, outcome, hends⟩ := (h.leads hwho).exists_ends
    have hcount := (setup.handle_once handler.text handler.sender).count_le (Job.ends_iff.mpr hends)
    rw [List.countP_append] at hcount
    omega

theorem Sound.statementOrder_nodup (h : scene.Sound setup start) : scene.statementOrder.Nodup := by
  refine List.nodup_iff_count_le_one.mpr fun who => ?_
  have hcount : scene.statementOrder.count who =
      (exchangesOf who scene.moments).countP (·.request.isStatement) := by
    simp only [statementOrder, exchangesOf, List.count_eq_countP, List.countP_map,
      List.countP_filter, Function.comp_def, Bool.and_comm]
  rw [hcount]
  exact h.once who

/-- The lines can be put in the order of their statements; those without one may come last. -/
theorem Sound.exists_serial (h : scene.Sound setup start) : ∃ order, scene.IsSerial order := by
  refine ⟨scene.statementOrder ++
    (List.range scene.handlers.length).filter (· ∉ scene.statementOrder), ?_,
    List.sublist_append_left ..⟩
  have hlt {who : Nat} (hwho : who ∈ scene.statementOrder) : who < scene.handlers.length := by
    obtain ⟨moment, hm, rfl⟩ := List.mem_map.mp hwho
    exact h.who_lt (List.mem_of_mem_filter hm)
  refine (List.perm_ext_iff_of_nodup ?_ List.nodup_range).mpr fun who => ?_
  · refine h.statementOrder_nodup.append (List.nodup_range.filter _) fun who hwho hother => ?_
    simp [hwho] at hother
  · by_cases hwho : who ∈ scene.statementOrder
    · simp [hwho, hlt hwho]
    · simp [hwho]

/-! ## The lines once more, one by one -/

/-- Lines that do not change trust make statements on the commands, and else only look up trust. -/
theorem Sound.traffic (h : scene.Sound setup start)
    (hcustom : ∀ handler ∈ scene.handlers, setup.changesTrust handler.text = false)
    {moment : Moment} (hm : moment ∈ scene.moments) :
    Setup.IsTraffic moment.exchange.request := by
  have hlt := h.who_lt hm
  have hhandler : scene.handlers[moment.who]? = some scene.handlers[moment.who] :=
    List.getElem?_eq_getElem hlt
  have hasks := setup.handle_traffic scene.handlers[moment.who].text
    scene.handlers[moment.who].sender (hcustom _ (List.getElem_mem hlt))
  exact ((h.leads hhandler).within (Job.within_iff.mp hasks)).1 _
    (mem_exchangesOf.mpr ⟨moment, hm, rfl, rfl⟩)

/-- The requests of the handlers, one handler after the other. -/
def oneByOne (scene : Scene) (order : List Nat) : List Numbered :=
  order.flatMap fun who => numberedOf who scene.moments

/-- One by one, every request is there with its number. -/
theorem IsSerial.perm_oneByOne {order : List Nat} (hserial : scene.IsSerial order)
    (h : scene.Sound setup start) : (scene.oneByOne order).Perm scene.moments.zipIdx := by
  have hall : scene.moments.zipIdx.filter (Numbered.who · < scene.handlers.length) =
      scene.moments.zipIdx := by
    refine List.filter_eq_self.mpr fun item hitem => ?_
    simpa using h.who_lt (List.fst_mem_of_mem_zipIdx hitem)
  have hkeys := perm_flatMap_filter Numbered.who scene.moments.zipIdx scene.handlers.length
  rw [hall] at hkeys
  exact (hserial.perm.flatMap_right _).trans hkeys

/-- One by one, the statements on the commands are made in their order. -/
theorem IsSerial.statements_oneByOne {order : List Nat} (hserial : scene.IsSerial order) :
    (scene.oneByOne order).filter Numbered.isStatement =
      scene.moments.zipIdx.filter Numbered.isStatement := by
  have hkeys : (scene.moments.zipIdx.filter Numbered.isStatement).map Numbered.who =
      scene.statementOrder := by
    have hmoments : (scene.moments.zipIdx.map Prod.fst).filter (·.exchange.request.isStatement) =
        (scene.moments.zipIdx.filter Numbered.isStatement).map Prod.fst := List.filter_map
    rw [statementOrder, ← List.zipIdx_map_fst 0 scene.moments, hmoments, List.map_map,
      List.zipIdx_map_fst]
    rfl
  have horder : order.Nodup := hserial.perm.nodup_iff.mpr List.nodup_range
  have hapart := flatMap_filter_eq Numbered.who horder (hkeys ▸ hserial.statements)
  rw [oneByOne, List.filter_flatMap, ← hapart]
  exact List.flatMap_congr fun who _ => List.filter_comm ..

/-- The lines of the handlers, in an order. -/
def lines (scene : Scene) (order : List Nat) : List (String × String) :=
  order.filterMap fun who =>
    scene.handlers[who]?.map fun handler => (handler.text, handler.sender)

/-- The reply to the line of a handler. -/
def reply? (setup : Setup) (scene : Scene) (who : Nat) : Option Reply :=
  scene.handlers[who]?.bind fun handler =>
    setup.reply? handler.text handler.sender (exchangesOf who scene.moments)

/-- A line was handled as one of the handlers did it: everything was asked and answered the same
    way, and the reply is the same. -/
structure Repeats (setup : Setup) (scene : Scene) (who : Nat) (line : Handling) : Prop where
  handler : scene.handlers[who]? = some ⟨line.text, line.sender, .done line.outcome⟩
  path : line.path = exchangesOf who scene.moments
  reply : setup.reply? line.text line.sender line.path = scene.reply? setup who

/-- Handled one after the other where their requests are answered as before, the lines take the
    same paths. -/
theorem Sound.replay (h : scene.Sound setup start)
    (hdone : ∀ handler ∈ scene.handlers, handler.IsDone) {order : List Nat} {db last : Database}
    {numbers past : List Nat} (horder : ∀ who ∈ order, who < scene.handlers.length)
    (hnumbers : numbers = past ++ (scene.oneByOne order).map (·.2))
    (hmeets : Meets surroundings db (scene.oneByOne order) last) :
    let run := setup.handleAll (surroundings.reordered numbers) ⟨db, past.length⟩
      (scene.lines order)
    List.Forall₂ (scene.Repeats setup) order run.1 ∧ run.2.db.Alike last := by
  induction order generalizing db past with
  | nil => exact ⟨.nil, hmeets⟩
  | cons who rest ih =>
    obtain ⟨hwho, hrest⟩ := List.forall_mem_cons.mp horder
    obtain ⟨⟨text, sender, work⟩, hhandler⟩ : ∃ handler, scene.handlers[who]? = some handler :=
      ⟨_, List.getElem?_eq_getElem hwho⟩
    obtain ⟨outcome, rfl⟩ := (hdone _ (List.mem_of_getElem? hhandler)).exists_outcome
    have hends : (setup.handle text sender).attempt.Ends
        ((numberedOf who scene.moments).map (·.1.exchange)) outcome := by
      have hleads := h.leads hhandler
      rw [← numberedOf_exchanges] at hleads
      exact hleads
    obtain ⟨next, hrecord, hmore⟩ := Work.record_of_meets hends hnumbers hmeets
    have hpast : numbers = (past ++ (numberedOf who scene.moments).map (·.2)) ++
        (scene.oneByOne rest).map (·.2) := by
      rw [hnumbers, List.append_assoc, ← List.map_append]
      rfl
    -- the requests of the other lines follow those of this one
    have hlength : (past ++ (numberedOf who scene.moments).map (·.2)).length =
        past.length + (numberedOf who scene.moments).length := by simp
    obtain ⟨hlines, hlast⟩ := ih hrest hpast hmore
    rw [hlength] at hlines hlast
    have hlines' : scene.lines (who :: rest) = (text, sender) :: scene.lines rest := by
      simp [lines, hhandler]
    rw [hlines']
    simp only [Setup.handleAll, hrecord]
    refine ⟨.cons ⟨hhandler, numberedOf_exchanges .., ?_⟩ hlines, hlast⟩
    rw [reply?, hhandler, numberedOf_exchanges]
    rfl

/-- The numbers of the requests in their new order: each request keeps the number that it had. -/
def numbers (scene : Scene) (order : List Nat) : List Nat := (scene.oneByOne order).map (·.2)

theorem IsSerial.numbers_perm {order : List Nat} (hserial : scene.IsSerial order)
    (h : scene.Sound setup start) :
    (scene.numbers order).Perm (List.range scene.moments.length) := by
  have hperm := (hserial.perm_oneByOne h).map Prod.snd
  rwa [List.zipIdx_map_snd, ← List.range_eq_range'] at hperm

end Scene

/-- **Serializability.** Lines that do not change trust come in any order, and their handlers take
    turns in any way, until all of them are done. Then the lines can be put in the order of their
    statements on the commands. Handled one after the other in such an order they find the same
    replies along the same paths, and leave the same tables; each request gets what it would get
    under its old number, which makes no difference in steady surroundings. And what is told about
    a name accounts for whether it is live: it became live if it was created once more than it was
    deleted, and so on. -/
theorem commands_serializable (setup : Setup) (surroundings : Surroundings) (start : Database)
    (events : List Event) {scene : Scene}
    (hscene : Scene.play setup surroundings { world := { db := start } } events = scene)
    (hdone : ∀ handler ∈ scene.handlers, handler.IsDone)
    (hcustom : ∀ handler ∈ scene.handlers, setup.changesTrust handler.text = false) :
    (∃ order, scene.IsSerial order) ∧
    (∀ order, scene.IsSerial order →
      let surroundings' := surroundings.reordered (scene.numbers order)
      let serial := setup.handleAll surroundings' { db := start } (scene.lines order)
      List.Forall₂ (scene.Repeats setup) order serial.1 ∧
        serial.2.db.SameTables scene.world.db ∧
        (scene.numbers order).Perm (List.range scene.moments.length) ∧
        (surroundings.IsSteady → surroundings' = surroundings)) ∧
    (start.HasDistinctCommands → ∀ name,
      (scene.told setup).count (.create, name) + start.live name =
        (scene.told setup).count (.delete, name) + scene.world.db.live name) := by
  have hfirst : Scene.Sound setup start { world := { db := start } } :=
    ⟨fun hh => by simp at hh, fun hm => by simp at hm, .nil _⟩
  have hsound : scene.Sound setup start := hscene ▸ hfirst.play events
  have hbegin : Scene.Met surroundings start { world := { db := start } } := ⟨.refl _, rfl⟩
  have hmet : scene.Met surroundings start := hscene ▸ hbegin.play events
  refine ⟨hsound.exists_serial, fun order hserial => ?_, fun hd name => ?_⟩
  · have htraffic (item : Numbered) (hitem : item ∈ scene.moments.zipIdx) :
        Setup.IsTraffic item.request :=
      hsound.traffic hcustom (List.fst_mem_of_mem_zipIdx hitem)
    have hmeets := hmet.meets.reorder htraffic
      (fun item hitem => (hserial.perm_oneByOne hsound).mem_iff.mp hitem)
      hserial.statements_oneByOne
    have horder (who : Nat) (hwho : who ∈ order) : who < scene.handlers.length :=
      List.mem_range.mp (hserial.perm.mem_iff.mp hwho)
    have hnumbers : scene.numbers order = [] ++ (scene.oneByOne order).map (·.2) := rfl
    obtain ⟨hlines, hlast⟩ := hsound.replay hdone horder hnumbers hmeets
    exact ⟨hlines, hlast.sameTables, hserial.numbers_perm hsound, fun h => h.reordered_eq _⟩
  · have htally := hsound.passes.tally hd name
    have hperm := hsound.deeds_perm hdone
    rwa [hperm.count_eq, hperm.count_eq] at htally

/-- Alice and bob create the same command at the same time. Alice's line comes first, but bob's
    statement does, so bob wins, as if his line had been handled before hers. -/
theorem commands_serializable_contested :
    let setup := Setup.ofRun {} {}
    let start := (((Database.fresh "bot.db").trust "alice").2.trust "bob").2
    let scene := Scene.play setup .calm { world := { db := start } }
      [.arrives "!addcmd hi hello" "alice", .arrives "!addcmd hi bye" "bob", .acts 0, .acts 1,
        .acts 1, .acts 0, .acts 0, .acts 0, .acts 0, .acts 1, .acts 1, .acts 1, .acts 1]
    let serial := setup.handleAll .calm { db := start }
      [("!addcmd hi bye", "bob"), ("!addcmd hi hello", "alice")]
    List.Forall₂ (scene.Repeats setup) [1, 0] serial.1 ∧
      serial.2.db.SameTables scene.world.db ∧
      scene.told setup = [(.create, "hi")] ∧ start.live "hi" = 0 ∧
      scene.world.db.live "hi" = 1 := by
  intro setup start scene serial
  have hdone : ∀ handler ∈ scene.handlers, handler.IsDone := by decide +kernel
  have hcustom : ∀ handler ∈ scene.handlers, setup.changesTrust handler.text = false := by
    decide +kernel
  have hserial : scene.IsSerial [1, 0] := ⟨by decide +kernel, by decide +kernel⟩
  have hlines : scene.lines [1, 0] = [("!addcmd hi bye", "bob"), ("!addcmd hi hello", "alice")] := by
    decide +kernel
  have htold : scene.told setup = [(.create, "hi")] := by decide +kernel
  have hlive : start.live "hi" = 0 := by decide +kernel
  have hdistinct : start.HasDistinctCommands := .of_some rfl Store.Table.distinct_empty
  have hscene : scene = scene := rfl
  obtain ⟨-, hserials, htally⟩ := commands_serializable setup .calm start _ hscene hdone hcustom
  obtain ⟨hrepeats, htables, -, hsteady⟩ := hserials [1, 0] hserial
  rw [hsteady Surroundings.calm_isSteady, hlines] at hrepeats htables
  have hhi := htally hdistinct "hi"
  have hcreated : [(CustomAdmin.create, "hi")].count (.create, "hi") = 1 := by decide
  have hdeleted : [(CustomAdmin.create, "hi")].count (.delete, "hi") = 0 := by decide
  rw [htold, hlive, hcreated, hdeleted, Nat.zero_add] at hhi
  exact ⟨hrepeats, htables, htold, hlive, hhi.symm⟩

end ChatWarden
