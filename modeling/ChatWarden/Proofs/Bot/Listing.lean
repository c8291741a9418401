import ChatWarden.Proofs.Bot.Hygiene
import ChatWarden.Proofs.Bot.Revocation
import ChatWarden.Proofs.Bot.RoundTrip
import ChatWarden.Proofs.Chat.Grammar
import ChatWarden.Proofs.Command.Registry
import ChatWarden.Proofs.Text.Splitting

/-!
# The list of commands

The list is one text of names with separators between them. It can be read back, since names hold
ASCII letters and digits only: those of the built-in commands are known, and no line writes a row
with any other name, however the handlers of the lines take turns.

Results:
* `Passes.keysDistinct`, `Scene.Sound.holds`: what every scene keeps of its rows.
* `Builtin.openNames_listsOpen`: the built-in commands that are listed.
* `Setup.resolve_commands`: what the line that asks for the list does and replies.
* `listing_exact`: what the list tells behind every run over a new database.
-/

namespace ChatWarden

open Exchange (OnlyLog StoreHolds)
open Store (Content Database)
open Text (FollowsWord splitOn)

/-! ## The rows of a scene -/

theorem Store.Database.openFor_keysDistinct (path : String) (clock : Store.Tick)
    (users : List String) :
    ((Database.openFor { path, clock } users).value.2).KeysDistinct := by
  let opened : Database := { path, clock, commands := some {}, trusted := some {} }
  have hopened : (Database.openFor { path, clock } users).value.2 = (opened.seed users).value.2 :=
    rfl
  have hempty : opened.KeysDistinct := by
    intro name table ht
    cases name <;> cases ht <;> exact Store.Table.distinct_empty
  rw [hopened, Database.seed_value]
  exact Database.KeysDistinct.trustAll users hempty

theorem Passes.keysDistinct {db last : Database} {moments : List Moment}
    (h : Passes db moments last) (hdb : db.KeysDistinct) : last.KeysDistinct := by
  induction h with
  | nil db => exact hdb
  | cons hfirst _ ih => exact ih (hfirst.keysDistinct hdb)

/-- Moments that write only such things keep the rows to them. -/
theorem Passes.holds {content : Content} {db last : Database} {moments : List Moment}
    (h : Passes db moments last)
    (hq : ∀ moment ∈ moments, ∀ query, moment.exchange.request = .store query →
      content.OfQuery query) (hdb : db.Holds content) : last.Holds content := by
  induction h with
  | nil db => exact hdb
  | cons hfirst _ ih =>
    obtain ⟨hmoment, hrest⟩ := List.forall_mem_cons.mp hq
    exact ih hrest (hfirst.holds hmoment hdb)

theorem Scene.Sound.first (setup : Setup) (db : Database) :
    Scene.Sound setup db { world := { db } } :=
  ⟨fun hh => by simp at hh, fun hm => by simp at hm, .nil _⟩

/-- However the handlers take turns, they write only what the checks let through. -/
theorem Scene.Sound.holds {setup : Setup} {start : Database} {scene : Scene}
    (h : scene.Sound setup start)
    (hstart : start.Holds (Content.checked setup.registry.contains)) :
    scene.world.db.Holds (Content.checked setup.registry.contains) := by
  refine h.passes.holds (fun moment hm => ?_) hstart
  have hlt := h.who_lt hm
  have hhandler : scene.handlers[moment.who]? = some scene.handlers[moment.who] :=
    List.getElem?_eq_getElem hlt
  have hwrites := setup.handle_writes scene.handlers[moment.who].text
    scene.handlers[moment.who].sender
  exact ((h.leads hhandler).within (Job.within_iff.mp hwrites)).1 _
    (mem_exchangesOf.mpr ⟨moment, hm, rfl, rfl⟩)

/-- Every live command of a database that holds only what the checks let through has a clean row. -/
theorem Store.Database.Holds.exists_clean {db : Database}
    (h : db.Holds (Content.checked Builtin.registry.value.contains)) {name response : String}
    (hlive : db.responses name = some response) :
    ∃ row : Store.CommandRow, row.IsClean ∧ row.name = name := by
  cases ht : db.commands with
  | none =>
    rw [Database.responses, ht] at hlive
    cases hlive
  | some table =>
    rw [Database.responses_of_some ht] at hlive
    obtain ⟨row, hfound, -⟩ := Option.map_eq_some_iff.mp hlive
    have hkey := List.find?_some (p := fun row : Store.CommandRow =>
      Store.Row.key row == name && Store.isLive row) hfound
    rw [Bool.and_eq_true, beq_iff_eq] at hkey
    exact ⟨row, .of_content (h .commands table ht row (List.mem_of_find?_eq_some hfound)), hkey.1⟩

/-! ## The names that are listed -/

/-- All names of built-in commands that need no trust, in increasing order. -/
structure Builtin.ListsOpen (names : List String) : Prop where
  increasing : names.Pairwise (· < ·)
  mem_iff (name : String) : name ∈ names ↔
    ∃ command : Builtin, IsCommand.requiresTrust command = false ∧ IsCommand.name command = name

/-- All names of live custom commands, in increasing order. -/
structure Store.Database.ListsLive (db : Database) (names : List String) : Prop where
  increasing : names.Pairwise (· < ·)
  mem_iff (name : String) : name ∈ names ↔ (db.responses name).isSome = true

namespace Builtin

theorem name_injective : Function.Injective (IsCommand.name : Builtin → String) := by
  have hall : ∀ a ∈ all, ∀ b ∈ all, IsCommand.name a = IsCommand.name b → a = b := by decide
  have hmem (command : Builtin) : command ∈ all := by
    rcases command with _ | _ | _ | _ | _ | _ | _ | ⟨⟨⟩⟩ | ⟨⟨⟩⟩ <;> decide
  exact fun a b => hall a (hmem a) b (hmem b)

theorem mem_registry (command : Builtin) : command ∈ registry.value.commands := by
  rcases command with _ | _ | _ | _ | _ | _ | _ | ⟨⟨⟩⟩ | ⟨⟨⟩⟩ <;> decide

theorem openNames_listsOpen : ListsOpen (openNames registry.value) where
  increasing := by
    have hnodup : (registry.value.commands.map IsCommand.name).Nodup := by decide
    rw [openNames, List.pairwise_map]
    exact (Registry.all_strict hnodup).filter _
  mem_iff name := by
    simp only [openNames, List.mem_map, List.mem_filter, Registry.mem_all, Bool.not_eq_true']
    constructor
    · rintro ⟨command, ⟨-, hopen⟩, hname⟩
      exact ⟨command, hopen, hname⟩
    · rintro ⟨command, hopen, hname⟩
      exact ⟨command, ⟨mem_registry command, hopen⟩, hname⟩

end Builtin

/-- A successful listing tells the live commands. -/
theorem Store.Database.Answers.listsLive {db after : Database} {names : List String}
    (h : db.Answers ⟨.store .listNames, .ok names⟩ after) (hdb : db.KeysDistinct) :
    db.ListsLive names := by
  rcases h.cases_query with ⟨now, table, ht, hanswer, -⟩ | ⟨failure, hanswer, -⟩
  · obtain rfl := Except.ok.inj hanswer
    have hd : Store.Table.Distinct table := hdb .commands table ht
    refine ⟨Store.Table.liveSorted_strict hd, fun name => ?_⟩
    rw [Database.responses_of_some ht, Option.isSome_iff_exists]
    simp only [← Store.CommandTable.mem_liveSorted_iff hd]
    constructor
    · intro hmem
      obtain ⟨row, hrow, rfl⟩ := List.mem_map.mp hmem
      exact ⟨row.response, List.mem_map.mpr ⟨row, hrow, rfl⟩⟩
    · rintro ⟨response, hmem⟩
      obtain ⟨row, hrow, hpair⟩ := List.mem_map.mp hmem
      exact List.mem_map.mpr ⟨row, hrow, congrArg Prod.fst hpair⟩
  · cases hanswer

/-! ## The line that asks for the list -/

namespace Listing

variable {names : List String} {path : List Exchange} {outcome : Except Failure Reply}

/-- The names that a listing adds. -/
def added : Except Store.Failure (List String) → List String
  | .ok custom => custom
  | .error _ => []

theorem execute_ends (h : (execute names).Ends path outcome) :
    ∃ answer rest, path = ⟨.store .listNames, answer⟩ :: rest ∧ OnlyLog rest ∧
      outcome = .ok (.text (", ".intercalate (names ++ added answer))) := by
  obtain ⟨answer, rest, rfl, hrest⟩ := Job.ends_request_bind.mp h
  refine ⟨answer, rest, rfl, ?_⟩
  cases answer with
  | ok custom =>
    obtain ⟨rfl, rfl⟩ := Job.ends_pure.mp hrest
    exact ⟨List.forall_mem_nil _, rfl⟩
  | error failure =>
    obtain ⟨more, rfl, hmore⟩ := Job.ends_note_bind.mp hrest
    obtain ⟨rfl, rfl⟩ := Job.ends_pure.mp hmore
    refine ⟨fun exchange he => ?_, by rw [added, List.append_nil]⟩
    rw [List.mem_singleton.mp he]
    rfl

end Listing

/-- The line that asks for the list asks the store once, and replies with one text. -/
theorem Setup.resolve_commands {setup : Setup} {line sender args : String} {path : List Exchange}
    {outcome : Except Failure Reply} (hcall : setup.called? line = some (.commands, args))
    (h : (setup.dispatcher.resolve line sender).Ends path outcome) :
    ∃ answer rest, path = ⟨.store .listNames, answer⟩ :: rest ∧ OnlyLog rest ∧
      outcome = .ok (.text
        (", ".intercalate (Builtin.openNames setup.registry ++ Listing.added answer))) := by
  revert hcall h
  refine setup.resolve_cases line sender
    (motive := fun called job => called = some (.commands, args) → job.Ends path outcome → _)
    (fun hcall => by cases hcall) (fun name hcall => by cases hcall) fun command call hcall h => ?_
  obtain ⟨rfl, rfl⟩ := Prod.mk.inj (Option.some.inj hcall)
  -- the gate is open for everybody
  have hopen : Gate.invoke (Builtin.execute setup.tools setup.registry Builtin.commands)
      Builtin.commands call.args sender = Listing.execute (Builtin.openNames setup.registry) := rfl
  rw [hopen] at h
  rcases Job.ends_bind.mp h with ⟨front, back, reply, rfl, hfront, hback⟩ | ⟨failure, hfailed, -⟩
  · obtain ⟨answer, rest, rfl, hrest, hreply⟩ := Listing.execute_ends hfront
    have hlog : OnlyLog back := (hback.within (noteCall_asks ..)).1
    obtain ⟨more, -, hmore⟩ := Job.ends_note_bind.mp hback
    obtain ⟨-, rfl⟩ := Job.ends_pure.mp hmore
    exact ⟨answer, rest ++ back, rfl, List.forall_mem_append.mpr ⟨hrest, hlog⟩, hreply⟩
  · obtain ⟨_, _, -, -, hreply⟩ := Listing.execute_ends hfailed
    cases hreply

/-! ## Reading the list -/

theorem comma_notMem {name : String} (h : ∀ c ∈ name.toList, c.isAlphanum = true) :
    ',' ∉ name.toList := by
  intro hmem
  have hcomma := h ',' hmem
  revert hcomma
  decide

theorem Builtin.name_chars (command : Builtin) :
    ∀ c ∈ (IsCommand.name command).toList, c.isAlphanum = true := by
  have hname : Chat.isCommandName (IsCommand.name command) = true := by
    rcases command with _ | _ | _ | _ | _ | _ | _ | ⟨⟨⟩⟩ | ⟨⟨⟩⟩ <;> decide
  exact (Chat.isCommandName_iff.mp hname).2

/-- The names of built-in commands and those of clean rows can be read back, and all of them
    differ. -/
theorem Builtin.ListsOpen.read_back {opened custom : List String} (hopened : ListsOpen opened)
    (hcustom : ∀ name ∈ custom, ∃ row : Store.CommandRow, row.IsClean ∧ row.name = name)
    (hnodup : custom.Nodup) :
    splitOn ", " (", ".intercalate (opened ++ custom)) = opened ++ custom ∧
      (opened ++ custom).Nodup := by
  have hping : "ping" ∈ opened := (hopened.mem_iff "ping").mpr ⟨.ping, rfl, rfl⟩
  have hne : opened ++ custom ≠ [] := List.ne_nil_of_mem (List.mem_append_left custom hping)
  have hchars : ∀ name ∈ opened ++ custom, ',' ∉ name.toList := by
    intro name hname
    rcases List.mem_append.mp hname with hopen | hlive
    · obtain ⟨command, -, rfl⟩ := (hopened.mem_iff name).mp hopen
      exact comma_notMem (Builtin.name_chars command)
    · obtain ⟨row, hclean, rfl⟩ := hcustom name hlive
      exact comma_notMem hclean.name_chars
  have happart : opened.Disjoint custom := by
    intro name hopen hlive
    obtain ⟨command, -, rfl⟩ := (hopened.mem_iff name).mp hopen
    obtain ⟨row, hclean, hname⟩ := hcustom _ hlive
    exact hclean.not_builtin command hname
  have hincreasing : opened.Nodup := hopened.increasing.imp fun hlt => ne_of_lt hlt
  have hseparator : ", ".toList = ',' :: [' '] := by decide
  refine ⟨Text.splitOn_intercalate hseparator hne hchars, ?_⟩
  exact hincreasing.append hnodup happart

/-- No privileged command is among the names of open built-in commands and of clean rows. -/
theorem Builtin.ListsOpen.privileged_notMem {opened custom : List String}
    (hopened : ListsOpen opened)
    (hcustom : ∀ name ∈ custom, ∃ row : Store.CommandRow, row.IsClean ∧ row.name = name)
    {command : Builtin} (htrust : IsCommand.requiresTrust command = true) :
    IsCommand.name command ∉ opened ++ custom := by
  intro hmem
  rcases List.mem_append.mp hmem with hopen | hlive
  · obtain ⟨other, hother, hname⟩ := (hopened.mem_iff _).mp hopen
    rw [Builtin.name_injective hname, htrust] at hother
    cases hother
  · obtain ⟨row, hclean, hname⟩ := hcustom _ hlive
    exact hclean.not_builtin command hname

/-- What the text of a list tells about a database, if it was listed while the store held or failed:
    its parts are names of open built-in commands, and behind them those of custom commands. -/
structure Listing.Tells (db : Database) (held : Prop) (reply : String)
    (opened custom : List String) : Prop where
  parts : splitOn ", " reply = opened ++ custom
  nodup : (opened ++ custom).Nodup
  opened_listed : Builtin.ListsOpen opened
  live_listed : held → db.ListsLive custom
  failed : ¬held → custom = []
  unprivileged (command : Builtin) : IsCommand.requiresTrust command = true →
    IsCommand.name command ∉ splitOn ", " reply

/-- Every custom command that is listed is live. -/
theorem Listing.Tells.exists_response {db : Database} {held : Prop} {reply : String}
    {opened custom : List String} (h : Tells db held reply opened custom) {name : String}
    (hname : name ∈ custom) : ∃ response, db.responses name = some response := by
  by_cases hheld : held
  · exact Option.isSome_iff_exists.mp (((h.live_listed hheld).mem_iff name).mp hname)
  · rw [h.failed hheld] at hname
    cases hname

namespace Setup

variable {settings : Config.Settings} {identity : Config.Identity} {path : List Exchange}
  {before after : Database} {outcome : Except Failure Reply}

/-- Without a mark no line is a call. -/
theorem mark_ne {setup : Setup} {line : String} {called : Builtin × String}
    (h : setup.called? line = some called) : setup.mark ≠ "" := by
  intro hempty
  rw [called?, Chat.ofLine?_eq_none (.inl hempty)] at h
  cases h

/-- On a database that holds only what the checks let through, the list is exact. -/
theorem list_tells {line sender args : String}
    (hholds : before.Holds (Content.checked Builtin.registry.value.contains))
    (hkeys : before.KeysDistinct)
    (hcall : (ofRun settings identity).called? line = some (.commands, args))
    (h : ((ofRun settings identity).dispatcher.resolve line sender).Ends path outcome)
    (ha : before.AnswersAll path after) :
    ∃ reply opened custom, outcome = .ok (.text reply) ∧ after.SameTables before ∧
      Listing.Tells before (StoreHolds path) reply opened custom := by
  obtain ⟨answer, rest, rfl, hlog, hreply⟩ := resolve_commands hcall h
  cases ha with
  | @cons _ next _ _ _ hlisted hrest =>
  obtain rfl := hlog.eq_of_answersAll hrest
  have hopened := Builtin.openNames_listsOpen
  refine ⟨_, Builtin.openNames Builtin.registry.value, Listing.added answer, hreply,
    hlisted.sameTables rfl, ?_⟩
  cases answer with
  | ok names =>
    have hlive := hlisted.listsLive hkeys
    have hclean : ∀ name ∈ names, ∃ row : Store.CommandRow, row.IsClean ∧ row.name = name := by
      intro name hname
      obtain ⟨response, hresponse⟩ := Option.isSome_iff_exists.mp ((hlive.mem_iff name).mp hname)
      exact hholds.exists_clean hresponse
    obtain ⟨hparts, hnodup⟩ :=
      hopened.read_back hclean (hlive.increasing.imp fun hlt => ne_of_lt hlt)
    have hheld : StoreHolds (⟨.store .listNames, .ok names⟩ :: rest) := .cons_ok hlog.storeHolds
    refine ⟨hparts, hnodup, hopened, fun _ => hlive, fun hfailed => absurd hheld hfailed, ?_⟩
    intro command htrust hmem
    exact hopened.privileged_notMem hclean htrust (hparts ▸ hmem)
  | error failure =>
    obtain ⟨hparts, hnodup⟩ := hopened.read_back (List.forall_mem_nil _) List.nodup_nil
    have hfailed : ¬StoreHolds (⟨.store .listNames, .error failure⟩ :: rest) := fun hheld =>
      hheld _ failure List.mem_cons_self
    refine ⟨hparts, hnodup, hopened, fun hheld => absurd hheld hfailed, fun _ => rfl, ?_⟩
    intro command htrust hmem
    exact hopened.privileged_notMem (List.forall_mem_nil _) htrust (hparts ▸ hmem)

/-- On a database that holds only what the checks let through, every live name can be called. -/
theorem live_called {name response behind viewer : String}
    (hholds : before.Holds (Content.checked Builtin.registry.value.contains))
    (hmark : identity.mark ≠ "") (hlive : before.responses name = some response)
    (hbehind : FollowsWord behind.toList)
    (h : ((ofRun settings identity).dispatcher.resolve
      (identity.mark ++ name ++ behind) viewer).Ends path outcome)
    (ha : before.AnswersAll path after) (hheld : StoreHolds path) :
    outcome = .ok (.text response) := by
  obtain ⟨row, hclean, rfl⟩ := hholds.exists_clean hlive
  have hname : Chat.isCommandName row.name = true :=
    Chat.isCommandName_iff.mpr ⟨hclean.name_ne, hclean.name_chars⟩
  have hcall := Chat.Call.ofLine?_append hmark (Chat.isWord_of_isCommandName hname) hbehind
  have hget := Builtin.registry_get?_eq_none fun command heq => hclean.not_builtin command heq.symm
  exact resolve_called hcall hget hlive h ha hheld

end Setup

/-- **The list is exact.** Whatever the configuration file says, the stores can be opened on a new
    database. Whatever lines come after that, however their handlers take turns and whatever fails
    meanwhile: a line that asks for the list is answered with a text and changes no table. Split at
    its separators, the text tells the names of the built-in commands that need no trust, and, if
    the listing did not fail, those of all live custom commands behind them, both in increasing
    order; no name comes twice, and none is that of a privileged command. Whoever types one of the
    custom names behind the mark, while the tables are as they were, is answered with its stored
    response, if the store does not fail. -/
theorem listing_exact (settings : Config.Settings) (text : List Char) (path : String)
    (clock : Store.Tick) (surroundings : Surroundings) (events : List Event) :
    let identity := (Config.Identity.ofEntries (Config.entries text)).value
    let setup := Setup.ofRun settings identity
    ∃ db, (Launch.openStores identity (.ok { path, clock })).value = .ok db ∧
      let scene := Scene.play setup surroundings { world := { db } } events
      ∀ line sender args, setup.called? line = some (.commands, args) →
        let asked := (setup.dispatcher.resolve line sender).attempt.record
          (World.answer surroundings) scene.world
        ∃ reply opened custom, asked.2.1 = .ok (.text reply) ∧
          asked.2.2.db.SameTables scene.world.db ∧
          Listing.Tells scene.world.db (StoreHolds asked.1) reply opened custom ∧
          ∀ name ∈ custom, ∃ response, scene.world.db.responses name = some response ∧
            ∀ (later : Surroundings) (world : World) (behind viewer : String),
              world.db.SameTables scene.world.db → FollowsWord behind.toList →
              let called := (setup.dispatcher.resolve
                (identity.mark ++ name ++ behind) viewer).attempt.record (World.answer later) world
              StoreHolds called.1 → called.2.1 = .ok (.text response) := by
  intro identity setup
  have hempty : ({ path, clock } : Database).Holds
      (Content.checked Builtin.registry.value.contains) := by
    rintro (_ | _) table ⟨⟩
  have hopened := Database.openFor_holds
    (Config.Identity.ofEntries_trusted (Config.entries text)) hempty
  refine ⟨_, Launch.openStores_value identity _ (Database.openFor_new ..), ?_⟩
  intro scene line sender args hcall asked
  have hsound : scene.Sound setup _ := (Scene.Sound.first setup _).play events
  have hholds : scene.world.db.Holds (Content.checked Builtin.registry.value.contains) :=
    hsound.holds hopened
  have hkeys : scene.world.db.KeysDistinct :=
    hsound.passes.keysDistinct (Database.openFor_keysDistinct path clock identity.trusted)
  obtain ⟨reply, opened, custom, hreply, hsame, htells⟩ := Setup.list_tells hholds hkeys hcall
    (World.ends_record surroundings _ scene.world) (World.answersAll_record ..)
  refine ⟨reply, opened, custom, hreply, hsame, htells, fun name hname => ?_⟩
  obtain ⟨response, hresponse⟩ := htells.exists_response hname
  refine ⟨response, hresponse, fun later world behind viewer htables hbehind => ?_⟩
  have hlive : world.db.responses name = some response := by
    rw [htables.responses_eq, hresponse]
  exact Setup.live_called (hholds.of_sameTables htables) (Setup.mark_ne hcall) hlive hbehind
    (World.ends_record later _ world) (World.answersAll_record ..)

/-- Alice creates a command while bob, who may not, tries the same with another one. Whoever asks
    for the list then learns of hers only, and can call it. -/
theorem listing_exact_hi :
    let identity := (Config.Identity.ofEntries (Config.entries "trusted.users = alice".toList)).value
    let setup := Setup.ofRun {} identity
    ∃ db, (Launch.openStores identity (.ok { path := "bot.db" })).value = .ok db ∧
      let scene := Scene.play setup .calm { world := { db } }
        [.arrives "!addcmd hi hello" "alice", .arrives "!addcmd ho hey" "bob", .acts 0, .acts 1,
          .acts 0, .acts 0, .acts 1]
      let asked := (setup.dispatcher.resolve "!commands" "bob").attempt.record
        (World.answer .calm) scene.world
      let called := (setup.dispatcher.resolve "!hi" "bob").attempt.record
        (World.answer .calm) asked.2.2
      called.2.1 = .ok (.text "hello") ∧ ∃ reply, asked.2.1 = .ok (.text reply) ∧
        "hi" ∈ splitOn ", " reply ∧ "ho" ∉ splitOn ", " reply ∧
          "addcmd" ∉ splitOn ", " reply := by
  intro identity setup
  obtain ⟨db, hdb, hlist⟩ := listing_exact {} "trusted.users = alice".toList "bot.db" 0 .calm
    [.arrives "!addcmd hi hello" "alice", .arrives "!addcmd ho hey" "bob", .acts 0, .acts 1,
      .acts 0, .acts 0, .acts 1]
  have hopened : (Launch.openStores identity (.ok { path := "bot.db" })).value =
      .ok ((Database.openFor { path := "bot.db" } ["alice"]).value.2) := rfl
  obtain rfl := Except.ok.inj (hopened.symm.trans hdb)
  refine ⟨_, hdb, ?_⟩
  intro scene asked called
  have hhi : scene.world.db.responses "hi" = some "hello" := by decide +kernel
  have hho : scene.world.db.responses "ho" = none := by decide +kernel
  have hheld : StoreHolds asked.1 := by decide +kernel
  dsimp only [called, asked, scene, setup, identity] at hhi hho hheld ⊢
  obtain ⟨reply, opened, custom, hreply, hsame, htells, hcalled⟩ :=
    hlist "!commands" "bob" "" (by decide +kernel)
  have hmem : "hi" ∈ custom := by
    refine ((htells.live_listed hheld).mem_iff "hi").mpr ?_
    exact Option.isSome_iff_exists.mpr ⟨"hello", hhi⟩
  have hnone : "ho" ∉ opened ++ custom := by
    intro hlisted
    rcases List.mem_append.mp hlisted with hopen | hlive
    · obtain ⟨command, -, hname⟩ := (htells.opened_listed.mem_iff "ho").mp hopen
      revert command
      rintro (_ | _ | _ | _ | _ | _ | _ | ⟨_ | _ | _⟩ | ⟨_ | _⟩) <;> decide
    · obtain ⟨response, hresponse⟩ := htells.exists_response hlive
      cases hho.symm.trans hresponse
  obtain ⟨response, hresponse, htyped⟩ := hcalled "hi" hmem
  obtain rfl : "hello" = response := Option.some.inj (hhi.symm.trans hresponse)
  have hanswered := htyped .calm _ "" "bob" hsame (by simp [FollowsWord]) (by decide +kernel)
  refine ⟨hanswered, reply, hreply, ?_, ?_, htells.unprivileged (.custom .create) rfl⟩
  · rw [htells.parts]
    exact List.mem_append_right opened hmem
  · rw [htells.parts]
    exact hnone

end ChatWarden
