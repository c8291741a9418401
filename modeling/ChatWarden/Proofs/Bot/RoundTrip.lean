import ChatWarden.Proofs.Bot.Confinement
import ChatWarden.Proofs.Bot.Sent
import ChatWarden.Proofs.Bot.Truth
import ChatWarden.Proofs.Chat.Calls

/-!
# Commands that were created can be called

A trusted sender creates a command, other lines follow, and somebody calls it. Unless one of those
lines replaces its response or deletes it, the call is answered with the text that was given,
without the blanks at its ends.

Results:
* `Setup.handle_creates`: the line that creates a command leaves its response in the database.
* `Handles.keeps_response`: lines that spare a command leave its response there.
* `Setup.resolve_called`: the call of a command is answered with its response.
* `created_then_called`: all of it, from the text of one line to the message of another.
-/

namespace ChatWarden

open Chat (isCommandName)
open Exchange (StoreHolds sent)
open Store (Database)
open Text (FollowsWord IsBlankText stripped)

namespace Setup

variable {setup : Setup} {text sender name args : String} {path : List Exchange}
  {before after : Database}

/-! ## Creating -/

/-- The line creates a command, if its name is free and the arguments are fine. -/
theorem handle_creates {outcome : Except Failure Unit} (hdb : before.KeysDistinct)
    (hsender : before.Trusts sender)
    (hcall : setup.called? text = some (.custom .create, args))
    (hfine : CustomAdmin.objection? setup.registry.contains .create args sender = none)
    (hfree : before.responses (Chat.nameAndText args).1 = none)
    (h : (setup.handle text sender).Ends path outcome) (ha : before.AnswersAll path after)
    (hholds : StoreHolds path) :
    after.responses (Chat.nameAndText args).1 = some (Chat.nameAndText args).2 := by
  have hadmin : setup.called? text = some ((Admin.custom .create).builtin, args) := hcall
  obtain ⟨reply, -, htold⟩ := handle_told hdb hsender hadmin h ha
  obtain ⟨hiff, hdone⟩ := htold.determines
  rw [if_pos (hiff.mpr ⟨hfine, hholds, hfree⟩)] at hdone
  exact hdone

/-! ## Sparing -/

/-- The line calls no command that replaces the response of this command or deletes it. -/
def Spares (setup : Setup) (text name : String) : Prop :=
  ∀ action args, setup.called? text = some (.custom action, args) →
    action.target args = name → action = .create

theorem handle_spares (h : setup.Spares text name) :
    (setup.handle text sender).AsksOnly fun request => request.Spares name := by
  refine (setup.handle_writes_called text sender).widen fun request hr => ⟨?_, ?_⟩
  · rintro response rfl
    obtain ⟨admin, args, hcall, hquery⟩ := hr rfl
    rcases admin with (_ | _ | _) | (_ | _)
    case custom.update =>
      obtain ⟨htarget, -⟩ := Store.Query.updateCommand.inj (Request.store.inj hquery)
      cases h .update args hcall htarget.symm
    all_goals cases hquery
  · rintro rfl
    obtain ⟨admin, args, hcall, hquery⟩ := hr rfl
    rcases admin with (_ | _ | _) | (_ | _)
    case custom.delete =>
      have htarget := Store.Query.deleteCommand.inj (Request.store.inj hquery)
      cases h .delete args hcall htarget.symm
    all_goals cases hquery

end Setup

/-- Lines that spare a command leave its response as it is. -/
theorem Handles.keeps_response {setup : Setup} {start last : Database} {run : List Handling}
    {name response : String} (h : Handles setup start run last) (hdb : start.KeysDistinct)
    (hlive : start.responses name = some response)
    (hrun : ∀ line ∈ run, setup.Spares line.text name) : last.responses name = some response := by
  induction h with
  | nil db => exact hlive
  | @cons line rest last hline _ ih =>
    obtain ⟨hfirst, hmore⟩ := List.forall_mem_cons.mp hrun
    have hasks := (hline.leads.within (Job.within_iff.mp (Setup.handle_spares hfirst))).1
    exact ih (hline.answers.keysDistinct hdb) (hline.answers.keeps_response hdb hlive hasks) hmore

/-- A command that a line creates is live behind further lines that spare it. -/
theorem Setup.live_of_created {setup : Setup} {surroundings : Surroundings} {start : World}
    {text sender args name response : String} {further : List (String × String)}
    (hdb : start.db.KeysDistinct) (hsender : start.db.Trusts sender)
    (hcall : setup.called? text = some (.custom .create, args))
    (hfine : CustomAdmin.objection? setup.registry.contains .create args sender = none)
    (hpair : Chat.nameAndText args = (name, response)) (hfree : start.db.responses name = none)
    (hfurther : ∀ line ∈ further, setup.Spares line.1 name)
    (hholds : ∀ line ∈ (setup.handleAll surroundings start ((text, sender) :: further)).1,
      StoreHolds line.path) :
    (setup.handleAll surroundings start ((text, sender) :: further)).2.db.responses name =
      some response := by
  let first := (setup.handle text sender).attempt.record (World.answer surroundings) start
  have hends : (setup.handle text sender).Ends first.1 first.2.1 :=
    World.ends_record surroundings _ start
  have hanswers : start.db.AnswersAll first.1 first.2.2.db :=
    World.answersAll_record surroundings _ start
  have hcreated : first.2.2.db.responses name = some response := by
    have hfree' : start.db.responses (Chat.nameAndText args).1 = none := by rw [hpair, hfree]
    have hlive := handle_creates hdb hsender hcall hfine hfree' hends hanswers
      (hholds _ List.mem_cons_self)
    rwa [hpair] at hlive
  have hrest := setup.handleAll_handles surroundings further first.2.2
  refine hrest.keeps_response (hanswers.keysDistinct hdb) hcreated fun line hline => ?_
  have hmem : (line.text, line.sender) ∈ further := by
    rw [← setup.handleAll_lines surroundings further first.2.2]
    exact List.mem_map_of_mem hline
  exact hfurther _ hmem

/-! ## Calling -/

namespace Setup

variable {setup : Setup} {text sender name response : String} {path : List Exchange}
  {before after : Database} {outcome : Except Failure Reply}

/-- The call of a live command is answered with its response. -/
theorem resolveCustom_called (hlive : before.responses name = some response)
    (h : (Dispatcher.resolveCustom name sender).Ends path outcome)
    (ha : before.AnswersAll path after) (hholds : StoreHolds path) :
    outcome = .ok (.text response) := by
  obtain ⟨answer, rest, rfl, hrest⟩ := Job.ends_request_bind.mp h
  cases ha with
  | cons hfirst _ =>
  cases answer with
  | error failure => exact absurd List.mem_cons_self (hholds _ failure)
  | ok found =>
    obtain rfl : found = some response := hfirst.found.trans hlive
    obtain ⟨more, -, hmore⟩ := Job.ends_note_bind.mp hrest
    exact (Job.ends_pure.mp hmore).2

/-- A line that calls a live command is answered with its response. -/
theorem resolve_called {args : String}
    (hcall : Chat.Call.ofLine? setup.mark text = some ⟨name, args⟩)
    (hget : setup.registry.get? name = none) (hlive : before.responses name = some response)
    (h : (setup.dispatcher.resolve text sender).Ends path outcome)
    (ha : before.AnswersAll path after) (hholds : StoreHolds path) :
    outcome = .ok (.text response) := by
  have hresolve : setup.dispatcher.resolve text sender = Dispatcher.resolveCustom name sender := by
    simp only [Dispatcher.resolve, dispatcher, hcall, Dispatcher.resolveCall, hget]
  rw [hresolve] at h
  exact resolveCustom_called hlive h ha hholds

/-- A line that calls a live command has its response as the reply. -/
theorem reply?_called {args : String} {ending : Except Failure Unit}
    (hcall : Chat.Call.ofLine? setup.mark text = some ⟨name, args⟩)
    (hget : setup.registry.get? name = none) (hlive : before.responses name = some response)
    (h : (setup.handle text sender).Ends path ending) (ha : before.AnswersAll path after)
    (hholds : StoreHolds path) : setup.reply? text sender path = some (.text response) := by
  rcases handle_ends h with
    ⟨front, back, reply, rfl, hfront, -, hreply⟩ | ⟨failure, hfailed, -⟩
  · obtain ⟨middle, hanswers, -⟩ := ha.split
    have hfronts : StoreHolds front := fun query failure hmem =>
      hholds query failure (List.mem_append_left back hmem)
    have hfound := resolve_called hcall hget hlive hfront hanswers hfronts
    rw [hreply, Except.ok.inj hfound]
  · have hfound := resolve_called hcall hget hlive hfailed ha hholds
    cases hfound

end Setup

/-! ## Names of the bot -/

/-- A name that no built-in command has is free in the registry of the bot. -/
theorem Builtin.registry_get?_eq_none {name : String}
    (h : ∀ command : Builtin, IsCommand.name command ≠ name) :
    Builtin.registry.value.get? name = none :=
  List.find?_eq_none.mpr fun command _ => by simpa using h command

theorem Builtin.registry_contains_eq_false {name : String}
    (h : ∀ command : Builtin, IsCommand.name command ≠ name) :
    Builtin.registry.value.contains name = false :=
  List.any_eq_false.mpr fun command _ => by simpa using h command

/-- A name is fine for a new command if it holds ASCII letters and digits and no built-in command
    has it, and arguments that were put together from it and a text that is not blank are too. -/
theorem CustomAdmin.objection?_create {name text sender : String}
    (hname : isCommandName name = true)
    (hbuiltin : ∀ command : Builtin, IsCommand.name command ≠ name)
    (htext : ¬IsBlankText text) :
    objection? Builtin.registry.value.contains .create (name ++ " " ++ text) sender = none := by
  have hword := Chat.isWord_of_isCommandName hname
  have hproblem : problem? Builtin.registry.value.contains .create name = none := by
    rw [problem?, hname, Builtin.registry_contains_eq_false hbuiltin]
    rfl
  rw [objection?, Chat.hasWords_append hword htext, Chat.nameAndText_append hword htext, hproblem]
  rfl

/-- The line that creates a command calls the command for that, with the name and the text as its
    arguments. -/
theorem Setup.called?_create {settings : Config.Settings} {identity : Config.Identity}
    {name text : String} (hmark : identity.mark ≠ "") (hname : isCommandName name = true) :
    (ofRun settings identity).called? (identity.mark ++ "addcmd " ++ name ++ " " ++ text) =
      some (.custom .create, name ++ " " ++ text) := by
  have hword := Chat.isWord_of_isCommandName hname
  have hadd : Text.IsWord "addcmd".toList := Chat.isWord_of_isCommandName (by decide)
  have hline : identity.mark ++ "addcmd " ++ name ++ " " ++ text =
      identity.mark ++ "addcmd" ++ (" " ++ (name ++ " " ++ text)) := by
    have hsplit : "addcmd " = "addcmd" ++ " " := by decide
    rw [hsplit]
    simp only [String.append_assoc]
  have hargs : (" " ++ (name ++ " " ++ text)).toList =
      ' ' :: (name.toList ++ ' ' :: text.toList) := by simp
  have hfollows : FollowsWord (" " ++ (name ++ " " ++ text)).toList := by
    rw [hargs]
    exact Text.followsWord_cons (by decide)
  have hstart : Text.stripStart (" " ++ (name ++ " " ++ text)).toList =
      (name ++ " " ++ text).toList := by
    obtain ⟨c, more, hcons, -, hkept⟩ := hword.exists_cons (' ' :: text.toList)
    have hblank : ∀ d ∈ [' '], Text.isBlank d = true := by simp [Text.isBlank]
    rw [hargs, Chat.toList_pair, ← List.singleton_append, Text.stripStart_append hblank, hkept,
      hcons]
  have hget : Builtin.registry.value.get? "addcmd" = some (.custom .create) := by decide
  have hcall := Chat.Call.ofLine?_append hmark hadd hfollows
  rw [hstart, String.ofList_toList, ← hline] at hcall
  simp only [called?, ofRun, hcall, Option.bind_some, hget, Option.map_some]

/-- **Round trip.** A trusted sender creates a command with a name that is free and a text that is
    not blank, and other lines follow which spare it. If no query fails, whoever calls the command,
    with arguments or without, is answered with the text without the blanks at its ends. If the
    channel is joined and the text is one line and short enough for a message, it is sent as it
    is. -/
theorem created_then_called (settings : Config.Settings) (identity : Config.Identity)
    (surroundings : Surroundings) (start : World) (sender viewer name text behind : String)
    (further : List (String × String)) (hmark : identity.mark ≠ "")
    (hdb : start.db.KeysDistinct) (hsender : start.db.Trusts sender)
    (hname : isCommandName name = true)
    (hbuiltin : ∀ command : Builtin, IsCommand.name command ≠ name)
    (hfree : start.db.responses name = none) (htext : ¬IsBlankText text)
    (hfurther : ∀ line ∈ further, (Setup.ofRun settings identity).Spares line.1 name)
    (hbehind : FollowsWord behind.toList) :
    let setup := Setup.ofRun settings identity
    let create := identity.mark ++ "addcmd " ++ name ++ " " ++ text
    let call := identity.mark ++ name ++ behind
    let earlier := setup.handleAll surroundings start ((create, sender) :: further)
    let resolved := (setup.dispatcher.resolve call viewer).attempt.record
      (World.answer surroundings) earlier.2
    let handled := (setup.handle call viewer).attempt.record (World.answer surroundings) earlier.2
    (∀ line ∈ earlier.1, StoreHolds line.path) →
      (StoreHolds resolved.1 → resolved.2.1 = .ok (.text (stripped text))) ∧
      (StoreHolds handled.1 → (∀ asked, surroundings.answer asked .findChannel = true) →
        (∀ c ∈ (stripped text).toList, Chat.isBreak c = false) →
        (stripped text).length ≤ Chat.maxMessage → sent handled.1 = [stripped text]) := by
  intro setup create call earlier resolved handled hearlier
  have hword := Chat.isWord_of_isCommandName hname
  -- the first line leaves the text in the database, and the others leave it there
  have hlive : earlier.2.db.responses name = some (stripped text) :=
    Setup.live_of_created hdb hsender (Setup.called?_create hmark hname)
      (CustomAdmin.objection?_create hname hbuiltin htext)
      (Chat.nameAndText_append hword htext) hfree hfurther hearlier
  have hcall := Chat.Call.ofLine?_append hmark hword hbehind
  have hget := Builtin.registry_get?_eq_none hbuiltin
  refine ⟨fun hholds => ?_, fun hholds hchannel hbreak hlen => ?_⟩
  · have hends : (setup.dispatcher.resolve call viewer).Ends resolved.1 resolved.2.1 :=
      World.ends_record surroundings _ earlier.2
    exact Setup.resolve_called hcall hget hlive hends (World.answersAll_record ..) hholds
  · have hends : (setup.handle call viewer).Ends handled.1 handled.2.1 :=
      World.ends_record surroundings _ earlier.2
    have hreply : setup.reply? call viewer handled.1 = some (.text (stripped text)) :=
      Setup.reply?_called hcall hget hlive hends (World.answersAll_record ..) hholds
    have hne : stripped text ≠ "" := fun hempty => htext (Text.stripped_eq_empty_iff.mp hempty)
    have hfull : (Reply.text (stripped text)).isEmpty = false := by
      simpa [Reply.isEmpty, Reply.toJson, Json.isTruthy] using hne
    have hjoined : ⟨.findChannel, false⟩ ∉ handled.1 := by
      intro hmem
      obtain ⟨world, hanswer⟩ := World.mem_record hmem
      exact Bool.false_ne_true (hanswer.trans (hchannel world.asked))
    rw [Setup.handle_sent_of_joined setup call viewer hends hreply hfull hjoined,
      Reply.messages_of_filled hfull, Chat.fit_of_short hbreak (by rwa [Text.stripped_stripped]),
      Text.stripped_stripped]

/-- Alice creates a command and asks for a change of another one; bob asks for the first to be
    created again, and then calls it. -/
theorem created_then_called_hi :
    let start : World := { db := ((Database.fresh "bot.db").trust "alice").2 }
    let setup := Setup.ofRun {} {}
    let further := [("!updcmd ho ha", "alice"), ("!addcmd hi again", "bob")]
    let earlier := setup.handleAll .calm start (("!addcmd hi  hello  world ", "alice") :: further)
    let resolved := (setup.dispatcher.resolve "!hi there" "bob").attempt.record
      (World.answer .calm) earlier.2
    let handled := (setup.handle "!hi there" "bob").attempt.record (World.answer .calm) earlier.2
    resolved.2.1 = .ok (.text "hello  world") ∧ sent handled.1 = ["hello  world"] := by
  intro start setup further earlier resolved handled
  have hdb : start.db.Reachable :=
    .trust .good (.trust "alice") (.trust .good .reopen (.command .good .reopen (.made "bot.db")))
  have hsender : start.db.Trusts "alice" :=
    ⟨⟨[⟨1, "alice", 1, 1, none⟩], 1⟩, by decide, ⟨1, "alice", 1, 1, none⟩, by decide, rfl, rfl⟩
  have hbuiltin : ∀ command : Builtin, IsCommand.name command ≠ "hi" := by
    rintro (_ | _ | _ | _ | _ | _ | _ | ⟨_ | _ | _⟩ | ⟨_ | _⟩) <;> decide
  have hupdate : setup.called? "!updcmd ho ha" = some (.custom .update, "ho ha") := by
    decide +kernel
  have hcreate : setup.called? "!addcmd hi again" = some (.custom .create, "hi again") := by
    decide +kernel
  have hfurther : ∀ line ∈ further, setup.Spares line.1 "hi" := by
    refine List.forall_mem_cons.mpr ⟨fun action args hcall htarget => ?_,
      List.forall_mem_cons.mpr ⟨fun action args hcall htarget => ?_, by simp⟩⟩
    · cases hupdate.symm.trans hcall
      revert htarget
      decide +kernel
    · cases hcreate.symm.trans hcall
      rfl
  have hbehind : FollowsWord " there".toList := by
    intro c hc
    obtain rfl : ' ' = c := Option.some.inj hc
    decide
  have htext : stripped " hello  world " = "hello  world" := by decide +kernel
  have hcreating : ({} : Config.Identity).mark ++ "addcmd " ++ "hi" ++ " " ++ " hello  world " =
      "!addcmd hi  hello  world " := by decide +kernel
  have hcalling : ({} : Config.Identity).mark ++ "hi" ++ " there" = "!hi there" := by
    decide +kernel
  have htold := created_then_called {} {} .calm start "alice" "bob" "hi" " hello  world " " there"
    further (by decide) hdb.keysDistinct hsender (by decide +kernel) hbuiltin (by decide +kernel)
    (by decide +kernel) hfurther hbehind
  have hbreak : ∀ c ∈ "hello  world".toList, Chat.isBreak c = false := by
    have hnone : "hello  world".toList.any Chat.isBreak = false := by decide
    exact fun c hc => by simpa using List.any_eq_false.mp hnone c hc
  rw [hcreating, hcalling, htext] at htold
  obtain ⟨hresolved, hsent⟩ := htold (by decide +kernel)
  dsimp only [resolved, handled, earlier, setup]
  exact ⟨hresolved (by decide +kernel),
    hsent (by decide +kernel) (fun _ => rfl) hbreak (by decide)⟩

end ChatWarden
