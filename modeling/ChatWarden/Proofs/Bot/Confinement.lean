import ChatWarden.Proofs.Bot.Guard
import ChatWarden.Proofs.Bot.World

/-!
# Privilege stays with the trusted

Lines are handled one after the other, each to its end, by whatever senders and in whatever
surroundings. Tables change and snippets run only at lines of senders who are trusted when their
line comes, so whoever was not trusted at first needs somebody trusted to become so.

Results:
* `Handled.trusts_of_privileged`: what one line can do.
* `Handles.vouched`: who can be trusted after a run.
* `privilege_confined`: both, for every run.
-/

namespace ChatWarden

open Store (Condition Database)

/-! ## One line -/

/-- A line that was handled: what was done for it, and the database before and after. -/
structure Handling where
  text : String
  sender : String
  before : Database
  path : List Exchange
  outcome : Except Failure Unit
  after : Database

namespace Handling

/-- A table is another one after the line. -/
def Changes (line : Handling) : Prop := ¬line.after.SameTables line.before

/-- The running of a snippet was entered for the line. -/
def EntersSandbox (line : Handling) : Prop :=
  ∃ exchange ∈ line.path, Sandbox.Inside exchange.request

/-- The line granted trust in a user: it called the command for it, and the store did it. -/
def Grants (setup : Setup) (line : Handling) (user : String) : Prop :=
  setup.Grants line.text user ∧ ⟨.store (.trust user), .ok ()⟩ ∈ line.path

end Handling

/-- The line was handled by the bot, from its first request to its end. -/
structure Handled (setup : Setup) (line : Handling) : Prop where
  leads : (setup.handle line.text line.sender).attempt.Leads line.path (.done line.outcome)
  answers : line.before.AnswersAll line.path line.after

namespace Handled

variable {setup : Setup} {line : Handling} {user : String}

/-- What is privileged was done for a sender who had a live row when the line came. -/
theorem trusts_of_privileged (h : Handled setup line) {exchange : Exchange}
    (he : exchange ∈ line.path) (hp : exchange.request.IsPrivileged) :
    line.before.Trusts line.sender := by
  obtain ⟨past, future, hpath⟩ := List.append_of_mem he
  have hl := h.leads
  rw [hpath] at hl
  obtain ⟨rest, rfl⟩ := (setup.handle_guarded line.text line.sender).path_granted hl hp
  have ha := h.answers
  rw [hpath] at ha
  cases ha with
  | cons hfirst _ => exact hfirst.trusts

theorem trusts_of_changes (h : Handled setup line) (hc : line.Changes) :
    line.before.Trusts line.sender := by
  by_contra hn
  apply hc
  refine h.answers.sameTables fun exchange he => ?_
  by_contra hw
  exact hn (h.trusts_of_privileged he (.inl (by simpa using hw)))

theorem trusts_of_entersSandbox (h : Handled setup line) (hs : line.EntersSandbox) :
    line.before.Trusts line.sender := by
  obtain ⟨exchange, he, hinside⟩ := hs
  exact h.trusts_of_privileged he (.inr hinside)

/-- Who is trusted after a line was so before, or was granted trust by it. -/
theorem grants (h : Handled setup line) (ht : line.after.Trusts user) :
    line.before.Trusts user ∨ line.Grants setup user ∧ line.before.Trusts line.sender := by
  rcases h.answers.granted ht with hbefore | he
  · exact .inl hbefore
  · have hasks := (h.leads.within (Job.within_iff.mp (setup.handle_grants ..))).1 _ he
    exact .inr ⟨⟨hasks user rfl, he⟩, h.trusts_of_privileged he (.inl rfl)⟩

end Handled

/-! ## Runs -/

/-- Lines that were handled one after the other, from one database to another. -/
inductive Handles (setup : Setup) : Database → List Handling → Database → Prop
  | nil (db : Database) : Handles setup db [] db
  | cons {line : Handling} {rest : List Handling} {last : Database} :
      Handled setup line → Handles setup line.after rest last →
      Handles setup line.before (line :: rest) last

/-- Somebody was trusted at first, or was granted trust by a line of somebody vouched before. -/
inductive Vouched (setup : Setup) (start : Database) : List Handling → String → Prop
  | initially {earlier : List Handling} {user : String} :
      start.Trusts user → Vouched setup start earlier user
  | granted {earlier later : List Handling} {line : Handling} {user : String} :
      line.Grants setup user → Vouched setup start earlier line.sender →
      Vouched setup start (earlier ++ line :: later) user

namespace Handles

variable {setup : Setup} {start last : Database} {run : List Handling}

theorem handled (h : Handles setup start run last) : ∀ line ∈ run, Handled setup line := by
  induction h with
  | nil db => simp
  | cons hline _ ih => exact List.forall_mem_cons.mpr ⟨hline, ih⟩

/-- If no sender is trusted at first, nothing ever changes that. -/
theorem untouched (h : Handles setup start run last)
    (hn : ∀ line ∈ run, ¬start.Trusts line.sender) :
    last.SameTables start ∧ ∀ line ∈ run, ¬line.EntersSandbox := by
  induction h with
  | nil db => exact ⟨fun _ => rfl, by simp⟩
  | @cons line rest last hline _ ih =>
    obtain ⟨hfirst, hrest⟩ := List.forall_mem_cons.mp hn
    have hsame : line.after.SameTables line.before := by
      by_contra hc
      exact hfirst (hline.trusts_of_changes hc)
    obtain ⟨hlast, hsandbox⟩ := ih fun other ho ht => hrest other ho (hsame.trusts_iff.mp ht)
    refine ⟨fun name => (hlast name).trans (hsame name), ?_⟩
    exact List.forall_mem_cons.mpr
      ⟨fun hs => hfirst (hline.trusts_of_entersSandbox hs), hsandbox⟩

end Handles

theorem Vouched.append {setup : Setup} {start : Database} {earlier : List Handling} {user : String}
    (h : Vouched setup start earlier user) (later : List Handling) :
    Vouched setup start (earlier ++ later) user := by
  cases h with
  | initially ht => exact .initially ht
  | granted hg hv =>
    rw [List.append_assoc, List.cons_append]
    exact .granted hg hv

namespace Handles

variable {setup : Setup} {start db last : Database} {past run : List Handling}

/-- Who becomes trusted during a run that follows other lines was granted trust by somebody
    vouched, if all who were trusted before it were vouched. -/
theorem vouched (h : Handles setup db run last)
    (hdb : ∀ user, db.Trusts user → Vouched setup start past user)
    {earlier later : List Handling} {line : Handling} (hrun : run = earlier ++ line :: later)
    {user : String} (hbefore : ¬line.before.Trusts user) (hafter : line.after.Trusts user) :
    line.Grants setup user ∧ Vouched setup start (past ++ earlier) line.sender := by
  induction h generalizing past earlier with
  | nil db => simp at hrun
  | @cons first rest last hfirst hrest ih =>
    cases earlier with
    | nil =>
      obtain ⟨rfl, rfl⟩ := List.cons.inj hrun
      rcases hfirst.grants hafter with ht | ⟨hg, hsender⟩
      · exact absurd ht hbefore
      · exact ⟨hg, by rw [List.append_nil]; exact hdb _ hsender⟩
    | cons other earlier =>
      obtain ⟨rfl, hrest'⟩ := List.cons.inj hrun
      have hnext (user : String) (ht : first.after.Trusts user) :
          Vouched setup start (past ++ [first]) user := by
        rcases hfirst.grants ht with ht | ⟨hg, hsender⟩
        · exact (hdb user ht).append _
        · exact .granted hg (hdb _ hsender)
      have hfound := ih hnext hrest'
      rwa [List.append_assoc, List.singleton_append] at hfound

end Handles

/-! ## Handling lines -/

/-- Handles lines one after the other, each to its end. -/
def Setup.handleAll (setup : Setup) (surroundings : Surroundings) :
    World → List (String × String) → List Handling × World
  | world, [] => ([], world)
  | world, (text, sender) :: rest =>
    let (path, outcome, next) :=
      (setup.handle text sender).attempt.record (World.answer surroundings) world
    let (lines, last) := setup.handleAll surroundings next rest
    (⟨text, sender, world.db, path, outcome, next.db⟩ :: lines, last)

theorem Setup.handleAll_handles (setup : Setup) (surroundings : Surroundings)
    (lines : List (String × String)) :
    ∀ world : World, Handles setup world.db (setup.handleAll surroundings world lines).1
      (setup.handleAll surroundings world lines).2.db := by
  induction lines with
  | nil => exact fun world => .nil _
  | cons line rest ih =>
    intro world
    have hleads := Work.leads_record (World.answer surroundings)
      (setup.handle line.1 line.2).attempt world
    have hanswers := World.answersAll_record surroundings
      (setup.handle line.1 line.2).attempt world
    exact @Handles.cons setup ⟨line.1, line.2, world.db, _, _, _⟩ _ _ ⟨hleads, hanswers⟩ (ih _)

theorem Setup.handleAll_lines (setup : Setup) (surroundings : Surroundings)
    (lines : List (String × String)) : ∀ world : World,
    (setup.handleAll surroundings world lines).1.map (fun line => (line.text, line.sender)) =
      lines := by
  induction lines with
  | nil => exact fun _ => rfl
  | cons line rest ih => exact fun _ => congrArg (line :: ·) (ih _)

/-- **Confinement.** Whatever lines are handled, and whatever fails meanwhile: the tables change
    and snippets are run only at lines of senders with a live row just before. If no sender has a
    live row at first, both tables end as they began and no snippet is run. Whoever becomes trusted
    was granted trust by a line of somebody who was trusted at first, or was granted trust earlier
    in this way. -/
theorem privilege_confined (setup : Setup) (surroundings : Surroundings) (start : World)
    (lines : List (String × String)) :
    let run := setup.handleAll surroundings start lines
    (∀ line ∈ run.1, line.Changes ∨ line.EntersSandbox → line.before.Trusts line.sender) ∧
    ((∀ line ∈ lines, ¬start.db.Trusts line.2) →
      run.2.db.SameTables start.db ∧ ∀ line ∈ run.1, ¬line.EntersSandbox) ∧
    (∀ earlier line later user, run.1 = earlier ++ line :: later →
      ¬line.before.Trusts user → line.after.Trusts user →
      line.Grants setup user ∧ Vouched setup start.db earlier line.sender) := by
  intro run
  have h : Handles setup start.db run.1 run.2.db := setup.handleAll_handles surroundings lines start
  refine ⟨fun line hline => ?_, fun hn => ?_, fun earlier line later user hrun => ?_⟩
  · rintro (hc | hs)
    · exact (h.handled line hline).trusts_of_changes hc
    · exact (h.handled line hline).trusts_of_entersSandbox hs
  · refine h.untouched fun line hline => ?_
    have hmem : (line.text, line.sender) ∈ lines := by
      rw [← setup.handleAll_lines surroundings lines start]
      exact List.mem_map_of_mem hline
    exact hn _ hmem
  · have hstart (user : String) (ht : start.db.Trusts user) : Vouched setup start.db [] user :=
      .initially ht
    exact h.vouched hstart hrun

/-- Alice lets bob in, who makes a command; eve can do nothing for herself. -/
theorem privilege_confined_chain :
    let start : World := { db := ((Database.fresh "bot.db").trust "alice").2 }
    let run := (Setup.ofRun {} {}).handleAll .calm start
      [("!trust bob", "alice"), ("!addcmd hi hello", "bob"), ("!trust eve", "eve")]
    run.2.db.trusted.map (fun table => table.rows.map (·.user)) = some ["alice", "bob"] ∧
      run.2.db.commands.map (fun table => table.rows.map (·.name)) = some ["hi"] ∧
      ∀ line ∈ run.1, line.Changes ∨ line.EntersSandbox → line.before.Trusts line.sender := by
  intro start run
  refine ⟨by decide +kernel, by decide +kernel, ?_⟩
  exact (privilege_confined (Setup.ofRun {} {}) .calm start _).1

end ChatWarden
