import ChatWarden.Proofs.Bot.World
import ChatWarden.Proofs.Chat.Words
import ChatWarden.Proofs.Command.Admin

/-!
# The row that a typed name is about

To create or change a command, the name and the response are taken out of the arguments together; to
delete it, the first word is taken. Both ways find the same name, so all three actions are about the
row of the first word, and what the check for two words lets through has a response.

Results:
* `Course.queries_eq`: a course makes its query, or none.
* `CustomAdmin.objection?_eq_none_iff`: which arguments are not refused.
* `CustomAdmin.query_key?`, `CustomAdmin.query_response`: what the query of an action is about.
* `typed_name_decides_row`: the words of arguments, and what each action makes of them.
-/

namespace ChatWarden

open Chat (Coherent coherent firstWord hasWords nameAndText)
open Exchange (OnlyLog)
open Store (Database Query TableName)

/-! ## Queries on a path -/

/-- The response that a query writes, if it writes one. -/
def Store.Query.response? : Query → Option String
  | .createCommand _ response => some response
  | .updateCommand _ response => some response
  | _ => none

/-- The query that a request is, if it is one. -/
def Request.query? : Request → Option Query
  | .store query => some query
  | _ => none

/-- The queries on a path, in their order. -/
def Exchange.queries (path : List Exchange) : List Query := path.filterMap (·.request.query?)

open Exchange (queries)

theorem Exchange.queries_append (front back : List Exchange) :
    queries (front ++ back) = queries front ++ queries back := List.filterMap_append

theorem Exchange.mem_queries {path : List Exchange} {query : Query} {exchange : Exchange}
    (hmem : exchange ∈ path) (h : exchange.request = .store query) : query ∈ queries path :=
  List.mem_filterMap.mpr ⟨exchange, hmem, by rw [h, Request.query?]⟩

/-- Records are no queries. -/
theorem Exchange.OnlyLog.queries_eq {path : List Exchange} (h : OnlyLog path) :
    queries path = [] := by
  refine List.filterMap_eq_nil_iff.mpr fun exchange hmem => ?_
  have harea := h exchange hmem
  obtain ⟨request, answer⟩ := exchange
  cases request with
  | store query => cases harea
  | _ => rfl

/-- A course makes its query if there is no objection, and none otherwise. -/
theorem Course.queries_eq {objection? : Option Failure} {query : Query} {replyTo : Bool → String}
    {path : List Exchange} {outcome : Except Failure Reply}
    (h : Course objection? query replyTo path outcome) :
    queries path = if objection? = none then [query] else [] := by
  have hmade {front back : List Exchange} {answer : Except Store.Failure query.Result}
      (hfront : OnlyLog front) (hback : OnlyLog back) :
      queries (front ++ ⟨.store query, answer⟩ :: back) = [query] := by
    rw [Exchange.queries_append, hfront.queries_eq, List.nil_append, ← List.singleton_append,
      Exchange.queries_append, hback.queries_eq]
    rfl
  cases h with
  | refused hsome hlog => rw [hsome, if_neg (Option.some_ne_none _), hlog.queries_eq]
  | failed hnone hfront hback => rw [if_pos hnone, hmade hfront hback]
  | answered hnone hfront hback => rw [if_pos hnone, hmade hfront hback]

/-! ## What actions make of their arguments -/

namespace CustomAdmin

variable {isBuiltin : String → Bool} {action : CustomAdmin} {args sender : String}

theorem problem?_eq_none_iff (action : CustomAdmin) {name : String} :
    problem? isBuiltin action name = none ↔ IsFree isBuiltin name := by
  rw [problem?, IsFree]
  cases Chat.isCommandName name <;> cases isBuiltin name <;> simp

/-- A name that is free is a word of the arguments. -/
theorem hasWords_of_isFree (h : IsFree isBuiltin (firstWord args)) : hasWords args 1 = true := by
  rw [← (coherent args).name_ne_iff, ← (coherent args).firstWord_eq]
  exact (Chat.isCommandName_iff.mp h.1).1

/-- Arguments are refused unless they pass the checks of the action. -/
theorem objection?_eq_none_iff :
    objection? isBuiltin action args sender = none ↔ action.Passes isBuiltin args := by
  have hchecks (missing : Bool) (form : Usage) (name : String) :
      objectionTo missing form (problem? isBuiltin action name) = none ↔
        missing = false ∧ IsFree isBuiltin name := by
    rw [objectionTo, ← problem?_eq_none_iff action]
    cases missing <;> simp
  cases action with
  | create => rw [objection?, hchecks, Bool.not_eq_false', Passes]
  | update => rw [objection?, hchecks, Bool.not_eq_false', Passes]
  | delete =>
    rw [objection?, hchecks, Bool.not_eq_false', Passes]
    exact and_iff_right_of_imp hasWords_of_isFree

@[simp] theorem query_table (action : CustomAdmin) (args : String) :
    (action.query args).table = .commands := by
  cases action <;> rfl

/-- Whichever way the name is taken out of the arguments, the query is about their first word. -/
theorem query_key? (action : CustomAdmin) (args : String) :
    (action.query args).key? = some (firstWord args) := by
  rw [(coherent args).firstWord_eq]
  cases action with
  | create => rfl
  | update => rfl
  | delete => exact congrArg some (coherent args).firstWord_eq

/-- Arguments that pass give a response that is not empty, where they give one. -/
theorem query_response {response : String} (h : action.Passes isBuiltin args)
    (hresponse : (action.query args).response? = some response) :
    response = (nameAndText args).2 ∧ response ≠ "" := by
  have htext (hwords : hasWords args 2 = true) (hsame : (nameAndText args).2 = response) :
      response = (nameAndText args).2 ∧ response ≠ "" :=
    ⟨hsame.symm, hsame ▸ (coherent args).text_ne_iff.mpr hwords⟩
  cases action with
  | create => exact htext h.1 (Option.some.inj hresponse)
  | update => exact htext h.1 (Option.some.inj hresponse)
  | delete => cases hresponse

/-- An action makes its query if the arguments pass, and none otherwise. -/
theorem execute_queries {path : List Exchange} {outcome : Except Failure Reply}
    (h : (execute isBuiltin action args sender).Ends path outcome) :
    (action.Passes isBuiltin args → queries path = [action.query args]) ∧
      (¬action.Passes isBuiltin args → queries path = []) := by
  have hqueries := (execute_course isBuiltin action args sender h).queries_eq
  constructor
  · intro hpasses
    rw [hqueries, if_pos (objection?_eq_none_iff.mpr hpasses)]
  · intro hrefused
    rw [hqueries, if_neg fun hnone => hrefused (objection?_eq_none_iff.mp hnone)]

end CustomAdmin

/-- **Typed names.** The words of arguments are those that the arguments are put together from, and
    all questions about arguments are answered in line with them. So whichever action on custom
    commands is run with them, on any database and with any failures, it makes its one query if the
    arguments pass its checks and no query otherwise. The query is about the row of the first word
    in the table of commands, a response that it writes is the text behind that word and not empty,
    and every other row of both tables stays. -/
theorem typed_name_decides_row (args : String) :
    (∀ found : List String, Text.wordsOf args = found ↔
      Text.Spaced (found.map String.toList) args.toList) ∧
    Coherent args ∧
    ∀ (isBuiltin : String → Bool) (action : CustomAdmin) (sender : String)
      (surroundings : Surroundings) (start : World),
      let run := (action.execute isBuiltin args sender).attempt.record
        (World.answer surroundings) start
      (action.Passes isBuiltin args → queries run.1 = [action.query args]) ∧
      (¬action.Passes isBuiltin args → queries run.1 = []) ∧
      (∀ query ∈ queries run.1, query.table = .commands ∧ query.key? = some (firstWord args) ∧
        ∀ response, query.response? = some response →
          response = (nameAndText args).2 ∧ response ≠ "") ∧
      ∀ (table : TableName) (key : String), (table = .commands → key ≠ firstWord args) →
        run.2.2.db.row? table key = start.db.row? table key := by
  refine ⟨fun found => Text.wordsOf_eq_iff, coherent args, ?_⟩
  intro isBuiltin action sender surroundings start run
  obtain ⟨hasked, hrefused⟩ := CustomAdmin.execute_queries (World.ends_record surroundings _ start)
  have hquery : ∀ query ∈ queries run.1,
      query = action.query args ∧ action.Passes isBuiltin args := by
    intro query hmem
    by_cases hpasses : action.Passes isBuiltin args
    · rw [hasked hpasses] at hmem
      exact ⟨List.mem_singleton.mp hmem, hpasses⟩
    · rw [hrefused hpasses] at hmem
      cases hmem
  refine ⟨hasked, hrefused, ?_, ?_⟩
  · intro query hmem
    obtain ⟨rfl, hpasses⟩ := hquery query hmem
    exact ⟨action.query_table args, action.query_key? args, fun response =>
      CustomAdmin.query_response hpasses⟩
  · intro table key hkey
    refine (World.answersAll_record surroundings _ start).row?_eq fun exchange hmem htouches => ?_
    obtain ⟨query, hrequest, htable, hown⟩ := htouches
    obtain ⟨rfl, -⟩ := hquery query (Exchange.mem_queries hmem hrequest)
    rw [action.query_key? args] at hown
    exact hkey (htable.symm.trans (action.query_table args)) (Option.some.inj hown).symm

/-- Blanks of any kind around and between the words: what was created is what is deleted. -/
example :
    let run (action : CustomAdmin) (args : String) :=
      (action.execute (fun _ => false) args "alice").attempt.record (World.answer .calm)
        { db := .fresh "bot.db" }
    queries (run .create "\u2003hi\t\u00a0hello  there\n").1 =
        [.createCommand "hi" "hello  there"] ∧
      queries (run .delete "\r\nhi there").1 = [.deleteCommand "hi"] ∧
      queries (run .update " hi \u3000").1 = [] := by decide +kernel

end ChatWarden
