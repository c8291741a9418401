import ChatWarden.Proofs.Store.Answers
import ChatWarden.Proofs.Work.Ends

/-!
# Surroundings

Everything around the bot, as it answers request after request: the database, which is met under
one condition after the other, and all else, which may answer as it likes.

Results:
* `World.answers`: queries are answered by the database, and nothing else changes it.
* `Work.leads_record` and `World.answersAll_record`: what was recorded while work was run is a path
  of the work, and the database answered along it.
* `World.ends_record`: a recorded job ended along what was recorded.
* `Work.record_run`: recording does not change the run.
-/

namespace ChatWarden

open Store (Condition Database)

/-- How everything around the bot answers, by the number of requests that it answered before: the
    condition under which the database is met, and what any other request gets. -/
structure Surroundings where
  condition : Nat → Condition
  answer : Nat → (request : Request) → request.Answer

/-- The surroundings of a rehearsal, in which the store does not fail. -/
def Surroundings.ofStage (stage : Rehearsal.Stage) : Surroundings where
  condition _ := .good
  answer _ request := (stage.answer request).1

/-- Surroundings in which nothing fails. -/
def Surroundings.calm : Surroundings := .ofStage {}

/-- The surroundings with services on the web that answer every request in this way. -/
def Surroundings.withWeb (surroundings : Surroundings) (web : Except Fault Http.Response) :
    Surroundings where
  condition := surroundings.condition
  answer
    | _, .fetch _ => web
    | asked, request => surroundings.answer asked request

/-- The database in its surroundings, after some number of requests. -/
structure World where
  db : Database
  asked : Nat := 0

/-- Answers a request. -/
def World.answer (surroundings : Surroundings) (world : World) :
    (request : Request) → request.Answer × World
  | .store query =>
    let (answer, db) := (surroundings.condition world.asked).perform (·.answer query) world.db
    (answer, ⟨db, world.asked + 1⟩)
  | request => (surroundings.answer world.asked request, ⟨world.db, world.asked + 1⟩)

/-- Queries are answered by the database, and no other request changes it. -/
theorem World.answers (surroundings : Surroundings) (world : World) (request : Request) :
    world.db.Answers ⟨request, (world.answer surroundings request).1⟩
      (world.answer surroundings request).2.db := by
  cases request with
  | store query => exact ⟨surroundings.condition world.asked, rfl⟩
  | _ => rfl

@[simp] theorem World.answer_asked (surroundings : Surroundings) (world : World)
    (request : Request) : (world.answer surroundings request).2.asked = world.asked + 1 := by
  cases request <;> rfl

/-! ## Recorded runs -/

/-- Runs work like `Work.run`, and records every exchange. -/
def Work.record {α σ : Type} (answer : σ → (request : Request) → request.Answer × σ) :
    Work α → σ → List Exchange × α × σ
  | .done value, state => ([], value, state)
  | .ask request next, state =>
    let (answered, state) := answer state request
    let (path, last) := (next answered).record answer state
    (⟨request, answered⟩ :: path, last)

section Record

variable {α σ : Type}

theorem Work.record_run (answer : σ → (request : Request) → request.Answer × σ) (work : Work α) :
    ∀ state, (work.record answer state).2 =
      work.run (fun request state => answer state request) state := by
  induction work with
  | done value => exact fun _ => rfl
  | ask request next ih => exact fun state => ih _ _

theorem Work.leads_record (answer : σ → (request : Request) → request.Answer × σ)
    (work : Work α) :
    ∀ state, work.Leads (work.record answer state).1 (.done (work.record answer state).2.1) := by
  induction work with
  | done value => exact fun _ => .nil _
  | ask request next ih => exact fun state => .cons (ih _ _)

theorem World.ends_record (surroundings : Surroundings) (job : Job α) (world : World) :
    job.Ends (job.attempt.record (World.answer surroundings) world).1
      (job.attempt.record (World.answer surroundings) world).2.1 :=
  Job.ends_iff.mpr (Work.leads_record (World.answer surroundings) job.attempt world)

theorem World.answersAll_record (surroundings : Surroundings) (work : Work α) :
    ∀ world : World, world.db.AnswersAll (work.record (World.answer surroundings) world).1
      (work.record (World.answer surroundings) world).2.2.db := by
  induction work with
  | done value => exact fun world => .nil _
  | ask request next ih => exact fun world => .cons (world.answers surroundings request) (ih _ _)

/-- Whatever was recorded is an answer of the surroundings. -/
theorem World.mem_record {surroundings : Surroundings} {work : Work α} {exchange : Exchange} :
    ∀ {world : World}, exchange ∈ (work.record (World.answer surroundings) world).1 →
      ∃ earlier : World, exchange.answer = (earlier.answer surroundings exchange.request).1 := by
  induction work with
  | done value =>
    intro world hmem
    cases hmem
  | ask request next ih =>
    intro world hmem
    rcases List.mem_cons.mp hmem with rfl | hrest
    · exact ⟨world, rfl⟩
    · exact ih _ hrest

end Record

end ChatWarden
