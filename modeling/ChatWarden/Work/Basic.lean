import ChatWarden.Work.Failure
import ChatWarden.Work.Request

/-!
# Work

A piece of work is a value that either is done or asks its surroundings for something and knows
how to go on with each answer. Work does nothing by itself: it can be run against surroundings of
any kind, alone or in turns with other work.

Results:
* work is a monad, and its laws hold;
* `Work.run` runs it against surroundings that answer every request at once.
-/

namespace ChatWarden

/-- Work that ends with a value. -/
inductive Work (α : Type) where
  | done (value : α)
  | ask (request : Request) (next : request.Answer → Work α)

namespace Work

/-- Goes on with the value of some work. -/
def bind {α β : Type} : Work α → (α → Work β) → Work β
  | .done value, f => f value
  | .ask request next, f => .ask request fun answer => (next answer).bind f

instance : Monad Work where
  pure := .done
  bind := bind

theorem bind_done {α : Type} (work : Work α) : work.bind .done = work := by
  induction work with
  | done value => rfl
  | ask request next ih => simp only [bind]; congr; funext answer; exact ih answer

theorem bind_assoc {α β γ : Type} (work : Work α) (f : α → Work β) (g : β → Work γ) :
    (work.bind f).bind g = work.bind fun a => (f a).bind g := by
  induction work with
  | done value => rfl
  | ask request next ih => simp only [bind]; congr; funext answer; exact ih answer

instance : LawfulMonad Work :=
  LawfulMonad.mk' Work (fun work => bind_done work) (fun _ _ => rfl) bind_assoc

/-- Work that is one request. -/
def request (r : Request) : Work r.Answer := .ask r .done

/-- Writes a record. -/
def note (record : Log.Record) : Work Unit := request (.note record)

/-- Runs work against surroundings in a state, which answer each request at once. -/
def run {α σ : Type} (answer : (r : Request) → σ → r.Answer × σ) : Work α → σ → α × σ
  | .done value, state => (value, state)
  | .ask r next, state => (next (answer r state).1).run answer (answer r state).2

end Work

/-- Work that may fail. -/
abbrev Job (α : Type) := ExceptT Failure Work α

namespace Job

/-- A job that is one request. -/
def request (r : Request) : Job r.Answer := ExceptT.lift (Work.request r)

/-- Writes a record. -/
def note (record : Log.Record) : Job Unit := ExceptT.lift (Work.note record)

/-- A job that fails where its answer is a failure of the store. -/
def ofStore {α : Type} (answer : Except Store.Failure α) : Job α :=
  ExceptT.mk (pure (answer.mapError .store))

/-- A job that fails where its answer is a fault. -/
def ofFault {α : Type} (answer : Except Fault α) : Job α :=
  ExceptT.mk (pure (answer.mapError .fault))

/-- A job as work that ends with its value or its failure. -/
def attempt {α : Type} (job : Job α) : Work (Except Failure α) := ExceptT.run job

/-- A job that goes on with what became of another one. -/
def thenWith {α β : Type} (job : Job α) (next : Except Failure α → Job β) : Job β :=
  ExceptT.mk (job.attempt.bind fun outcome => (next outcome).attempt)

end Job

end ChatWarden
