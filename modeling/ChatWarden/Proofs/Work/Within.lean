import ChatWarden.Work.Basic

/-!
# What work keeps within

Work keeps within requests and endings if it asks for nothing but these requests, whatever it is
answered, and comes to no ending but these. Because work is a tree, this is computed along it: each
way to build work has its own law, and together the laws take a whole command apart.

Results:
* `Work.within_bind`, `Job.within_bind`: the laws of sequences.
* `Job.within_tryCatch`, `Job.within_thenWith`: the laws of handled failures.
* `Work.Within.mono`: both sides can be widened.
* `Request.area` and `Request.IsPrivileged`: what requests reach, and which are left to trusted
  users.
-/

namespace ChatWarden

/-- Whatever it is answered, the work asks only for `asks` and comes only to `ends`. -/
def Work.Within {α : Type} : Work α → (asks : Request → Prop) → (ends : α → Prop) → Prop
  | .done value, _, ends => ends value
  | .ask request next, asks, ends => asks request ∧ ∀ answer, (next answer).Within asks ends

/-- Whatever it is answered, the job asks only for `asks` and comes only to `ends`. -/
def Job.Within {α : Type} (job : Job α) (asks : Request → Prop)
    (ends : Except Failure α → Prop) : Prop := job.attempt.Within asks ends

/-- What the work asks for first, if it asks for anything. -/
def Work.first? {α : Type} : Work α → Option Request
  | .done _ => none
  | .ask request _ => some request

namespace Work

variable {α β : Type} {asks asks' : Request → Prop}

theorem Within.mono {ends ends' : α → Prop} (hasks : ∀ request, asks request → asks' request)
    (hends : ∀ value, ends value → ends' value) {work : Work α} (h : work.Within asks ends) :
    work.Within asks' ends' := by
  induction work with
  | done value => exact hends value h
  | ask request next ih => exact ⟨hasks request h.1, fun answer => ih answer (h.2 answer)⟩

@[simp] theorem within_pure (value : α) (ends : α → Prop) :
    (pure value : Work α).Within asks ends ↔ ends value := Iff.rfl

theorem within_bind (work : Work α) (next : α → Work β) (ends : β → Prop) :
    (work.bind next).Within asks ends ↔
      work.Within asks fun value => (next value).Within asks ends := by
  induction work with
  | done value => exact Iff.rfl
  | ask request rest ih =>
    constructor
    · exact fun h => ⟨h.1, fun answer => (ih answer).mp (h.2 answer)⟩
    · exact fun h => ⟨h.1, fun answer => (ih answer).mpr (h.2 answer)⟩

@[simp] theorem within_bind' (work : Work α) (next : α → Work β) (ends : β → Prop) :
    (work >>= next).Within asks ends ↔
      work.Within asks fun value => (next value).Within asks ends := within_bind work next ends

@[simp] theorem within_map (f : α → β) (work : Work α) (ends : β → Prop) :
    (f <$> work).Within asks ends ↔ work.Within asks fun value => ends (f value) :=
  within_bind work _ ends

@[simp] theorem within_ask (r : Request) (next : r.Answer → Work α) (ends : α → Prop) :
    (ask r next).Within asks ends ↔ asks r ∧ ∀ answer, (next answer).Within asks ends := Iff.rfl

@[simp] theorem within_done (value : α) (ends : α → Prop) :
    (done value).Within asks ends ↔ ends value := Iff.rfl

theorem request_eq (r : Request) : request r = .ask r .done := rfl

end Work

namespace Job

variable {α β : Type} {asks asks' : Request → Prop}

theorem Within.mono {ends ends' : Except Failure α → Prop}
    (hasks : ∀ request, asks request → asks' request)
    (hends : ∀ outcome, ends outcome → ends' outcome) {job : Job α} (h : job.Within asks ends) :
    job.Within asks' ends' := Work.Within.mono hasks hends h

@[simp] theorem within_pure (value : α) (ends : Except Failure α → Prop) :
    (pure value : Job α).Within asks ends ↔ ends (.ok value) := Iff.rfl

@[simp] theorem within_throw (failure : Failure) (ends : Except Failure α → Prop) :
    (throw failure : Job α).Within asks ends ↔ ends (.error failure) := Iff.rfl

@[simp] theorem within_mk (work : Work (Except Failure α)) (ends : Except Failure α → Prop) :
    Job.Within (ExceptT.mk work) asks ends ↔ work.Within asks ends := Iff.rfl

/-- Work behind a job meets its outcome. -/
@[simp] theorem within_thenWith (job : Job α) (next : Except Failure α → Job β)
    (ends : Except Failure β → Prop) :
    (job.thenWith next).Within asks ends ↔
      job.Within asks fun outcome => (next outcome).Within asks ends :=
  Work.within_bind job.attempt _ ends

theorem within_congr {job : Job α} {ends ends' : Except Failure α → Prop}
    (h : ∀ outcome, ends outcome ↔ ends' outcome) :
    job.Within asks ends ↔ job.Within asks ends' := by
  constructor
  · exact Within.mono (fun _ => id) fun outcome => (h outcome).mp
  · exact Within.mono (fun _ => id) fun outcome => (h outcome).mpr

theorem bind_eq_thenWith (job : Job α) (next : α → Job β) :
    job >>= next = job.thenWith fun outcome =>
      match outcome with
      | .ok value => next value
      | .error failure => throw failure := by
  show Work.bind job.attempt _ = Work.bind job.attempt _
  congr 1
  funext outcome
  cases outcome <;> rfl

theorem tryCatch_eq_thenWith (job : Job α) (handler : Failure → Job α) :
    tryCatch job handler = job.thenWith fun outcome =>
      match outcome with
      | .ok value => pure value
      | .error failure => handler failure := by
  show Work.bind job.attempt _ = Work.bind job.attempt _
  congr 1
  funext outcome
  cases outcome <;> rfl

/-- A sequence ends as its first job does if that fails. -/
@[simp] theorem within_bind (job : Job α) (next : α → Job β) (ends : Except Failure β → Prop) :
    (job >>= next).Within asks ends ↔
      job.Within asks fun outcome =>
        match outcome with
        | .ok value => (next value).Within asks ends
        | .error failure => ends (.error failure) := by
  rw [bind_eq_thenWith, within_thenWith]
  refine within_congr fun outcome => ?_
  cases outcome <;> exact Iff.rfl

/-- A handled job ends as its handler does if it fails. -/
@[simp] theorem within_tryCatch (job : Job α) (handler : Failure → Job α)
    (ends : Except Failure α → Prop) :
    (tryCatch job handler).Within asks ends ↔
      job.Within asks fun outcome =>
        match outcome with
        | .ok value => ends (.ok value)
        | .error failure => (handler failure).Within asks ends := by
  rw [tryCatch_eq_thenWith, within_thenWith]
  refine within_congr fun outcome => ?_
  cases outcome <;> exact Iff.rfl

@[simp] theorem within_lift (work : Work α) (ends : Except Failure α → Prop) :
    Job.Within (ExceptT.lift work) asks ends ↔ work.Within asks fun value => ends (.ok value) :=
  Work.within_bind work _ ends

@[simp] theorem within_liftM (work : Work α) (ends : Except Failure α → Prop) :
    Job.Within (liftM work) asks ends ↔ work.Within asks fun value => ends (.ok value) :=
  within_lift work ends

theorem request_eq (r : Request) : request r = ExceptT.lift (.ask r .done) := rfl

@[simp] theorem within_note (record : Log.Record) (ends : Except Failure Unit → Prop) :
    (note record).Within asks ends ↔ asks (.note record) ∧ ends (.ok ()) :=
  and_congr_right fun _ => ⟨fun h => h (), fun h _ => h⟩

@[simp] theorem within_ofStore (answer : Except Store.Failure α)
    (ends : Except Failure α → Prop) :
    (ofStore answer).Within asks ends ↔ ends (answer.mapError .store) := Iff.rfl

@[simp] theorem within_ofFault (answer : Except Fault α) (ends : Except Failure α → Prop) :
    (ofFault answer).Within asks ends ↔ ends (answer.mapError .fault) := Iff.rfl

@[simp] theorem within_map (f : α → β) (job : Job α) (ends : Except Failure β → Prop) :
    (f <$> job).Within asks ends ↔ job.Within asks fun outcome => ends (outcome.map f) := by
  have hmap : f <$> job = job >>= fun value => pure (f value) := rfl
  rw [hmap, within_bind]
  refine within_congr fun outcome => ?_
  cases outcome <;> exact Iff.rfl

@[simp] theorem within_ite (c : Prop) [Decidable c] (job job' : Job α)
    (ends : Except Failure α → Prop) :
    (if c then job else job').Within asks ends ↔
      if c then job.Within asks ends else job'.Within asks ends := by
  split <;> exact Iff.rfl

@[simp] theorem within_dite (c : Prop) [Decidable c] (job : c → Job α) (job' : ¬c → Job α)
    (ends : Except Failure α → Prop) :
    (if h : c then job h else job' h).Within asks ends ↔
      if h : c then (job h).Within asks ends else (job' h).Within asks ends := by
  split <;> exact Iff.rfl

/-- Whatever it is answered, the job asks only for `asks`. -/
abbrev AsksOnly (job : Job α) (asks : Request → Prop) : Prop := job.Within asks fun _ => True

namespace AsksOnly

theorem widen {job : Job α} (h : job.AsksOnly asks)
    (hasks : ∀ request, asks request → asks' request) : job.AsksOnly asks' :=
  h.mono hasks fun _ => id

theorem request {r : Request} (h : asks r) : (Job.request r).AsksOnly asks :=
  ⟨h, fun _ => trivial⟩

theorem note {record : Log.Record} (h : asks (.note record)) : (Job.note record).AsksOnly asks :=
  ⟨h, fun _ => trivial⟩

theorem lift {work : Work α} (h : work.Within asks fun _ => True) :
    Job.AsksOnly (ExceptT.lift work) asks :=
  (within_lift work _).mpr h

/-- A job that follows another one may count on what the other one ends with. -/
theorem after {job : Job α} {next : α → Job β} {ends : Except Failure α → Prop}
    (h : job.Within asks ends) (hnext : ∀ value, ends (.ok value) → (next value).AsksOnly asks) :
    (job >>= next).AsksOnly asks := by
  rw [AsksOnly, within_bind]
  refine h.mono (fun _ => id) ?_
  rintro (failure | value) hends
  · trivial
  · exact hnext value hends

theorem bind {job : Job α} {next : α → Job β} (h : job.AsksOnly asks)
    (hnext : ∀ value, (next value).AsksOnly asks) : (job >>= next).AsksOnly asks :=
  after h fun value _ => hnext value

theorem tryCatch {job : Job α} {handler : Failure → Job α} (h : job.AsksOnly asks)
    (hhandler : ∀ failure, (handler failure).AsksOnly asks) :
    (tryCatch job handler).AsksOnly asks := by
  rw [AsksOnly, within_tryCatch]
  refine h.mono (fun _ => id) ?_
  rintro (failure | value) _
  · exact hhandler failure
  · trivial

theorem thenWith {job : Job α} {next : Except Failure α → Job β} (h : job.AsksOnly asks)
    (hnext : ∀ outcome, (next outcome).AsksOnly asks) : (job.thenWith next).AsksOnly asks := by
  rw [AsksOnly, within_thenWith]
  exact h.mono (fun _ => id) fun outcome _ => hnext outcome

theorem ite {c : Prop} [Decidable c] {job job' : Job α} (h : c → job.AsksOnly asks)
    (h' : ¬c → job'.AsksOnly asks) : (if c then job else job').AsksOnly asks := by
  split
  · next hc => exact h hc
  · next hc => exact h' hc

end AsksOnly

theorem within_iff {job : Job α} {ends : Except Failure α → Prop} :
    job.Within asks ends ↔ job.attempt.Within asks ends := Iff.rfl

-- the laws take a job apart; unfolding would run it
attribute [irreducible] Within

end Job

/-! ## Areas -/

/-- Whether a part of the bot belongs to the running of snippets. -/
def Log.Origin.isSandbox : Log.Origin → Bool
  | .node | .analyzer | .container | .pipeline => true
  | _ => false

namespace Request

/-- The parts of the surroundings. -/
inductive Area where
  | log
  | store
  | data
  | web
  | sandbox
  | channel
  deriving DecidableEq, Repr

/-- The area of a request. Records that are written on the way of a snippet belong to the sandbox:
    they tell that it was entered. -/
@[reducible] def area : Request → Area
  | .note record => if record.origin.isSandbox then .sandbox else .log
  | .store _ => .store
  | .readData | .draw _ => .data
  | .openClient _ | .fetch _ => .web
  | .findChannel | .send _ => .channel
  | _ => .sandbox

/-- Whether a request may change a table. -/
def isWrite : Request → Bool
  | .store query => query.isWrite
  | _ => false

/-- Whether a request is left to trusted users: it may change a table, or it belongs to the
    running of snippets. -/
def IsPrivileged (request : Request) : Prop := request.isWrite = true ∨ request.area = .sandbox

theorem IsPrivileged.area_eq {request : Request} (h : request.IsPrivileged) :
    request.area = .store ∨ request.area = .sandbox := by
  rcases h with h | h
  · cases request with
    | store query => exact .inl rfl
    | _ => cases h
  · exact .inr h

/-- Whether a request asks who is trusted. -/
def IsLookup (request : Request) : Prop := ∃ user, request = .store (.isTrusted user)

end Request

end ChatWarden
