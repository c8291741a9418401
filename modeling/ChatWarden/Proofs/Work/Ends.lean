import ChatWarden.Proofs.Work.Path
import ChatWarden.Rehearsal.Stage

/-!
# Endings

Work ends with a value along a path if the path leads from it to that value. Each way to build work
has its own law, which takes such a path apart into the paths of its pieces; together the laws
tell what must have happened for work to end as it did.

Results:
* `Work.ends_bind`, `Job.ends_bind`: the laws of sequences.
* `Job.ends_tryCatch`, `Job.ends_thenWith`: the laws of handled failures.
* `Work.Leads.exists_ends`: every path is the first part of one to an ending.
* `Work.Ends.follow?`: what work comes to can be read off such a path, and off longer ones.
* `Work.Ends.within`: on a path to an ending, work makes only the requests that it keeps within.
* `Job.AtMost` counts the requests of one kind; a sequence makes no more of them than its pieces
  together.
-/

namespace ChatWarden

/-- The work ends with a value, and the path tells what happened until then. -/
def Work.Ends {α : Type} (work : Work α) (path : List Exchange) (value : α) : Prop :=
  work.Leads path (.done value)

/-- The job ends with a value or a failure, and the path tells what happened until then. -/
def Job.Ends {α : Type} (job : Job α) (path : List Exchange) (outcome : Except Failure α) : Prop :=
  job.attempt.Ends path outcome

namespace Work

variable {α β : Type} {path : List Exchange}

@[simp] theorem ends_done {value last : α} :
    (done value).Ends path last ↔ path = [] ∧ last = value := by
  constructor
  · intro h
    cases h
    exact ⟨rfl, rfl⟩
  · rintro ⟨rfl, rfl⟩
    exact .nil _

@[simp] theorem ends_pure {value last : α} :
    (pure value : Work α).Ends path last ↔ path = [] ∧ last = value := ends_done

theorem ends_ask {request : Request} {next : request.Answer → Work α} {last : α} :
    (ask request next).Ends path last ↔
      ∃ answer rest, path = ⟨request, answer⟩ :: rest ∧ (next answer).Ends rest last := by
  constructor
  · intro h
    rcases Leads.of_ask h with ⟨-, hdone⟩ | ⟨answer, rest, hpath, hrest⟩
    · cases hdone
    · exact ⟨answer, rest, hpath, hrest⟩
  · rintro ⟨answer, rest, rfl, hrest⟩
    exact .cons hrest

/-- A sequence ends along a path of its first part followed by one of its second part. -/
theorem ends_bind (work : Work α) (next : α → Work β) (last : β) :
    (work.bind next).Ends path last ↔
      ∃ front back value, path = front ++ back ∧ work.Ends front value ∧
        (next value).Ends back last := by
  induction work generalizing path with
  | done value =>
    constructor
    · intro h
      exact ⟨[], path, value, rfl, ends_done.mpr ⟨rfl, rfl⟩, h⟩
    · rintro ⟨front, back, value, rfl, hfront, hback⟩
      obtain ⟨rfl, rfl⟩ := ends_done.mp hfront
      exact hback
  | ask request rest ih =>
    constructor
    · intro h
      obtain ⟨answer, more, rfl, hmore⟩ := ends_ask.mp h
      obtain ⟨front, back, value, rfl, hfront, hback⟩ := (ih answer).mp hmore
      exact ⟨⟨request, answer⟩ :: front, back, value, rfl,
        ends_ask.mpr ⟨answer, front, rfl, hfront⟩, hback⟩
    · rintro ⟨front, back, value, rfl, hfront, hback⟩
      obtain ⟨answer, more, rfl, hmore⟩ := ends_ask.mp hfront
      exact ends_ask.mpr ⟨answer, more ++ back, rfl,
        (ih answer).mpr ⟨more, back, value, rfl, hmore, hback⟩⟩

/-- Every request can be answered. -/
instance (request : Request) : Nonempty request.Answer :=
  ⟨(Rehearsal.Stage.answer {} request).1⟩

/-- Work can always come to an end. -/
theorem exists_ends (work : Work α) : ∃ path value, work.Ends path value := by
  induction work with
  | done value => exact ⟨[], value, .nil _⟩
  | ask request next ih =>
    obtain ⟨answer⟩ := (inferInstance : Nonempty request.Answer)
    obtain ⟨path, value, h⟩ := ih answer
    exact ⟨⟨request, answer⟩ :: path, value, .cons h⟩

/-- Every path is the first part of one to an ending. -/
theorem Leads.exists_ends {work rest : Work α} (h : work.Leads path rest) :
    ∃ more value, work.Ends (path ++ more) value := by
  obtain ⟨more, value, hrest⟩ := rest.exists_ends
  exact ⟨more, value, h.append hrest⟩

/-- The value that work comes to on a first part of a path. -/
def follow? {α : Type} : Work α → List Exchange → Option α
  | .done value, _ => some value
  | .ask _ _, [] => none
  | .ask request next, exchange :: rest =>
    if h : exchange.request = request then (next (h ▸ exchange.answer)).follow? rest else none

theorem Ends.follow? {work : Work α} {value : α} (h : work.Ends path value)
    (more : List Exchange) : work.follow? (path ++ more) = some value := by
  induction path generalizing work with
  | nil =>
    cases h
    rfl
  | cons exchange rest ih =>
    cases h with
    | cons hrest =>
      rw [List.cons_append, Work.follow?, dif_pos rfl]
      exact ih hrest

/-- On a path to an ending, work makes only the requests that it keeps within. -/
theorem Ends.within {work : Work α} {value : α} {asks : Request → Prop} {ends : α → Prop}
    (h : work.Ends path value) (hw : work.Within asks ends) :
    (∀ exchange ∈ path, asks exchange.request) ∧ ends value := Leads.within h hw

end Work

namespace Job

variable {α β : Type} {path : List Exchange}

@[simp] theorem ends_pure {value : α} {outcome : Except Failure α} :
    (pure value : Job α).Ends path outcome ↔ path = [] ∧ outcome = .ok value := Work.ends_done

@[simp] theorem ends_throw {failure : Failure} {outcome : Except Failure α} :
    (throw failure : Job α).Ends path outcome ↔ path = [] ∧ outcome = .error failure :=
  Work.ends_done

@[simp] theorem ends_mk {first outcome : Except Failure α} :
    Job.Ends (ExceptT.mk (pure first)) path outcome ↔ path = [] ∧ outcome = first :=
  Work.ends_done

@[simp] theorem ends_request {request : Request} {outcome : Except Failure request.Answer} :
    (Job.request request).Ends path outcome ↔
      ∃ answer, path = [⟨request, answer⟩] ∧ outcome = .ok answer := by
  constructor
  · intro h
    obtain ⟨answer, rest, rfl, hrest⟩ := Work.ends_ask.mp h
    obtain ⟨rfl, hvalue⟩ := Work.ends_done.mp hrest
    exact ⟨answer, rfl, hvalue⟩
  · rintro ⟨answer, rfl, rfl⟩
    exact .cons (.nil _)

@[simp] theorem ends_note {record : Log.Record} {outcome : Except Failure Unit} :
    (note record).Ends path outcome ↔ path = [⟨.note record, ()⟩] ∧ outcome = .ok () := by
  constructor
  · intro h
    obtain ⟨answer, rest, rfl, hrest⟩ := Work.ends_ask.mp h
    obtain ⟨rfl, hvalue⟩ := Work.ends_done.mp hrest
    exact ⟨rfl, hvalue⟩
  · rintro ⟨rfl, rfl⟩
    exact .cons (.nil _)

/-- Work that cannot fail ends with its value. -/
theorem ends_lift {work : Work α} {outcome : Except Failure α} :
    Job.Ends (ExceptT.lift work) path outcome ↔
      ∃ value, work.Ends path value ∧ outcome = .ok value := by
  constructor
  · intro h
    obtain ⟨front, back, value, rfl, hfront, hback⟩ := (Work.ends_bind work _ outcome).mp h
    obtain ⟨rfl, rfl⟩ := Work.ends_done.mp hback
    rw [List.append_nil]
    exact ⟨value, hfront, rfl⟩
  · rintro ⟨value, h, rfl⟩
    refine (Work.ends_bind work _ _).mpr ⟨path, [], value, (List.append_nil path).symm, h, ?_⟩
    exact Work.ends_done.mpr ⟨rfl, rfl⟩

/-- What follows another job, whatever became of it, meets its outcome. -/
@[simp] theorem ends_thenWith {job : Job α} {next : Except Failure α → Job β}
    {outcome : Except Failure β} :
    (job.thenWith next).Ends path outcome ↔
      ∃ front back first, path = front ++ back ∧ job.Ends front first ∧
        (next first).Ends back outcome :=
  Work.ends_bind job.attempt _ outcome

/-- A sequence ends along a path of its first job followed by one of its second job, or as its
    first job does if that fails. -/
@[simp] theorem ends_bind {job : Job α} {next : α → Job β} {outcome : Except Failure β} :
    (job >>= next).Ends path outcome ↔
      (∃ front back value, path = front ++ back ∧ job.Ends front (.ok value) ∧
        (next value).Ends back outcome) ∨
      ∃ failure, job.Ends path (.error failure) ∧ outcome = .error failure := by
  rw [bind_eq_thenWith, ends_thenWith]
  constructor
  · rintro ⟨front, back, failure | value, rfl, hfront, hback⟩
    · obtain ⟨rfl, rfl⟩ := ends_throw.mp hback
      rw [List.append_nil]
      exact .inr ⟨failure, hfront, rfl⟩
    · exact .inl ⟨front, back, value, rfl, hfront, hback⟩
  · rintro (⟨front, back, value, rfl, hfront, hback⟩ | ⟨failure, h, rfl⟩)
    · exact ⟨front, back, .ok value, rfl, hfront, hback⟩
    · exact ⟨path, [], .error failure, (List.append_nil path).symm, h, ends_throw.mpr ⟨rfl, rfl⟩⟩

@[simp] theorem ends_map {f : α → β} {job : Job α} {outcome : Except Failure β} :
    (f <$> job).Ends path outcome ↔ ∃ first, job.Ends path first ∧ outcome = first.map f := by
  have hmap : f <$> job = job >>= fun value => pure (f value) := rfl
  rw [hmap, ends_bind]
  constructor
  · rintro (⟨front, back, value, rfl, hfront, hback⟩ | ⟨failure, h, rfl⟩)
    · obtain ⟨rfl, rfl⟩ := ends_pure.mp hback
      exact ⟨.ok value, by simpa using hfront, rfl⟩
    · exact ⟨.error failure, h, rfl⟩
  · rintro ⟨failure | value, h, rfl⟩
    · exact .inr ⟨failure, h, rfl⟩
    · exact .inl ⟨path, [], value, by simp, h, ends_pure.mpr ⟨rfl, rfl⟩⟩

/-- A handled job ends as it does by itself, or as its handler does if it fails. -/
@[simp] theorem ends_tryCatch {job : Job α} {handler : Failure → Job α}
    {outcome : Except Failure α} :
    (tryCatch job handler).Ends path outcome ↔
      (∃ value, job.Ends path (.ok value) ∧ outcome = .ok value) ∨
      ∃ front back failure, path = front ++ back ∧ job.Ends front (.error failure) ∧
        (handler failure).Ends back outcome := by
  rw [tryCatch_eq_thenWith, ends_thenWith]
  constructor
  · rintro ⟨front, back, failure | value, rfl, hfront, hback⟩
    · exact .inr ⟨front, back, failure, rfl, hfront, hback⟩
    · obtain ⟨rfl, rfl⟩ := ends_pure.mp hback
      rw [List.append_nil]
      exact .inl ⟨value, hfront, rfl⟩
  · rintro (⟨value, h, rfl⟩ | ⟨front, back, failure, rfl, hfront, hback⟩)
    · exact ⟨path, [], .ok value, (List.append_nil path).symm, h, ends_pure.mpr ⟨rfl, rfl⟩⟩
    · exact ⟨front, back, .error failure, rfl, hfront, hback⟩

/-- A sequence ends with a value along a path of its first job followed by one of its second. -/
theorem ends_bind_ok {job : Job α} {next : α → Job β} {last : β} :
    (job >>= next).Ends path (.ok last) ↔
      ∃ front back value, path = front ++ back ∧ job.Ends front (.ok value) ∧
        (next value).Ends back (.ok last) := by
  rw [ends_bind]
  exact or_iff_left fun ⟨failure, _, houtcome⟩ => by cases houtcome

/-- A job that begins with a request ends as what follows its answer. -/
theorem ends_request_bind {request : Request} {next : request.Answer → Job β}
    {outcome : Except Failure β} :
    (Job.request request >>= next).Ends path outcome ↔
      ∃ answer rest, path = ⟨request, answer⟩ :: rest ∧ (next answer).Ends rest outcome := by
  rw [ends_bind]
  constructor
  · rintro (⟨front, back, value, rfl, hfront, hback⟩ | ⟨failure, hfirst, -⟩)
    · obtain ⟨answer, rfl, hvalue⟩ := ends_request.mp hfront
      obtain rfl := Except.ok.inj hvalue
      exact ⟨value, back, rfl, hback⟩
    · obtain ⟨answer, -, hfailure⟩ := ends_request.mp hfirst
      cases hfailure
  · rintro ⟨answer, rest, rfl, hrest⟩
    exact .inl ⟨[⟨request, answer⟩], rest, answer, rfl, ends_request.mpr ⟨answer, rfl, rfl⟩, hrest⟩

/-- A job that begins with a record ends as what follows it. -/
theorem ends_note_bind {record : Log.Record} {next : Unit → Job β}
    {outcome : Except Failure β} :
    (note record >>= next).Ends path outcome ↔
      ∃ rest, path = ⟨.note record, ()⟩ :: rest ∧ (next ()).Ends rest outcome := by
  constructor
  · intro h
    obtain ⟨_, rest, hpath, hrest⟩ := ends_request_bind.mp h
    exact ⟨rest, hpath, hrest⟩
  · rintro ⟨rest, hpath, hrest⟩
    exact ends_request_bind.mpr ⟨(), rest, hpath, hrest⟩

theorem ends_ite {c : Prop} [Decidable c] {job job' : Job α} {outcome : Except Failure α} :
    (if c then job else job').Ends path outcome ↔
      c ∧ job.Ends path outcome ∨ ¬c ∧ job'.Ends path outcome := by
  by_cases hc : c <;> simp [hc]

/-- A sequence whose second part asks for nothing ends along a path of its first part. -/
theorem Ends.of_bind {job : Job α} {next : α → Job β} {outcome : Except Failure β}
    (h : (job >>= next).Ends path outcome)
    (hnext : ∀ value back, (next value).Ends back outcome → back = []) :
    ∃ last, job.Ends path last := by
  rcases ends_bind.mp h with ⟨front, back, value, rfl, hfront, hback⟩ | ⟨failure, hfailed, -⟩
  · obtain rfl := hnext value back hback
    rw [List.append_nil]
    exact ⟨.ok value, hfront⟩
  · exact ⟨.error failure, hfailed⟩

theorem ends_iff {job : Job α} {outcome : Except Failure α} :
    job.Ends path outcome ↔ job.attempt.Ends path outcome := Iff.rfl

theorem Ends.follow? {job : Job α} {outcome : Except Failure α} (h : job.Ends path outcome)
    (more : List Exchange) : job.attempt.follow? (path ++ more) = some outcome :=
  Work.Ends.follow? h more

/-- On a path to an ending, a job makes only the requests that it keeps within. -/
theorem Ends.within {job : Job α} {outcome : Except Failure α} {asks : Request → Prop}
    {ends : Except Failure α → Prop} (h : job.Ends path outcome) (hw : job.Within asks ends) :
    (∀ exchange ∈ path, asks exchange.request) ∧ ends outcome :=
  Work.Ends.within h (within_iff.mp hw)

-- the laws take a path apart; unfolding would follow it
attribute [irreducible] Ends

/-! ## Counting requests -/

/-- However it ends, the job makes at most `n` requests of a kind. -/
def AtMost (job : Job α) (n : Nat) (kind : Request → Bool) : Prop :=
  ∀ path outcome, job.Ends path outcome → path.countP (kind ·.request) ≤ n

namespace AtMost

variable {kind : Request → Bool} {m n : Nat}

theorem count_le {job : Job α} {outcome : Except Failure α} (h : job.AtMost n kind)
    (hends : job.Ends path outcome) : path.countP (kind ·.request) ≤ n := h path outcome hends

theorem none {job : Job α} (h : job.AsksOnly fun request => kind request = false) :
    job.AtMost 0 kind := by
  intro path outcome hends
  have hpath := (hends.within h).1
  have hzero : path.countP (kind ·.request) = 0 := List.countP_eq_zero.mpr fun exchange he => by
    simp [hpath exchange he]
  omega

theorem request (r : Request) : (Job.request r).AtMost 1 kind := by
  intro path outcome hends
  obtain ⟨answer, rfl, -⟩ := ends_request.mp hends
  exact List.countP_le_length

theorem mono {job : Job α} (h : job.AtMost m kind) (hle : m ≤ n) : job.AtMost n kind :=
  fun path outcome hends => (h path outcome hends).trans hle

theorem bind {job : Job α} {next : α → Job β} (h : job.AtMost m kind)
    (hnext : ∀ value, (next value).AtMost n kind) : (job >>= next).AtMost (m + n) kind := by
  intro path outcome hends
  rcases ends_bind.mp hends with ⟨front, back, value, rfl, hfront, hback⟩ | ⟨failure, hfirst, -⟩
  · have hm := h front _ hfront
    have hn := hnext value back outcome hback
    rw [List.countP_append]
    omega
  · have hm := h path _ hfirst
    omega

theorem thenWith {job : Job α} {next : Except Failure α → Job β} (h : job.AtMost m kind)
    (hnext : ∀ outcome, (next outcome).AtMost n kind) :
    (job.thenWith next).AtMost (m + n) kind := by
  intro path outcome hends
  obtain ⟨front, back, first, rfl, hfront, hback⟩ := ends_thenWith.mp hends
  have hm := h front _ hfront
  have hn := hnext first back outcome hback
  rw [List.countP_append]
  omega

theorem tryCatch {job : Job α} {handler : Failure → Job α} (h : job.AtMost m kind)
    (hhandler : ∀ failure, (handler failure).AtMost n kind) :
    (tryCatch job handler).AtMost (m + n) kind := by
  rw [tryCatch_eq_thenWith]
  refine h.thenWith fun outcome => ?_
  cases outcome with
  | ok value => exact (none (by simp)).mono n.zero_le
  | error failure => exact hhandler failure

theorem ite {c : Prop} [Decidable c] {job job' : Job α} (h : c → job.AtMost n kind)
    (h' : ¬c → job'.AtMost n kind) : (if c then job else job').AtMost n kind := by
  split
  · next hc => exact h hc
  · next hc => exact h' hc

end AtMost

attribute [irreducible] AtMost

end Job

end ChatWarden
