import ChatWarden.Proofs.Work.Within
import Mathlib.Data.List.Infix

/-!
# Paths through work

What happens while work is done is a path through its tree: the requests it made, each with the
answer that it got. A path may stop anywhere, so it also describes work that is not done yet.

Results:
* `Leads.snoc` and `Leads.append`: paths grow at their ends.
* `Exchange.split_in_back` and the like: where an exchange of a composed path can stand.
* `Leads.within`: on a path, work that keeps within some requests makes no other ones, and still
  keeps within them at the end of the path.
-/

namespace ChatWarden

/-- A request with the answer to it. -/
structure Exchange where
  request : Request
  answer : request.Answer

namespace Exchange

/-- The texts that were sent to the channel, in order. -/
def sent : List Exchange → List String
  | [] => []
  | ⟨.send text, _⟩ :: rest => text :: sent rest
  | _ :: rest => sent rest

theorem sent_eq_nil {path : List Exchange}
    (h : ∀ exchange ∈ path, ∀ text, exchange.request ≠ .send text) : sent path = [] := by
  fun_induction sent path with
  | case1 => rfl
  | case2 text answer rest ih => exact absurd rfl (h ⟨.send text, answer⟩ (by simp) text)
  | case3 first rest hfirst ih => exact ih fun exchange hmem => h exchange (by simp [hmem])

/-! ### Places on a path -/

variable {front back past future : List Exchange} {exchange : Exchange}

/-- An exchange that is none of the first part stands in the second part. -/
theorem split_in_back (h : front ++ back = past ++ exchange :: future) (hf : exchange ∉ front) :
    ∃ more, past = front ++ more ∧ back = more ++ exchange :: future := by
  rcases List.append_eq_append_iff.mp h with ⟨more, hpast, hback⟩ | ⟨more, hfront, hmore⟩
  · exact ⟨more, hpast, hback⟩
  · cases more with
    | nil => exact ⟨[], by simpa using hfront.symm, by simpa using hmore.symm⟩
    | cons first rest =>
      obtain ⟨rfl, -⟩ := List.cons.inj hmore
      exact absurd (by simp [hfront]) hf

/-- An exchange that is none of the second part stands in the first part. -/
theorem split_in_front (h : front ++ back = past ++ exchange :: future) (hb : exchange ∉ back) :
    ∃ more, front = past ++ exchange :: more ∧ future = more ++ back := by
  rcases List.append_eq_append_iff.mp h with ⟨more, hpast, hback⟩ | ⟨more, hfront, hmore⟩
  · exact absurd (by simp [hback]) hb
  · cases more with
    | nil =>
      obtain rfl : exchange :: future = back := hmore
      exact absurd List.mem_cons_self hb
    | cons first rest =>
      obtain ⟨rfl, hfuture⟩ := List.cons.inj hmore
      exact ⟨rest, hfront, hfuture⟩

/-- An exchange that stands at one place only stands at that place. -/
theorem split_at_sole {other : Exchange} (h : front ++ other :: back = past ++ exchange :: future)
    (hf : exchange ∉ front) (hb : exchange ∉ back) :
    past = front ∧ exchange = other ∧ future = back := by
  obtain ⟨more, rfl, hmore⟩ := split_in_back h hf
  cases more with
  | nil =>
    obtain ⟨rfl, rfl⟩ := List.cons.inj hmore
    exact ⟨List.append_nil front, rfl, rfl⟩
  | cons first rest =>
    obtain ⟨-, rfl⟩ := List.cons.inj hmore
    exact absurd (by simp) hb

end Exchange

/-- The exchanges lead from one piece of work to what remains of it. -/
inductive Work.Leads {α : Type} : Work α → List Exchange → Work α → Prop
  | nil (work : Work α) : Leads work [] work
  | cons {request : Request} {next : request.Answer → Work α} {answer : request.Answer}
      {path : List Exchange} {last : Work α} :
      Leads (next answer) path last → Leads (.ask request next) (⟨request, answer⟩ :: path) last

namespace Work.Leads

variable {α : Type} {work middle last : Work α} {path more : List Exchange}

theorem append (h : work.Leads path middle) (h' : middle.Leads more last) :
    work.Leads (path ++ more) last := by
  induction h with
  | nil work => exact h'
  | cons _ ih => exact .cons (ih h')

/-- A path goes on with the next request of the work that it leads to. -/
theorem snoc {request : Request} {next : request.Answer → Work α}
    (h : work.Leads path (.ask request next)) (answer : request.Answer) :
    work.Leads (path ++ [⟨request, answer⟩]) (next answer) :=
  h.append (.cons (.nil (next answer)))

/-- Work that asks has asked nothing yet, or its first request and then whatever its answer led
    to. -/
theorem of_ask {request : Request} {next : request.Answer → Work α}
    (h : (Work.ask request next).Leads path last) :
    (path = [] ∧ last = .ask request next) ∨
      ∃ answer rest, path = ⟨request, answer⟩ :: rest ∧ (next answer).Leads rest last := by
  cases h with
  | nil => exact .inl ⟨rfl, rfl⟩
  | cons h => exact .inr ⟨_, _, rfl, h⟩

/-- On its path work makes only the requests that it keeps within. -/
theorem within {asks : Request → Prop} {ends : α → Prop} (h : work.Leads path last)
    (hw : work.Within asks ends) :
    (∀ exchange ∈ path, asks exchange.request) ∧ last.Within asks ends := by
  induction h with
  | nil work => exact ⟨by simp, hw⟩
  | cons h ih =>
    obtain ⟨hfirst, hnext⟩ := hw
    obtain ⟨hrest, hlast⟩ := ih (hnext _)
    refine ⟨fun exchange hmem => ?_, hlast⟩
    rcases List.mem_cons.mp hmem with rfl | hmem
    · exact hfirst
    · exact hrest exchange hmem

end Work.Leads

end ChatWarden
