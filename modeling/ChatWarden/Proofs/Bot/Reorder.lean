import ChatWarden.Proofs.Bot.Revocation
import ChatWarden.Proofs.Bot.Traffic
import ChatWarden.Proofs.Store.Commute
import ChatWarden.Proofs.Work.Ends

/-!
# Requests in another order

A request is answered according to its number and to the database. If requests come in another
order, but each with the number that it had before, then all answers stay the same as long as the
statements on the commands keep their order: look-ups of trust and whatever does not concern the
store can be moved freely.

Results:
* `Meets.iff_apart`: the statements and all else are answered independently of each other.
* `Meets.reorder`: requests that were answered in one order are answered so in another one.
* `Work.record_of_meets`: work that is run in such an order takes the path of its requests.
-/

namespace ChatWarden

open Store (Condition Database)

/-! ## One request -/

/-- A request that was made, with its number. -/
abbrev Numbered := Moment × Nat

namespace Numbered

/-- The handler that made the request. -/
abbrev who (item : Numbered) : Nat := item.1.who

/-- The request. -/
abbrev request (item : Numbered) : Request := item.1.exchange.request

/-- The request is a statement on the commands. -/
abbrev isStatement (item : Numbered) : Bool := item.request.isStatement

/-- What surroundings answer to the request on a database, and the database after it. -/
def meet (surroundings : Surroundings) (db : Database) (item : Numbered) :
    item.request.Answer × Database :=
  let (answer, world) := World.answer surroundings ⟨db, item.2⟩ item.request
  (answer, world.db)

variable (surroundings : Surroundings) {db other : Database} {item : Numbered}

/-- Databases that are alike give the same answers and stay alike. -/
theorem meet_congr (h : db.Alike other) (item : Numbered) :
    (item.meet surroundings db).1 = (item.meet surroundings other).1 ∧
      (item.meet surroundings db).2.Alike (item.meet surroundings other).2 := by
  obtain ⟨⟨who, before, ⟨request, answer⟩⟩, n⟩ := item
  cases request with
  | store query => exact (surroundings.condition n).perform_congr (·.answer query) h
  | _ => exact ⟨rfl, h⟩

/-- What is quiet leaves the database alike. -/
theorem meet_quiet (h : item.request.IsQuiet) (db : Database) :
    db.Alike (item.meet surroundings db).2 := by
  obtain ⟨⟨who, before, ⟨request, answer⟩⟩, n⟩ := item
  cases request with
  | store query =>
    obtain ⟨user, hlookup⟩ := h.resolve_left fun harea => harea rfl
    obtain rfl := Request.store.inj hlookup
    exact (surroundings.condition n).lookUp_alike db user
  | _ => exact .refl db

/-- What is quiet is answered alike by databases that agree on trust. -/
theorem meet_quiet_congr (h : item.request.IsQuiet) (hagree : db.AgreesOnTrust other) :
    (item.meet surroundings db).1 = (item.meet surroundings other).1 := by
  obtain ⟨⟨who, before, ⟨request, answer⟩⟩, n⟩ := item
  cases request with
  | store query =>
    obtain ⟨user, hlookup⟩ := h.resolve_left fun harea => harea rfl
    obtain rfl := Request.store.inj hlookup
    exact (surroundings.condition n).lookUp_congr hagree user
  | _ => rfl

/-- A statement on the commands does not touch trust. -/
theorem meet_statement (h : item.isStatement = true) (db : Database) :
    db.AgreesOnTrust (item.meet surroundings db).2 := by
  obtain ⟨⟨who, before, ⟨request, answer⟩⟩, n⟩ := item
  cases request with
  | store query =>
    exact (surroundings.condition n).agrees_of_commands (beq_iff_eq.mp h) db
  | _ => cases h

end Numbered

/-! ## Many requests -/

/-- The requests, each under its number, get the answers that they got, one after the other, and
    the database ends like this one. -/
def Meets (surroundings : Surroundings) : Database → List Numbered → Database → Prop
  | db, [], last => db.Alike last
  | db, item :: rest, last =>
    (item.meet surroundings db).1 = item.1.exchange.answer ∧
      Meets surroundings (item.meet surroundings db).2 rest last

namespace Meets

variable {surroundings : Surroundings} {db other last : Database} {items items' : List Numbered}

theorem congr (h : db.Alike other) :
    Meets surroundings db items last ↔ Meets surroundings other items last := by
  induction items generalizing db other with
  | nil => exact ⟨h.symm.trans, h.trans⟩
  | cons item rest ih =>
    obtain ⟨hanswer, halike⟩ := item.meet_congr surroundings h
    rw [Meets, Meets, hanswer, ih halike]

theorem snoc {item : Numbered} (h : Meets surroundings db items last)
    (hanswer : (item.meet surroundings last).1 = item.1.exchange.answer) :
    Meets surroundings db (items ++ [item]) (item.meet surroundings last).2 := by
  induction items generalizing db with
  | nil =>
    obtain ⟨hfirst, halike⟩ := item.meet_congr surroundings (h : db.Alike last)
    exact ⟨hfirst.trans hanswer, halike⟩
  | cons first rest ih => exact ⟨h.1, ih h.2⟩

/-- Statements and all else are answered apart: what is quiet is answered as it would be at the
    start, and the statements as if there was nothing else. -/
theorem iff_apart (h : ∀ item ∈ items, Setup.IsTraffic item.request) :
    Meets surroundings db items last ↔
      (∀ item ∈ items, item.isStatement = false →
        (item.meet surroundings db).1 = item.1.exchange.answer) ∧
      Meets surroundings db (items.filter (·.isStatement)) last := by
  induction items generalizing db with
  | nil => simp
  | cons item rest ih =>
    obtain ⟨hitem, hrest⟩ := List.forall_mem_cons.mp h
    have hquiet {other : Numbered} (ho : Setup.IsTraffic other.request)
        (hs : other.isStatement = false) : other.request.IsQuiet :=
      ho.resolve_left (by simpa using hs)
    cases hs : item.isStatement with
    | true =>
      -- what is quiet is answered before the statement as after it
      have hsame (other : Numbered) (ho : other ∈ rest) (hq : other.isStatement = false) :=
        other.meet_quiet_congr surroundings (hquiet (hrest other ho) hq)
          (item.meet_statement surroundings hs db)
      rw [Meets, ih hrest, List.filter_cons_of_pos hs, Meets]
      constructor
      · rintro ⟨hfirst, hall, hmore⟩
        refine ⟨List.forall_mem_cons.mpr ⟨fun hq => ?_, fun other ho hq => ?_⟩, hfirst, hmore⟩
        · simp [hs] at hq
        · rw [hsame other ho hq]
          exact hall other ho hq
      · rintro ⟨hall, hfirst, hmore⟩
        refine ⟨hfirst, fun other ho hq => ?_, hmore⟩
        rw [← hsame other ho hq]
        exact (List.forall_mem_cons.mp hall).2 other ho hq
    | false =>
      have halike := item.meet_quiet surroundings (hquiet hitem hs) db
      rw [Meets, ← congr halike, ih hrest, List.filter_cons_of_neg (by simp [hs])]
      simp [hs, and_assoc]

/-- Requests that were answered in one order are answered so in any other order that keeps the order
    of the statements. -/
theorem reorder (h : Meets surroundings db items last)
    (htraffic : ∀ item ∈ items, Setup.IsTraffic item.request) (hsub : ∀ item ∈ items', item ∈ items)
    (hfilter : items'.filter (·.isStatement) = items.filter (·.isStatement)) :
    Meets surroundings db items' last := by
  rw [iff_apart htraffic] at h
  rw [iff_apart fun item hitem => htraffic item (hsub item hitem), hfilter]
  exact ⟨fun item hitem => h.1 item (hsub item hitem), h.2⟩

end Meets

/-! ## Work in another order -/

/-- The surroundings as they are met by requests in another order: what comes now as the request
    number `k` is answered as the request number `numbers[k]` was. -/
def Surroundings.reordered (surroundings : Surroundings) (numbers : List Nat) : Surroundings where
  condition k := surroundings.condition (numbers.getD k k)
  answer k := surroundings.answer (numbers.getD k k)

/-- Surroundings that answer a request alike whenever it comes. -/
structure Surroundings.IsSteady (surroundings : Surroundings) : Prop where
  condition (k n : Nat) : surroundings.condition k = surroundings.condition n
  answer (k n : Nat) : surroundings.answer k = surroundings.answer n

/-- Steady surroundings are the same in every order. -/
theorem Surroundings.IsSteady.reordered_eq {surroundings : Surroundings} (h : surroundings.IsSteady)
    (numbers : List Nat) : surroundings.reordered numbers = surroundings := by
  obtain ⟨condition, answer⟩ := surroundings
  simp only [reordered, Surroundings.mk.injEq]
  exact ⟨funext fun k => h.condition _ _, funext fun k => h.answer _ _⟩

theorem Surroundings.calm_isSteady : calm.IsSteady := ⟨fun _ _ => rfl, fun _ _ => rfl⟩

/-- In the new order a request meets what it met in the old one. -/
theorem World.answer_reordered (surroundings : Surroundings) {numbers : List Nat} {k : Nat}
    (db : Database) (item : Numbered) (h : numbers[k]? = some item.2) :
    World.answer (surroundings.reordered numbers) ⟨db, k⟩ item.request =
      ((item.meet surroundings db).1, ⟨(item.meet surroundings db).2, k + 1⟩) := by
  obtain ⟨⟨who, before, ⟨request, answer⟩⟩, n⟩ := item
  have hn : numbers.getD k k = n := by simp [List.getD, h]
  cases request with
  | store query => simp only [World.answer, Surroundings.reordered, hn]; rfl
  | _ => simp only [World.answer, Surroundings.reordered, hn]; rfl

/-- Work that comes to an end with some requests does the same once more where these requests are
    the next ones. -/
theorem Work.record_of_meets {α : Type} {surroundings : Surroundings} {work : Work α} {value : α}
    {items more : List Numbered} {db last : Database} {numbers past : List Nat}
    (h : work.Ends (items.map (·.1.exchange)) value)
    (hnumbers : numbers = past ++ (items ++ more).map (·.2))
    (hmeets : Meets surroundings db (items ++ more) last) :
    ∃ next, work.record (World.answer (surroundings.reordered numbers)) ⟨db, past.length⟩ =
        (items.map (·.1.exchange), value, ⟨next, past.length + items.length⟩) ∧
      Meets surroundings next more last := by
  induction items generalizing work db past with
  | nil =>
    cases h
    exact ⟨db, rfl, hmeets⟩
  | cons item rest ih =>
    obtain ⟨hanswer, hrest⟩ := hmeets
    obtain ⟨⟨who, before, ⟨request, answer⟩⟩, n⟩ := item
    cases h with
    | @cons _ next _ _ _ hwork =>
      have hn : numbers[past.length]? = some n := by simp [hnumbers]
      have hnow := World.answer_reordered surroundings db
        (⟨who, before, ⟨request, answer⟩⟩, n) hn
      have hpast : numbers = (past ++ [n]) ++ (rest ++ more).map (·.2) := by simp [hnumbers]
      obtain ⟨final, hrecord, hfinal⟩ := ih hwork hpast hrest
      refine ⟨final, ?_, hfinal⟩
      rw [List.length_append, List.length_singleton] at hrecord
      rw [hanswer] at hnow
      rw [Work.record]
      simp only [hnow, hrecord, List.map_cons, List.length_cons, Nat.add_assoc, Nat.add_comm 1]

end ChatWarden
