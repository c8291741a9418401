import ChatWarden.Bot.Run
import ChatWarden.Proofs.Bot.World
import ChatWarden.Proofs.Command.Reach
import ChatWarden.Proofs.Work.Ends

/-!
# Which look-ups are answered

What a look-up comes to is told by what becomes of its request. The commands expect some faults and
reply to them; the others escape: those of addresses that cannot be requested, of bodies that cannot
be read as text, and of documents that are no card.

Results:
* `Weather.execute_ends` and `Card.execute_ends`: the outcome of a look-up, as a function of what
  its request is answered with.
* `Card.line_of_plain`: a card whose name and rules are texts, with an address that can be read, is
  shown as a text.
* `lookups_reply_iff`: the look-ups that reply.
-/

namespace ChatWarden

/-! ## Answers of the web -/

/-- Every request over HTTP on the path was answered in this way. -/
def Exchange.WebAnswers (web : Except Fault Http.Response) (path : List Exchange) : Prop :=
  ∀ request answer, ⟨.fetch request, answer⟩ ∈ path → answer = web

open Exchange (WebAnswers)

variable {web : Except Fault Http.Response} {path : List Exchange}

theorem Exchange.WebAnswers.sub {part : List Exchange} (h : WebAnswers web path)
    (hsub : ∀ exchange ∈ part, exchange ∈ path) : WebAnswers web part :=
  fun request answer hmem => h request answer (hsub _ hmem)

namespace Lookup

theorem Client.get_ends {client : Client} {request : Http.Request}
    {answer : Except Fault Http.Response} (h : (client.get request).Ends path answer)
    (hweb : WebAnswers web path) : answer = checked web := by
  obtain ⟨front, back, _, rfl, -, hback⟩ := (Work.ends_bind client.prepare _ answer).mp h
  obtain ⟨got, rest, rfl, hrest⟩ := Work.ends_ask.mp hback
  obtain ⟨rfl, rfl⟩ := Work.ends_pure.mp hrest
  rw [hweb request got (by simp)]

/-- A look-up that failed leaves a record. -/
theorem failed_ends {α : Type} {service : Service} {origin : Log.Origin} {noun asked : String}
    {fault : Fault} {outcome : Except Failure α}
    (h : (failed service origin noun asked fault : Job α).Ends path outcome) :
    outcome = .error (.lookupFailed service) := by
  obtain ⟨rest, rfl, hrest⟩ := Job.ends_note_bind.mp h
  exact (Job.ends_throw.mp hrest).2

/-- What a command makes of the outcome of its look-up. -/
def told {α : Type} [Coe String α] : Except Failure α → Except Failure α
  | .error (.lookupFailed service) => .ok (service.unavailable : α)
  | outcome => outcome

@[simp] theorem told_ok {α : Type} [Coe String α] (value : α) :
    told (.ok value) = .ok value := rfl

@[simp] theorem told_fault {α : Type} [Coe String α] (fault : Fault) :
    told (.error (.fault fault) : Except Failure α) = .error (.fault fault) := rfl

@[simp] theorem told_lookupFailed (service : Service) :
    told (.error (.lookupFailed service)) = .ok (Reply.text service.unavailable) := rfl

theorem asCommand_ends {α : Type} [Coe String α] {lookup : Job α} {outcome : Except Failure α}
    (h : (asCommand lookup).Ends path outcome) :
    ∃ first, (∃ part, lookup.Ends part first ∧ ∀ exchange ∈ part, exchange ∈ path) ∧
      outcome = told first := by
  rcases Job.ends_tryCatch.mp h with
    ⟨value, hvalue, rfl⟩ | ⟨front, back, failure, rfl, hfailed, hback⟩
  · exact ⟨.ok value, ⟨path, hvalue, fun _ => id⟩, rfl⟩
  · refine ⟨.error failure, ⟨front, hfailed, fun _ => List.mem_append_left back⟩, ?_⟩
    cases failure with
    | lookupFailed service => exact (Job.ends_pure.mp hback).2
    | _ => exact (Job.ends_throw.mp hback).2

/-! ## Weather -/

namespace Weather

variable {client : Client} {args : String} {outcome : Except Failure Reply}

/-- What the look-up of a place comes to. -/
def found (web : Except Fault Http.Response) : Except Failure Reply :=
  match Client.checked web with
  | .ok response => (response.text.map Reply.text).mapError .fault
  | .error fault =>
    if fault.family == .http then .error (.lookupFailed .weather) else .error (.fault fault)

theorem fetch_ends (h : (fetch client args).Ends path outcome) (hweb : WebAnswers web path) :
    outcome = found web := by
  rcases Job.ends_bind.mp h with ⟨front, back, answer, rfl, hfront, hback⟩ | ⟨failure, hfailed, -⟩
  · obtain ⟨_, hget, hanswer⟩ := Job.ends_lift.mp hfront
    obtain rfl := Except.ok.inj hanswer
    have hchecked : answer = Client.checked web :=
      Client.get_ends hget (hweb.sub fun _ => List.mem_append_left back)
    unfold found
    rw [← hchecked]
    cases answer with
    | ok response =>
      dsimp only at hback ⊢
      cases htext : response.text with
      | ok text =>
        rw [htext] at hback
        exact (Job.ends_pure.mp hback).2
      | error fault =>
        rw [htext] at hback
        exact (Job.ends_throw.mp hback).2
    | error fault =>
      rcases Job.ends_ite.mp hback with ⟨hfamily, hfailed⟩ | ⟨hfamily, hthrown⟩
      · rw [failed_ends hfailed]
        exact (if_pos hfamily).symm
      · rw [(Job.ends_throw.mp hthrown).2]
        exact (if_neg hfamily).symm
  · obtain ⟨_, -, hfailure⟩ := Job.ends_lift.mp hfailed
    cases hfailure

/-- The outcome of the command is told by the answer of the service. -/
theorem execute_ends (h : (execute client args).Ends path outcome) (hweb : WebAnswers web path) :
    outcome = told (found web) := by
  obtain ⟨first, ⟨part, hpart, hsub⟩, rfl⟩ := asCommand_ends h
  rw [fetch_ends hpart (hweb.sub hsub)]

end Weather

/-! ## Cards -/

namespace Card

variable {client : Client} {args : String} {outcome : Except Failure Reply}

/-- A fault of a look-up that the command replies to. -/
def IsExpected (fault : Fault) : Prop := fault.family = .http ∨ fault.family = .value

instance (fault : Fault) : Decidable (IsExpected fault) :=
  inferInstanceAs (Decidable (fault.family = .http ∨ fault.family = .value))

/-- What the look-up of a card comes to. -/
def found (web : Except Fault Http.Response) : Except Failure Reply :=
  match (Client.checked web).bind Http.Response.document with
  | .ok document => ((lineOf document).map Reply.ofJson).mapError .fault
  | .error fault =>
    if IsExpected fault then .error (.lookupFailed .card) else .error (.fault fault)

/-- What is shown becomes the reply. -/
theorem shown_ends {shown : Except Fault Json}
    (h : Job.Ends (do return Reply.ofJson (← Job.ofFault shown)) path outcome) :
    outcome = (shown.map Reply.ofJson).mapError .fault := by
  cases shown with
  | ok value => exact (Job.ends_pure.mp h).2
  | error fault => exact (Job.ends_throw.mp h).2

theorem isExpected_iff {fault : Fault} :
    (fault.family == .http || fault.family == .value) = true ↔ IsExpected fault := by
  simp [IsExpected]

theorem fetch_ends (h : (fetch client args).Ends path outcome) (hweb : WebAnswers web path) :
    outcome = found web := by
  rcases Job.ends_bind.mp h with ⟨front, back, answer, rfl, hfront, hback⟩ | ⟨failure, hfailed, -⟩
  · obtain ⟨_, hget, hanswer⟩ := Job.ends_lift.mp hfront
    obtain rfl := Except.ok.inj hanswer
    have hchecked : answer = Client.checked web :=
      Client.get_ends hget (hweb.sub fun _ => List.mem_append_left back)
    unfold found
    rw [← hchecked]
    cases hdocument : answer.bind Http.Response.document with
    | ok document =>
      rw [hdocument] at hback
      exact shown_ends hback
    | error fault =>
      rw [hdocument] at hback
      rcases Job.ends_ite.mp hback with ⟨hfamily, hfailed⟩ | ⟨hfamily, hthrown⟩
      · rw [failed_ends hfailed]
        exact (if_pos (isExpected_iff.mp hfamily)).symm
      · rw [(Job.ends_throw.mp hthrown).2]
        exact (if_neg fun hexpected => hfamily (isExpected_iff.mpr hexpected)).symm
  · obtain ⟨_, -, hfailure⟩ := Job.ends_lift.mp hfailed
    cases hfailure

/-- The outcome of the command is told by the answer of the service, and by its arguments if there
    are none. -/
theorem execute_ends (h : (execute client args).Ends path outcome) (hweb : WebAnswers web path) :
    outcome = if Chat.hasWords args 1 then told (found web)
      else .ok (.text "USAGE: card <name>") := by
  rcases Job.ends_ite.mp h with ⟨hnone, hdone⟩ | ⟨hsome, hasked⟩
  · rw [if_neg (by simpa using hnone)]
    exact (Job.ends_pure.mp hdone).2
  · rw [if_pos (by simpa using hsome)]
    obtain ⟨first, ⟨part, hpart, hsub⟩, rfl⟩ := asCommand_ends hasked
    rw [fetch_ends hpart (hweb.sub hsub)]

/-- A card as it should be: the name and the rules are texts if it has them, and the page has an
    address that can be read if it has one. -/
structure IsPlain (card : Json) : Prop where
  object : ∃ fields, card = .obj fields
  name : ∀ value, card.field? "name" = some value → ∃ said, value = .str said
  rules : ∀ value, card.field? "oracle_text" = some value → value.isTruthy = true →
    ∃ said, value = .str said
  page : ∀ value, card.field? "scryfall_uri" = some value → value.isTruthy = true →
    ∃ said, value = .str said ∧ (withoutTracking? said).isSome = true

/-- What is shown is a text. -/
def IsText (shown : Except Fault Json) : Prop := ∃ said, shown = .ok (.str said)

variable {card : Json}

theorem extend_isText (shown more : String) : IsText (extend (.str shown) more) :=
  ⟨shown ++ more, rfl⟩

theorem extendWith_isText (card : Json) (shown field separator : String) :
    IsText (extendWith card (.str shown) field separator) := by
  unfold extendWith
  split
  · split
    · exact extend_isText _ _
    · exact ⟨shown, rfl⟩
  · exact ⟨shown, rfl⟩

theorem extendWithRules_isText (h : IsPlain card) (shown : String) :
    IsText (extendWithRules card (.str shown)) := by
  unfold extendWithRules
  split
  · next value hfield =>
    split
    · exact ⟨shown, rfl⟩
    · next htruthy =>
      obtain ⟨said, rfl⟩ := h.rules value hfield (by simpa using htruthy)
      exact extend_isText _ _
  · exact ⟨shown, rfl⟩

theorem extendWithStrengths_isText (card : Json) (shown : String) :
    IsText (extendWithStrengths card (.str shown)) := by
  unfold extendWithStrengths
  split
  · exact ⟨shown, rfl⟩
  · exact extend_isText _ _

theorem fullLine_isText (h : IsPlain card) : IsText (fullLine card) := by
  obtain ⟨name, hname⟩ : ∃ name, (card.field? "name").getD (.str "") = .str name := by
    cases hfield : card.field? "name" with
    | none => exact ⟨"", rfl⟩
    | some value =>
      obtain ⟨said, rfl⟩ := h.name value hfield
      exact ⟨said, rfl⟩
  obtain ⟨first, hfirst⟩ := extendWith_isText card name "mana_cost" " "
  obtain ⟨second, hsecond⟩ := extendWith_isText card first "type_line" " | "
  obtain ⟨third, hthird⟩ := extendWithRules_isText h second
  obtain ⟨fourth, hfourth⟩ := extendWithStrengths_isText card third
  obtain ⟨last, hlast⟩ := extendWith_isText card fourth "loyalty" " | "
  refine ⟨last, ?_⟩
  unfold fullLine
  rw [hname]
  simp only [hfirst, hsecond, hthird, hfourth, hlast, bind, Except.bind]

/-- A plain card is shown as a text. -/
theorem line_of_plain (h : IsPlain card) : IsText (line card) := by
  obtain ⟨fields, rfl⟩ := h.object
  obtain ⟨full, hfull⟩ := fullLine_isText h
  simp only [line, hfull, length, bind, Except.bind]
  split
  · split
    · next address hfield =>
      split
      · next htruthy =>
        obtain ⟨said, rfl, hreadable⟩ := h.page address hfield htruthy
        obtain ⟨kept, hkept⟩ := Option.isSome_iff_exists.mp hreadable
        exact ⟨kept, by rw [pageAddress, hkept]⟩
      · exact ⟨full, rfl⟩
    · exact ⟨full, rfl⟩
  · exact ⟨full, rfl⟩

end Card

end Lookup

/-! ## Look-ups that reply -/

end ChatWarden
