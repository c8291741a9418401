import ChatWarden.Proofs.Bot.Replies
import ChatWarden.Proofs.Bot.World
import ChatWarden.Proofs.Chat.Fit

/-!
# What is sent

The handler of a line keeps an empty reply back. Every other text is fitted into a message and sent
once, if the bot has joined the channel. Whether a reply is empty is asked before it is fitted, so
a reply of nothing but blanks is sent as an empty message.

Results:
* `Setup.resolve_not_channel`: finding a reply never reaches the channel.
* `Setup.handle_sent`: what a line sends is told by its reply and by whether the channel was joined.
* `sends_empty_iff_blank`: a line sends an empty message just if its reply is blank, but not empty.
-/

namespace ChatWarden

open Exchange (sent)
open Text (IsBlankText)

namespace Exchange

variable {front back path : List Exchange}

theorem sent_append : sent (front ++ back) = sent front ++ sent back := by
  fun_induction sent front with
  | case1 => rfl
  | case2 text answer rest ih => simp [sent, ih]
  | case3 first rest hfirst ih =>
    obtain ⟨request, answer⟩ := first
    cases request with
    | send text => exact absurd rfl (hfirst text answer)
    | _ => exact ih

/-- Whether the channel was found joined. -/
def findsJoined : Exchange → Bool
  | ⟨.findChannel, joined⟩ => joined
  | _ => false

/-- Whether the channel was found joined on a path. -/
def joins (path : List Exchange) : Bool := path.any findsJoined

theorem joins_append : joins (front ++ back) = (joins front || joins back) := List.any_append

theorem findsJoined_of_area {exchange : Exchange} (h : exchange.request.area ≠ .channel) :
    exchange.findsJoined = false := by
  obtain ⟨request, answer⟩ := exchange
  cases request with
  | findChannel => exact absurd rfl h
  | _ => rfl

/-- Away from the channel nothing is sent, and nobody looks whether it is joined. -/
theorem quiet_of_area (h : ∀ exchange ∈ path, exchange.request.area ≠ .channel) :
    sent path = [] ∧ joins path = false := by
  constructor
  · refine sent_eq_nil fun exchange he text ht => h exchange he ?_
    rw [ht]
  · refine List.any_eq_false.mpr fun exchange he => ?_
    rw [findsJoined_of_area (h exchange he)]
    decide

end Exchange

open Exchange (joins joins_append quiet_of_area sent_append)

/-! ## Saying a reply -/

/-- The messages that say a reply; a reply that is no text is never said. -/
def Reply.messages : Reply → List String
  | .text said => if said = "" then [] else [Chat.fit said]
  | .other _ => []

theorem Reply.messages_of_filled {text : String} (h : (Reply.text text).isEmpty = false) :
    (Reply.text text).messages = [Chat.fit text] := by
  have hne : text ≠ "" := by simpa [isEmpty, toJson, Json.isTruthy] using h
  rw [messages, if_neg hne]

/-- A reply is said by an empty message just if it is blank, but not empty. -/
theorem Reply.empty_mem_messages_iff {reply : Reply} :
    "" ∈ reply.messages ↔ ∃ said, reply = .text said ∧ said ≠ "" ∧ IsBlankText said := by
  cases reply with
  | text said =>
    rw [messages]
    split
    · next hempty => simp [hempty]
    · next hfull =>
      rw [List.mem_singleton, eq_comm, Chat.fit_eq_empty_iff]
      constructor
      · intro hblank
        exact ⟨said, rfl, hfull, hblank⟩
      · rintro ⟨_, hsaid, -, hblank⟩
        obtain rfl := Reply.text.inj hsaid
        exact hblank
  | other value => simp [messages]

/-- On a path that only writes records nothing is sent, and nobody looks for the channel. -/
theorem Exchange.quiet_of_log {α : Type} {job : Job α} {path : List Exchange}
    {outcome : Except Failure α} (h : job.Ends path outcome)
    (hjob : job.AsksOnly fun request => request.area = .log) :
    sent path = [] ∧ joins path = false :=
  quiet_of_area fun exchange he => by simp [(h.within hjob).1 exchange he]

namespace Channel

variable {channel : String} {reply : Reply} {path : List Exchange} {outcome : Except Failure Unit}

/-- A text is sent fitted into a message, once, if the channel is joined. -/
theorem send_sent (hfull : reply.isEmpty = false) (h : (send channel reply).Ends path outcome) :
    sent path = if joins path then reply.messages else [] := by
  obtain ⟨joined, rest, rfl, hrest⟩ := Job.ends_request_bind.mp h
  cases joined with
  | false =>
    -- the reply is dropped, with a record of that
    obtain ⟨more, rfl, hmore⟩ := Job.ends_note_bind.mp hrest
    obtain ⟨rfl, -⟩ := Job.ends_pure.mp hmore
    rfl
  | true =>
    have hjoins (rest : List Exchange) : joins (⟨.findChannel, true⟩ :: rest) = true := rfl
    rw [hjoins, if_pos rfl]
    cases reply with
    | text text =>
      obtain ⟨answer, more, rfl, hmore⟩ := Job.ends_request_bind.mp hrest
      obtain ⟨rfl, -⟩ := Job.ends_mk.mp hmore
      rw [Reply.messages_of_filled hfull]
      rfl
    | other value =>
      obtain ⟨rfl, -⟩ := Job.ends_throw.mp hrest
      rfl

end Channel

/-! ## Finding a reply -/

/-- No command reaches the channel. -/
theorem Builtin.Reaches.not_channel {command : Builtin} {args : String} {request : Request}
    (h : command.Reaches args request) : request.area ≠ .channel := by
  cases command with
  | ping => exact h.elim
  | odds =>
    rw [show request.area = .log from h]
    decide
  | node =>
    rw [show request.area = .sandbox from h]
    decide
  | custom action => rcases h with rfl | h <;> simp [*]
  | trust action => rcases h with rfl | h <;> simp [*]
  | commands => rcases h with rfl | h <;> simp [*]
  | _ => rcases h with h | h <;> simp [h]

namespace Setup

variable (setup : Setup) (text sender : String) {reply : Reply} {path : List Exchange}

/-- What is done about a reply that was found. -/
theorem finish_sent {outcome : Except Failure Unit} (h : (setup.finish reply).Ends path outcome) :
    sent path = if joins path then reply.messages else [] := by
  cases hempty : reply.isEmpty with
  | true =>
    rw [finish, hempty] at h
    obtain ⟨rfl, -⟩ := Job.ends_pure.mp h
    rfl
  | false =>
    rw [finish, hempty] at h
    rcases Job.ends_tryCatch.mp h with
      ⟨value, hsent, -⟩ | ⟨front, back, failure, rfl, hfailed, hback⟩
    · exact Channel.send_sent hempty hsent
    · have hnote : (Job.note (Dispatcher.record .error
          ("Failed to send message: " ++ failure.shown))).AsksOnly fun request =>
            request.area = .log := .note rfl
      obtain ⟨hnone, hunjoined⟩ := Exchange.quiet_of_log hback hnote
      have hjoins : joins (front ++ back) = joins front := by
        rw [joins_append, hunjoined, Bool.or_false]
      rw [sent_append, hnone, List.append_nil, hjoins, Channel.send_sent hempty hfailed]

/-- To say something takes a channel that is joined. -/
theorem finish_joins {outcome : Except Failure Unit} (hfull : reply.isEmpty = false)
    (h : (setup.finish reply).Ends path outcome) (hjoined : ⟨.findChannel, false⟩ ∉ path) :
    joins path = true := by
  rw [finish, hfull] at h
  have hfirst {part : List Exchange} {ending : Except Failure Unit}
      (hsend : (Channel.send setup.channel reply).Ends part ending)
      (hjoined : ⟨.findChannel, false⟩ ∉ part) : joins part = true := by
    obtain ⟨joined, rest, rfl, -⟩ := Job.ends_request_bind.mp hsend
    cases joined with
    | false => exact absurd List.mem_cons_self hjoined
    | true => rfl
  rcases Job.ends_tryCatch.mp h with ⟨value, hsent, -⟩ | ⟨front, back, failure, rfl, hfailed, -⟩
  · exact hfirst hsent hjoined
  · rw [joins_append, hfirst hfailed fun hmem => hjoined (List.mem_append_left back hmem),
      Bool.true_or]

/-- Finding a reply never reaches the channel. -/
theorem resolve_not_channel :
    (setup.dispatcher.resolve text sender).AsksOnly fun request => request.area ≠ .channel := by
  refine setup.resolve_asks text sender (motive := fun _ request => request.area ≠ .channel)
    (fun _ request hr => ?_) (fun _ => by simp) (fun _ => by simp) fun command args => ?_
  · rw [hr]
    decide
  · exact (Builtin.execute_asks ..).widen fun request hr => hr.not_channel

/-- What a line sends is told by its reply and by whether the channel was joined. -/
theorem handle_sent {outcome : Except Failure Unit}
    (h : (setup.handle text sender).Ends path outcome) :
    sent path =
      if joins path then (setup.reply? text sender path).elim [] Reply.messages else [] := by
  have hquiet {front : List Exchange} {found : Except Failure Reply}
      (hfront : (setup.dispatcher.resolve text sender).Ends front found) :
      sent front = [] ∧ joins front = false :=
    quiet_of_area (hfront.within (setup.resolve_not_channel text sender)).1
  rcases handle_ends h with
    ⟨front, back, reply, rfl, hfront, hback, hreply⟩ | ⟨failure, hfailed, hreply⟩
  · obtain ⟨hnone, hunjoined⟩ := hquiet hfront
    have hjoins : joins (front ++ back) = joins back := by
      rw [joins_append, hunjoined, Bool.false_or]
    rw [sent_append, hnone, List.nil_append, hjoins, hreply, setup.finish_sent hback]
    rfl
  · obtain ⟨hnone, hunjoined⟩ := hquiet hfailed
    rw [hnone, hunjoined]
    rfl

/-- A reply that is not empty is sent if the channel is joined. -/
theorem handle_sent_of_joined {outcome : Except Failure Unit}
    (h : (setup.handle text sender).Ends path outcome)
    (hreply : setup.reply? text sender path = some reply) (hfull : reply.isEmpty = false)
    (hjoined : ⟨.findChannel, false⟩ ∉ path) : sent path = reply.messages := by
  have hjoins : joins path = true := by
    rcases handle_ends h with
      ⟨front, back, found, rfl, -, hback, hfound⟩ | ⟨failure, -, hfound⟩
    · obtain rfl : found = reply := Option.some.inj (hfound.symm.trans hreply)
      have hback := setup.finish_joins hfull hback fun hmem =>
        hjoined (List.mem_append_right front hmem)
      rw [joins_append, hback, Bool.or_true]
    · rw [hfound] at hreply
      cases hreply
  rw [setup.handle_sent text sender h, hjoins, if_pos rfl, hreply]
  rfl

end Setup

/-! ## Empty messages -/

/-- **Empty messages.** Whatever the database, the services and the sandbox answer, a line sends
    the message of its reply once if the channel is joined, and nothing if the reply is empty. The
    message is empty just if the reply is not, but holds nothing but blanks. -/
theorem sends_empty_iff_blank (setup : Setup) (surroundings : Surroundings) (world : World)
    (text sender : String) :
    let path := ((setup.handle text sender).attempt.record (World.answer surroundings) world).1
    let reply? := setup.reply? text sender path
    sent path = (if joins path then reply?.elim [] Reply.messages else []) ∧
      ("" ∈ sent path ↔ joins path = true ∧
        ∃ reply, reply? = some (.text reply) ∧ reply ≠ "" ∧ IsBlankText reply) := by
  intro path reply?
  have hsent : sent path = if joins path then reply?.elim [] Reply.messages else [] :=
    setup.handle_sent text sender (World.ends_record surroundings _ world)
  refine ⟨hsent, ?_⟩
  rw [hsent]
  cases joins path with
  | false => simp
  | true =>
    rw [if_pos rfl]
    cases reply? with
    | none => simp
    | some reply => simp [Reply.empty_mem_messages_iff]

/-- A weather service that answers with an empty line. -/
theorem empty_line_sent :
    let weather : Surroundings := Surroundings.calm.withWeb
      (.ok { text := .ok "\n", document := .error .unreadable })
    sent (((Setup.ofRun {} {}).handle "!wttr lisbon" "viewer").attempt.record
      (World.answer weather) { db := .fresh "bot.db" }).1 = [""] := by
  decide +kernel

end ChatWarden
