import ChatWarden.Chat.Fit
import ChatWarden.Command.Reply
import ChatWarden.Work.Basic

/-!
# The channel

How replies reach the chat: each one is fitted into one message and sent to the channel, if the
bot has joined it.
-/

namespace ChatWarden.Channel

/-- Sends a reply to the channel of a name. A reply that is no text cannot be fitted. -/
def send (channel : String) (reply : Reply) : Job Unit := do
  if !(← Job.request .findChannel) then
    Job.note ⟨.warning, .bot,
      "Not connected to #" ++ channel ++ ", dropping reply: " ++ reply.shown, none, none, none⟩
    return ()
  match reply with
  | .text text => Job.ofFault (← Job.request (.send (Chat.fit text)))
  | .other _ => throw (.fault .wrongKind)

end ChatWarden.Channel
