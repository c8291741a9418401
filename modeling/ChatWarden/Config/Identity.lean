import ChatWarden.Chat.Name
import ChatWarden.Config.File
import ChatWarden.Config.Issue
import ChatWarden.Json.Value
import ChatWarden.Log.Record

/-!
# The identity of the bot

Who the bot is in chat, which channel it joins, what marks a command, and whom it trusts from the
start.

Results:
* `Identity.ofEntries` takes the identity from the entries of a configuration file.
* `Identity.ofFields` takes it from loosely typed values and lists all that is wrong with them.
-/

namespace ChatWarden.Config

open Log (Journal)

/-- The identity of the bot. -/
structure Identity where
  user : Option String := none
  token : Option String := none
  channel : String := "commanderroot"
  mark : String := "!"
  trusted : List String := []
  deriving DecidableEq, Repr

namespace Identity

/-- Whether the bot can log in: it has a name and a token, and neither is empty. -/
def hasCredentials (identity : Identity) : Bool :=
  identity.user.any (!·.isEmpty) && identity.token.any (!·.isEmpty)

/-- A token without the mark of its kind, which is not part of it. -/
def bareToken (token : String) : String :=
  if "oauth:".toList.isPrefixOf token.toList then .ofList (token.toList.drop 6) else token

/-- The user names among the given texts; the others are reported. -/
def validUsers : List String → Journal (List String)
  | [] => pure []
  | name :: rest => do
    if Chat.isUserName name then
      return name :: (← validUsers rest)
    else
      Journal.write ⟨.error, .config, "Ignoring invalid trusted username in config: " ++ name,
        none, none, none⟩
      validUsers rest

/-- The identity with its token bared and its trusted users checked. -/
def checked (identity : Identity) : Journal Identity := do
  let trusted ← validUsers identity.trusted
  return { identity with token := identity.token.map bareToken, trusted }

/-- The names in a list separated by commas. -/
def namesInList (value : List Char) : List String :=
  (((Text.splitAt ',' value).map Text.strip).filter (!·.isEmpty)).map .ofList

/-- The identity with the value of one entry; unknown keys are reported. -/
def withEntry (identity : Identity) (entry : Entry) : Journal Identity :=
  let value := String.ofList entry.2
  match String.ofList entry.1 with
  | "twitch.user" => pure { identity with user := some value }
  | "twitch.token" => pure { identity with token := some value }
  | "twitch.channel" => pure { identity with channel := value }
  | "command.prefix" => pure { identity with mark := value }
  | "trusted.users" => pure { identity with trusted := namesInList entry.2 }
  | key => do
    Journal.write ⟨.warning, .config, "Unknown config option: " ++ key, none, none, none⟩
    return identity

/-- The identity that entries describe. -/
def ofEntries (list : List Entry) : Journal Identity := do
  let identity ← list.foldlM withEntry {}
  checked identity

/-- A value that has to be a text. -/
def textValue (name : String) : Json → Except (List Issue) String
  | .str s => .ok s
  | _ => .error [⟨[.field name], .notText⟩]

/-- A value that has to be a text or null. -/
def optionalText (name : String) : Json → Except (List Issue) (Option String)
  | .null => .ok none
  | value => (textValue name value).map some

/-- The items of a list that are no texts, with their places counted from `index`. -/
def itemIssues (name : String) : (index : Nat) → List Json → List Issue
  | _, [] => []
  | index, .str _ :: rest => itemIssues name (index + 1) rest
  | index, _ :: rest =>
    ⟨[.field name, .item index], .notText⟩ :: itemIssues name (index + 1) rest

/-- A value that has to be a list of texts. -/
def textList (name : String) : Json → Except (List Issue) (List String)
  | .arr items =>
    match itemIssues name 0 items with
    | [] => .ok (items.filterMap fun | .str s => some s | _ => none)
    | issues => .error issues
  | _ => .error [⟨[.field name], .notList⟩]

/-- The issues of a field that was read. -/
def issuesOf {α : Type} : Except (List Issue) α → List Issue
  | .ok _ => []
  | .error issues => issues

/-- A field read by its rule, or the default if it is absent. -/
def fieldOr {α : Type} (fields : List (String × Json)) (name : String) (default : α)
    (rule : String → Json → Except (List Issue) α) : Except (List Issue) α :=
  match fields.lookup name with
  | some value => rule name value
  | none => .ok default

/-- The identity that loosely typed fields describe, or all issues with them in the order of the
    fields. Trusted users are checked whenever their list is sound. -/
def ofFields (fields : List (String × Json)) : Journal (Except (List Issue) Identity) := do
  let user := fieldOr fields "user" none optionalText
  let token := fieldOr fields "token" none optionalText
  let channel := fieldOr fields "channel" "commanderroot" textValue
  let mark := fieldOr fields "prefix" "!" textValue
  let trusted := fieldOr fields "trusted_users" [] textList
  let valid ← validUsers (trusted.toOption.getD [])
  match user, token, channel, mark, trusted with
  | .ok user, .ok token, .ok channel, .ok mark, .ok _ =>
    return .ok { user, token := token.map bareToken, channel, mark, trusted := valid }
  | _, _, _, _, _ =>
    return .error (issuesOf user ++ issuesOf token ++ issuesOf channel ++ issuesOf mark ++
      issuesOf trusted)

end Identity

end ChatWarden.Config
