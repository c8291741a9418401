import ChatWarden.Bot.Basic
import ChatWarden.Config.Load
import ChatWarden.Config.Settings

/-!
# Launching the bot

What happens between reading the command line and running the bot: the configuration file is
loaded, the credentials in it are checked, and the stores are opened. Each of these may stop the
launch.

Results:
* `Launch.prepare` yields the identity of the bot and its database, or why there is no bot.
-/

namespace ChatWarden.Launch

/-- Why there is no bot. -/
inductive Stop where
  /-- The bot may not be started; the reason was written down. -/
  | refused
  /-- Something went wrong that is not expected. -/
  | crashed (fault : Fault)
  deriving DecidableEq, Repr

/-- The level of the log, as it is handed on. -/
def logLevel (settings : Config.Settings) : String := Text.uppered settings.logLevel

/-- Opens the stores, where `place` is the database at the configured path or the fault in
    reaching that place. -/
def openStores (identity : Config.Identity) (place : Except Fault Store.Database) :
    Log.Journal (Except Failure Store.Database) := do
  match place with
  | .error fault => return .error (.fault fault)
  | .ok db =>
    match ← db.openFor identity.trusted with
    | (.error failure, _) => return .error (.store failure)
    | (.ok (), db) => return .ok db

/-- Whether a failure to open the stores is expected. -/
def isExpected : Failure → Bool
  | .store _ => true
  | .fault fault => fault.isFileTrouble
  | _ => false

/-- Prepares the bot that the configuration file at a path describes, of which `content` is what
    reading it gave. -/
def prepare (path : String) (content : Except Fault (List UInt8))
    (place : Except Fault Store.Database) :
    Log.Journal (Except Stop (Config.Identity × Store.Database)) := do
  match ← Config.Identity.load path content with
  | .error fault => return .error (.crashed fault)
  | .ok identity =>
    if !identity.hasCredentials then
      Log.Journal.write
        (Bot.record .error ("twitch.user and twitch.token must be set in " ++ path))
      return .error .refused
    match ← openStores identity place with
    | .ok db => return .ok (identity, db)
    | .error failure =>
      if isExpected failure then
        Log.Journal.write (Bot.record .error ("Failed to open the database: " ++ failure.shown))
        return .error .refused
      else return .error (.crashed (match failure with
        | .fault fault => fault
        | _ => .brokenFile))

/-- What is written down when the user interrupts the bot. -/
def interrupted : Log.Record := Bot.record .info "Shutdown complete"

end ChatWarden.Launch
