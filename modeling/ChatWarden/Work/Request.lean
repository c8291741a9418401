import ChatWarden.Decimal.Number
import ChatWarden.Http.Response
import ChatWarden.Json.Value
import ChatWarden.Log.Record
import ChatWarden.Store.Query
import ChatWarden.Work.Fault

/-!
# Requests to the surroundings

Everything the bot asks of what is around it while it handles a chat line: the log, the store,
the tools that run snippets, services on the web, the data file and the channel. Each request is
one step that nothing else can interrupt.
-/

namespace ChatWarden

/-- What the analyzer or a container left behind: an exit code and what was written. -/
structure Outcome where
  exitCode : Int
  output : String
  errors : String
  deriving DecidableEq, Repr

/-- Whether the exit code tells of success; it is the only sign of it. -/
def Outcome.succeeded (outcome : Outcome) : Bool := outcome.exitCode == 0

/-- How a run of the analyzer can end. -/
inductive AnalyzerRun where
  /-- It could not be started. -/
  | notStarted (fault : Fault)
  /-- It took too long and was to be stopped, which may itself fail. -/
  | overran (trouble : Option Fault)
  /-- What it wrote could not be read. -/
  | unread (fault : Fault)
  /-- It ended with an exit code and the bytes it wrote. -/
  | ended (exitCode : Int) (output errors : List UInt8)
  deriving DecidableEq, Repr

/-- The status of a container that has ended. -/
inductive ContainerStatus where
  /-- A JSON value. -/
  | json (value : Json)
  /-- A value of another kind, of which only matters what comes of reading an exit code from it. -/
  | foreign (exitCode : Except Fault Int)

/-- What a container wrote. -/
inductive ContainerLogs where
  | bytes (bytes : List UInt8)
  /-- A value of another kind, of which only matters what comes of reading it as text. -/
  | foreign (text : Except Fault String)

/-- A container, by its short name. -/
abbrev ContainerName := String

/-- A script file, by the number under which it was made. -/
abbrev Script := Nat

/-- A script file as messages show it: its path stays out of them. -/
def Script.shown : String := "<script>"

/-- A request to the surroundings. -/
inductive Request where
  /-- Write a record to the log. -/
  | note (record : Log.Record)
  /-- Ask the store. -/
  | store (query : Store.Query)
  /-- Read the data file. -/
  | readData
  /-- Draw a number to pick one of some lines. -/
  | draw (lines : List String)
  /-- Make a client for one look-up, which waits for an answer up to a number of seconds. -/
  | openClient (timeout : Decimal.Number)
  /-- Send a request over HTTP. -/
  | fetch (request : Http.Request)
  /-- Look whether the analyzer is installed. -/
  | findAnalyzer
  /-- Run the analyzer over a snippet. -/
  | analyze (snippet : String)
  /-- Get the link to the container service. -/
  | connect
  /-- Ask the container service whether it is there. -/
  | ping
  /-- Make an empty script file. -/
  | makeScript
  /-- Write the text of a script file. -/
  | writeScript (script : Script) (text : String)
  /-- Let everybody read a script file. -/
  | shareScript (script : Script)
  /-- Remove a script file. -/
  | removeScript (script : Script)
  /-- Start a container of an image that runs a script file. -/
  | startContainer (image : String) (script : Script)
  /-- Wait for a container to end, up to a number of seconds. -/
  | awaitContainer (container : ContainerName) (timeout : Decimal.Number)
  /-- Fetch what a container wrote, or what it wrote as errors. -/
  | containerLogs (container : ContainerName) (errors : Bool)
  /-- Remove a container by force. -/
  | removeContainer (container : ContainerName)
  /-- Look whether the bot has joined its channel. -/
  | findChannel
  /-- Send a text to the channel. -/
  | send (text : String)
  deriving DecidableEq

/-- What a request is answered with. -/
abbrev Request.Answer : Request → Type
  | .note _ => Unit
  | .store query => Except Store.Failure query.Result
  | .readData => Except Fault (List UInt8)
  | .draw _ => Nat
  | .openClient _ => Unit
  | .fetch _ => Except Fault Http.Response
  | .findAnalyzer => Bool
  | .analyze _ => AnalyzerRun
  | .connect => Except Fault Unit
  | .ping => Except Fault Unit
  | .makeScript => Except Fault Script
  | .writeScript _ _ => Except Fault Unit
  | .shareScript _ => Except Fault Unit
  | .removeScript _ => Except Fault Unit
  | .startContainer _ _ => Except Fault ContainerName
  | .awaitContainer _ _ => Except Fault ContainerStatus
  | .containerLogs _ _ => Except Fault ContainerLogs
  | .removeContainer _ => Except Fault Unit
  | .findChannel => Bool
  | .send _ => Except Fault Unit

end ChatWarden
