import ChatWarden.Decimal.Number
import ChatWarden.Text.Utf8
import ChatWarden.Work.Basic

/-!
# The analyzer

The tool that looks at a snippet before it is run and rejects it by its exit code.

Results:
* `Analyzer.analyze` yields how the tool ended, whatever it wrote. A tool that is missing, does not
  start or takes too long is a failure that chat is told of; one that cannot be stopped or read is
  a fault.
-/

namespace ChatWarden.Sandbox

/-- The bytes a tool wrote, as text. -/
def written (bytes : List UInt8) : String := .ofList (Text.utf8Lossy bytes)

/-- The analyzer: where it is, and how many seconds it may take. -/
structure Analyzer where
  path : String
  timeout : Decimal.Number

namespace Analyzer

/-- Writes down what is wrong with the analyzer. -/
def complain (message : String) : Job Unit :=
  Job.note ⟨.error, .analyzer, message, none, none, none⟩

/-- Runs the analyzer over a snippet. -/
def analyze (analyzer : Analyzer) (snippet : String) : Job Outcome := do
  if !(← Job.request .findAnalyzer) then
    complain ("Static analyzer not found at " ++ analyzer.path ++
      ". Please install it before enabling sandboxed execution.")
    throw (.unavailable .analyzerMissing)
  match ← Job.request (.analyze snippet) with
  | .notStarted fault =>
    if !fault.isFileTrouble then throw (.fault fault)
    complain ("Failed to start static analyzer " ++ analyzer.path ++ ": " ++ fault.shown)
    throw (.unavailable .analyzerBroken)
  | .overran (some fault) | .unread fault => throw (.fault fault)
  | .overran none =>
    complain ("Static analyzer exceeded " ++ analyzer.timeout.fixed 1 ++ "s on snippet `" ++
      snippet ++ "`")
    throw (.timedOut .analyzer)
  | .ended exitCode output errors => return ⟨exitCode, written output, written errors⟩

end Analyzer

end ChatWarden.Sandbox
