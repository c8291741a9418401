import ChatWarden.Text.Lines

/-!
# Diagnostics

The line that tells what went wrong with a snippet. The tools print a banner of fixed height in
front of it, so it stands at a fixed place.

Results:
* `diagnostic` picks the line, `isKnownDanger` tells whether it names a danger that the analyzer
  looks for.
-/

namespace ChatWarden.Sandbox

/-- The number of lines in front of the diagnostic. -/
def bannerHeight : Nat := 4

/-- The line behind the banner of what a tool wrote as errors. -/
def diagnostic (errors : String) : String :=
  match (Text.lines errors.toList)[bannerHeight]? with
  | some line => .ofList line
  | none => "Unknown error"

/-- The dangers that the analyzer looks for. -/
def knownDangers : List String := ["InfiniteLoopError", "ForbiddenModuleError"]

/-- Whether a line names one of these dangers at its front. -/
def isKnownDanger (line : String) : Bool :=
  knownDangers.any fun danger => danger.toList.isPrefixOf line.toList

end ChatWarden.Sandbox
