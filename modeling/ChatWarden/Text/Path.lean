import ChatWarden.Text.Split

/-!
# Paths

A path names a place by the steps that lead to it from the working directory.

Results:
* `Path.steps` yields these steps with the dot steps carried out.
* `Path.directory` is the part of a path that names the directory of its place.
-/

namespace ChatWarden.Text.Path

/-- Steps with the dot steps carried out, behind those already `kept`, in reverse. Steps above the
    working directory are kept. -/
def resolve : (kept : List (List Char)) → List (List Char) → List (List Char)
  | kept, [] => kept.reverse
  | kept, step :: rest =>
    if step.isEmpty || step == ['.'] then resolve kept rest
    else if step == ['.', '.'] && kept.head?.any (· != ['.', '.']) then resolve (kept.drop 1) rest
    else resolve (step :: kept) rest

/-- The steps of a path. -/
def steps (path : String) : List (List Char) := resolve [] (splitAt '/' path.toList)

/-- The part of a path in front of its last step. -/
def directory (path : String) : String :=
  .ofList (path.toList.reverse.dropWhile (· != '/')).reverse

/-- Whether no place can have a path. -/
def isBad (path : String) : Bool := path.toList.contains '\x00'

end ChatWarden.Text.Path
