import ChatWarden.Text.Digits
import ChatWarden.Text.Quoted
import ChatWarden.Text.Split

/-!
# The command line

The arguments of the program: the path of the configuration file, or the wish for help. Options
may be cut short as long as they are at least two dashes long, and everything behind a lone pair of
dashes is no option.

Results:
* `CommandLine.read` tells what the arguments ask for; the first thing that ends the reading wins.
-/

namespace ChatWarden

/-- What the arguments of the program ask for. -/
inductive CommandLine where
  /-- They ask for help. -/
  | help
  /-- They make no sense. -/
  | misuse (message : String)
  /-- They ask to run the bot with the configuration file at a path. -/
  | run (path : String)
  deriving DecidableEq, Repr

namespace CommandLine

/-- The name of the program. -/
def programName : String := "streambot"

/-- How the program is called. -/
def usage : String := "usage: " ++ programName ++ " [-h] config_path\n"

/-- The help. -/
def helpText : String :=
  usage ++ "\nTwitch chat bot with custom commands.\n\npositional arguments:\n" ++
  "  config_path  Path to the bot config file\n\noptions:\n" ++
  "  -h, --help   show this help message and exit\n"

/-- What is said about arguments that make no sense. -/
def misuseText (message : String) : String := usage ++ programName ++ ": error: " ++ message ++ "\n"

/-- What is said about an option for help that comes with a value. -/
def ignoredValue (value : List Char) : CommandLine :=
  .misuse ("argument -h/--help: ignored explicit argument " ++ Text.quoted (.ofList value))

/-- What the letter of the option for help asks for if other letters follow it: help, unless a
    value follows the letter or its repetitions. -/
def shortHelp : (behind : List Char) → CommandLine
  | 'h' :: '=' :: value => ignoredValue value
  | 'h' :: rest => shortHelp rest
  | '-' :: rest => ignoredValue ('-' :: rest)
  | _ => .help

/-- Whether an argument is a negative number, which is no option. -/
def isNegativeNumber (cs : List Char) : Bool :=
  let isDigit (c : Char) := (Text.digitValue? c).isSome
  match cs with
  | '-' :: rest =>
    let rest := if rest.getLast? == some '\n' then rest.dropLast else rest
    let behind := rest.dropWhile isDigit
    match behind with
    | [] => !rest.isEmpty
    | '.' :: places => !places.isEmpty && places.all isDigit
    | _ => false
  | _ => false

/-- What one argument is. -/
inductive Word where
  /-- No option. -/
  | plain
  /-- An option that asks for help, or fails to. -/
  | help (asked : CommandLine)
  /-- An option that does not exist. -/
  | unknown
  deriving DecidableEq, Repr

/-- What an argument is that stands in front of a lone pair of dashes. -/
def wordOf (argument : String) : Word :=
  let cs := argument.toList
  let plainOrUnknown := if isNegativeNumber cs || cs.contains ' ' then Word.plain else .unknown
  match cs with
  | ['-'] => .plain
  | ['-', 'h'] => .help .help
  | '-' :: '-' :: _ =>
    let (name, value) := match Text.cutAt? '=' cs with
      | some (name, value) => (name, some value)
      | none => (cs, none)
    if name.isPrefixOf "--help".toList then
      .help (match value with
        | some value => ignoredValue value
        | none => .help)
    else plainOrUnknown
  | '-' :: 'h' :: '=' :: value => .help (ignoredValue value)
  | '-' :: 'h' :: behind => .help (shortHelp behind)
  | '-' :: _ => plainOrUnknown
  | _ => .plain

/-- What arguments ask for that were read without trouble: the path that was found, and the
    arguments that nothing was done about. -/
def concluded (path : Option String) (extra : List String) : CommandLine :=
  match path with
  | none => .misuse "the following arguments are required: config_path"
  | some path =>
    if extra.isEmpty then .run path
    else .misuse ("unrecognized arguments: " ++ " ".intercalate extra)

/-- Reads arguments behind those that gave a path and those that nothing was done about. A lone
    pair of dashes belongs to the path next to it; else nothing is done about it. -/
def readFrom (path : Option String) (extra : List String) : List String → CommandLine
  | [] => concluded path extra
  | "--" :: rest =>
    match path, rest with
    | none, next :: rest => concluded next (extra ++ rest)
    | _, _ => concluded path (extra ++ "--" :: rest)
  | argument :: rest =>
    match wordOf argument with
    | .help asked => asked
    | .unknown => readFrom path (extra ++ [argument]) rest
    | .plain =>
      match path, rest with
      | none, "--" :: rest => concluded argument (extra ++ rest)
      | none, rest => readFrom argument extra rest
      | some _, rest => readFrom path (extra ++ [argument]) rest

/-- Reads the arguments of the program. -/
def read (arguments : List String) : CommandLine := readFrom none [] arguments

end CommandLine

end ChatWarden
