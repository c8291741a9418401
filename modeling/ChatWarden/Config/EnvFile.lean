import ChatWarden.NameMap
import ChatWarden.Text.Blank
import ChatWarden.Text.Lines

/-!
# Files of environment variables

Files of assignments `NAME=value`, one to a line, with an optional word `export` in front.
Values may stand between quotes and then hold line ends and escapes, and comments start at a
number sign. A name alone on its line takes its value away. Any other line is skipped. In values,
a dollar sign and a name between braces stand for the value of that name.

Results:
* `EnvFile.settled` lists the variables of a file with all values filled in.
-/

namespace ChatWarden.Config.EnvFile

/-- Blanks that do not end a line. -/
def isInlineBlank (c : Char) : Bool := Text.isBlank c && c != '\n' && c != '\r'

/-- A text without the blanks in front that do not end its line. -/
def skipInline (cs : List Char) : List Char := cs.dropWhile isInlineBlank

/-- The characters of a name without quotes. -/
def isNameChar (c : Char) : Bool := c != '=' && c != '#' && !Text.isBlank c

/-- The text behind the line end of the current line. -/
def skipLine (cs : List Char) : List Char :=
  match cs.dropWhile (fun c => c != '\n' && c != '\r') with
  | [] => []
  | _ :: rest => rest

/-- The text behind the word `export` and at least one blank, if they stand in front. -/
def skipExport (cs : List Char) : List Char :=
  if "export".toList.isPrefixOf cs && (cs.drop 6).head?.any isInlineBlank then
    skipInline (cs.drop 6)
  else cs

/-- The name in front of a text and the rest. A comment has no name; nothing stands for a text
    that starts with neither. -/
def takeName? (cs : List Char) : Option (Option (List Char) × List Char) :=
  match cs with
  | '#' :: _ => some (none, cs)
  | '\'' :: rest =>
    let name := rest.takeWhile (· != '\'')
    match rest.drop name.length with
    | _ :: rest => if name.isEmpty then none else some (some name, rest)
    | [] => none
  | _ =>
    let name := cs.takeWhile isNameChar
    if name.isEmpty then none else some (some name, cs.drop name.length)

/-- The text up to the closing quote, behind what was `read` in reverse, and the rest. A quote
    behind a backslash does not close unless no later one does. -/
def takeQuoted? (quote : Char) : (read : List Char) → List Char →
    Option (List Char × List Char)
  | _, [] => none
  | read, '\\' :: c :: rest =>
    if c == quote then
      match takeQuoted? quote (c :: '\\' :: read) rest with
      | some found => some found
      | none => some (('\\' :: read).reverse, rest)
    else takeQuoted? quote ('\\' :: read) (c :: rest)
  | read, c :: rest =>
    if c == quote then some (read.reverse, rest) else takeQuoted? quote (c :: read) rest

/-- The character that a backslash and a letter stand for between double quotes. -/
def escape? (c : Char) : Option Char :=
  match c with
  | '\\' => some '\\'
  | '\'' => some '\''
  | '"' => some '"'
  | 'a' => some '\x07'
  | 'b' => some '\x08'
  | 'f' => some '\x0c'
  | 'n' => some '\n'
  | 'r' => some '\r'
  | 't' => some '\t'
  | 'v' => some '\x0b'
  | _ => none

/-- The two escapes between single quotes. -/
def plainEscape? (c : Char) : Option Char := if c == '\\' || c == '\'' then some c else none

/-- A quoted text with its escapes read. -/
def unescape (meaning : Char → Option Char) : List Char → List Char
  | '\\' :: c :: rest =>
    match meaning c with
    | some decoded => decoded :: unescape meaning rest
    | none => '\\' :: unescape meaning (c :: rest)
  | c :: rest => c :: unescape meaning rest
  | [] => []
termination_by cs => cs.length

/-- A value without quotes up to its comment, which blanks set off. -/
def upToComment : List Char → List Char
  | [] => []
  | c :: rest =>
    if Text.isBlank c && (Text.stripStart rest).head? == some '#' then []
    else c :: upToComment rest

/-- The value in front of a text and the rest. -/
def takeValue? (cs : List Char) : Option (List Char × List Char) :=
  match cs with
  | '\'' :: rest => (takeQuoted? '\'' [] rest).map fun (v, rest) => (unescape plainEscape? v, rest)
  | '"' :: rest => (takeQuoted? '"' [] rest).map fun (v, rest) => (unescape escape? v, rest)
  | _ =>
    let line := cs.takeWhile (fun c => c != '\n' && c != '\r')
    some (Text.stripEnd (upToComment line), cs.drop line.length)

/-- The text behind an optional comment and the end of the line, if nothing else stands there. -/
def lineEnd? (cs : List Char) : Option (List Char) :=
  let rest := skipInline cs
  let rest := if rest.head? == some '#' then rest.dropWhile (fun c => c != '\n' && c != '\r')
    else rest
  match rest with
  | [] => some []
  | '\r' :: '\n' :: rest => some rest
  | c :: rest => if c == '\n' || c == '\r' then some rest else none

/-- A name, and the value that it is given if it is given one. -/
abbrev Binding := List Char × Option (List Char)

/-- The binding in front of a text, if there is one, and the rest behind it or behind the line
    that is none. A name without an equals sign is given no value. -/
def takeBinding (cs : List Char) : Option Binding × List Char :=
  let start := skipExport (Text.stripStart cs)
  match takeName? start with
  | none => (none, skipLine start)
  | some (name, rest) =>
    let rest := skipInline rest
    match rest with
    | '=' :: behind =>
      let behind := skipInline behind
      match takeValue? behind with
      | none => (none, skipLine behind)
      | some (value, rest) =>
        match lineEnd? rest with
        | some rest => (name.map (·, some value), rest)
        | none => (none, skipLine rest)
    | _ =>
      match lineEnd? rest with
      | some rest => (name.map (·, none), rest)
      | none => (none, skipLine rest)

/-- The bindings of a text in order. Each one takes at least one character off the text, so its
    length is `fuel` enough. -/
def bindings : (fuel : Nat) → List Char → List Binding
  | 0, _ => []
  | fuel + 1, cs =>
    if (Text.stripStart cs).isEmpty then []
    else
      let (binding, rest) := takeBinding cs
      binding.toList ++ bindings fuel rest

/-- The name and the default between braces: the default, if there is one, stands behind a colon
    and a dash. -/
def reference? (inner : List Char) : Option (List Char × List Char) :=
  let name := inner.takeWhile (· != ':')
  match inner.drop name.length with
  | [] => some (name, [])
  | ':' :: '-' :: default => some (name, default)
  | _ => none

/-- A value with the names between braces behind dollar signs replaced by their values, or by
    their defaults if they have none. -/
def expand (value? : List Char → Option (List Char)) : List Char → List Char
  | [] => []
  | '$' :: '\x7b' :: rest =>
    let inner := rest.takeWhile (· != '\x7d')
    match _h : rest.dropWhile (· != '\x7d') with
    | [] => '$' :: expand value? ('\x7b' :: rest)
    | _ :: behind =>
      match reference? inner with
      | none => '$' :: expand value? ('\x7b' :: rest)
      | some (name, default) => (value? name).getD default ++ expand value? behind
  | c :: rest => c :: expand value? rest
termination_by cs => cs.length
decreasing_by
  · simp
  · simp
  · have := Text.length_dropWhile_le (· != '\x7d') rest
    rw [_h] at this
    simp only [List.length_cons] at this ⊢
    omega
  · simp

/-- The value of a name in the bindings before it, or in the environment if none of them names
    it. A name that lost its value stands for the empty text. -/
def valueOf? (environment : List (List Char × List Char)) (known : List Binding)
    (name : List Char) : Option (List Char) :=
  match known.lookup name with
  | some value => some (value.getD [])
  | none => environment.lookup name

/-- The bindings with one more, its value filled in from those before and from the
    environment. -/
def withBinding (environment : List (List Char × List Char)) (known : List Binding)
    (binding : Binding) : List Binding :=
  NameMap.set binding.1 (binding.2.map (expand (valueOf? environment known))) known

/-- The variables of a file in the order in which their names first come up, each with the value
    that it is given last. -/
def settled (environment : List (List Char × List Char)) (text : List Char) : List Binding :=
  let text := Text.plainLineEnds text
  (bindings (text.length + 1) text).foldl (withBinding environment) []

end ChatWarden.Config.EnvFile
