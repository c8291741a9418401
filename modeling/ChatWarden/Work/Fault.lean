/-!
# Faults

Things that go wrong outside the bot, or in an operation on a value that cannot take it. A fault
has a name, belongs to a family that decides who handles it, and may come with a text.
-/

namespace ChatWarden

/-- What kind of trouble a fault is. -/
inductive Fault.Family where
  /-- An exchange over HTTP failed. -/
  | http
  /-- A value could not be read. -/
  | value
  /-- The container service refused. -/
  | container
  /-- The link to the container service broke. -/
  | link
  /-- The link to the container service stalled: no answer came in time. -/
  | stalledLink
  /-- A file operation failed. -/
  | file
  /-- A file operation failed because the file is not there. -/
  | missingFile
  /-- Anything else. -/
  | other
  deriving DecidableEq, Repr

/-- A fault. -/
structure Fault where
  name : String
  family : Fault.Family
  /-- What the fault says for itself, if that is more than its name. -/
  text : Option String := none
  deriving DecidableEq, Repr

namespace Fault

/-- A fault as messages show it: its text, or its name between angle brackets. -/
def shown (fault : Fault) : String := fault.text.getD ("<" ++ fault.name ++ ">")

/-- Whether a fault comes from a file operation. -/
def isFileTrouble (fault : Fault) : Bool :=
  fault.family == .file || fault.family == .missingFile

/-- Whether a fault comes from the container service or the link to it. -/
def isContainerTrouble (fault : Fault) : Bool :=
  fault.family == .container || fault.family == .link || fault.family == .stalledLink

/-- A value of the wrong kind was asked for a part or an operation that it does not have. -/
def noSuchPart : Fault := ⟨"AttributeError", .other, none⟩

/-- A value of the wrong kind was used where its kind does not fit. -/
def wrongKind : Fault := ⟨"TypeError", .other, none⟩

/-- A text could not be read as what it should be. -/
def unreadable : Fault := ⟨"ValueError", .value, none⟩

/-- An address that cannot be requested. -/
def invalidAddress : Fault := ⟨"InvalidURL", .other, none⟩

/-- An answer whose status is not one of success. -/
def badStatus : Fault := ⟨"HTTPStatusError", .http, none⟩

/-- A file is not there. -/
def missingFile : Fault := ⟨"FileNotFoundError", .missingFile, none⟩

/-- A directory stands where a file should be. -/
def isDirectory : Fault := ⟨"IsADirectoryError", .file, none⟩

/-- A file stands where a directory should be. -/
def notADirectory : Fault := ⟨"NotADirectoryError", .file, none⟩

/-- A file stands where a directory should be made. -/
def fileExists : Fault := ⟨"FileExistsError", .file, none⟩

/-- A file may not be used as it was asked for. -/
def forbidden : Fault := ⟨"PermissionError", .file, none⟩

/-- A file operation failed for another reason. -/
def brokenFile : Fault := ⟨"OSError", .file, none⟩

/-- A path holds a character that no path holds. -/
def badPath : Fault := ⟨"ValueError", .value, none⟩

/-- A file that was read holds no UTF-8 text. -/
def notText : Fault := ⟨"UnicodeDecodeError", .value, none⟩

end Fault

end ChatWarden
