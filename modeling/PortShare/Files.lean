import PortShare.Text.Utf8

/-! Files and folders, and how a path leads to one of them. -/

namespace PortShare

inductive File where
  | folder
  | content (bytes : Bytes)
  deriving DecidableEq, Repr

/-- What there is, by the names on the way to it from the root. -/
structure Files where
  entries : List (List String × File)
  /-- Where paths start that do not start at the root. -/
  workplace : List String := []

/-- Why a file cannot be read as a text. -/
inductive FileFault where
  | unusableName | missing | folder | insideFile | nameTooLong | forbidden | notText
  deriving DecidableEq, Repr

def FileFault.message : FileFault → String
  | .unusableName => "file name contained an unexpected NUL byte"
  | .missing => "No such file or directory (os error 2)"
  | .folder => "Is a directory (os error 21)"
  | .insideFile => "Not a directory (os error 20)"
  | .nameTooLong => "File name too long (os error 36)"
  | .forbidden => "Permission denied (os error 13)"
  | .notText => "stream did not contain valid UTF-8"

namespace Files

/-- What stands at a place. Whatever something lies in is a folder. -/
def at? (files : Files) (place : List String) : Option File :=
  match files.entries.find? fun entry => entry.1 == place with
  | some (_, file) => some file
  | none =>
    if place.isEmpty || files.entries.any (fun entry => place.isPrefixOf entry.1) then some .folder
    else none

def maxName : Nat := 255

def maxPath : Nat := 4095

/-- Follows names from a folder. -/
def follow (files : Files) (folder : List String) : List String → Except FileFault File
  | [] => .ok .folder
  | "" :: names | "." :: names => follow files folder names
  | ".." :: names => follow files folder.dropLast names
  | name :: names =>
    if maxName < (Utf8.bytes name).length then .error .nameTooLong
    else
      match files.at? (folder ++ [name]) with
      | none => .error .missing
      | some .folder => follow files (folder ++ [name]) names
      | some (.content bytes) => if names.isEmpty then .ok (.content bytes) else .error .insideFile

def find (files : Files) (path : String) : Except FileFault File :=
  if path.toList.contains '\x00' then .error .unusableName
  else if path.isEmpty then .error .missing
  else if maxPath < (Utf8.bytes path).length then .error .nameTooLong
  else
    match path.toList.splitOn '/' with
    | [] :: names => follow files [] (names.map String.ofList)
    | names => follow files files.workplace (names.map String.ofList)

/-- What a file holds. -/
def read (files : Files) (path : String) : Except FileFault Bytes :=
  match files.find path with
  | .error fault => .error fault
  | .ok .folder => .error .folder
  | .ok (.content bytes) => .ok bytes

end Files

end PortShare
