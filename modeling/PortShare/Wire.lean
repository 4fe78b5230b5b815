import PortShare.DevUrl
import PortShare.Json.Record
import PortShare.Json.Tree

/-! Devurls, environments and mutations as JSON. -/

namespace PortShare

def AccessLevel.toJson (level : AccessLevel) : Json.Value := .text level.name

def DevUrl.toJson (u : DevUrl) : Json.Value :=
  .object [("id", .text u.id), ("url", .text u.url), ("port", .natural u.port.toNat),
    ("name", .text (u.name.getD "")), ("access", u.access.toJson)]

def Mutation.toJson (m : Mutation) : Json.Value :=
  .object [("environment_id", .text m.environmentId), ("port", .natural m.port.toNat),
    ("access", m.access.toJson), ("name", .text m.name), ("scheme", .text m.scheme)]

namespace AccessLevel

/-- A level by its name; any other text is refused. -/
def reader : Json.Reader AccessLevel :=
  Json.Reader.text.refine fun s =>
    match ofName? s with
    | some level => .ok level
    | none => .error (.refused ("unknown access level " ++ quote s))

end AccessLevel

/-- The fields of a devurl that have been read. -/
structure DevUrl.Draft where
  id : Option String := none
  url : Option String := none
  port : Option UInt16 := none
  name : Option (Option String) := none
  access : Option AccessLevel := none

namespace DevUrl

def Draft.finish (d : Draft) : Except Json.Cause DevUrl :=
  match d.id, d.url, d.port, d.access with
  | none, _, _, _ => .error (.missing "id")
  | _, none, _, _ => .error (.missing "url")
  | _, _, none, _ => .error (.missing "port")
  | _, _, _, none => .error (.missing "access")
  | some id, some url, some port, some access => .ok ⟨id, url, port, d.name.getD none, access⟩

/-- Of the fields only the name may be left out; `null` and an empty name are none too. -/
def shape : Json.Shape Draft DevUrl where
  label := "struct DevUrl"
  fields := [
    ⟨"id", false, fun d => d.id.isSome, Json.Reader.text.map fun s d => { d with id := some s }⟩,
    ⟨"url", false, fun d => d.url.isSome, Json.Reader.text.map fun s d => { d with url := some s }⟩,
    ⟨"port", false, fun d => d.port.isSome,
      Json.Reader.unsigned16.map fun p d => { d with port := some p }⟩,
    ⟨"name", true, fun d => d.name.isSome,
      Json.Reader.optionalText.map fun s d => { d with name := some (s.bind nonEmpty?) }⟩,
    ⟨"access", false, fun d => d.access.isSome,
      AccessLevel.reader.map fun a d => { d with access := some a }⟩]
  blank := {}
  finish := Draft.finish

def reader : Json.Reader DevUrl := shape.reader

end DevUrl

/-- The fields of an environment that have been read. -/
structure Environment.Draft where
  id : Option String := none
  name : Option String := none

namespace Environment

def Draft.finish (d : Draft) : Except Json.Cause Environment :=
  match d.id, d.name with
  | none, _ => .error (.missing "id")
  | _, none => .error (.missing "name")
  | some id, some name => .ok ⟨id, name⟩

def shape : Json.Shape Draft Environment where
  label := "struct Environment"
  fields := [
    ⟨"id", false, fun d => d.id.isSome, Json.Reader.text.map fun s d => { d with id := some s }⟩,
    ⟨"name", false, fun d => d.name.isSome,
      Json.Reader.text.map fun s d => { d with name := some s }⟩]
  blank := {}
  finish := Draft.finish

def reader : Json.Reader Environment := shape.reader

end Environment

def readDevUrls (bs : Bytes) : Except Json.Problem (List DevUrl) :=
  DevUrl.reader.list.readAll bs

def readEnvironments (bs : Bytes) : Except Json.Problem (List Environment) :=
  Environment.reader.list.readAll bs

end PortShare
