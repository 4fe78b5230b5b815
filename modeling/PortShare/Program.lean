import PortShare.CommandLine.Screens
import PortShare.Files
import PortShare.Http.Client
import PortShare.Settings.Merge

/-!
A run of the program, from its arguments to its exit code. The run is a function of what it can
see: the arguments, the environment, the files and the replies to its requests. -/

namespace PortShare

open CommandLine (Action Invocation)

/-- What a run finds around it. -/
structure Surroundings where
  vars : Variables
  /-- What the file at a path holds. -/
  read : String → Except FileFault Bytes

/-- The text of the file at a path. -/
def Surroundings.readText (around : Surroundings) (path : String) : Except FileFault String :=
  match around.read path with
  | .error fault => .error fault
  | .ok bytes =>
    match Utf8.text? bytes with
    | some s => .ok s
    | none => .error .notText

/-- What a run leaves behind. -/
structure Finished where
  exitCode : Nat
  /-- The bytes printed. -/
  output : Bytes
  /-- What is said on the other channel, line by line. -/
  remarks : List Log.Line
  requests : List Http.Request

/-- The format as it is noted down. -/
def Format.shown : Format → String
  | .human => "Human"
  | .json => "Json"

namespace CommandLine

/-- The action as it is noted down. -/
def Action.shown : Action → String
  | .run (.list environment format) =>
    "Urls(Ls \x7b environment: " ++ quote environment ++ ", output: " ++ format.shown
      ++ " \x7d)"
  | .run (.upsert r) =>
    "Urls(Create \x7b environment: " ++ quote r.environment ++ ", port: " ++ quote r.port
      ++ ", access: " ++ quote r.access ++ ", name: " ++ quote r.name ++ " \x7d)"
  | .run (.remove environment port) =>
    "Urls(Rm \x7b environment: " ++ quote environment ++ ", port: " ++ quote port ++ " \x7d)"
  | .describeAccess => "Urls(AccessLevels)"

namespace Invocation

/-- What the named file says; without a file it says nothing. -/
def fileSettings (i : Invocation) (around : Surroundings) : Except Failure FileSettings :=
  match i.config with
  | none => .ok {}
  | some path =>
    match around.readText path with
    | .error fault =>
      .error (.configuration ("failed to read config file " ++ path ++ ": " ++ fault.message))
    | .ok text => FileSettings.parse around.vars text

def settings (i : Invocation) (around : Surroundings) : Except Failure Settings :=
  match i.fileSettings around with
  | .error e => .error e
  | .ok file => Settings.merge ⟨i.url, i.token, i.timeout⟩ file

/-- The settings, if each of them is in order. -/
def checkedSettings (i : Invocation) (around : Surroundings) : Except Failure Settings :=
  match i.settings around with
  | .error e => .error e
  | .ok settings => settings.check.map fun () => settings

/-- What is noted down: all, if no variable says otherwise, or all but what is of use to few. -/
def filter (i : Invocation) (around : Surroundings) : Log.Filter :=
  match (around.vars.get? "RUST_LOG").bind Log.Filter.read? with
  | some filter => filter
  | none => .upTo (if i.verbose then .debug else .info)

end Invocation

end CommandLine

namespace Program

/-- Runs a command at the service that the settings name. -/
def work (settings : Settings) (proxies : Http.Proxies) (c : Command) (x : Http.Exchange) :
    Except Failure (Option Outcome) × Bytes × Http.Exchange :=
  let x := x.note ⟨.debug, "service settings: " ++ settings.shown⟩
  match Http.Client.ofSettings settings.url settings.token settings.timeout proxies with
  | .error e => (.error e, [], x)
  | .ok client => c.run client.service none x

/-- Does what the command line asks for. -/
def act (i : Invocation) (around : Surroundings) (x : Http.Exchange) :
    Except Failure (Option Outcome) × Bytes × Http.Exchange :=
  match i.action with
  | .describeAccess => (.ok none, Utf8.bytes Report.accessLevels, x)
  | .run c =>
    match i.checkedSettings around with
    | .error e => (.error e, [], x)
    | .ok settings => work settings (.ofVariables around.vars) c x

/-- What the user reads of a failure. -/
def advice (e : Failure) : List String := ["❌ " ++ e.friendly, "💡 " ++ e.recovery]

def failureEntry (e : Failure) (category : Failure.Category) : Log.Entry :=
  ⟨.error, e.message ++ " (category: " ++ category.name ++ ")"⟩

def finish (i : Invocation) (around : Surroundings) :
    Except Failure (Option Outcome) × Bytes × Http.Exchange → Finished
  | (result, output, x) =>
    let lines (entries : List Log.Entry) : List Log.Line :=
      (entries.filter (i.filter around).passes).flatMap (Log.Entry.lines i.logJson)
    match result with
    | .ok _ => ⟨0, output, lines x.notes, x.requests⟩
    | .error e =>
      let remarks := match e.category? with
        | some category => lines (x.notes ++ [failureEntry e category])
            ++ (advice e).flatMap Log.Line.ofText
        | none => lines x.notes ++ Log.Line.ofText e.message
      ⟨e.exitCode, output, remarks, x.requests⟩

/-- Runs what the command line asks for, with replies that are given as they are needed. -/
def invoke (i : Invocation) (around : Surroundings) (replies : List Http.Reply) : Finished :=
  let start := (Http.Exchange.start replies).note ⟨.debug, "CLI config: " ++ i.action.shown⟩
  finish i around (act i around start)

/-- Shows a screen: help that was asked for is printed, everything else is a remark. -/
def display (r : CommandLine.Refusal) (screen : String) : Finished :=
  if r = .helpAsked then ⟨r.exitCode, Utf8.bytes screen, [], []⟩
  else ⟨r.exitCode, [], Log.Line.ofText screen, []⟩

/-- The whole program. -/
def run (screens : CommandLine.Screens) (arguments : List String) (around : Surroundings)
    (replies : List Http.Reply) : Finished :=
  match CommandLine.read around.vars arguments with
  | .ok i => invoke i around replies
  | .error r => display r (screens arguments around.vars r)

end Program

end PortShare
