import PortShare.CommandLine.Values
import PortShare.Settings.Variables

/-!
Reading the command line. The arguments of a level are taken from left to right up to the name of
a subcommand, which has a level of its own; the value of an option is judged when the next
argument of its level has been taken in, or at the end of the level. -/

namespace PortShare.CommandLine

/-- An option whose value is still to be judged, or still to come. -/
structure Pending where
  setting : Setting
  value : Option String
  deriving DecidableEq, Repr

/-- What has been read of one level. -/
structure Progress where
  values : Values := {}
  pending : Option Pending := none
  arguments : List String := []
  /-- Are we behind two dashes? -/
  divided : Bool := false
  deriving DecidableEq, Repr

namespace Progress

def awaitsValue (p : Progress) : Bool :=
  match p.pending with
  | some ⟨_, none⟩ => true
  | _ => false

/-- Judges the value of the pending option. -/
def settle (p : Progress) : Except Refusal Progress :=
  match p.pending with
  | none => .ok p
  | some ⟨_, none⟩ => .error .invalidValue
  | some ⟨setting, some s⟩ =>
    (p.values.put setting s).map fun values => { p with values, pending := none }

def start (p : Progress) (setting : Setting) : Option String → Except Refusal Progress
  | some s => do
    let p ← p.settle
    pure { p with values := ← p.values.put setting s }
  | none => do pure { ← p.settle with pending := some ⟨setting, none⟩ }

def flip (p : Progress) (switch : Switch) : Except Refusal Progress := do
  let p ← p.settle
  pure { p with values := ← p.values.flip switch }

def takeLong (level : Level) (name : String) (value : Option String) (p : Progress) :
    Except Refusal Progress :=
  match level.long? name, value with
  | none, _ => .error .unknownArgument
  | some (.switch switch), none => p.flip switch
  | some (.switch _), some _ => .error .uselessValue
  | some (.setting setting), value => p.start setting value

/-- The value behind the letter of an option, which an equals sign may set off. -/
def attached : List Char → Option String
  | [] => none
  | '=' :: cs => some (String.ofList cs)
  | cs => some (String.ofList cs)

/-- Takes the letters behind one dash, of which one with a value is the last. -/
def takeLetters (level : Level) : List Char → Progress → Except Refusal Progress
  | [], p => .ok p
  | c :: cs, p =>
    match level.short? c with
    | none => .error .unknownArgument
    | some (.switch switch) => p.flip switch >>= takeLetters level cs
    | some (.setting setting) => p.start setting (attached cs)

/-- The refusal of an argument that there is no place for. -/
def misplaced (level : Level) (argument : String) (p : Progress) : Refusal :=
  if p.divided && (level.subcommand? argument).isSome then .unknownArgument
  else if level.hasSubcommands then .invalidSubcommand
  else .unknownArgument

def takeArgument (level : Level) (argument : String) (p : Progress) : Except Refusal Progress :=
  if p.arguments.length < level.arity then
    p.settle.map fun p => { p with arguments := p.arguments ++ [argument] }
  else .error (p.misplaced level argument)

def takePlain (level : Level) (argument : String) (p : Progress) : Except Refusal Progress :=
  match p.pending with
  | some ⟨setting, none⟩ => .ok { p with pending := some ⟨setting, some argument⟩ }
  | _ => p.takeArgument level argument

/-- Takes one argument that names no subcommand. -/
def take (level : Level) (argument : String) (p : Progress) : Except Refusal Progress :=
  if p.divided then p.takeArgument level argument
  else
    match Spelling.of argument with
    | .divider => .ok { p with divided := true }
    | .long name value => p.takeLong level name value
    | .letters cs => p.takeLetters level cs
    | .plain => p.takePlain level argument

end Progress

/-- What is to be done. -/
inductive Action where
  | run (command : Command)
  | describeAccess
  deriving DecidableEq, Repr

namespace Action

def defaultAccess : String := "private"

/-- The action of a verb, if it has been given all its arguments. -/
def of? (v : Values) : Verb → List String → Option Action
  | .ls, [environment] => some (.run (.list environment (v.output.getD .human)))
  | .create, [environment, port] =>
    some (.run (.upsert ⟨environment, port, v.access.getD defaultAccess, v.name.getD ""⟩))
  | .rm, [environment, port] => some (.run (.remove environment port))
  | .accessLevels, [] => some .describeAccess
  | _, _ => none

end Action

/-- A level that has been read to its end, with all levels behind it. -/
structure Reading where
  values : Values
  action : Action
  deriving DecidableEq, Repr

/-- Variables of the environment that stand in for options. -/
def standIns : List String := ["DEVURL_URL", "DEVURL_TOKEN", "DEVURL_CONFIG"]

/-- Judges the name of a file that the environment gives, where the level gives none. -/
def checkVariables (vars : Variables) (v : Values) : Except Refusal Unit :=
  match v.config, vars.get? "DEVURL_CONFIG" with
  | none, some s => checkConfig s
  | _, _ => .ok ()

/-- Ends a level, behind which the levels of its subcommand have been read. -/
def close (vars : Variables) (level : Level) (inner : Option Reading) (p : Progress) :
    Except Refusal Reading := do
  let p ← p.settle
  checkVariables vars p.values
  match level, inner with
  | .verb v, _ =>
    match Action.of? p.values v p.arguments with
    | some action => .ok ⟨p.values, action⟩
    | none => .error .missingArgument
  | _, some inner => .ok ⟨inner.values.orElse p.values, inner.action⟩
  | _, none =>
    if p.values = {} ∧ standIns.all (fun name => (vars.get? name).isNone) then
      .error .nothingGiven
    else .error .missingSubcommand

/-- The answer to a call for help on the subcommands of that path. -/
def help : Level → List String → Refusal
  | _, [] => .helpAsked
  | level, name :: names =>
    match level.subcommand? name with
    | some (.enter next) => help next names
    | some .help => if names.isEmpty then .helpAsked else .invalidSubcommand
    | none => .invalidSubcommand

def readLevel (vars : Variables) (level : Level) (p : Progress) :
    List String → Except Refusal Reading
  | [] => close vars level none p
  | argument :: rest =>
    match if p.divided || p.awaitsValue then none else level.subcommand? argument with
    | some .help => .error (help level rest)
    | some (.enter next) =>
      readLevel vars next {} rest >>= fun inner => close vars level (some inner) p
    | none => p.take level argument >>= fun p => readLevel vars level p rest

/-- A command line that has been understood. -/
structure Invocation where
  url : Option String
  token : Option String
  config : Option String
  timeout : Option UInt64
  verbose : Bool
  logJson : Bool
  action : Action
  deriving DecidableEq, Repr

/-- Reads the arguments behind the program's name. What they leave open the environment may give. -/
def read (vars : Variables) (arguments : List String) : Except Refusal Invocation :=
  (readLevel vars .root {} arguments).map fun r => {
    url := r.values.url <|> vars.get? "DEVURL_URL"
    token := r.values.token <|> vars.get? "DEVURL_TOKEN"
    config := r.values.config <|> vars.get? "DEVURL_CONFIG"
    timeout := r.values.timeout
    verbose := r.values.verbose
    logJson := r.values.logJson
    action := r.action }

end PortShare.CommandLine
