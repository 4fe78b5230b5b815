import PortShare.CommandLine.Grammar

/-! The values of options at one level of the command line. -/

namespace PortShare.CommandLine

structure Values where
  url : Option String := none
  token : Option String := none
  config : Option String := none
  timeout : Option UInt64 := none
  output : Option Format := none
  access : Option String := none
  name : Option String := none
  verbose : Bool := false
  logJson : Bool := false
  deriving DecidableEq, Repr

/-- The file of settings must have a name. -/
def checkConfig (s : String) : Except Refusal Unit :=
  if s.isEmpty then .error .invalidValue else .ok ()

def readTimeout (s : String) : Except Refusal UInt64 :=
  match Numeral.unsigned64? s with
  | some n => .ok n
  | none => .error .notNumber

def readFormat : String → Except Refusal Format
  | "human" => .ok .human
  | "json" => .ok .json
  | _ => .error .invalidValue

namespace Values

def has (v : Values) : Setting → Bool
  | .url => v.url.isSome
  | .token => v.token.isSome
  | .config => v.config.isSome
  | .timeout => v.timeout.isSome
  | .output => v.output.isSome
  | .access => v.access.isSome
  | .name => v.name.isSome

/-- Keeps the value of an option. That it is the first is seen to before it is read. -/
def put (v : Values) (setting : Setting) (s : String) : Except Refusal Values :=
  if v.has setting then .error .repeated
  else
    match setting with
    | .url => .ok { v with url := some s }
    | .token => .ok { v with token := some s }
    | .config => (checkConfig s).map fun () => { v with config := some s }
    | .timeout => (readTimeout s).map fun n => { v with timeout := some n }
    | .output => (readFormat s).map fun f => { v with output := some f }
    | .access => .ok { v with access := some s }
    | .name => .ok { v with name := some s }

def flip (v : Values) : Switch → Except Refusal Values
  | .verbose => if v.verbose then .error .repeated else .ok { v with verbose := true }
  | .logJson => if v.logJson then .error .repeated else .ok { v with logJson := true }
  | .help => .error .helpAsked

/-- The values of a level over those of the level before it. -/
def orElse (inner outer : Values) : Values where
  url := inner.url <|> outer.url
  token := inner.token <|> outer.token
  config := inner.config <|> outer.config
  timeout := inner.timeout <|> outer.timeout
  output := inner.output <|> outer.output
  access := inner.access <|> outer.access
  name := inner.name <|> outer.name
  verbose := inner.verbose || outer.verbose
  logJson := inner.logJson || outer.logJson

end Values

end PortShare.CommandLine
