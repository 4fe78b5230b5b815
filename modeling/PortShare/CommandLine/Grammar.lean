import PortShare.Command

/-! The words of the command line: its levels, the options that each of them has, and the ways in
which a line of arguments is refused. -/

namespace PortShare.CommandLine

/-- Why no command was understood. -/
inductive Refusal where
  | helpAsked
  /-- Nothing is given where there must be a subcommand. -/
  | nothingGiven
  | unknownArgument
  | invalidSubcommand
  | missingSubcommand
  | missingArgument
  /-- A value is missing or not allowed. -/
  | invalidValue
  | notNumber
  /-- A switch is given a value. -/
  | uselessValue
  /-- An option is given twice in one place. -/
  | repeated
  deriving DecidableEq, Repr

/-- Only a request for help is no mistake. -/
def Refusal.exitCode (r : Refusal) : Nat := if r = .helpAsked then 0 else 2

/-- The commands below `urls`. -/
inductive Verb where
  | ls | create | rm | accessLevels
  deriving DecidableEq, Repr

/-- Where on the line we are: before `urls`, behind it, or behind a verb. -/
inductive Level where
  | root
  | urls
  | verb (v : Verb)
  deriving DecidableEq, Repr

/-- What the name of a subcommand leads to. -/
inductive Subcommand where
  | help
  | enter (level : Level)
  deriving DecidableEq, Repr

/-- Options that take a value. -/
inductive Setting where
  | url | token | config | timeout | output | access | name
  deriving DecidableEq, Repr

namespace Setting

/-- The variable of the environment that stands in for an option. -/
def standIn : Setting → Option String
  | .url => some "DEVURL_URL"
  | .token => some "DEVURL_TOKEN"
  | .config => some "DEVURL_CONFIG"
  | _ => none

/-- Is the value of the variable kept from screens of help? -/
def hidesVariable : Setting → Bool
  | .token => true
  | _ => false

end Setting

/-- Options without a value. -/
inductive Switch where
  | verbose | logJson | help
  deriving DecidableEq, Repr

inductive Flag where
  | setting (s : Setting)
  | switch (s : Switch)
  deriving DecidableEq, Repr

namespace Verb

/-- How many arguments a verb needs, and takes at most. -/
def arity : Verb → Nat
  | .ls => 1
  | .create | .rm => 2
  | .accessLevels => 0

def ofName? : String → Option Verb
  | "ls" => some .ls
  | "create" | "edit" => some .create
  | "rm" => some .rm
  | "access-levels" => some .accessLevels
  | _ => none

end Verb

namespace Level

def arity : Level → Nat
  | .root | .urls => 0
  | .verb v => v.arity

def subcommand? : Level → String → Option Subcommand
  | .root, "urls" => some (.enter .urls)
  | .root, "help" | .urls, "help" => some .help
  | .urls, name => (Verb.ofName? name).map fun v => .enter (.verb v)
  | _, _ => none

def hasSubcommands : Level → Bool
  | .root | .urls => true
  | .verb _ => false

/-- An option by its long name. All levels share some. -/
def long? : Level → String → Option Flag
  | _, "url" => some (.setting .url)
  | _, "token" => some (.setting .token)
  | _, "config" => some (.setting .config)
  | _, "timeout" => some (.setting .timeout)
  | _, "verbose" => some (.switch .verbose)
  | _, "log-json" => some (.switch .logJson)
  | _, "help" => some (.switch .help)
  | .verb .ls, "output" => some (.setting .output)
  | .verb .create, "access" => some (.setting .access)
  | .verb .create, "name" => some (.setting .name)
  | _, _ => none

/-- An option by its letter. -/
def short? : Level → Char → Option Flag
  | _, 'v' => some (.switch .verbose)
  | _, 'h' => some (.switch .help)
  | .verb .ls, 'o' => some (.setting .output)
  | _, _ => none

end Level

/-- How one argument is spelled. -/
inductive Spelling where
  /-- Two dashes: no options behind them. -/
  | divider
  | long (name : String) (value : Option String)
  | letters (cs : List Char)
  | plain
  deriving DecidableEq, Repr

def Spelling.of (argument : String) : Spelling :=
  match argument.toList with
  | ['-', '-'] => .divider
  | '-' :: '-' :: cs =>
    let name := cs.takeWhile (· != '=')
    match cs.drop name.length with
    | [] => .long (String.ofList name) none
    | _ :: value => .long (String.ofList name) (some (String.ofList value))
  | '-' :: c :: cs => .letters (c :: cs)
  | _ => .plain

end PortShare.CommandLine
