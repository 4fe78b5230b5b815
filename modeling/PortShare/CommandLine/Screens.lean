import PortShare.CommandLine.Read

/-! What is shown when no command is understood: help, or what is wrong with the line. -/

namespace PortShare.CommandLine

/-- The texts that the library for command lines puts on the screen. It sees the arguments and the
environment. -/
abbrev Screens := List String → Variables → Refusal → String

namespace Setting

def all : List Setting := [.url, .token, .config, .timeout, .output, .access, .name]

def longName : Setting → String
  | .url => "url"
  | .token => "token"
  | .config => "config"
  | .timeout => "timeout"
  | .output => "output"
  | .access => "access"
  | .name => "name"

/-- The variable that stands in for an option, as help shows it. -/
def shownVariable (vars : Variables) (s : Setting) : String :=
  match s.standIn with
  | none => ""
  | some key =>
    if s.hidesVariable then " [env: " ++ key ++ "]"
    else " [env: " ++ key ++ "=" ++ (vars.get? key).getD "" ++ "]"

end Setting

namespace Screens

/-- Help in short: how the program is called, and its options. -/
def help (vars : Variables) : String :=
  let options := Setting.all.map fun s => "  --" ++ s.longName ++ s.shownVariable vars ++ "\n"
  "usage: devurl [OPTIONS] urls <ls | create | rm | access-levels> [ARGUMENTS]\n"
    ++ String.join options

/-- Screens that say little: no argument is quoted. -/
def plain : Screens := fun _ vars r =>
  match r with
  | .helpAsked | .nothingGiven => help vars
  | .missingSubcommand => "a subcommand is required"
  | .unknownArgument => "unexpected argument"
  | .invalidSubcommand => "unrecognized subcommand"
  | .missingArgument => "a required argument was not given"
  | .invalidValue => "an option has no value, or one that is not allowed"
  | .notNumber => "the value of an option is not a number"
  | .uselessValue => "a switch takes no value"
  | .repeated => "an option was given more than once"

end Screens

end PortShare.CommandLine
