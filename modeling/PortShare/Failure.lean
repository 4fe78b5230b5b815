import PortShare.Json.Fault

/-! The ways in which a command fails, what is said about each and how the program ends. -/

namespace PortShare

inductive Failure where
  | invalidPort (typed reason : String)
  /-- The level is given in capitals. -/
  | invalidAccessLevel (level : String)
  | invalidName (name : String)
  | environmentNotFound (name : String)
  | remoteUnavailable (operation message : String)
  | malformed (operation : String) (problem : Json.Problem)
  | notFound (environment : String) (port : UInt16)
  | configuration (message : String)
  | outputFailed (message : String)
  | cancelled
  /-- The program gives up, which is not one of the failures that it knows of. -/
  | panicked (message : String)

inductive Failure.Category where
  | validation | environment | remote | notFound | configuration | cancelled
  deriving DecidableEq, Repr

namespace Failure

def Category.name : Category → String
  | .validation => "Validation"
  | .environment => "Environment"
  | .remote => "Remote"
  | .notFound => "NotFound"
  | .configuration => "Configuration"
  | .cancelled => "Cancelled"

def message : Failure → String
  | .invalidPort typed reason => "invalid port " ++ quote typed ++ ": " ++ reason
  | .invalidAccessLevel level => "invalid access level " ++ quote level
  | .invalidName name =>
    "invalid devurl name " ++ quote name ++
      ": name must be < 64 chars in length, begin with a letter and only contain letters or digits"
  | .environmentNotFound name => "environment " ++ quote name ++ " not found"
  | .remoteUnavailable operation message =>
    operation ++ ": remote service unavailable: " ++ message
  | .malformed operation problem => operation ++ ": malformed response: " ++ problem.text
  | .notFound environment port =>
    "no devurl found for port " ++ Numeral.decimal port.toNat ++ " in environment " ++
      quote environment
  | .configuration message => "Configuration error: " ++ message
  | .outputFailed message => "IO error: " ++ message
  | .cancelled => "operation cancelled"
  | .panicked message => message

def category? : Failure → Option Category
  | .invalidPort .. | .invalidAccessLevel _ | .invalidName _ => some .validation
  | .environmentNotFound _ => some .environment
  | .remoteUnavailable .. | .malformed .. => some .remote
  | .notFound .. => some .notFound
  | .configuration _ | .outputFailed _ => some .configuration
  | .cancelled => some .cancelled
  | .panicked _ => none

/-- What the user is told went wrong. -/
def friendly : Failure → String
  | .invalidPort typed _ => "\"" ++ typed ++ "\" is not a usable port"
  | .remoteUnavailable operation _ =>
    "Could not reach the DevURL service (" ++ operation ++ ")"
  | .malformed operation _ =>
    "The DevURL service sent a response we could not read (" ++ operation ++ ")"
  | other => other.message

/-- What the user is told to do next, if the program knows. -/
def recovery : Failure → String
  | .invalidPort .. => "Use a port number between 1 and 65535"
  | .invalidAccessLevel _ =>
    "Use one of: private, org, authed, public (see `devurl urls access-levels`)"
  | .invalidName _ =>
    "Pick a name that starts with a letter and only contains letters and digits"
  | .environmentNotFound _ => "Check the environment name and try again"
  | .remoteUnavailable .. =>
    "Check --url, your session token and network connectivity, then retry"
  | .malformed .. => "Check that --url points at a compatible service"
  | .notFound .. => "Run `devurl urls ls <env>` to see existing devurls"
  | .configuration _ | .outputFailed _ => "Check the configuration file and command-line flags"
  | .cancelled => "Re-run the command to try again"
  | .panicked _ => ""

def exitCode (f : Failure) : Nat :=
  match f.category? with
  | some .validation | some .configuration => 2
  | some .environment | some .remote | some .notFound => 1
  | some .cancelled => 130
  | none => 101

end Failure

end PortShare
