import PortShare.Settings.Check
import PortShare.Settings.File

/-! Settings: each value is taken from the first place that gives it. -/

namespace PortShare

structure Settings where
  url : String
  token : String
  timeout : UInt64
  deriving DecidableEq, Repr

/-- Values given with the command take precedence over those of a file. -/
structure GivenSettings where
  url : Option String := none
  token : Option String := none
  timeout : Option UInt64 := none
  deriving DecidableEq, Repr

namespace Settings

def defaultTimeout : UInt64 := 30

def maxTimeout : Nat := 600

def merge (given : GivenSettings) (file : FileSettings) : Except Failure Settings :=
  match given.url <|> file.url with
  | none =>
    .error (.configuration
      "no service URL: pass --url, set DEVURL_URL or add [service].url")
  | some url =>
    match given.token <|> file.token with
    | none =>
      .error (.configuration
        "no session token: pass --token, set DEVURL_TOKEN or add [service].session_token")
    | some token => .ok ⟨url, token, (given.timeout <|> file.timeout).getD defaultTimeout⟩

def check (s : Settings) : Except Failure Unit :=
  match requireUrl "service.url" s.url with
  | .error e => .error e
  | .ok () =>
    match requireText "service.session_token" s.token with
    | .error e => .error e
    | .ok () => requireRange "service.timeout_seconds" s.timeout.toNat 1 maxTimeout

/-- The settings as they are noted down, without the token. -/
def shown (s : Settings) : String :=
  "ServiceSettings \x7b base_url: " ++ quote s.url ++ ", session_token: \"<redacted>\"" ++
    ", timeout_seconds: " ++ Numeral.decimal s.timeout.toNat ++ " \x7d"

end Settings

end PortShare
