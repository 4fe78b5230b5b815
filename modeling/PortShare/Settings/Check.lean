import PortShare.Failure
import PortShare.Url.Read

/-! Judging settings. A setting that is not in order is a failure of configuration, which names
the setting. -/

namespace PortShare

/-- The text must be a URL that is reached over HTTP. -/
def requireUrl (field value : String) : Except Failure Unit :=
  if value.isEmpty then .error (.configuration (field ++ " cannot be empty"))
  else
    match Url.read value with
    | .error fault =>
      .error (.configuration
        (field ++ ": invalid URL " ++ quote value ++ ": " ++ fault.describe))
    | .ok url =>
      let scheme := String.ofList url.scheme
      if scheme == "http" || scheme == "https" then .ok ()
      else .error (.configuration (field ++ ": unsupported URL scheme " ++ quote scheme))

/-- The text must hold more than white space. -/
def requireText (field value : String) : Except Failure Unit :=
  if value.toList.all Category.isWhiteSpace then
    .error (.configuration (field ++ " cannot be empty or whitespace-only"))
  else .ok ()

def signedDecimal (n : Int) : String :=
  if n < 0 then "-" ++ Numeral.decimal n.natAbs else Numeral.decimal n.natAbs

/-- The number must not lie outside the bounds. -/
def requireRange (field : String) (value low high : Int) : Except Failure Unit :=
  if value < low ∨ high < value then
    .error (.configuration (field ++ " must be between " ++ signedDecimal low ++ " and "
      ++ signedDecimal high ++ ", got " ++ signedDecimal value))
  else .ok ()

end PortShare
