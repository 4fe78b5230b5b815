import PortShare.DevUrl
import PortShare.Failure

/-! Judging what was typed. The fields are looked at in the order port, access level, name,
and the first that is not in order is the failure. -/

namespace PortShare

/-- Why a text is no port. -/
inductive PortFault where
  | notDecimal | tooLarge | zero
  deriving DecidableEq, Repr

def PortFault.reason : PortFault → String
  | .notDecimal => "not an unsigned decimal number"
  | .tooLarge => "out of range for a 16-bit port"
  | .zero => "port must be > 0"

/-- The port that a text of decimal digits names, from 1 to 65535. -/
def readPort (s : String) : Except PortFault UInt16 :=
  match Numeral.value? 10 s.toList with
  | none => .error .notDecimal
  | some n =>
    if 65535 < n then .error .tooLarge else if n = 0 then .error .zero else .ok n.toUInt16

def checkPort (s : String) : Except Failure UInt16 :=
  match readPort s with
  | .ok port => .ok port
  | .error fault => .error (.invalidPort s fault.reason)

def isAccessLevel (s : String) : Bool := (AccessLevel.ofName? s).isSome

def readAccess (s : String) : Except Failure AccessLevel :=
  match AccessLevel.ofName? s with
  | some level => .ok level
  | none => .error (.invalidAccessLevel (upper s))

/-- The level is looked for twice: to judge the text, and to read it. -/
def checkAccess (s : String) : Except Failure AccessLevel :=
  if isAccessLevel s then readAccess s else .error (.invalidAccessLevel (upper s))

/-- A text that has been let through can be read, and the failure is the same for both. -/
theorem checkAccess_eq_readAccess (s : String) : checkAccess s = readAccess s := by
  rw [checkAccess, isAccessLevel, readAccess]
  cases AccessLevel.ofName? s <;> rfl

/-- Is the text empty, or a letter with up to 63 letters and digits behind it? -/
def isName (s : String) : Bool :=
  match s.toList with
  | [] => true
  | c :: cs => c.isAlpha && cs.all Char.isAlphanum && cs.length ≤ 63

def Request.check (r : Request) : Except Failure CheckedRequest :=
  match checkPort r.port with
  | .error e => .error e
  | .ok port =>
    match checkAccess r.access with
    | .error e => .error e
    | .ok access =>
      if isName r.name then .ok ⟨r.environment, port, access, nonEmpty? r.name⟩
      else .error (.invalidName r.name)

/-- What is noted down about a refused field. -/
def Failure.notice? : Failure → Option String
  | .invalidPort typed _ => some ("invalid port " ++ quote typed)
  | .invalidAccessLevel level => some ("invalid access level " ++ quote level)
  | .invalidName name => some ("invalid devurl name " ++ quote name)
  | _ => none

end PortShare
