import PortShare.Decimal.Binary64

/-! JSON values. Members of an object stand in the order in which they were written, and a
key may be repeated; looking a key up finds the last. -/

namespace PortShare.Json

inductive Number where
  | natural (n : Nat)
  /-- The number `-n`. -/
  | negative (n : Nat)
  | float (minus : Bool) (magnitude : Binary64)
  deriving DecidableEq, Repr

/-- A value with no parts. -/
inductive Scalar where
  | null
  | bool (b : Bool)
  | number (n : Number)
  | text (s : String)
  deriving DecidableEq, Repr

inductive Value where
  | scalar (s : Scalar)
  | list (items : List Value)
  | object (members : List (String × Value))

namespace Value

def text (s : String) : Value := .scalar (.text s)

def natural (n : Nat) : Value := .scalar (.number (.natural n))

def text? : Value → Option String
  | .scalar (.text s) => some s
  | _ => none

def get? : Value → String → Option Value
  | .object members, key => (members.reverse.find? fun m => m.1 == key).map Prod.snd
  | _, _ => none

/-- The value reached through a path of keys. -/
def path? : Value → List String → Option Value
  | v, [] => some v
  | v, key :: keys => (v.get? key).bind fun inner => inner.path? keys

end Value

end PortShare.Json
