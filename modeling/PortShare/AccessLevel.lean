/-! Who may reach a devurl. -/

namespace PortShare

/-- The text with its ASCII letters made capitals. -/
def upper (s : String) : String := String.ofList (s.toList.map Char.toUpper)

inductive AccessLevel where
  | owner
  | organization
  | authenticated
  | anyone
  deriving DecidableEq, Repr

namespace AccessLevel

def all : List AccessLevel := [.owner, .organization, .authenticated, .anyone]

/-- The spelling that the service requires. -/
def name : AccessLevel → String
  | .owner => "PRIVATE"
  | .organization => "ORG"
  | .authenticated => "AUTHED"
  | .anyone => "PUBLIC"

theorem name_inj {a b : AccessLevel} : a.name = b.name ↔ a = b := by
  cases a <;> cases b <;> decide

def describe : AccessLevel → String
  | .owner => "Only you can access"
  | .organization => "All members of your organization can access"
  | .authenticated => "Authenticated users can access"
  | .anyone => "Anyone on the internet can access this link"

/-- The level of that name, in letters of either case. -/
def ofName? (s : String) : Option AccessLevel := all.find? fun level => level.name == upper s

end AccessLevel

end PortShare
