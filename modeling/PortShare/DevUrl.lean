import PortShare.AccessLevel

/-!
Devurls: links to ports of a remote development environment. The service keeps a list of
them for each environment, in which a port may occur more than once. -/

namespace PortShare

/-- A devurl as the service keeps it. -/
structure DevUrl where
  id : String
  url : String
  port : UInt16
  name : Option String
  access : AccessLevel
  deriving DecidableEq, Repr

structure Environment where
  id : String
  name : String
  deriving DecidableEq, Repr

/-- What is asked for, as it was typed. -/
structure Request where
  environment : String
  port : String
  access : String
  name : String
  deriving DecidableEq, Repr

/-- A request whose port, access level and name are in order. -/
structure CheckedRequest where
  environment : String
  port : UInt16
  access : AccessLevel
  name : Option String
  deriving DecidableEq, Repr

/-- What is sent to create a devurl or to replace these parts of one. -/
structure Mutation where
  environmentId : String
  port : UInt16
  access : AccessLevel
  name : String
  scheme : String
  deriving DecidableEq, Repr

/-- The mutation for a request in the environment of that id; no name is an empty one. -/
def CheckedRequest.mutation (a : CheckedRequest) (environmentId : String) : Mutation :=
  ⟨environmentId, a.port, a.access, a.name.getD "", "http"⟩

/-- What one command did to the service. -/
inductive Outcome where
  | created (port : UInt16)
  | updated (id : String) (port : UInt16)
  | deleted (id : String) (port : UInt16)
  deriving DecidableEq, Repr

/-- The first devurl on a port, in the order of the list. -/
def firstOn (port : UInt16) (urls : List DevUrl) : Option DevUrl :=
  urls.find? fun u => u.port == port

/-- A text, or nothing if it is empty. -/
def nonEmpty? (s : String) : Option String := if s.isEmpty then none else some s

end PortShare
