import PortShare.DevUrl
import PortShare.Failure
import PortShare.Log
import PortShare.Validation

/-!
Plans: what a command asks of the service, as data. A plan stops at a result or a failure, or
makes one call and goes on with its answer; a service runs it against a state. -/

namespace PortShare

/-- A call to the service. -/
inductive Call where
  | resolve (name : String)
  | list (environmentId : String)
  | create (environmentId : String) (mutation : Mutation)
  | update (environmentId urlId : String) (mutation : Mutation)
  | delete (environmentId urlId : String)
  deriving DecidableEq, Repr

namespace Call

abbrev Answer : Call → Type
  | .resolve _ => Environment
  | .list _ => List DevUrl
  | .create .. | .update .. | .delete .. => Unit

/-- What the call is called in messages. -/
def operation : Call → String
  | .resolve _ => "find environment"
  | .list _ => "list devurls"
  | .create .. => "insert devurl"
  | .update .. => "update devurl"
  | .delete .. => "delete devurl"

/-- Does the call change what the service keeps? -/
def isMutation : Call → Bool
  | .resolve _ | .list _ => false
  | .create .. | .update .. | .delete .. => true

end Call

inductive Plan (α : Type) where
  | done (a : α)
  | fail (failure : Failure)
  | note (entry : Log.Entry) (rest : Plan α)
  | ask (call : Call) (next : call.Answer → Plan α)

/-- Answers calls and keeps notes, in a state of its own. -/
structure Service (σ : Type) where
  answer : (call : Call) → σ → Except Failure call.Answer × σ
  note : Log.Entry → σ → σ

namespace Plan

variable {α β σ : Type}

def bind : Plan α → (α → Plan β) → Plan β
  | .done a, f => f a
  | .fail e, _ => .fail e
  | .note entry rest, f => .note entry (rest.bind f)
  | .ask call next, f => .ask call fun answer => (next answer).bind f

instance : Monad Plan where
  pure := .done
  bind := bind

/-- Makes one call. -/
def call (c : Call) : Plan c.Answer := .ask c .done

def log (level : Log.Level) (message : String) : Plan Unit := .note ⟨level, message⟩ (.done ())

/-- Goes on with an accepted value; a refusal is noted down and ends the plan. -/
def accept : Except Failure α → Plan α
  | .ok a => .done a
  | .error e =>
    match e.notice? with
    | some message => .note ⟨.error, message⟩ (.fail e)
    | none => .fail e

/-- Runs a plan. The first failing call ends it, with the call's failure. -/
def run (service : Service σ) : Plan α → σ → Except Failure α × σ
  | .done a, s => (.ok a, s)
  | .fail e, s => (.error e, s)
  | .note entry rest, s => rest.run service (service.note entry s)
  | .ask call next, s =>
    match service.answer call s with
    | (.error e, s) => (.error e, s)
    | (.ok answer, s) => (next answer).run service s

end Plan

end PortShare
