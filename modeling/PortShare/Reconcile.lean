import PortShare.Plan

/-!
Turning a request for a port into one change at the service. Every plan looks the environment
up and lists it first; the list decides what the change is and which devurl it is made to. -/

namespace PortShare

open Numeral (decimal)

/-- Looks an environment up by its name. -/
def resolve (name : String) : Plan Environment := do
  let environment ← Plan.call (.resolve name)
  Plan.log .debug ("resolved environment " ++ quote name ++ " to id " ++ environment.id)
  pure environment

/-- The devurls of an environment, in the service's order. -/
def listIn (environment : Environment) : Plan (List DevUrl) := do
  let urls ← Plan.call (.list environment.id)
  Plan.log .debug
    ("found " ++ decimal urls.length ++ " devurls for environment " ++ quote environment.name)
  pure urls

/-- Updates the first devurl on the requested port, or creates one if there is none. -/
def upsert (request : Request) : Plan Outcome := do
  let checked ← Plan.accept request.check
  let environment ← resolve checked.environment
  let urls ← listIn environment
  let mutation := checked.mutation environment.id
  match firstOn checked.port urls with
  | some existing =>
    Plan.log .info ("updating devurl for port " ++ decimal checked.port.toNat)
    Plan.call (.update environment.id existing.id mutation)
    pure (.updated existing.id checked.port)
  | none =>
    Plan.log .info ("adding devurl for port " ++ decimal checked.port.toNat)
    Plan.call (.create environment.id mutation)
    pure (.created checked.port)

/-- Deletes the first devurl on a port. -/
def remove (name typedPort : String) : Plan Outcome := do
  let port ← Plan.accept (checkPort typedPort)
  let environment ← resolve name
  let urls ← listIn environment
  match firstOn port urls with
  | some existing =>
    Plan.log .info ("deleting devurl for port " ++ decimal port.toNat)
    Plan.call (.delete environment.id existing.id)
    pure (.deleted existing.id port)
  | none => .fail (.notFound name port)

end PortShare
