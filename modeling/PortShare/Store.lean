import PortShare.Plan

/-!
A service in memory. Environments are found by their first name or id, devurls by their first
id; a new devurl goes to the end with a fresh id. -/

namespace PortShare

/-- An environment with its devurls. -/
structure Holding where
  environment : Environment
  urls : List DevUrl
  deriving DecidableEq, Repr

structure Store where
  holdings : List Holding
  /-- How many devurls have been created. -/
  created : Nat
  deriving DecidableEq, Repr

/-- Changes the first item that `p` holds of. -/
def changeFirst {α : Type} (p : α → Bool) (f : α → α) : List α → List α
  | [] => []
  | a :: as => if p a then f a :: as else a :: changeFirst p f as

/-- The parts of a devurl that a mutation sets. -/
def Mutation.apply (m : Mutation) (u : DevUrl) : DevUrl :=
  { u with
    url := m.scheme ++ "://" ++ Numeral.decimal m.port.toNat ++ ".example.com"
    port := m.port
    name := nonEmpty? m.name
    access := m.access }

namespace Store

def find? (store : Store) (name : String) : Option Environment :=
  (store.holdings.find? fun h => h.environment.name == name).map Holding.environment

def urls (store : Store) (environmentId : String) : List DevUrl :=
  match store.holdings.find? fun h => h.environment.id == environmentId with
  | some h => h.urls
  | none => []

def change (store : Store) (environmentId : String) (f : List DevUrl → List DevUrl) : Store :=
  { store with
    holdings := changeFirst (fun h => h.environment.id == environmentId)
      (fun h => { h with urls := f h.urls }) store.holdings }

def create (store : Store) (environmentId : String) (m : Mutation) : Store :=
  let number := store.created + 1
  let fresh : DevUrl := m.apply ⟨"new-" ++ Numeral.decimal number, "", 0, none, .owner⟩
  { store.change environmentId (· ++ [fresh]) with created := number }

def update (store : Store) (environmentId urlId : String) (m : Mutation) : Store :=
  store.change environmentId (changeFirst (fun u => u.id == urlId) m.apply)

def delete (store : Store) (environmentId urlId : String) : Store :=
  store.change environmentId (List.eraseP fun u => u.id == urlId)

def answer (store : Store) : (call : Call) → Except Failure call.Answer × Store
  | .resolve name =>
    match store.find? name with
    | some environment => (.ok environment, store)
    | none => (.error (.environmentNotFound name), store)
  | .list environmentId => (.ok (store.urls environmentId), store)
  | .create environmentId m => (.ok (), store.create environmentId m)
  | .update environmentId urlId m => (.ok (), store.update environmentId urlId m)
  | .delete environmentId urlId => (.ok (), store.delete environmentId urlId)

end Store

/-- The kinds of call that can be made to fail. -/
inductive Stage where
  | resolve | list | mutate
  deriving DecidableEq, Repr

def Call.stage : Call → Stage
  | .resolve _ => .resolve
  | .list _ => .list
  | .create .. | .update .. | .delete .. => .mutate

/-- A failure that meets the calls of one stage; without a message it is an interruption. -/
structure Trouble where
  stage : Stage
  message : Option String
  deriving DecidableEq, Repr

def Trouble.failure (t : Trouble) (call : Call) : Failure :=
  match t.message with
  | some message => .remoteUnavailable call.operation message
  | none => .cancelled

/-- The store in the course of a command, with the calls made so far. -/
structure Visit where
  store : Store
  trouble : Option Trouble
  calls : List Call

def Visit.answer (call : Call) (v : Visit) : Except Failure call.Answer × Visit :=
  let v := { v with calls := v.calls ++ [call] }
  match v.trouble with
  | some t =>
    if t.stage = call.stage then (.error (t.failure call), v)
    else
      let (result, store) := v.store.answer call
      (result, { v with store })
  | none =>
    let (result, store) := v.store.answer call
    (result, { v with store })

/-- The service in memory; notes are not kept. -/
def Visit.service : Service Visit := ⟨Visit.answer, fun _ v => v⟩

end PortShare
