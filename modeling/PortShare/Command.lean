import PortShare.Reconcile
import PortShare.Report

/-! Commands: what is asked of the service, and what is printed when it has been done. -/

namespace PortShare

open Numeral (decimal)

inductive Format where
  | human
  | json
  deriving DecidableEq, Repr

inductive Command where
  | list (environment : String) (format : Format)
  | upsert (request : Request)
  | remove (environment port : String)
  deriving DecidableEq, Repr

/-- The result of a command, and the text it prints, if it can be laid out. -/
structure Completion where
  outcome : Option Outcome
  text : Option String

def Outcome.line : Outcome → String
  | .created port => "created devurl for port " ++ decimal port.toNat ++ "\n"
  | .updated _ port => "updated devurl for port " ++ decimal port.toNat ++ "\n"
  | .deleted _ port => "removed devurl for port " ++ decimal port.toNat ++ "\n"

def Outcome.completion (o : Outcome) : Completion := ⟨some o, some o.line⟩

/-- What stands for an empty list. -/
def emptyNotice (environment : String) : String :=
  "no devURLs found for environment " ++ quote environment

namespace Command

def list.plan (environment : String) (format : Format) : Plan Completion := do
  let found ← resolve environment
  let urls ← listIn found
  match format with
  | .json => pure ⟨none, some (Report.json urls)⟩
  | .human =>
    if urls.isEmpty then
      Plan.log .info (emptyNotice environment)
      pure ⟨none, some (emptyNotice environment ++ "\n")⟩
    else pure ⟨none, Report.table urls⟩

def plan : Command → Plan Completion
  | .list environment format => list.plan environment format
  | .upsert request => do pure (← PortShare.upsert request).completion
  | .remove environment port => do pure (← PortShare.remove environment port).completion

end Command

/-- Writes a text where only so many bytes find room: what was taken, and the failure if that
is not all. -/
def deliver (room : Option Nat) (text : String) : Except Failure Unit × Bytes :=
  let bytes := Utf8.bytes text
  match room with
  | none => (.ok (), bytes)
  | some n =>
    if bytes.length ≤ n then (.ok (), bytes)
    else (.error (.outputFailed "failed to write whole buffer"), bytes.take n)

/-- Prints what there is to print: the result, and the bytes written. Where the text cannot be laid
out the program gives up. -/
def Completion.print (room : Option Nat) (done : Completion) :
    Except Failure (Option Outcome) × Bytes :=
  match done.text with
  | none => (.error (.panicked Report.tooWide), [])
  | some text =>
    let (written, out) := deliver room text
    (written.map fun _ => done.outcome, out)

/-- Runs a command and writes what it prints: its outcome, the bytes written, the state. -/
def Command.run {σ : Type} (service : Service σ) (room : Option Nat) (c : Command) (s : σ) :
    Except Failure (Option Outcome) × Bytes × σ :=
  match c.plan.run service s with
  | (.error e, s) => (.error e, [], s)
  | (.ok done, s) =>
    let (result, out) := done.print room
    (result, out, s)

end PortShare
