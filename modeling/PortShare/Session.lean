import PortShare.Command
import PortShare.Store

/-! Sessions: commands that come to one store, one after the other. -/

namespace PortShare

/-- A command, with the trouble that it meets and the room that there is for what it prints. -/
structure Step where
  command : Command
  trouble : Option Trouble := none
  room : Option Nat := none

namespace Step

/-- The outcome, the bytes written, and the visit with its calls and the store it leaves. -/
def run (s : Step) (store : Store) : Except Failure (Option Outcome) × Bytes × Visit :=
  s.command.run Visit.service s.room ⟨store, s.trouble, []⟩

def after (s : Step) (store : Store) : Store := (s.run store).2.2.store

end Step

/-- What is seen of a step: its outcome, the bytes that it writes and the calls that it makes. -/
structure Step.Account where
  result : Except Failure (Option Outcome)
  output : Bytes
  calls : List Call

def Step.account (s : Step) (store : Store) : Account :=
  let (result, output, visit) := s.run store
  ⟨result, output, visit.calls⟩

/-- The store that a session leaves. -/
def Store.after (store : Store) (steps : List Step) : Store :=
  steps.foldl (fun store s => s.after store) store

/-- The steps of a session, each with what is seen of it. -/
def Store.transcript (store : Store) : List Step → List (Step × Step.Account)
  | [] => []
  | s :: steps => (s, s.account store) :: (s.after store).transcript steps

end PortShare
