import PortShare.Session

/-!
Commands that are under way at one store at the same time. Each makes its calls one after the
other, and the calls of different commands come to the store in any order. -/

namespace PortShare

namespace Plan

variable {α : Type}

/-- The call that a plan makes next, if it makes one. -/
def nextCall? : Plan α → Option Call
  | .done _ => none
  | .fail _ => none
  | .note _ rest => rest.nextCall?
  | .ask call _ => some call

/-- Makes the next call of a plan at a store: what is left of the plan, and the store. -/
def advance : Plan α → Store → Plan α × Store
  | .done a, store => (.done a, store)
  | .fail e, store => (.fail e, store)
  | .note _ rest, store => rest.advance store
  | .ask call next, store =>
    match store.answer call with
    | (.error e, store) => (.fail e, store)
    | (.ok answer, store) => (next answer, store)

/-- The result of a plan that makes no more calls. -/
def result? : Plan α → Option (Except Failure α)
  | .done a => some (.ok a)
  | .fail e => some (.error e)
  | .note _ rest => rest.result?
  | .ask .. => none

end Plan

/-- The port that a command is for, if what was typed is in order. -/
def Command.port? : Command → Option UInt16
  | .list .. => none
  | .upsert request => request.check.toOption.map CheckedRequest.port
  | .remove _ typed => (checkPort typed).toOption

/-- Commands under way at one store. -/
structure Traffic (ι : Type) where
  store : Store
  /-- What is left of the plan of each command. -/
  plans : ι → Plan Completion
  /-- The commands that have made their change, in the order of the changes. -/
  changed : List ι

namespace Traffic

variable {ι : Type} [DecidableEq ι]

def start (store : Store) (commands : ι → Command) : Traffic ι :=
  ⟨store, fun i => (commands i).plan, []⟩

/-- The command `i` makes its next call. -/
def move (t : Traffic ι) (i : ι) : Traffic ι :=
  let (plan, store) := (t.plans i).advance t.store
  { store
    plans := fun j => if j = i then plan else t.plans j
    changed := if (t.plans i).nextCall?.any Call.isMutation then t.changed ++ [i] else t.changed }

/-- The commands make their calls in the order of the schedule. -/
def run (t : Traffic ι) (schedule : List ι) : Traffic ι := schedule.foldl move t

/-- Have all commands come to an end? -/
def Ended (t : Traffic ι) : Prop := ∀ i, (t.plans i).nextCall? = none

def outcome? (t : Traffic ι) (i : ι) : Option (Except Failure (Option Outcome)) :=
  (t.plans i).result?.map fun result => result.map Completion.outcome

end Traffic

end PortShare
