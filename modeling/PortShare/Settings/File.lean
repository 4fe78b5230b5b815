import PortShare.Failure
import PortShare.Settings.Variables
import PortShare.Toml.Document

/-! The settings that a file gives, in its table of the service. -/

namespace PortShare

/-- What a file says of the service; all of it may be left out. -/
structure FileSettings where
  url : Option String := none
  token : Option String := none
  timeout : Option UInt64 := none
  deriving DecidableEq, Repr

namespace FileSettings

open Toml (Item)

def text? : Item → Option String
  | .text s => some s
  | _ => none

/-- A whole number of seconds. -/
def seconds? : Item → Option UInt64
  | .word (.integer minus n) =>
    if n < UInt64.size ∧ (minus → n = 0) then some n.toUInt64 else none
  | _ => none

/-- A word that can be held: a number of 128 bits, and no overflow. -/
def isHeldWord : Toml.Word → Bool
  | .integer minus n => if minus then n ≤ Nat.pow 2 127 else n < Nat.pow 2 128
  | .float overflows => !overflows
  | _ => true

mutual

/-- Can everything in an item that nobody asked for be held? -/
def isHeld : Item → Bool
  | .text _ => true
  | .word w => isHeldWord w
  | .list items => areHeld items
  | .tables items => areHeld items
  | .table _ entries => entriesHeld entries

def areHeld : List Item → Bool
  | [] => true
  | item :: items => isHeld item && areHeld items

def entriesHeld : List (String × Item) → Bool
  | [] => true
  | (_, item) :: entries => isHeld item && entriesHeld entries

end

/-- Takes one entry of the table; one with another key has no influence. -/
def put (s : FileSettings) : String × Item → Option FileSettings
  | ("url", item) => (text? item).map fun url => { s with url := some url }
  | ("session_token", item) => (text? item).map fun token => { s with token := some token }
  | ("timeout_seconds", item) =>
    (seconds? item).map fun timeout => { s with timeout := some timeout }
  | (_, item) => if isHeld item then some s else none

/-- The settings in the item of the service: a table, or a list of the values in their order. A date
or time says nothing of it. -/
def ofItem : Item → Option FileSettings
  | .table _ entries => entries.foldlM put {}
  | .word .moment => some {}
  | .list (url :: token :: timeout :: _) | .tables (url :: token :: timeout :: _) =>
    match text? url, text? token, seconds? timeout with
    | some url, some token, some timeout => some ⟨some url, some token, some timeout⟩
    | _, _, _ => none
  | _ => none

/-- The settings in the root table of a file. -/
def ofRoot (root : Toml.Table) : Option FileSettings :=
  root.2.foldlM (fun s (key, item) =>
    if key = "service" then ofItem item else if isHeld item then some s else none) {}

/-- The settings in the text of a file, once references to variables have been replaced. -/
def parse (vars : Variables) (text : String) : Except Failure FileSettings :=
  match (Toml.read (vars.substitute text)).bind ofRoot with
  | some s => .ok s
  | none => .error (.configuration "TOML parsing error")

end FileSettings

end PortShare
