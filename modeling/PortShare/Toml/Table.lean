import PortShare.Toml.Scalar

/-!
Tables of a TOML document as it is read. A table remembers how it came about, for that decides
whether it can be added to later. -/

namespace PortShare.Toml

/-- How a table came about. -/
inductive Origin where
  /-- The document itself, or a header of its own. -/
  | written
  /-- The header of a table in it. -/
  | implied
  /-- A key with points. -/
  | dotted
  /-- Braces; such a table is closed. -/
  | inline
  deriving DecidableEq, Repr

inductive Item where
  | text (s : String)
  | word (w : Word)
  | list (items : List Item)
  /-- The tables under one header with double brackets. -/
  | tables (items : List Item)
  | table (origin : Origin) (entries : List (String × Item))

/-- A table: its origin and its entries. -/
abbrev Table := Origin × List (String × Item)

namespace Table

def get? (t : Table) (key : String) : Option Item := (t.2.find? fun e => e.1 == key).map Prod.snd

/-- Sets an entry, in its place if there is one of that key. -/
def put (t : Table) (key : String) (item : Item) : Table :=
  if t.2.any fun e => e.1 == key then
    (t.1, t.2.map fun e => if e.1 == key then (key, item) else e)
  else (t.1, t.2 ++ [(key, item)])

/-- Changes the table that a path leads to from `t`, where tables that are not there yet are
made. A list of tables stands for its last. Keys with points cannot enter a table that has a
header of its own, and nothing can enter one in braces. -/
def change (dotted : Bool) (f : Table → Option Table) : List String → Table → Option Table
  | [], t => f t
  | key :: path, t =>
    let enter (inner : Table) : Option Item :=
      (change dotted f path inner).map fun (origin, entries) => .table origin entries
    match t.get? key with
    | none => (enter (if dotted then .dotted else .implied, [])).map (t.put key)
    | some (.table origin entries) =>
      if origin = .inline ∨ (dotted ∧ origin = .written) then none
      else (enter (origin, entries)).map (t.put key)
    | some (.tables items) =>
      match items.getLast? with
      | some (.table origin entries) =>
        (enter (origin, entries)).map fun last => t.put key (.tables (items.dropLast ++ [last]))
      | _ => none
    | some _ => none

/-- Adds an entry under a key, which may have points. -/
def insert (keys : List String) (item : Item) (t : Table) : Option Table :=
  match keys.getLast? with
  | none => none
  | some key =>
    let path := keys.dropLast
    change true (fun t =>
      if (t.1 = .dotted ↔ path = []) ∨ (t.get? key).isSome then none
      else some (t.put key item)) path t

/-- Opens the table of a header. -/
def openTable (keys : List String) (t : Table) : Option Table :=
  match keys.getLast? with
  | none => none
  | some key =>
    change false (fun t =>
      match t.get? key with
      | none => some (t.put key (.table .written []))
      | some (.table .implied entries) => some (t.put key (.table .written entries))
      | some _ => none) keys.dropLast t

/-- Opens one more table of a header with double brackets. -/
def openNext (keys : List String) (t : Table) : Option Table :=
  match keys.getLast? with
  | none => none
  | some key =>
    change false (fun t =>
      match t.get? key with
      | none => some (t.put key (.tables [.table .written []]))
      | some (.tables items) => some (t.put key (.tables (items ++ [.table .written []])))
      | some _ => none) keys.dropLast t

end Table

end PortShare.Toml
