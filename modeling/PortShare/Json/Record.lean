import PortShare.Json.Reader

/-!
Records: values with a fixed set of fields. A record is written as an object, with its fields
in any order among members that nobody asked for, or as a list of the fields in their order. -/

namespace PortShare.Json

/-- A field of a record that is read into a draft `δ`. -/
structure Field (δ : Type) where
  key : String
  /-- May the field be left out? -/
  optional : Bool
  taken : δ → Bool
  read : Reader (δ → δ)

/-- The fields of a record, and what it becomes once all that must be there are. -/
structure Shape (δ α : Type) where
  label : String
  fields : List (Field δ)
  blank : δ
  finish : δ → Except Cause α

namespace Shape

variable {δ α : Type}

/-- Reads the member `key` into the draft, from behind the key on. -/
def member (shape : Shape δ α) (key : String) (draft : δ) : Reader δ :=
  match shape.fields.find? fun f => f.key == key with
  | none => Reader.skip.afterColon.map fun _ => draft
  | some f =>
    if f.taken draft then .refuse (.repeated key)
    else f.read.afterColon.map fun put => put draft

def ofObject (shape : Shape δ α) (bs : Bytes) : Except Fault (α × Bytes) :=
  match Reader.place Reader.behindObject (Reader.members shape.member true shape.blank bs) with
  | .error e => .error e
  | .ok (draft, rest) =>
    match shape.finish draft with
    | .ok a => .ok (a, rest)
    | .error cause => .error (.before cause rest)

def lengthText (shape : Shape δ α) : String :=
  shape.label ++ " with " ++ Numeral.decimal shape.fields.length ++ " elements"

/-- Reads the fields from the `n`th on off a list that is open; the list goes on behind them. -/
def positional (shape : Shape δ α) (n : Nat) (draft : δ) (bs : Bytes) :
    List (Field δ) → Except Fault (δ × Bool × Bytes)
  | [] => .ok (draft, true, bs)
  | f :: fs =>
    match Reader.nextItem (n == 0) bs with
    | .error e => .error e
    | .ok (false, rest) =>
      match (f :: fs).findIdx? fun f => !f.optional with
      | some i => .error (.before (.wrongLength (n + i) shape.lengthText) rest)
      | none => .ok (draft, false, rest)
    | .ok (true, rest) =>
      match f.read.run rest with
      | .error e => .error e
      | .ok (put, rest) => shape.positional (n + 1) (put draft) rest fs

@[grind →] theorem length_of_positional {shape : Shape δ α} {n : Nat} {draft draft' : δ}
    {more : Bool} {bs rest : Bytes} {fields : List (Field δ)}
    (h : shape.positional n draft bs fields = .ok (draft', more, rest)) :
    rest.length ≤ bs.length := by
  fun_induction positional shape n draft bs fields <;> grind

/-- Reads the end of a list that holds no more. -/
def listEnd (bs : Bytes) : Except Fault Bytes :=
  match skipBlank bs with
  | [] => .error (.placed .endInList 0)
  | b :: rest =>
    if b = 93 then .ok rest
    else if b = 44 then
      match skipBlank rest with
      | [] => .error (.placed .trailingBytes 0)
      | c :: rest =>
        .error (.here (if c = 93 then .trailingComma else .trailingBytes) (c :: rest))
    else .error (.here .trailingBytes (b :: rest))

@[grind →] theorem length_of_listEnd {bs rest : Bytes} (h : listEnd bs = .ok rest) :
    rest.length < bs.length := by
  unfold listEnd at h
  grind

def ofList (shape : Shape δ α) (bs : Bytes) : Except Fault (α × Bytes) :=
  match Reader.place Reader.behindList (shape.positional 0 shape.blank bs shape.fields) with
  | .error e => .error e
  | .ok (draft, opened, rest) =>
    match shape.finish draft with
    | .error cause => .error (.placed cause (Reader.behindList rest))
    | .ok a => if opened then (listEnd rest).map fun rest => (a, rest) else .ok (a, rest)

@[grind →] theorem length_of_ofObject {shape : Shape δ α} {bs rest : Bytes} {a : α}
    (h : shape.ofObject bs = .ok (a, rest)) : rest.length < bs.length := by
  unfold ofObject at h
  grind

@[grind →] theorem length_of_ofList {shape : Shape δ α} {bs rest : Bytes} {a : α}
    (h : shape.ofList bs = .ok (a, rest)) : rest.length ≤ bs.length := by
  unfold ofList at h
  grind

def run (shape : Shape δ α) (bs : Bytes) : Except Fault (α × Bytes) :=
  match skipBlank bs with
  | [] => .error (.placed .endInValue 0)
  | b :: rest =>
    if b = 91 then shape.ofList rest
    else if b = 123 then shape.ofObject rest
    else .error (mismatch shape.label (b :: rest))

theorem length_of_runShape {shape : Shape δ α} {bs rest : Bytes} {a : α}
    (h : shape.run bs = .ok (a, rest)) : rest.length < bs.length := by
  unfold run at h
  grind

/-- Reads the record in either form. -/
def reader (shape : Shape δ α) : Reader α := ⟨shape.run, length_of_runShape⟩

end Shape

end PortShare.Json
