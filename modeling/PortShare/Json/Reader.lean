import PortShare.Json.Skip

/-!
Readers: a reader takes a value off the head of the bytes and says what is left. The first
fault on the way ends the reading, and nothing behind it counts. -/

namespace PortShare.Json

/-- Reads a word, a number or a text. -/
def readScalar : Bytes → Except Fault (Scalar × Bytes)
  | [] => .error (.placed .endInValue 0)
  | b :: bs =>
    if b = 110 then (word [117, 108, 108] bs).map fun rest => (.null, rest)
    else if b = 116 then (word [114, 117, 101] bs).map fun rest => (.bool true, rest)
    else if b = 102 then (word [97, 108, 115, 101] bs).map fun rest => (.bool false, rest)
    else if b = 45 ∨ isDigit b then
      (readNumber (b :: bs)).map fun r => (.number r.1, r.2)
    else if b = 34 then (readText bs).map fun r => (.text r.1, r.2)
    else .error (.here .expectedValue (b :: bs))

@[grind →] theorem length_of_readScalar {bs rest : Bytes} {s : Scalar}
    (h : readScalar bs = .ok (s, rest)) : rest.length < bs.length := by
  unfold readScalar at h
  grind

/-- The fault of a value that is not of the expected kind. A scalar is read first. -/
def mismatch (expected : String) : Bytes → Fault
  | [] => .placed .endInValue 0
  | b :: bs =>
    if b = 91 then .before (.wrongKind .list expected) (b :: bs)
    else if b = 123 then .before (.wrongKind .object expected) (b :: bs)
    else
      match readScalar (b :: bs) with
      | .error e => e
      | .ok (s, rest) => .before (.wrongKind (.scalar s) expected) rest

/-- Reads a value off the head of the bytes, of which it takes at least one. -/
structure Reader (α : Type) where
  run : Bytes → Except Fault (α × Bytes)
  shorter : ∀ {bs rest : Bytes} {a : α}, run bs = .ok (a, rest) → rest.length < bs.length

namespace Reader

variable {α β : Type}

@[grind →] theorem length_of_run {r : Reader α} {bs rest : Bytes} {a : α}
    (h : r.run bs = .ok (a, rest)) : rest.length < bs.length := r.shorter h

def runMap (f : α → β) (r : Reader α) (bs : Bytes) : Except Fault (β × Bytes) :=
  (r.run bs).map fun x => (f x.1, x.2)

theorem length_of_runMap {f : α → β} {r : Reader α} {bs rest : Bytes} {b : β}
    (h : runMap f r bs = .ok (b, rest)) : rest.length < bs.length := by
  unfold runMap at h
  grind

def map (f : α → β) (r : Reader α) : Reader β := ⟨runMap f r, length_of_runMap⟩

def runRefine (f : α → Except Cause β) (r : Reader α) (bs : Bytes) : Except Fault (β × Bytes) :=
  match r.run bs with
  | .error e => .error e
  | .ok (a, rest) =>
    match f a with
    | .ok b => .ok (b, rest)
    | .error cause => .error (.unplaced cause rest)

theorem length_of_runRefine {f : α → Except Cause β} {r : Reader α} {bs rest : Bytes} {b : β}
    (h : runRefine f r bs = .ok (b, rest)) : rest.length < bs.length := by
  unfold runRefine at h
  grind

/-- Refuses some of the values read; the value around gives the refusal its place. -/
def refine (f : α → Except Cause β) (r : Reader α) : Reader β :=
  ⟨runRefine f r, length_of_runRefine⟩

/-- Refuses without reading. -/
def refuse (cause : Cause) : Reader α := ⟨fun bs => .error (.unplaced cause bs), nofun⟩

def runSkip (bs : Bytes) : Except Fault (Unit × Bytes) :=
  (skipValue bs).map fun rest => ((), rest)

theorem length_of_runSkip {bs rest : Bytes} {u : Unit} (h : runSkip bs = .ok (u, rest)) :
    rest.length < bs.length := by
  unfold runSkip at h
  grind

def skip : Reader Unit := ⟨runSkip, length_of_runSkip⟩

def runText (bs : Bytes) : Except Fault (String × Bytes) :=
  match skipBlank bs with
  | [] => .error (.placed .endInValue 0)
  | b :: rest => if b = 34 then readText rest else .error (mismatch "a string" (b :: rest))

@[grind →]
theorem length_of_runText {bs rest : Bytes} {s : String} (h : runText bs = .ok (s, rest)) :
    rest.length < bs.length := by
  unfold runText at h
  grind

def text : Reader String := ⟨runText, length_of_runText⟩

def runOptionalText (bs : Bytes) : Except Fault (Option String × Bytes) :=
  match skipBlank bs with
  | [] => .error (.placed .endInValue 0)
  | b :: rest =>
    if b = 110 then (word [117, 108, 108] rest).map fun rest => (none, rest)
    else (runText (b :: rest)).map fun x => (some x.1, x.2)

theorem length_of_runOptionalText {bs rest : Bytes} {s : Option String}
    (h : runOptionalText bs = .ok (s, rest)) : rest.length < bs.length := by
  unfold runOptionalText at h
  grind

/-- A text, or nothing for `null`. -/
def optionalText : Reader (Option String) := ⟨runOptionalText, length_of_runOptionalText⟩

def runUnsigned16 (bs : Bytes) : Except Fault (UInt16 × Bytes) :=
  match skipBlank bs with
  | [] => .error (.placed .endInValue 0)
  | b :: rest =>
    if b = 45 ∨ isDigit b then
      match readNumber (b :: rest) with
      | .error e => .error e
      | .ok (.natural n, rest) =>
        if n < 65536 then .ok (n.toUInt16, rest)
        else .error (.before (.wrongNumber (.natural n) "u16") rest)
      | .ok (.negative n, rest) => .error (.before (.wrongNumber (.negative n) "u16") rest)
      | .ok (n, rest) => .error (.before (.wrongKind (.scalar (.number n)) "u16") rest)
    else .error (mismatch "u16" (b :: rest))

theorem length_of_runUnsigned16 {bs rest : Bytes} {n : UInt16}
    (h : runUnsigned16 bs = .ok (n, rest)) : rest.length < bs.length := by
  unfold runUnsigned16 at h
  grind

/-- A whole number of 16 bits. -/
def unsigned16 : Reader UInt16 := ⟨runUnsigned16, length_of_runUnsigned16⟩

def runAfterColon (r : Reader α) (bs : Bytes) : Except Fault (α × Bytes) :=
  match skipBlank bs with
  | [] => .error (.placed .endInObject 0)
  | b :: rest => if b = 58 then r.run rest else .error (.here .expectedColon (b :: rest))

theorem length_of_runAfterColon {r : Reader α} {bs rest : Bytes} {a : α}
    (h : runAfterColon r bs = .ok (a, rest)) : rest.length < bs.length := by
  unfold runAfterColon at h
  grind

/-- Reads a colon and then a value. -/
def afterColon (r : Reader α) : Reader α := ⟨runAfterColon r, length_of_runAfterColon⟩

/-- Goes to the next item of a list, or over its end. -/
def nextItem (first : Bool) (bs : Bytes) : Except Fault (Bool × Bytes) :=
  match skipBlank bs with
  | [] => .error (.placed .endInList 0)
  | b :: rest =>
    if b = 93 then .ok (false, rest)
    else if first then .ok (true, b :: rest)
    else if b = 44 then
      match skipBlank rest with
      | [] => .error (.placed .endInValue 0)
      | c :: rest =>
        if c = 93 then .error (.here .trailingComma (c :: rest)) else .ok (true, c :: rest)
    else .error (.here .expectedListEnd (b :: rest))

@[grind →] theorem length_of_nextItem {first more : Bool} {bs rest : Bytes}
    (h : nextItem first bs = .ok (more, rest)) : rest.length ≤ bs.length := by
  unfold nextItem at h
  grind

@[grind →] theorem length_of_nextItem_end {first : Bool} {bs rest : Bytes}
    (h : nextItem first bs = .ok (false, rest)) : rest.length < bs.length := by
  unfold nextItem at h
  grind

/-- Reads the items of a list that is open, and its end. -/
def items (item : Reader α) (first : Bool) (bs : Bytes) : Except Fault (List α × Bytes) :=
  match hn : nextItem first bs with
  | .error e => .error e
  | .ok (false, rest) => .ok ([], rest)
  | .ok (true, rest) =>
    match hi : item.run rest with
    | .error e => .error e
    | .ok (a, rest') =>
      have := length_of_nextItem hn
      have := item.shorter hi
      match items item false rest' with
      | .error e => .error e
      | .ok (as, after) => .ok (a :: as, after)
termination_by bs.length
decreasing_by omega

@[grind →] theorem length_of_items {item : Reader α} {first : Bool} {bs rest : Bytes} {as : List α}
    (h : items item first bs = .ok (as, rest)) : rest.length < bs.length := by
  fun_induction items item first bs generalizing as rest <;> grind

/-- Where a list has been searched for its end from `rest` on. -/
def behindList (rest : Bytes) : Nat :=
  match skipBlank rest with
  | [] => 0
  | b :: after =>
    if b = 93 then after.length
    else if b = 44 then (skipBlank after).length
    else (b :: after).length

/-- Where an object has been searched for its end from `rest` on. -/
def behindObject (rest : Bytes) : Nat :=
  match skipBlank rest with
  | [] => 0
  | b :: after => if b = 125 then after.length else (b :: after).length

/-- Gives a fault that has no place yet the one behind the container around it. -/
def place (behind : Bytes → Nat) : Except Fault α → Except Fault α
  | .error (.unplaced cause rest) => .error (.placed cause (behind rest))
  | r => r

@[grind →] theorem place_eq_ok {behind : Bytes → Nat} {x : Except Fault α} {a : α}
    (h : place behind x = .ok a) : x = .ok a := by
  unfold place at h
  grind

def runList (item : Reader α) (bs : Bytes) : Except Fault (List α × Bytes) :=
  match skipBlank bs with
  | [] => .error (.placed .endInValue 0)
  | b :: rest =>
    if b = 91 then place behindList (items item true rest)
    else .error (mismatch "a sequence" (b :: rest))

theorem length_of_runList {item : Reader α} {bs rest : Bytes} {as : List α}
    (h : runList item bs = .ok (as, rest)) : rest.length < bs.length := by
  unfold runList at h
  grind

/-- A list of what `item` reads. -/
def list (item : Reader α) : Reader (List α) := ⟨runList item, length_of_runList⟩

/-- Goes to the next key of an object, or over its end. -/
def nextKey (first : Bool) (bs : Bytes) : Except Fault (Option String × Bytes) :=
  match skipBlank bs with
  | [] => .error (.placed .endInObject 0)
  | b :: rest =>
    if b = 125 then .ok (none, rest)
    else if first then key (b :: rest)
    else if b = 44 then
      match skipBlank rest with
      | [] => .error (.placed .endInValue 0)
      | c :: rest =>
        if c = 125 then .error (.here .trailingComma (c :: rest)) else key (c :: rest)
    else .error (.here .expectedObjectEnd (b :: rest))
where
  key : Bytes → Except Fault (Option String × Bytes)
    | [] => .error (.placed .endInObject 0)
    | b :: bs =>
      if b = 34 then (readText bs).map fun x => (some x.1, x.2)
      else .error (.here .expectedKey (b :: bs))

@[grind →] theorem length_of_nextKey {first : Bool} {bs rest : Bytes} {key : Option String}
    (h : nextKey first bs = .ok (key, rest)) : rest.length < bs.length := by
  unfold nextKey nextKey.key at h
  grind

variable {δ : Type}

/-- Reads the members of an object that is open, each into the draft so far, and its end. -/
def members (member : String → δ → Reader δ) (first : Bool) (draft : δ) (bs : Bytes) :
    Except Fault (δ × Bytes) :=
  match hk : nextKey first bs with
  | .error e => .error e
  | .ok (none, rest) => .ok (draft, rest)
  | .ok (some key, rest) =>
    match hm : (member key draft).run rest with
    | .error e => .error e
    | .ok (draft', rest') =>
      have := length_of_nextKey hk
      have := (member key draft).shorter hm
      members member false draft' rest'
termination_by bs.length
decreasing_by omega

@[grind →]
theorem length_of_members {member : String → δ → Reader δ} {first : Bool} {draft draft' : δ}
    {bs rest : Bytes} (h : members member first draft bs = .ok (draft', rest)) :
    rest.length < bs.length := by
  fun_induction members member first draft bs <;> grind

/-- Reads all of `bs` as one value with blanks around it. -/
def readAll (r : Reader α) (bs : Bytes) : Except Problem α :=
  match r.run bs with
  | .error e => .error (e.report bs)
  | .ok (a, rest) =>
    match skipBlank rest with
    | [] => .ok a
    | b :: rest => .error ((Fault.here .trailingBytes (b :: rest)).report bs)

end Reader

end PortShare.Json
