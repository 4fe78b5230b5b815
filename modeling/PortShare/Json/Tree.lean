import PortShare.Json.Reader

/-! Reading JSON of any shape. -/

namespace PortShare.Json

namespace Tree

def runFlat (bs : Bytes) : Except Fault (Value × Bytes) :=
  match skipBlank bs with
  | [] => .error (.placed .endInValue 0)
  | b :: rest =>
    if b = 91 ∨ b = 123 then .error (.before .tooDeep rest)
    else (readScalar (b :: rest)).map fun x => (.scalar x.1, x.2)

theorem length_of_runFlat {bs rest : Bytes} {v : Value} (h : runFlat bs = .ok (v, rest)) :
    rest.length < bs.length := by
  unfold runFlat at h
  grind

/-- A value that is no container. -/
def flat : Reader Value := ⟨runFlat, length_of_runFlat⟩

/-- Reads the value of a member into the members so far, the last of which stands first. -/
def member (inner : Reader Value) (key : String) (ms : List (String × Value)) :
    Reader (List (String × Value)) :=
  inner.afterColon.map fun v => (key, v) :: ms

def runNested (inner : Reader Value) (bs : Bytes) : Except Fault (Value × Bytes) :=
  match skipBlank bs with
  | [] => .error (.placed .endInValue 0)
  | b :: rest =>
    if b = 91 then
      (Reader.place Reader.behindList (Reader.items inner true rest)).map
        fun x => (.list x.1, x.2)
    else if b = 123 then
      (Reader.place Reader.behindObject (Reader.members (member inner) true [] rest)).map
        fun x => (.object x.1.reverse, x.2)
    else (readScalar (b :: rest)).map fun x => (.scalar x.1, x.2)

theorem length_of_runNested {inner : Reader Value} {bs rest : Bytes} {v : Value}
    (h : runNested inner bs = .ok (v, rest)) : rest.length < bs.length := by
  unfold runNested at h
  grind

/-- A value, of which a container holds what `inner` reads. -/
def nested (inner : Reader Value) : Reader Value := ⟨runNested inner, length_of_runNested⟩

/-- Reads a value whose containers are nested at most `depth` deep. -/
def reader : Nat → Reader Value
  | 0 => flat
  | depth + 1 => nested (reader depth)

end Tree

/-- All of `bs` as one value; containers may be nested 127 deep. -/
def Value.read (bs : Bytes) : Except Problem Value := (Tree.reader 127).readAll bs

end PortShare.Json
