import PortShare.Json.Literal

/-!
Passing over a value that nobody asked for. Only its form counts: a text may hold bytes that
are no character, a number may be too large, and nesting may be as deep as it likes. -/

namespace PortShare.Json

/-- A container that has been opened and not yet closed. -/
inductive Container where
  | list
  | object
  deriving DecidableEq, Repr

/-- Passes over a fixed word, a number or a text. -/
def skipScalar : Bytes → Except Fault Bytes
  | [] => .error (.placed .endInValue 0)
  | b :: bs =>
    if b = 110 then word [117, 108, 108] bs
    else if b = 116 then word [114, 117, 101] bs
    else if b = 102 then word [97, 108, 115, 101] bs
    else if b = 45 ∨ isDigit b then skipNumber (b :: bs)
    else if b = 34 then skipText bs
    else .error (.here .expectedValue (b :: bs))

@[grind →] theorem length_of_skipScalar {bs rest : Bytes} (h : skipScalar bs = .ok rest) :
    rest.length < bs.length := by
  unfold skipScalar at h
  split at h
  · cases h
  · split at h
    · have := length_of_word h; simp; omega
    · split at h
      · have := length_of_word h; simp; omega
      · split at h
        · have := length_of_word h; simp; omega
        · split at h
          · exact length_of_skipNumber h
          · split at h
            · have := length_of_skipText h; simp; omega
            · cases h

/-- Passes over a key and its colon. -/
def skipKey (bs : Bytes) : Except Fault Bytes :=
  match skipBlank bs with
  | [] => .error (.placed .endInObject 0)
  | b :: bs =>
    if b = 34 then
      match skipText bs with
      | .error e => .error e
      | .ok rest =>
        match skipBlank rest with
        | [] => .error (.placed .endInObject 0)
        | c :: rest => if c = 58 then .ok rest else .error (.here .expectedColon (c :: rest))
    else .error (.here .expectedKey (b :: bs))

@[grind →] theorem length_of_skipKey {bs rest : Bytes} (h : skipKey bs = .ok rest) :
    rest.length < bs.length := by
  unfold skipKey at h
  have hb := length_skipBlank bs
  split at h
  · cases h
  · next hs =>
    rw [hs] at hb
    split at h
    · split at h
      · cases h
      · next r ht =>
        have := length_of_skipText ht
        have hr := length_skipBlank r
        split at h
        · cases h
        · next he =>
          rw [he] at hr
          split at h
          · cases h; simp at *; omega
          · cases h
    · cases h

/-- Passes over what `bs` holds up to the end of the outermost of the open containers: first
a value if `value` is set, and then what follows it in the innermost. -/
def skipOpen (value : Bool) (opened : List Container) (bs : Bytes) : Except Fault Bytes :=
  match value, opened with
  | false, [] => .ok bs
  | false, .list :: outer =>
    match hs : skipBlank bs with
    | [] => .error (.placed .endInList 0)
    | b :: rest =>
      have := length_of_skipBlank hs
      if b = 44 then skipOpen true (.list :: outer) rest
      else if b = 93 then skipOpen false outer rest
      else .error (.here .expectedListEnd (b :: rest))
  | false, .object :: outer =>
    match hs : skipBlank bs with
    | [] => .error (.placed .endInObject 0)
    | b :: rest =>
      have := length_of_skipBlank hs
      if b = 44 then
        match hk : skipKey rest with
        | .error e => .error e
        | .ok after =>
          have := length_of_skipKey hk
          skipOpen true (.object :: outer) after
      else if b = 125 then skipOpen false outer rest
      else .error (.here .expectedObjectEnd (b :: rest))
  | true, opened =>
    match hs : skipBlank bs with
    | [] => .error (.placed .endInValue 0)
    | b :: rest =>
      have := length_of_skipBlank hs
      if b = 91 then
        match hi : skipBlank rest with
        | [] => .error (.placed .endInList 0)
        | c :: inner =>
          have := length_of_skipBlank hi
          if c = 93 then skipOpen false opened inner
          else skipOpen true (.list :: opened) (c :: inner)
      else if b = 123 then
        match hi : skipBlank rest with
        | [] => .error (.placed .endInObject 0)
        | c :: inner =>
          have := length_of_skipBlank hi
          if c = 125 then skipOpen false opened inner
          else
            match hk : skipKey (c :: inner) with
            | .error e => .error e
            | .ok after =>
              have := length_of_skipKey hk
              skipOpen true (.object :: opened) after
      else
        match hv : skipScalar (b :: rest) with
        | .error e => .error e
        | .ok after =>
          have := length_of_skipScalar hv
          skipOpen false opened after
termination_by bs.length
decreasing_by all_goals grind

@[grind →] theorem length_of_skipOpen {value : Bool} {opened : List Container} {bs rest : Bytes}
    (h : skipOpen value opened bs = .ok rest) :
    rest.length ≤ bs.length ∧ (value = true → rest.length < bs.length) := by
  fun_induction skipOpen value opened bs <;>
    grind

/-- Passes over one value. -/
def skipValue (bs : Bytes) : Except Fault Bytes := skipOpen true [] bs

@[grind →] theorem length_of_skipValue {bs rest : Bytes} (h : skipValue bs = .ok rest) :
    rest.length < bs.length := (length_of_skipOpen h).2 rfl

end PortShare.Json
