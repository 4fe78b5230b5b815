import PortShare.Proofs.Json.Writing

/-! What is laid out over several lines is JSON, and says the same as what is written on one line:
all that is added are blanks, in places where the grammar has them. -/

namespace PortShare.Json

open Utf8 (encode encodeChar encode_cons encode_append)

theorem blank_newline (level : Nat) : Blank (encode (newline level)) := by
  have blanks : ∀ n, Blank (encode (List.replicate n ' ')) := by
    intro n
    induction n with
    | zero => exact nofun
    | succ n ih =>
      intro b hb
      rw [List.replicate_succ, encode_cons] at hb
      rcases List.mem_append.mp hb with hb | hb
      · exact .inl (List.mem_singleton.mp hb)
      · exact ih b hb
  intro b hb
  rw [newline, encode_cons] at hb
  rcases List.mem_append.mp hb with hb | hb
  · exact .inr (.inl (List.mem_singleton.mp hb))
  · exact blanks _ b hb

/-- A value behind a colon and one blank. -/
theorem writesValue_spaced {t : Term} {bs : Bytes} (h : Writes t bs) :
    WritesValue t (58 :: 32 :: bs) := by
  have hb : Blank [32] := by
    intro b hb
    exact .inl (List.mem_singleton.mp hb)
  exact .intro blank_nil hb h

mutual

theorem Value.Says.pretty : ∀ {v : Value} {t : Term}, v.Says t →
    ∀ level, Writes t (encode (v.pretty level))
  | _, _, .null, _ => .null
  | _, _, .bool true, _ => .yes
  | _, _, .bool false, _ => .no
  | _, _, .natural n, _ => .number (encode_natural n)
  | _, _, .negative n, _ => .negative (encode_natural n)
  | _, _, .text s, _ => by
    obtain ⟨bs, hs, hw⟩ := encode_textChars s
    change Writes _ (encode (textChars s))
    rw [hs]
    exact .text hw
  | _, _, .list .nil, _ => .list (.nil blank_nil)
  | _, _, .list (.cons hv hvs), level => by
    rw [Value.pretty, encode_cons, encode_append, encode_append]
    have := WritesItems.first (blank_newline (level + 1)) (hv.pretty (level + 1))
      (hvs.pretty level)
    exact .list this
  | _, _, .object .nil, _ => .object (.nil blank_nil)
  | _, _, .object (@SaysMembers.cons key _ _ _ _ hv hms), level => by
    obtain ⟨bs, hs, hw⟩ := encode_textChars key
    rw [Value.pretty, encode_cons, encode_append, encode_append, hs, encode_cons, encode_cons,
      encode_append]
    have := WritesMembers.first (blank_newline (level + 1)) hw
      (writesValue_spaced (hv.pretty (level + 1))) (hms.pretty level)
    exact .object this

theorem SaysItems.pretty : ∀ {vs : List Value} {ts : List Term}, SaysItems vs ts →
    ∀ level, WritesItems false ts (encode (prettyItems level vs))
  | _, _, .nil, level => by
    rw [prettyItems, encode_append]
    exact .nil (blank_newline level)
  | _, _, .cons hv hvs, level => by
    rw [prettyItems, encode_cons, encode_append, encode_append]
    have := WritesItems.next blank_nil (blank_newline (level + 1)) (hv.pretty (level + 1))
      (hvs.pretty level)
    exact this

theorem SaysMembers.pretty : ∀ {ms : List (String × Value)} {ts : List (String × Term)},
    SaysMembers ms ts → ∀ level, WritesMembers false ts (encode (prettyMembers level ms))
  | _, _, .nil, level => by
    rw [prettyMembers, encode_append]
    exact .nil (blank_newline level)
  | _, _, @SaysMembers.cons key _ _ _ _ hv hms, level => by
    obtain ⟨bs, hs, hw⟩ := encode_textChars key
    rw [prettyMembers, encode_cons, encode_append, encode_append, hs, encode_cons, encode_cons,
      encode_append]
    have := WritesMembers.next blank_nil (blank_newline (level + 1)) hw
      (writesValue_spaced (hv.pretty (level + 1))) (hms.pretty level)
    exact this

end

/-- A value that is laid out, with an end of line behind it, is a whole text. -/
theorem Value.Says.document_pretty {v : Value} {t : Term} (h : v.Says t) :
    Document t (Utf8.bytes (v.renderPretty ++ "\n")) := by
  have hend : Blank [10] := by
    intro b hb
    exact .inr (.inl (List.mem_singleton.mp hb))
  have hd := Document.intro blank_nil (h.pretty 0) hend
  rw [Utf8.bytes, Value.renderPretty, String.toList_append, String.toList_ofList, encode_append]
  exact hd

end PortShare.Json
