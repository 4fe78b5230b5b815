import PortShare.Proofs.Url.Percent
import PortShare.Url.Form

/-! Queries read back: a pair that is added to a query is read as it was given, behind the pairs
that were there. -/

namespace PortShare.Url

section encode

/-- What is written for a text are plain characters, pluses and percent signs. -/
theorem mem_formEncode {cs : List Char} {c : Char} (h : c ∈ formEncode cs) :
    c = '+' ∨ c = '%' ∨ isFormPlain c = true := by
  obtain ⟨d, -, hc⟩ := List.mem_flatMap.mp h
  split at hc
  · exact .inl (List.mem_singleton.mp hc)
  · split at hc
    · next hd =>
      obtain rfl := List.mem_singleton.mp hc
      exact .inr (.inr hd)
    · obtain ⟨b, -, hc⟩ := List.mem_flatMap.mp hc
      have plain {c : Char} (h : c.isAlphanum = true) : isFormPlain c = true := by
        simp only [isFormPlain, h, Bool.true_or]
      rcases mem_percentByte hc with rfl | hc
      · exact .inr (.inl rfl)
      · exact .inr (.inr (plain hc))

/-- The signs that divide a query are not among them. -/
theorem not_mem_formEncode {sign : Char} (hs : sign = '&' ∨ sign = '=') (cs : List Char) :
    sign ∉ formEncode cs := by
  intro h
  rcases hs with rfl | rfl <;> rcases mem_formEncode h with h | h | h <;> cases h

/-- A plus stands for a space. -/
def unplus (c : Char) : Char := if c = '+' then ' ' else c

theorem map_unplus {cs : List Char} (h : '+' ∉ cs) : cs.map unplus = cs := by
  refine (List.map_congr_left fun c hc => ?_).trans (List.map_id cs)
  rw [unplus, if_neg]
  · rfl
  · rintro rfl
    exact h hc

theorem plus_not_mem_percentBytes (bs : Bytes) : '+' ∉ bs.flatMap percentByte := by
  intro h
  obtain ⟨b, -, h⟩ := List.mem_flatMap.mp h
  rcases mem_percentByte h with h | h <;> cases h

theorem percentDecode_formEncode (cs rest : List Char) :
    percentDecode ((formEncode cs).map unplus ++ rest) = Utf8.encode cs ++ percentDecode rest := by
  induction cs with
  | nil => rfl
  | cons c cs ih =>
    rw [formEncode, List.flatMap_cons, List.map_append, List.append_assoc, Utf8.encode_cons,
      List.append_assoc, ← ih]
    -- a space, a character as it is, or the bytes of any other
    split
    · next hc =>
      subst hc
      exact percentDecode_cons (show ' ' ≠ '%' by decide) _
    · split
      · next hc =>
        have hplus : unplus c = c := by
          refine if_neg ?_
          rintro rfl
          cases hc
        have hpercent : c ≠ '%' := by
          rintro rfl
          cases hc
        rw [List.map_singleton, hplus]
        exact percentDecode_cons hpercent _
      · rw [map_unplus (plus_not_mem_percentBytes _)]
        exact percentDecode_percentBytes _ _

theorem formDecode_formEncode (cs : List Char) : formDecode (formEncode cs) = cs := by
  have h := percentDecode_formEncode cs []
  rw [List.append_nil, percentDecode, List.append_nil] at h
  exact (congrArg Utf8.decodeLossy h).trans (Utf8.decodeLossy_encode cs)

end encode

section pairs

/-- The pairs that are written between two ampersands: one, or none where nothing is written. -/
def partPairs (part : List Char) : List (List Char × List Char) :=
  if part.isEmpty then []
  else [(formDecode (part.takeWhile (· != '=')), formDecode ((part.dropWhile (· != '=')).drop 1))]

theorem queryPairs_eq (query : List Char) :
    queryPairs query = (query.splitOn '&').flatMap partPairs := by
  rw [queryPairs]
  induction query.splitOn '&' with
  | nil => rfl
  | cons part parts ih =>
    rw [List.flatMap_cons, ← ih, List.filter_cons, partPairs]
    cases part.isEmpty <;> rfl

theorem queryPairs_append (query part : List Char) :
    queryPairs (query ++ '&' :: part) = queryPairs query ++ queryPairs part := by
  rw [queryPairs_eq, queryPairs_eq, queryPairs_eq, List.splitOn_append_cons_self,
    List.flatMap_append]

/-- A pair by itself is read as it was given. -/
theorem queryPairs_pair (name value : List Char) :
    queryPairs (formEncode name ++ '=' :: formEncode value) = [(name, value)] := by
  have hsign : '&' ∉ formEncode name ++ '=' :: formEncode value := by
    simp only [List.mem_append, List.mem_cons, not_or]
    exact ⟨not_mem_formEncode (.inl rfl) name, by decide, not_mem_formEncode (.inl rfl) value⟩
  have hname : ∀ c ∈ formEncode name, (c != '=') = true := by
    intro c hc
    rw [bne_iff_ne]
    rintro rfl
    exact not_mem_formEncode (.inr rfl) name hc
  have hne : (formEncode name ++ '=' :: formEncode value).isEmpty = false := by simp
  rw [queryPairs_eq, List.splitOn_eq_singleton hsign, List.flatMap_singleton, partPairs, hne,
    List.takeWhile_append_of_pos hname, List.dropWhile_append_of_pos hname]
  simp [formDecode_formEncode]

/-- The pairs of a query that there may be. -/
def ownPairs (query : Option (List Char)) : List (List Char × List Char) :=
  query.elim [] queryPairs

theorem queryPairs_appendPair (query : Option (List Char)) (name value : List Char) :
    queryPairs (appendPair query name value) = ownPairs query ++ [(name, value)] := by
  have hpair := queryPairs_pair name value
  have bare : queryPairs (formEncode name ++ ['='] ++ formEncode value) = [(name, value)] := by
    rwa [List.append_assoc]
  unfold appendPair ownPairs
  split
  · exact bare
  · exact bare
  · next q _ =>
    have : q ++ ['&'] ++ formEncode name ++ ['='] ++ formEncode value =
        q ++ '&' :: (formEncode name ++ '=' :: formEncode value) := by simp
    rw [this, queryPairs_append, hpair]
    rfl

end pairs

end PortShare.Url
