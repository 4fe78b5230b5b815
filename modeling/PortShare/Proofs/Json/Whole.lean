import Mathlib.Data.List.TakeWhile
import PortShare.Proofs.Json.Extent
import PortShare.Proofs.Json.Records

/-! A list is read whole or not at all: whatever its items are, the bytes of a list that is read
have no beginning that is read as a list too, and behind its last bracket nothing is read but
blanks. -/

namespace PortShare.Json

namespace Reader

variable {α β δ : Type}

/-- What the reader makes of its bytes does not depend on those behind them, the next one apart. -/
structure Local (r : Reader α) : Prop where
  peeks : ∀ {bs rest a}, r.run bs = .ok (a, rest) → Peeks r.run bs rest fun more => .ok (a, more)

theorem local_text : text.Local := by
  refine ⟨@fun bs rest s h => ?_⟩
  change runText bs = _ at h
  obtain ⟨inner, hs, ht⟩ :
      ∃ inner, skipBlank bs = 34 :: inner ∧ readText inner = .ok (s, rest) := by
    unfold runText at h
    grind
  obtain ⟨front, rfl, hfront⟩ := delimited_skipBlank hs
  refine (delimited_readText ht).peeks.behind fun more => ?_
  change runText _ = _
  simp only [runText, hfront, if_true]

theorem local_optionalText : optionalText.Local := by
  refine ⟨@fun bs rest s h => ?_⟩
  change runOptionalText bs = _ at h
  unfold runOptionalText at h
  split at h
  · cases h
  · next b inner hs =>
    obtain ⟨front, rfl, hfront⟩ := delimited_skipBlank hs
    split at h
    · next hb =>
      obtain ⟨after, hw, he⟩ := ok_of_map h
      cases he
      obtain ⟨taken, rfl, ht⟩ := delimited_word hw
      refine ⟨front ++ taken, by simp, fun more _ => ?_⟩
      change runOptionalText _ = _
      simp only [List.append_assoc, runOptionalText, hfront, hb, if_true, ht, Except.map]
    · next hb =>
      obtain ⟨⟨s, after⟩, hs, he⟩ := ok_of_map h
      cases he
      obtain ⟨taken, rfl, ht⟩ := (local_text.peeks hs).tail (length_of_runText hs)
      refine ⟨front ++ taken, by simp, fun more hm => ?_⟩
      have ht : runText (b :: (taken ++ more)) = .ok (s, more) := ht more hm
      change runOptionalText _ = _
      simp only [List.append_assoc, runOptionalText, hfront, hb, if_false, ht, Except.map]

theorem local_unsigned16 : unsigned16.Local := by
  refine ⟨@fun bs rest n h => ?_⟩
  change runUnsigned16 bs = _ at h
  obtain ⟨b, inner, m, hs, hb, hm, hlt, rfl⟩ : ∃ b inner m, skipBlank bs = b :: inner ∧
      (b = 45 ∨ isDigit b = true) ∧ readNumber (b :: inner) = .ok (.natural m, rest) ∧
      m < 65536 ∧ m.toUInt16 = n := by
    unfold runUnsigned16 at h
    grind
  obtain ⟨front, rfl, hfront⟩ := delimited_skipBlank hs
  obtain ⟨taken, rfl, ht⟩ := (peeks_readNumber hm).tail (length_of_readNumber hm)
  refine ⟨front ++ taken, by simp, fun more hmore => ?_⟩
  change runUnsigned16 _ = _
  simp only [List.append_assoc, runUnsigned16, hfront, hb, if_true, ht more hmore, hlt]

theorem local_skip : skip.Local := by
  refine ⟨@fun bs rest u h => ?_⟩
  obtain ⟨after, hv, he⟩ := ok_of_map h
  cases he
  obtain ⟨taken, rfl, ht⟩ := peeks_skipOpen hv
  refine ⟨taken, rfl, fun more hm => ?_⟩
  change (skipOpen true [] _).map _ = _
  rw [ht more hm]
  rfl

theorem local_refuse (cause : Cause) : (refuse cause : Reader α).Local := ⟨nofun⟩

theorem Local.map {r : Reader α} (h : r.Local) (f : α → β) : (r.map f).Local := by
  refine ⟨@fun bs rest b hb => ?_⟩
  obtain ⟨⟨a, after⟩, ha, he⟩ := ok_of_map hb
  cases he
  obtain ⟨taken, rfl, ht⟩ := h.peeks ha
  refine ⟨taken, rfl, fun more hm => ?_⟩
  change (r.run _).map _ = _
  rw [ht more hm]
  rfl

theorem Local.refine {r : Reader α} (h : r.Local) (f : α → Except Cause β) :
    (r.refine f).Local := by
  refine ⟨@fun bs rest b hb => ?_⟩
  change runRefine f r bs = _ at hb
  obtain ⟨a, ha, hf⟩ : ∃ a, r.run bs = .ok (a, rest) ∧ f a = .ok b := by
    unfold runRefine at hb
    grind
  obtain ⟨taken, rfl, ht⟩ := h.peeks ha
  refine ⟨taken, rfl, fun more hm => ?_⟩
  change runRefine f r _ = _
  simp only [runRefine, ht more hm, hf]

theorem Local.afterColon {r : Reader α} (h : r.Local) : r.afterColon.Local := by
  refine ⟨@fun bs rest a ha => ?_⟩
  change runAfterColon r bs = _ at ha
  obtain ⟨inner, hs, hr⟩ : ∃ inner, skipBlank bs = 58 :: inner ∧ r.run inner = .ok (a, rest) := by
    unfold runAfterColon at ha
    grind
  obtain ⟨front, rfl, hfront⟩ := delimited_skipBlank hs
  refine (h.peeks hr).behind fun more => ?_
  change runAfterColon r _ = _
  simp only [runAfterColon, hfront, if_true]

section list

variable {item : Reader α} {first : Bool} {bs rest : Bytes}

theorem exists_bracket (h : nextItem first bs = .ok (false, rest)) :
    ∃ blank, Blank blank ∧ bs = blank ++ 93 :: rest := by
  have hs : skipBlank bs = 93 :: rest := by
    unfold nextItem at h
    grind
  obtain ⟨blank, hw, -, rfl⟩ := exists_blank hs
  exact ⟨blank, hw, rfl⟩

theorem peeks_nextItem (h : nextItem first bs = .ok (true, rest)) :
    Peeks (nextItem first) bs rest fun more => .ok (true, more) := by
  unfold nextItem at h
  split at h
  · cases h
  · next b inner hs =>
    split at h
    · cases h
    · next h93 =>
      split at h
      · next hfirst =>
        cases h
        obtain ⟨blank, hw, hb, rfl⟩ := exists_blank hs
        refine ⟨blank, rfl, fun more hm => ?_⟩
        obtain ⟨tail, rfl⟩ := List.head?_eq_some_iff.mp hm
        simp only [nextItem, skipBlank_append_cons hw hb, h93, hfirst, if_true, if_false]
      · next hfirst =>
        split at h
        · next hb =>
          split at h
          · cases h
          · next c after hc =>
            split at h
            · cases h
            · next hc93 =>
              cases h
              subst hb
              obtain ⟨comma, rfl, hcomma⟩ := delimited_skipBlank hs
              obtain ⟨blank, hw, hblank, rfl⟩ := exists_blank hc
              refine ⟨comma ++ blank, by simp, fun more hm => ?_⟩
              obtain ⟨tail, rfl⟩ := List.head?_eq_some_iff.mp hm
              simp only [List.append_assoc, nextItem, hcomma, h93, hfirst, hc93, if_true, if_false,
                skipBlank_append_cons hw hblank, Bool.false_eq_true]
        · cases h

/-- The items of a list are read up to a bracket, whatever comes behind that. -/
theorem Local.items (h : item.Local) {as : List α} (ha : items item first bs = .ok (as, rest)) :
    ∃ front, bs = front ++ 93 :: rest ∧
      ∀ more, Reader.items item first (front ++ 93 :: more) = .ok (as, more) := by
  fun_induction Reader.items item first bs generalizing as with
  | case1 | case3 | case4 => cases ha
  | case2 first bs after hn =>
    cases ha
    obtain ⟨blank, hw, rfl⟩ := exists_bracket hn
    exact ⟨blank, rfl, fun more => items_of_end (nextItem_end hw more)⟩
  | case5 first bs inner hn a after hi _ _ as' rest' hrest ih =>
    cases ha
    obtain ⟨next, rfl, hnext⟩ := peeks_nextItem hn
    obtain ⟨taken, rfl, ht⟩ := h.peeks hi
    obtain ⟨front, rfl, hfront⟩ := ih hrest
    refine ⟨next ++ (taken ++ front), by simp, fun more => ?_⟩
    have hbracket : (93 :: more : Bytes).head? = (93 :: rest : Bytes).head? := rfl
    have hhead := head?_append_congr hbracket front
    rw [List.append_assoc, List.append_assoc]
    refine (items_of_next (hnext _ (head?_append_congr hhead taken))).mpr ?_
    exact ⟨a, _, as', ht _ hhead, hfront more, rfl⟩

theorem Local.list (h : item.Local) {as : List α} (ha : item.list.run bs = .ok (as, rest)) :
    ∃ front, bs = front ++ 93 :: rest ∧
      ∀ more, item.list.run (front ++ 93 :: more) = .ok (as, more) := by
  change runList item bs = _ at ha
  obtain ⟨inner, hs, hi⟩ : ∃ inner, skipBlank bs = 91 :: inner ∧
      Reader.items item true inner = .ok (as, rest) := by
    unfold runList at ha
    grind
  obtain ⟨front, rfl, hfront⟩ := delimited_skipBlank hs
  obtain ⟨taken, rfl, ht⟩ := h.items hi
  refine ⟨front ++ taken, by simp, fun more => ?_⟩
  change runList item _ = _
  simp only [List.append_assoc, runList, hfront, ht, if_true, place]

end list

section object

variable {first : Bool} {bs rest : Bytes}

theorem delimited_key {b : UInt8} {key : Option String}
    (h : nextKey.key (b :: bs) = .ok (key, rest)) :
    b = 34 ∧ Delimited (fun bs => nextKey.key (34 :: bs)) bs rest fun more => .ok (key, more) := by
  simp only [nextKey.key] at h
  split at h
  · next hb =>
    obtain ⟨⟨s, after⟩, hs, he⟩ := ok_of_map h
    cases he
    obtain ⟨taken, rfl, ht⟩ := delimited_readText hs
    refine ⟨hb, taken, rfl, fun more => ?_⟩
    simp only [nextKey.key, if_true, ht, Except.map]
  · cases h

theorem delimited_nextKey {key : Option String} (h : nextKey first bs = .ok (key, rest)) :
    Delimited (nextKey first) bs rest fun more => .ok (key, more) := by
  unfold nextKey at h
  split at h
  · cases h
  · next b inner hs =>
    obtain ⟨front, rfl, hfront⟩ := delimited_skipBlank hs
    split at h
    · next hb =>
      cases h
      exact ⟨front, rfl, fun more => by simp only [nextKey, hfront, hb, if_true]⟩
    · next hb =>
      split at h
      · next hfirst =>
        obtain ⟨rfl, hkey⟩ := delimited_key h
        exact hkey.behind fun more => by simp only [nextKey, hfront, hb, hfirst, if_true, if_false]
      · next hfirst =>
        split at h
        · next hcomma =>
          subst hcomma
          split at h
          · cases h
          · next c after hc =>
            split at h
            · cases h
            · next hc125 =>
              obtain ⟨rfl, hkey⟩ := delimited_key h
              obtain ⟨next, rfl, hnext⟩ := delimited_skipBlank hc
              rw [← List.append_assoc]
              refine hkey.behind fun more => ?_
              simp only [List.append_assoc, nextKey, hfront, hb, hfirst, hnext, hc125, if_true,
                if_false, Bool.false_eq_true]
        · cases h

theorem peeks_members {member : String → δ → Reader δ} (hm : ∀ key d, (member key d).Local)
    {d d' : δ} (h : members member first d bs = .ok (d', rest)) :
    Peeks (members member first d) bs rest fun more => .ok (d', more) := by
  fun_induction members member first d bs with
  | case1 | case3 => cases h
  | case2 first d bs after hk =>
    cases h
    obtain ⟨taken, rfl, ht⟩ := delimited_nextKey hk
    exact ⟨taken, rfl, fun more _ => members_of_end (ht more)⟩
  | case4 first d bs key inner hk d₁ after hd _ _ ih =>
    obtain ⟨taken, rfl, ht⟩ := delimited_nextKey hk
    obtain ⟨value, rfl, hvalue⟩ := (hm key d).peeks hd
    obtain ⟨front, rfl, hfront⟩ := ih h
    refine ⟨taken ++ (value ++ front), by simp, fun more hmore => ?_⟩
    rw [List.append_assoc, List.append_assoc]
    refine (members_of_key (ht _)).mpr ?_
    exact ⟨d₁, _, hvalue _ (head?_append_congr hmore front), hfront more hmore⟩

end object

end Reader

namespace Shape

variable {δ α : Type} {shape : Shape δ α} {bs rest : Bytes}

/-- Are all fields of the record read by local readers? -/
def Local (shape : Shape δ α) : Prop := ∀ f ∈ shape.fields, f.read.Local

theorem Local.member (h : shape.Local) (key : String) (d : δ) : (shape.member key d).Local := by
  unfold Shape.member
  split
  · exact Reader.local_skip.afterColon.map _
  · next f hf =>
    split
    · exact Reader.local_refuse _
    · exact (h f (List.mem_of_find?_eq_some hf)).afterColon.map _

theorem Local.ofObject (h : shape.Local) {a : α} (ha : shape.ofObject bs = .ok (a, rest)) :
    Peeks shape.ofObject bs rest fun more => .ok (a, more) := by
  obtain ⟨d, hd, hfinish⟩ : ∃ d, Reader.members shape.member true shape.blank bs = .ok (d, rest) ∧
      shape.finish d = .ok a := by
    unfold Shape.ofObject at ha
    grind
  obtain ⟨taken, rfl, ht⟩ := Reader.peeks_members h.member hd
  refine ⟨taken, rfl, fun more hm => ?_⟩
  simp only [Shape.ofObject, ht more hm, Reader.place, hfinish]

theorem delimited_listEnd (h : listEnd bs = .ok rest) : Delimited listEnd bs rest .ok := by
  have hs : skipBlank bs = 93 :: rest := by
    unfold listEnd at h
    grind
  obtain ⟨taken, rfl, ht⟩ := delimited_skipBlank hs
  exact ⟨taken, rfl, fun more => by simp only [listEnd, ht, if_true]⟩

theorem peeks_positional {fields : List (Field δ)} (hf : ∀ f ∈ fields, f.read.Local) {n : Nat}
    {d d' : δ} {opened : Bool} (h : shape.positional n d bs fields = .ok (d', opened, rest)) :
    Peeks (fun bs => shape.positional n d bs fields) bs rest
      fun more => .ok (d', opened, more) := by
  induction fields generalizing n d bs with
  | nil =>
    cases h
    exact .nothing fun more _ => rfl
  | cons f fs ih =>
    cases hn : Reader.nextItem (n == 0) bs with
    | error e =>
      simp only [positional, hn, reduceCtorEq] at h
    | ok next =>
      obtain ⟨_ | _, inner⟩ := next
      · obtain ⟨hall, hx⟩ := (positional_end hn).mp h
        cases hx
        obtain ⟨blank, hw, rfl⟩ := Reader.exists_bracket hn
        refine ⟨blank ++ [93], by simp, fun more _ => ?_⟩
        rw [List.append_assoc]
        exact (positional_end (Reader.nextItem_end hw more)).mpr ⟨hall, rfl⟩
      · obtain ⟨put, after, hput, hrest⟩ := (positional_next hn).mp h
        obtain ⟨next, rfl, hnext⟩ := Reader.peeks_nextItem hn
        obtain ⟨taken, rfl, ht⟩ := (hf f List.mem_cons_self).peeks hput
        obtain ⟨front, rfl, hfront⟩ := ih (fun g hg => hf g (List.mem_cons_of_mem _ hg)) hrest
        refine ⟨next ++ (taken ++ front), by simp, fun more hm => ?_⟩
        have hhead := head?_append_congr hm front
        simp only [List.append_assoc]
        refine (positional_next (hnext _ (head?_append_congr hhead taken))).mpr ?_
        exact ⟨put, _, ht _ hhead, hfront more hm⟩

theorem Local.ofList (h : shape.Local) {a : α} (ha : shape.ofList bs = .ok (a, rest)) :
    Peeks shape.ofList bs rest fun more => .ok (a, more) := by
  unfold Shape.ofList at ha
  split at ha
  · cases ha
  · next d opened after hd =>
    obtain ⟨taken, rfl, ht⟩ := peeks_positional h (Reader.place_eq_ok hd)
    split at ha
    · cases ha
    · next a' hfinish =>
      split at ha
      · next hopened =>
        obtain ⟨rest', hend, he⟩ := ok_of_map ha
        cases he
        obtain ⟨bracket, rfl, hbracket⟩ := delimited_listEnd hend
        refine ⟨taken ++ bracket, by simp, fun more hm => ?_⟩
        have ht := ht _ (head?_append_congr hm bracket)
        simp only at ht
        simp only [Shape.ofList, List.append_assoc, ht, Reader.place, hfinish, hopened, if_true,
          hbracket, Except.map]
      · next hopened =>
        cases ha
        refine ⟨taken, rfl, fun more hm => ?_⟩
        have ht := ht more hm
        simp only at ht
        simp only [Shape.ofList, ht, Reader.place, hfinish, hopened, Bool.false_eq_true, if_false]

theorem Local.reader (h : shape.Local) : shape.reader.Local := by
  refine ⟨@fun bs rest a ha => ?_⟩
  change shape.run bs = _ at ha
  unfold Shape.run at ha
  split at ha
  · cases ha
  · next b inner hs =>
    obtain ⟨front, rfl, hfront⟩ := delimited_skipBlank hs
    split at ha
    · next hb =>
      refine (h.ofList ha).behind fun more => ?_
      change shape.run _ = _
      simp only [Shape.run, hfront, hb, if_true]
    · next hb =>
      split at ha
      · next hb' =>
        subst hb'
        refine (h.ofObject ha).behind fun more => ?_
        change shape.run _ = _
        simp only [Shape.run, hfront, hb, if_true, if_false]
      · cases ha

end Shape

theorem skipBlank_eq_nil_iff {bs : Bytes} : skipBlank bs = [] ↔ Blank bs := by
  refine ⟨fun h b hb => ?_, skipBlank_eq_nil⟩
  exact isBlank_iff.mp (List.dropWhile_eq_nil_iff.mp h b hb)

theorem blank_append_iff {bs more : Bytes} : Blank (bs ++ more) ↔ Blank bs ∧ Blank more :=
  List.forall_mem_append

namespace Reader

variable {α : Type}

theorem readAll_eq_ok_iff {r : Reader α} {bs : Bytes} {a : α} :
    r.readAll bs = .ok a ↔ ∃ rest, r.run bs = .ok (a, rest) ∧ Blank rest := by
  unfold readAll
  cases hr : r.run bs with
  | error e => simp
  | ok x =>
    obtain ⟨a', rest⟩ := x
    simp only [Except.ok.injEq, Prod.mk.injEq]
    cases hs : skipBlank rest with
    | nil => simp [← skipBlank_eq_nil_iff, hs]
    | cons b tail => simp [← skipBlank_eq_nil_iff, hs]

/-- Bytes that are read as a list end with a bracket and blanks. Cut off in front of the bracket
they are refused, and with more bytes behind them they are too, unless these are blanks. -/
structure Entire (read : Bytes → Except Problem (List α)) (bs : Bytes) (as : List α) : Prop where
  cut : ∃ front blank, bs = front ++ 93 :: blank ∧ Blank blank ∧
    ∀ start, start <+: front → ∃ problem, read start = .error problem
  longer : ∀ more bs', read (bs ++ more) = .ok bs' ↔ Blank more ∧ bs' = as

theorem Local.entire {item : Reader α} (h : item.Local) {bs : Bytes} {as : List α}
    (ha : item.list.readAll bs = .ok as) : Entire item.list.readAll bs as := by
  obtain ⟨rest, hrun, hrest⟩ := readAll_eq_ok_iff.mp ha
  obtain ⟨front, rfl, hfront⟩ := h.list hrun
  refine ⟨⟨front, rest, rfl, hrest, ?_⟩, fun more as' => ?_⟩
  · rintro start ⟨cut, rfl⟩
    cases hstart : item.list.readAll start with
    | error problem => exact ⟨problem, rfl⟩
    | ok as' =>
      -- what was cut off would be left when all the bytes are read, the bracket with it
      obtain ⟨rest', hrun', -⟩ := readAll_eq_ok_iff.mp hstart
      obtain ⟨front', rfl, hfront'⟩ := h.list hrun'
      have hall := hfront' (rest' ++ (cut ++ 93 :: rest))
      rw [← List.cons_append, ← List.append_assoc, ← List.append_assoc, hrun] at hall
      have hrest := congrArg List.length (Prod.mk.inj (Except.ok.inj hall)).2
      simp only [List.length_append, List.length_cons] at hrest
      omega
  · rw [List.append_assoc, List.cons_append, readAll_eq_ok_iff]
    constructor
    · rintro ⟨rest', hrun', hrest'⟩
      rw [hfront] at hrun'
      cases hrun'
      exact ⟨(blank_append_iff.mp hrest').2, rfl⟩
    · rintro ⟨hmore, rfl⟩
      exact ⟨rest ++ more, hfront _, blank_append_iff.mpr ⟨hrest, hmore⟩⟩

/-- Where one text is the beginning of another, both are read as the same list, if they are read. -/
theorem Local.readAll_unique {item : Reader α} (h : item.Local) {bs body : Bytes} {as as' : List α}
    (ha : item.list.readAll bs = .ok as) (hb : body <+: bs ∨ bs <+: body)
    (ha' : item.list.readAll body = .ok as') : as' = as := by
  rcases hb with ⟨more, rfl⟩ | ⟨more, rfl⟩
  · exact (((h.entire ha').longer more as).mp ha).2.symm
  · exact (((h.entire ha).longer more as').mp ha').2

end Reader

end PortShare.Json
