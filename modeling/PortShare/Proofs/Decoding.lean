import PortShare.Proofs.Json.Records
import PortShare.Proofs.Json.Writing
import PortShare.Proofs.Validation
import PortShare.Wire

/-! Which JSON is a list of devurls, and which a list of environments: the values that are read are
told by what they hold, not by how they are written, and all others are refused. -/

namespace PortShare

open Json (Document Fills fills_some_iff IsText IsUnsigned16 Leads Reader Shape Slot Takes Term
  valuesOf)

/-- The one member of that key is `a`. -/
def Once {α : Type} (Is : Term → α → Prop) (key : String) (ms : List (String × Term)) (a : α) :
    Prop := ∃ t, valuesOf key ms = [t] ∧ Is t a

theorem once_iff {α : Type} {Is : Term → α → Prop} {key : String} {ms : List (String × Term)}
    {a : α} : Once Is key ms a ↔ Fills Is none (valuesOf key ms) (some a) :=
  fills_some_iff.symm

/-- The name of a devurl; an empty name is none, as `null` is. -/
inductive IsName : Term → Option String → Prop where
  | null : IsName .null none
  | empty : IsName (.text "") none
  | text {s : String} : s ≠ "" → IsName (.text s) (some s)

/-- A level by its name, in letters of either case. -/
def IsAccess (t : Term) (level : AccessLevel) : Prop := ∃ s, t = .text s ∧ upper s = level.name

/-- A devurl is an object that has every field once, but need not have a name, among any others that
it has; or it is a list of the fields. -/
inductive IsDevUrl : Term → DevUrl → Prop where
  | object {ms : List (String × Term)} {u : DevUrl} : Once IsText "id" ms u.id →
      Once IsText "url" ms u.url → Once IsUnsigned16 "port" ms u.port →
      Once IsName "name" ms u.name ∨ valuesOf "name" ms = [] ∧ u.name = none →
      Once IsAccess "access" ms u.access → IsDevUrl (.object ms) u
  | list {u : DevUrl} {port name access : Term} : IsUnsigned16 port u.port →
      IsName name u.name → IsAccess access u.access →
      IsDevUrl (.list [.text u.id, .text u.url, port, name, access]) u

/-- An environment is an object that has both fields once, or a list of them. -/
inductive IsEnvironment : Term → Environment → Prop where
  | object {ms : List (String × Term)} {e : Environment} : Once IsText "id" ms e.id →
      Once IsText "name" ms e.name → IsEnvironment (.object ms) e
  | list {e : Environment} : IsEnvironment (.list [.text e.id, .text e.name]) e

theorem isName_iff {t : Term} {name : Option String} :
    IsName t name ↔ ∃ o, Json.IsOptionalText t o ∧ o.bind nonEmpty? = name := by
  constructor
  · rintro (_ | _ | h)
    · exact ⟨none, .inl ⟨rfl, rfl⟩, rfl⟩
    · exact ⟨some "", .inr ⟨"", rfl, rfl⟩, rfl⟩
    · next s => 
      refine ⟨some s, .inr ⟨s, rfl, rfl⟩, ?_⟩
      simp [nonEmpty?, h]
  · rintro ⟨o, ⟨rfl, rfl⟩ | ⟨s, rfl, rfl⟩, rfl⟩
    · exact .null
    · by_cases h : s = ""
      · subst h
        exact .empty
      · have : nonEmpty? s = some s := by simp [nonEmpty?, h]
        rw [Option.bind_some, this]
        exact .text h

theorem AccessLevel.exact : reader.Exact IsAccess := by
  refine (Json.Reader.exact_text.refine _).congr fun t level => ?_
  refine exists_congr fun s => and_congr_right fun _ => ?_
  rw [← ofName?_eq_some_iff]
  cases ofName? s <;> simp

theorem exact_name : (Reader.optionalText.map fun (s : Option String) (d : DevUrl.Draft) =>
    { d with name := some (s.bind nonEmpty?) }).Exact fun t put =>
      ∃ name, IsName t name ∧ (fun d : DevUrl.Draft => { d with name := some name }) = put := by
  refine (Reader.exact_optionalText.map _).congr fun t put => ?_
  simp only [isName_iff, exists_exists_and_eq_and]

namespace DevUrl

def slots : List (Slot Draft) := [
  .required "id" Draft.id (fun s d => { d with id := some s }) (fun _ _ => rfl) Reader.exact_text,
  .required "url" Draft.url (fun s d => { d with url := some s }) (fun _ _ => rfl)
    Reader.exact_text,
  .required "port" Draft.port (fun p d => { d with port := some p }) (fun _ _ => rfl)
    Reader.exact_unsigned16,
  ⟨Option String, ⟨"name", true, fun d => d.name.isSome, _⟩, Draft.name,
    fun s d => { d with name := some s }, IsName, fun _ _ => rfl, fun _ => rfl, exact_name⟩,
  .required "access" Draft.access (fun a d => { d with access := some a }) (fun _ _ => rfl)
    AccessLevel.exact]

theorem independent : Json.Independent slots where
  keys := by decide
  apart := by simp [slots, Slot.required]
  ext := by
    rintro ⟨_, _, _, _, _⟩ ⟨_, _, _, _, _⟩ h
    simpa [slots, Slot.required] using h

theorem finish_eq_ok_iff {d : Draft} {u : DevUrl} : shape.finish d = .ok u ↔
    d.id = some u.id ∧ d.url = some u.url ∧ d.port = some u.port ∧
      d.name.getD none = u.name ∧ d.access = some u.access := by
  obtain ⟨id, url, port, name, access⟩ := d
  obtain ⟨id', url', port', name', access'⟩ := u
  cases id <;> cases url <;> cases port <;> cases access <;> simp [shape, Draft.finish]

theorem isDevUrl_of_means {t : Term} {u : DevUrl} (h : shape.Means slots t u) : IsDevUrl t u := by
  cases h with
  | @object ms d _ hl hf =>
    obtain ⟨hid, hurl, hport, hname, haccess⟩ := finish_eq_ok_iff.mp hf
    have hfills := independent.leads_iff.mp hl
    simp only [slots, Slot.required, List.forall_mem_cons, hid, hurl, hport, haccess] at hfills
    obtain ⟨fid, furl, fport, fname, faccess, -⟩ := hfills
    refine .object (once_iff.mpr fid) (once_iff.mpr furl) (once_iff.mpr fport) ?_
      (once_iff.mpr faccess)
    cases hn : d.name with
    | none =>
      rw [hn] at fname hname
      exact .inr ⟨Json.eq_nil_of_fills_none fname, hname.symm⟩
    | some name =>
      rw [hn] at fname hname
      obtain rfl : name = u.name := hname
      exact .inl (once_iff.mpr fname)
  | list hp hf =>
    obtain ⟨_, _, id, rfl, rfl, h₁⟩ := hp.exists_cons (by simp [Slot.required])
    obtain ⟨_, _, url, rfl, rfl, h₂⟩ := h₁.exists_cons (by simp [Slot.required])
    obtain ⟨_, _, port, rfl, hport, h₃⟩ := h₂.exists_cons (by simp [Slot.required])
    obtain ⟨_, _, name, rfl, hname, h₄⟩ := h₃.exists_cons (by simp [Slot.required])
    obtain ⟨_, _, access, rfl, haccess, h₅⟩ := h₄.exists_cons (by simp [Slot.required])
    cases h₅
    cases hf
    exact .list (u := ⟨id, url, port, name, access⟩) hport hname haccess

theorem means_of_isDevUrl {t : Term} {u : DevUrl} (h : IsDevUrl t u) : shape.Means slots t u := by
  cases h with
  | @object ms _ hid hurl hport hname haccess =>
    have hl (name : Option (Option String)) (h : Fills IsName none (valuesOf "name" ms) name) :
        Leads (Takes slots) shape.blank ms
          ⟨some u.id, some u.url, some u.port, name, some u.access⟩ := by
      rw [independent.leads_iff]
      simp only [slots, Slot.required, List.forall_mem_cons]
      exact ⟨once_iff.mp hid, once_iff.mp hurl, once_iff.mp hport, h, once_iff.mp haccess, nofun⟩
    rcases hname with hname | ⟨hvalues, hname⟩
    · exact .object (hl _ (once_iff.mp hname)) rfl
    · refine .object (hl none ?_) ?_
      · rw [hvalues]
        exact .kept
      · rw [finish_eq_ok_iff, hname]
        exact ⟨rfl, rfl, rfl, rfl, rfl⟩
  | list hport hname haccess =>
    refine .list (d := ⟨some u.id, some u.url, some u.port, some u.name, some u.access⟩) ?_ rfl
    exact .next rfl (.next rfl (.next hport (.next hname (.next haccess (.short nofun)))))

theorem exact : reader.Exact IsDevUrl :=
  (Shape.exact (show _ = slots.map Slot.field from rfl)).congr fun _ _ =>
    ⟨isDevUrl_of_means, means_of_isDevUrl⟩

end DevUrl

namespace Environment

def slots : List (Slot Draft) := [
  .required "id" Draft.id (fun s d => { d with id := some s }) (fun _ _ => rfl) Reader.exact_text,
  .required "name" Draft.name (fun s d => { d with name := some s }) (fun _ _ => rfl)
    Reader.exact_text]

theorem independent : Json.Independent slots where
  keys := by decide
  apart := by simp [slots, Slot.required]
  ext := by
    rintro ⟨_, _⟩ ⟨_, _⟩ h
    simpa [slots, Slot.required] using h

theorem finish_eq_ok_iff {d : Draft} {e : Environment} : shape.finish d = .ok e ↔
    d.id = some e.id ∧ d.name = some e.name := by
  obtain ⟨id, name⟩ := d
  obtain ⟨id', name'⟩ := e
  cases id <;> cases name <;> simp [shape, Draft.finish]

theorem isEnvironment_of_means {t : Term} {e : Environment} (h : shape.Means slots t e) :
    IsEnvironment t e := by
  cases h with
  | object hl hf =>
    obtain ⟨hid, hname⟩ := finish_eq_ok_iff.mp hf
    have hfills := independent.leads_iff.mp hl
    simp only [slots, Slot.required, List.forall_mem_cons, hid, hname] at hfills
    obtain ⟨fid, fname, -⟩ := hfills
    exact .object (once_iff.mpr fid) (once_iff.mpr fname)
  | list hp hf =>
    obtain ⟨_, _, id, rfl, rfl, h₁⟩ := hp.exists_cons (by simp [Slot.required])
    obtain ⟨_, _, name, rfl, rfl, h₂⟩ := h₁.exists_cons (by simp [Slot.required])
    cases h₂
    cases hf
    exact .list (e := ⟨id, name⟩)

theorem means_of_isEnvironment {t : Term} {e : Environment} (h : IsEnvironment t e) :
    shape.Means slots t e := by
  cases h with
  | object hid hname =>
    refine .object (d := ⟨some e.id, some e.name⟩) ?_ rfl
    rw [independent.leads_iff]
    simp only [slots, Slot.required, List.forall_mem_cons]
    exact ⟨once_iff.mp hid, once_iff.mp hname, nofun⟩
  | list =>
    refine .list (d := ⟨some e.id, some e.name⟩) ?_ rfl
    exact .next rfl (.next rfl (.short nofun))

theorem exact : reader.Exact IsEnvironment :=
  (Shape.exact (show _ = slots.map Slot.field from rfl)).congr fun _ _ =>
    ⟨isEnvironment_of_means, means_of_isEnvironment⟩

end Environment

section alike

/-- The same value, or objects that have the same members of these keys, in whatever order they
stand and whatever stands between them. -/
inductive AlikeIn (keys : List String) : Term → Term → Prop where
  | refl {t : Term} : AlikeIn keys t t
  | object {ms ms' : List (String × Term)} :
      (ms.filter fun m => m.1 ∈ keys).Perm (ms'.filter fun m => m.1 ∈ keys) →
      AlikeIn keys (.object ms) (.object ms')

def DevUrl.keys : List String := ["id", "url", "port", "name", "access"]

def Environment.keys : List String := ["id", "name"]

variable {keys : List String}

theorem AlikeIn.symm {t t' : Term} (h : AlikeIn keys t t') : AlikeIn keys t' t := by
  cases h with
  | refl => exact .refl
  | object h => exact .object h.symm

theorem Once.perm {α : Type} {Is : Term → α → Prop} {key : String} (hk : key ∈ keys)
    {ms ms' : List (String × Term)} {a : α}
    (h : (ms.filter fun m => m.1 ∈ keys).Perm (ms'.filter fun m => m.1 ∈ keys))
    (ho : Once Is key ms a) : Once Is key ms' a := by
  obtain ⟨t, ht, ha⟩ := ho
  have hp := Json.valuesOf_perm hk h
  rw [ht, List.singleton_perm] at hp
  exact ⟨t, hp.symm, ha⟩

theorem IsDevUrl.alike {t t' : Term} {u : DevUrl} (ha : AlikeIn DevUrl.keys t t')
    (h : IsDevUrl t u) : IsDevUrl t' u := by
  cases ha with
  | refl => exact h
  | object hp =>
    cases h with
    | object hid hurl hport hname haccess =>
      refine .object (hid.perm (by decide) hp) (hurl.perm (by decide) hp)
        (hport.perm (by decide) hp) ?_ (haccess.perm (by decide) hp)
      rcases hname with hname | ⟨hvalues, hname⟩
      · exact .inl (hname.perm (by decide) hp)
      · have := Json.valuesOf_perm (show "name" ∈ DevUrl.keys by decide) hp
        rw [hvalues, List.nil_perm] at this
        exact .inr ⟨this, hname⟩

theorem IsEnvironment.alike {t t' : Term} {e : Environment} (ha : AlikeIn Environment.keys t t')
    (h : IsEnvironment t e) : IsEnvironment t' e := by
  cases ha with
  | refl => exact h
  | object hp =>
    cases h with
    | object hid hname => exact .object (hid.perm (by decide) hp) (hname.perm (by decide) hp)

theorem forall₂_alike {α : Type} {Is : Term → α → Prop}
    (step : ∀ t t' a, AlikeIn keys t t' → Is t a → Is t' a) {ts ts' : List Term} {as : List α}
    (ha : List.Forall₂ (AlikeIn keys) ts ts') (h : List.Forall₂ Is ts as) :
    List.Forall₂ Is ts' as := by
  induction ha generalizing as with
  | nil => exact h
  | cons hat _ ih =>
    cases h with
    | cons ht hts => exact .cons (step _ _ _ hat ht) (ih hts)

/-- Lists of values that are alike are read alike. -/
theorem readAll_alike {α : Type} {r : Reader α} {Is : Term → α → Prop} (hr : r.Exact Is)
    (step : ∀ t t' a, AlikeIn keys t t' → Is t a → Is t' a) {ts ts' : List Term}
    {bs bs' : Bytes} (h : Document (.list ts) bs) (h' : Document (.list ts') bs')
    (ha : List.Forall₂ (AlikeIn keys) ts ts') {as : List α} :
    r.list.readAll bs = .ok as ↔ r.list.readAll bs' = .ok as := by
  rw [hr.list.readAll_eq_ok_iff h, hr.list.readAll_eq_ok_iff h']
  simp only [Term.list.injEq, exists_eq_left']
  have back : List.Forall₂ (AlikeIn keys) ts' ts := ha.flip.imp fun _ _ h => h.symm
  exact ⟨forall₂_alike step ha, forall₂_alike step back⟩

end alike

/-- However a value is written, it is read as a list of devurls or of environments if it is one, and
refused if not; the order of the members, and members that are no fields, count for nothing. -/
theorem Json.Document.read_eq_ok_iff {t : Term} {bs : Bytes} (h : Document t bs) :
    (∀ urls, readDevUrls bs = .ok urls ↔ ∃ ts, t = .list ts ∧ List.Forall₂ IsDevUrl ts urls) ∧
    (∀ es, readEnvironments bs = .ok es ↔
      ∃ ts, t = .list ts ∧ List.Forall₂ IsEnvironment ts es) ∧
    ∀ ts ts' bs', t = .list ts → Document (.list ts') bs' →
      (List.Forall₂ (AlikeIn DevUrl.keys) ts ts' →
        ∀ urls, readDevUrls bs = .ok urls ↔ readDevUrls bs' = .ok urls) ∧
      (List.Forall₂ (AlikeIn Environment.keys) ts ts' →
        ∀ es, readEnvironments bs = .ok es ↔ readEnvironments bs' = .ok es) := by
  refine ⟨fun _ => DevUrl.exact.list.readAll_eq_ok_iff h,
    fun _ => Environment.exact.list.readAll_eq_ok_iff h, ?_⟩
  rintro ts ts' bs' rfl h'
  exact ⟨fun ha _ => readAll_alike DevUrl.exact (fun _ _ _ => .alike) h h' ha,
    fun ha _ => readAll_alike Environment.exact (fun _ _ _ => .alike) h h' ha⟩

/-- A list with an object whose members stand in another order, one of them no field and a name
missing, and with a list of fields. -/
theorem readDevUrls_of_both_forms :
    readDevUrls (Utf8.bytes (Json.Value.list [
      .object [("notes", .list [.scalar .null]), ("access", .text "org"), ("port", .natural 80),
        ("url", .text "u"), ("id", .text "a")],
      .list [.text "b", .text "v", .natural 443, .text "", .text "PUBLIC"]]).render) =
    .ok [⟨"a", "u", 80, none, .organization⟩, ⟨"b", "v", 443, none, .anyone⟩] := by
  have hmembers : Json.SaysMembers [("notes", .list [.scalar .null]), ("access", .text "org"),
      ("port", .natural 80), ("url", .text "u"), ("id", .text "a")] _ :=
    .cons (.list (.cons .null .nil)) (.cons (.text "org") (.cons (.natural 80)
      (.cons (.text "u") (.cons (.text "a") .nil))))
  have hlist := Json.Value.Says.list (.cons (.text "b") (.cons (.text "v")
    (.cons (.natural 443) (.cons (.text "") (.cons (.text "PUBLIC") .nil)))))
  have h := Json.Value.Says.document (.list (.cons (.object hmembers) (.cons hlist .nil)))
  refine ((Json.Document.read_eq_ok_iff h).1 _).mpr ⟨_, rfl, .cons ?_ (.cons ?_ .nil)⟩
  · refine .object ⟨_, rfl, rfl⟩ ⟨_, rfl, rfl⟩ ⟨_, rfl, _, rfl, ?_⟩ (.inr ⟨rfl, rfl⟩)
      ⟨_, rfl, _, rfl, ?_⟩
    · exact Json.Literal.value_ofNat 80
    · decide
  · refine .list (u := ⟨"b", "v", 443, none, .anyone⟩) ⟨_, rfl, ?_⟩ .empty ⟨_, rfl, ?_⟩
    · exact Json.Literal.value_ofNat 443
    · decide

end PortShare
