import PortShare.Proofs.Decoding

/-! What the service writes is what is read: lists of environments and of devurls come back as they
were, in whichever way they are written. -/

namespace PortShare

open Json (Document Term valuesOf)

def Environment.term (e : Environment) : Term :=
  .object [("id", .text e.id), ("name", .text e.name)]

/-- The member for the name of a devurl; one without a name may say so, or leave it out. -/
inductive WritesName : Option String → List (String × Term) → Prop where
  | named {s : String} : WritesName (some s) [("name", .text s)]
  | empty : WritesName none [("name", .text "")]
  | null : WritesName none [("name", .null)]
  | absent : WritesName none []

inductive DevUrl.Writes (u : DevUrl) : Term → Prop where
  | intro {name : List (String × Term)} : WritesName u.name name →
      DevUrl.Writes u (.object (("id", .text u.id) :: ("url", .text u.url) ::
        ("port", .number false ⟨Json.Literal.ofNat u.port.toNat, none, none⟩) ::
        (name ++ [("access", .text u.access.name)])))

theorem Environment.isEnvironment_term (e : Environment) : IsEnvironment e.term e :=
  .object ⟨_, rfl, rfl⟩ ⟨_, rfl, rfl⟩

theorem isAccess_name (level : AccessLevel) : IsAccess (.text level.name) level := by
  refine ⟨_, rfl, ?_⟩
  cases level <;> decide

theorem isUnsigned16_ofNat (n : UInt16) :
    Json.IsUnsigned16 (.number false ⟨Json.Literal.ofNat n.toNat, none, none⟩) n :=
  ⟨_, rfl, Json.Literal.value_ofNat _⟩

theorem DevUrl.Writes.isDevUrl {u : DevUrl} {t : Term} (h : u.Writes t) (hn : u.name ≠ some "") :
    IsDevUrl t u := by
  obtain ⟨id, url, port, name, access⟩ := u
  obtain ⟨hname⟩ := h
  have of_name {ms : List (String × Term)} (hid : valuesOf "id" ms = [.text id])
      (hurl : valuesOf "url" ms = [.text url])
      (hport : valuesOf "port" ms = [.number false ⟨Json.Literal.ofNat port.toNat, none, none⟩])
      (haccess : valuesOf "access" ms = [.text access.name])
      (hname : Once IsName "name" ms name ∨ valuesOf "name" ms = [] ∧ name = none) :
      IsDevUrl (.object ms) ⟨id, url, port, name, access⟩ :=
    .object ⟨_, hid, rfl⟩ ⟨_, hurl, rfl⟩ ⟨_, hport, isUnsigned16_ofNat port⟩ hname
      ⟨_, haccess, isAccess_name access⟩
  cases hname with
  | named =>
    refine of_name rfl rfl rfl rfl (.inl ⟨_, rfl, .text ?_⟩)
    rintro rfl
    exact hn rfl
  | empty => exact of_name rfl rfl rfl rfl (.inl ⟨_, rfl, .empty⟩)
  | null => exact of_name rfl rfl rfl rfl (.inl ⟨_, rfl, .null⟩)
  | absent => exact of_name rfl rfl rfl rfl (.inr ⟨rfl, rfl⟩)

/-- Bytes that are a JSON list of the environments. -/
def WritesEnvironments (es : List Environment) (bs : Bytes) : Prop :=
  Document (.list (es.map Environment.term)) bs

/-- Bytes that are a JSON list of the devurls. -/
def WritesDevUrls (urls : List DevUrl) (bs : Bytes) : Prop :=
  ∃ ts, List.Forall₂ DevUrl.Writes urls ts ∧ Document (.list ts) bs

theorem readEnvironments_of_writes {es : List Environment} {bs : Bytes}
    (h : WritesEnvironments es bs) : readEnvironments bs = .ok es := by
  refine (Environment.exact.list.readAll_eq_ok_iff h).mpr ⟨_, rfl, ?_⟩
  rw [List.forall₂_map_left_iff, List.forall₂_same]
  exact fun e _ => e.isEnvironment_term

theorem readDevUrls_of_writes {urls : List DevUrl} {bs : Bytes} (h : WritesDevUrls urls bs)
    (hn : ∀ u ∈ urls, u.name ≠ some "") : readDevUrls bs = .ok urls := by
  obtain ⟨ts, hts, hd⟩ := h
  refine (DevUrl.exact.list.readAll_eq_ok_iff hd).mpr ⟨_, rfl, ?_⟩
  clear hd
  induction hts with
  | nil => exact .nil
  | cons hu _ ih =>
    exact .cons (hu.isDevUrl (hn _ (by simp))) (ih fun u hu => hn u (by simp [hu]))

/-- An environment as the service writes it. -/
def Environment.toJson (e : Environment) : Json.Value :=
  .object [("id", .text e.id), ("name", .text e.name)]

theorem Environment.says (e : Environment) : e.toJson.Says e.term :=
  .object (.cons (.text _) (.cons (.text _) .nil))

theorem DevUrl.says (u : DevUrl) : ∃ t, u.Writes t ∧ u.toJson.Says t := by
  obtain ⟨id, url, port, name, access⟩ := u
  cases name with
  | none =>
    exact ⟨_, .intro .empty, .object (.cons (.text _) (.cons (.text _) (.cons (.natural _)
      (.cons (.text _) (.cons (.text _) .nil)))))⟩
  | some s =>
    exact ⟨_, .intro .named, .object (.cons (.text _) (.cons (.text _) (.cons (.natural _)
      (.cons (.text _) (.cons (.text _) .nil)))))⟩

theorem writesEnvironments_render (es : List Environment) :
    WritesEnvironments es (Utf8.bytes (Json.Value.list (es.map Environment.toJson)).render) := by
  refine Json.Value.Says.document (.list ?_)
  induction es with
  | nil => exact .nil
  | cons e es ih => exact .cons e.says ih

theorem DevUrl.exists_says (urls : List DevUrl) :
    ∃ ts, List.Forall₂ DevUrl.Writes urls ts ∧ Json.SaysItems (urls.map DevUrl.toJson) ts := by
  induction urls with
  | nil => exact ⟨[], .nil, .nil⟩
  | cons u urls ih =>
    obtain ⟨t, hw, hs⟩ := u.says
    obtain ⟨ts, hws, hss⟩ := ih
    exact ⟨t :: ts, .cons hw hws, .cons hs hss⟩

theorem writesDevUrls_render (urls : List DevUrl) :
    WritesDevUrls urls (Utf8.bytes (Json.Value.list (urls.map DevUrl.toJson)).render) := by
  obtain ⟨ts, hw, hs⟩ := DevUrl.exists_says urls
  exact ⟨ts, hw, Json.Value.Says.document (.list hs)⟩

end PortShare
