import PortShare.Proofs.Untroubled

/-! Commands for different ports commute, as long as not both create a devurl. Each finds the same
first devurl on its port behind the other, and they change devurls of different ids. -/

namespace PortShare

section changeFirst

variable {α : Type} {p q : α → Bool} {f g : α → α}

theorem changeFirst_comm (h : ∀ a, p a = true → q a = true → f (g a) = g (f a))
    (hf : ∀ a, q (f a) = q a) (hg : ∀ a, p (g a) = p a) (as : List α) :
    changeFirst p f (changeFirst q g as) = changeFirst q g (changeFirst p f as) := by
  induction as with
  | nil => rfl
  | cons a as ih =>
    by_cases hp : p a = true
    · by_cases hq : q a = true
      · simp [changeFirst, hp, hq, hf, hg, h a hp hq]
      · simp [changeFirst, hp, hq, hf]
    · by_cases hq : q a = true <;> simp [changeFirst, hp, hq, hg, ih]

theorem eraseP_changeFirst (h : ∀ a, p a = true → q a = false) (hf : ∀ a, q (f a) = q a)
    (as : List α) : (changeFirst p f as).eraseP q = changeFirst p f (as.eraseP q) := by
  induction as with
  | nil => rfl
  | cons a as ih =>
    by_cases hp : p a = true
    · simp [changeFirst, hp, h a hp, hf]
    · by_cases hq : q a = true <;> simp [changeFirst, hp, hq, ih]

theorem changeFirst_concat {b : α} (h : p b = false) (as : List α) :
    changeFirst p f (as ++ [b]) = changeFirst p f as ++ [b] := by
  induction as with
  | nil => simp [changeFirst, h]
  | cons a as ih => by_cases ha : p a = true <;> simp [changeFirst, ha, ih]

theorem eraseP_concat {b : α} (h : p b = false) (as : List α) :
    (as ++ [b]).eraseP p = as.eraseP p ++ [b] := by
  induction as with
  | nil => simp [h]
  | cons a as ih => by_cases ha : p a = true <;> simp [ha, ih]

end changeFirst

namespace Call

/-- What a change does to the devurls of its environment, where a devurl that is created gets that
number. -/
def edit (number : Nat) : Call → List DevUrl → List DevUrl
  | .create _ m, urls => urls ++ [m.apply ⟨newId number, "", 0, none, .owner⟩]
  | .update _ url m, urls => changeFirst (fun u => u.id == url) m.apply urls
  | .delete _ url, urls => urls.eraseP fun u => u.id == url
  | _, urls => urls

/-- The id of the devurl that a change is made to. -/
def urlId? (number : Nat) : Call → Option String
  | .create .. => some (newId number)
  | .update _ url _ => some url
  | .delete _ url => some url
  | _ => none

theorem edit_of_creates {call : Call} (h : call.creates = false) (m n : Nat) :
    call.edit m = call.edit n := by
  cases call with
  | create id m => cases h
  | resolve _ | list _ | update _ _ _ | delete _ _ => rfl

/-- Changes to different devurls commute, the first of which creates none. -/
theorem edit_comm {call call' : Call} {number : Nat} {url url' : String}
    (h : call.urlId? number = some url) (h' : call'.urlId? number = some url') (hne : url ≠ url')
    (hc : call.creates = false) (urls : List DevUrl) :
    call.edit number (call'.edit number urls) = call'.edit number (call.edit number urls) := by
  have apart {a b : String} (hab : a ≠ b) (u : DevUrl) (hu : (u.id == a) = true) :
      (u.id == b) = false := by
    rw [beq_iff_eq.mp hu]
    exact beq_eq_false_iff_ne.mpr hab
  have same (m : Mutation) (u : DevUrl) (url : String) :
      ((m.apply u).id == url) = (u.id == url) := rfl
  have new (m : Mutation) (hn : newId number = url') :
      ((m.apply ⟨newId number, "", 0, none, .owner⟩).id == url) = false := by
    rw [same, hn]
    exact beq_eq_false_iff_ne.mpr hne.symm
  cases call with
  | resolve _ | list _ => cases h
  | create _ _ => cases hc
  | update id _ m =>
    obtain rfl := Option.some.inj h
    cases call' with
    | resolve _ | list _ => cases h'
    | create _ m' =>
      have hnew := new m' (Option.some.inj h')
      exact changeFirst_concat (p := fun u => u.id == _) hnew urls
    | update _ _ m' =>
      obtain rfl := Option.some.inj h'
      refine changeFirst_comm (fun u hu hu' => ?_) (same m · _) (same m' · _) urls
      rw [apart hne u hu] at hu'
      cases hu'
    | delete _ _ =>
      obtain rfl := Option.some.inj h'
      exact (eraseP_changeFirst (apart hne) (same m · _) urls).symm
  | delete id _ =>
    obtain rfl := Option.some.inj h
    cases call' with
    | resolve _ | list _ => cases h'
    | create _ m' =>
      have hnew := new m' (Option.some.inj h')
      exact eraseP_concat (p := fun u => u.id == _) hnew urls
    | update _ _ m' =>
      obtain rfl := Option.some.inj h'
      exact eraseP_changeFirst (apart hne.symm) (same m' · _) urls
    | delete _ _ =>
      obtain rfl := Option.some.inj h'
      refine List.eraseP_comm fun u _ => not_and_or.mp fun ⟨hu, hu'⟩ => ?_
      rw [apart hne.symm u hu] at hu'
      cases hu'

end Call

/-- Changes to the devurls of environments commute if they do so in each environment. -/
theorem Store.change_comm (store : Store) {id id' : String} {f g : List DevUrl → List DevUrl}
    (h : id = id' → ∀ urls, f (g urls) = g (f urls)) :
    (store.change id' g).change id f = (store.change id f).change id' g := by
  refine congrArg (fun holdings => (⟨holdings, store.created⟩ : Store))
    (changeFirst_comm ?_ ?_ ?_ store.holdings)
  · intro g' hg' hg''
    have hid : id = id' := (beq_iff_eq.mp hg').symm.trans (beq_iff_eq.mp hg'')
    rw [h hid]
  · exact fun _ => rfl
  · exact fun _ => rfl

theorem Store.answer_eq_change (store : Store) {call : Call} (hm : call.isMutation = true)
    {id : String} (hid : call.environmentId? = some id) :
    (store.answer call).2 = { store.change id (call.edit (store.created + 1)) with
      created := if call.creates then store.created + 1 else store.created } := by
  cases call with
  | resolve _ | list _ => cases hm
  | create _ _ | update _ _ _ | delete _ _ =>
    cases hid
    rfl

/-- A change creates a devurl, or it is made to one on the port that it is for. -/
theorem Change.exists_urlId {c : Command} {env : Environment} {urls : List DevUrl} {call : Call}
    {o : Outcome} (h : Change c env urls call o) (number : Nat) :
    ∃ url, call.urlId? number = some url ∧ (call.creates = true ∧ url = newId number ∨
      call.creates = false ∧ ∃ u ∈ urls, u.port = o.port ∧ u.id = url) := by
  cases h with
  | create _ _ _ _ => exact ⟨_, rfl, .inl ⟨rfl, rfl⟩⟩
  | update _ _ _ hu | delete _ hu =>
    obtain ⟨pre, post, rfl, hport, -⟩ := hu
    exact ⟨_, rfl, .inr ⟨rfl, _, by simp, hport, rfl⟩⟩

theorem Store.Sound.urls {store : Store} (hs : store.Sound) (id : String) :
    ((store.urls id).map DevUrl.id).Nodup ∧
      ∀ u ∈ store.urls id, u.id ≠ newId (store.created + 1) := by
  unfold Store.urls
  split
  · next g hf =>
    have hg := List.mem_of_find?_eq_some hf
    exact ⟨hs.devurls g hg, fun u hu hid => Nat.not_succ_le_self _ (hs.fresh g hg u hu _ hid)⟩
  · exact ⟨List.nodup_nil, nofun⟩

namespace Change

variable {store : Store} {c c' : Command} {env env' : Environment} {call call' : Call}
  {o o' : Outcome}

/-- Changes for different ports of an environment, not both of which create a devurl, are made to
different devurls. -/
theorem urlId_ne (hs : store.Sound) (h : Change c env (store.urls env.id) call o)
    (h' : Change c' env' (store.urls env.id) call' o') (hp : o.port ≠ o'.port)
    (hc : call.creates = false) :
    ∃ url url', call.urlId? (store.created + 1) = some url ∧
      call'.urlId? (store.created + 1) = some url' ∧ url ≠ url' := by
  obtain ⟨hnodup, hfresh⟩ := hs.urls env.id
  obtain ⟨url, hurl, hcases⟩ := h.exists_urlId (store.created + 1)
  obtain ⟨url', hurl', hcases'⟩ := h'.exists_urlId (store.created + 1)
  refine ⟨url, url', hurl, hurl', ?_⟩
  rw [hc] at hcases
  obtain ⟨hcreates, -⟩ | ⟨-, u, hu, hport, rfl⟩ := hcases
  · cases hcreates
  obtain ⟨-, rfl⟩ | ⟨-, u', hu', hport', rfl⟩ := hcases'
  · -- no devurl that is there has the id that is to be given
    exact hfresh u hu
  · intro hid
    obtain rfl := List.inj_on_of_nodup_map hnodup hu hu' hid
    exact hp (hport.symm.trans hport')

/-- Changes for different ports can be made in either order, if the first of them creates no
devurl. -/
theorem answer_comm_of_creates (hs : store.Sound) (h : Change c env (store.urls env.id) call o)
    (h' : Change c' env' (store.urls env'.id) call' o') (hp : o.port ≠ o'.port)
    (hc : call.creates = false) :
    ((store.answer call).2.answer call').2 = ((store.answer call').2.answer call).2 := by
  have hchange : (store.change env.id (call.edit (store.created + 1))).change env'.id
        (call'.edit (store.created + 1)) =
      (store.change env'.id (call'.edit (store.created + 1))).change env.id
        (call.edit (store.created + 1)) := by
    refine store.change_comm fun hid urls => ?_
    rw [hid] at h'
    obtain ⟨url, url', hurl, hurl', hne⟩ := urlId_ne hs h h' hp hc
    exact (Call.edit_comm hurl hurl' hne hc urls).symm
  rw [Store.answer_eq_change _ h'.isMutation h'.environmentId?,
    Store.answer_eq_change _ h.isMutation h.environmentId?,
    Store.answer_eq_change _ h.isMutation h.environmentId?,
    Store.answer_eq_change _ h'.isMutation h'.environmentId?]
  have hedit (created : Nat) : call.edit created = call.edit (store.created + 1) :=
    Call.edit_of_creates hc created (store.created + 1)
  simp only [hc, Bool.false_eq_true, if_false]
  -- the number counts for `call'` alone, which finds the same one in either order
  rw [hedit ((if call'.creates then _ else _) + 1)]
  exact congrArg (fun s : Store =>
    { s with created := if call'.creates then store.created + 1 else store.created }) hchange

theorem answer_comm (hs : store.Sound) (h : Change c env (store.urls env.id) call o)
    (h' : Change c' env' (store.urls env'.id) call' o') (hp : o.port ≠ o'.port)
    (hc : call.creates = false ∨ call'.creates = false) :
    ((store.answer call).2.answer call').2 = ((store.answer call').2.answer call).2 := by
  rcases hc with hc | hc
  · exact answer_comm_of_creates hs h h' hp hc
  · exact (answer_comm_of_creates hs h' h hp.symm hc).symm

end Change

/-- What two commands for different ports leave is the same in either order. -/
theorem Command.Proceeds.behind_comm {store : Store} (hs : store.Sound) {c c' : Command}
    {calls calls' : List Call} {result result' : Except Failure Completion}
    (h : c.Proceeds store calls result) (h' : c'.Proceeds store calls' result')
    {port port' : UInt16} (hp : c.port? = some port) (hp' : c'.port? = some port')
    (hne : port ≠ port') (hc : (∀ call ∈ calls, call.creates = false) ∨
      ∀ call ∈ calls', call.creates = false) :
    (store.behind calls).behind calls' = (store.behind calls').behind calls := by
  rcases h.behind_cases with hstill | ⟨env, call, o, -, hch, hmem, hbehind⟩
  · rw [hstill, hstill]
  rcases h'.behind_cases with hstill' | ⟨env', call', o', -, hch', hmem', hbehind'⟩
  · rw [hstill', hstill']
  obtain rfl := Option.some.inj (hp.symm.trans hch.port?)
  obtain rfl := Option.some.inj (hp'.symm.trans hch'.port?)
  rw [hbehind, hbehind', hbehind', hbehind]
  exact hch.answer_comm hs hch' hne (hc.imp (· call hmem) (· call' hmem'))

/-- Two commands for different ports, not both of which create a devurl, can be run in either order.
The store that they leave is the same, and so is what is seen of each: its outcome, what it prints
and the calls that it makes. -/
theorem Store.different_ports_commute (store : Store) (hs : store.Sound) (port₁ port₂ : UInt16)
    (hne : port₁ ≠ port₂) (s₁ s₂ : Step) (h₁ : s₁.IsFor port₁) (h₂ : s₂.IsFor port₂)
    (hc : (∀ call ∈ (s₁.account store).calls, call.creates = false) ∨
      ∀ call ∈ (s₂.account store).calls, call.creates = false) :
    s₂.after (s₁.after store) = s₁.after (s₂.after store) ∧
      s₁.account (s₂.after store) = s₁.account store ∧
      s₂.account (s₁.after store) = s₂.account store := by
  obtain ⟨calls₁, result₁, hp₁, haccount₁, hafter₁⟩ := s₁.proceeds h₁ store
  obtain ⟨calls₂, result₂, hp₂, haccount₂, hafter₂⟩ := s₂.proceeds h₂ store
  rw [haccount₁, haccount₂] at hc ⊢
  rw [hafter₁, hafter₂]
  -- behind the other command, each proceeds as at the start
  obtain ⟨haccount₁', hafter₁'⟩ :=
    h₁.of_proceeds (hp₁.congr h₁.port (hp₂.keeps hs h₂.port hne.symm))
  obtain ⟨haccount₂', hafter₂'⟩ := h₂.of_proceeds (hp₂.congr h₂.port (hp₁.keeps hs h₁.port hne))
  rw [hafter₁', hafter₂']
  exact ⟨hp₁.behind_comm hs hp₂ h₁.port h₂.port hne hc, haccount₁', haccount₂'⟩

/-- A removal of one of two devurls on a port and a creation, in one environment. -/
theorem Store.removal_and_creation_commute :
    let store : Store := ⟨[⟨⟨"e1", "dev"⟩, [⟨"a", "", 9090, none, .owner⟩,
      ⟨"b", "", 8080, none, .owner⟩, ⟨"c", "", 8080, none, .owner⟩]⟩], 0⟩
    let s₁ : Step := ⟨.remove "dev" "8080", none, none⟩
    let s₂ : Step := ⟨.upsert ⟨"dev", "3000", "org", "web"⟩, none, some 3⟩
    store.Sound ∧ s₁.IsFor 8080 ∧ s₂.IsFor 3000 ∧
      (∀ call ∈ (s₁.account store).calls, call.creates = false) ∧
      s₂.after (s₁.after store) = s₁.after (s₂.after store) ∧
      s₁.account (s₂.after store) = s₁.account store ∧
      s₂.account (s₁.after store) = s₂.account store := by
  intro store s₁ s₂
  have hs : store.Sound :=
    (Store.initial_of_heads (by decide) (by decide) (by decide)).sound
  have h₁ : s₁.IsFor 8080 := ⟨rfl, rfl⟩
  have h₂ : s₂.IsFor 3000 := ⟨rfl, rfl⟩
  have hc : ∀ call ∈ (s₁.account store).calls, call.creates = false := by decide +kernel
  exact ⟨hs, h₁, h₂, hc,
    Store.different_ports_commute store hs 8080 3000 (by decide) s₁ s₂ h₁ h₂ (.inl hc)⟩

end PortShare
