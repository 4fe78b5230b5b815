import PortShare.Proofs.Untroubled

/-! The last request for a port wins. It replaces every part of what an earlier one has left there
but the id, so that the store is as if the earlier one had never come. -/

namespace PortShare

/-- A request that comes after another one for its port updates the devurl that the other one has
updated or created, and leaves what it would have left without the other one. -/
theorem Effect.overwritten {created created₁ : Nat} {r₁ r₂ : Request} {urls urls₁ : List DevUrl}
    {o₁ : Outcome} {access : AccessLevel}
    (h : Effect created (.upsert r₁) urls urls₁ created₁ o₁)
    (hp : readPort r₂.port = .ok o₁.port) (ha : AccessLevel.ofName? r₂.access = some access) :
    ∃ id urls₂ o₂, Effect created (.upsert r₂) urls urls₂ created₁ o₂ ∧
      Effect created₁ (.upsert r₂) urls₁ urls₂ created₁ (.updated id o₁.port) ∧
      (o₁ = .updated id o₁.port ∨
        o₁ = .created o₁.port ∧ ∃ u : DevUrl, u.id = id ∧ urls₁ = urls ++ [u]) := by
  cases h with
  | @replaced _ _ _ pre post u _ _ hu hpre =>
    exact ⟨u.id, _, _, .replaced hp ha hu hpre, .replaced hp ha rfl hpre, .inl rfl⟩
  | appended _ _ hn =>
    exact ⟨newId (created + 1), _, _, .appended hp ha hn, .replaced hp ha rfl hn,
      .inr ⟨rfl, _, rfl, rfl⟩⟩

/-- Of two requests for a port of an environment, the first leaves no trace in the store, and the
second updates the devurl that the first has updated or created. In particular, a request that is
made again changes nothing more. -/
theorem Store.last_upsert_wins (store : Store) (hs : store.Sound) (port : UInt16)
    (r₁ r₂ : Request) (hname : r₁.environment = r₂.environment) (s₁ s₂ : Step)
    (hc₁ : s₁.command = .upsert r₁) (hc₂ : s₂.command = .upsert r₂)
    (h₁ : s₁.IsFor port) (h₂ : s₂.IsFor port) :
    s₂.after (s₁.after store) = s₂.after store ∧
    ∀ env, store.find? r₁.environment = some env → ∃ id,
      (s₁.Reports store (.updated id port) ∨ s₁.Reports store (.created port) ∧
        ∃ u, u.id = id ∧ (s₁.after store).urls env.id = store.urls env.id ++ [u]) ∧
      s₂.Reports (s₁.after store) (.updated id port) := by
  cases hf : store.find? r₁.environment with
  | none =>
    have hf₁ : store.find? s₁.command.environment = none := by rw [hc₁]; exact hf
    exact ⟨by rw [Step.after_of_not_found h₁ hf₁], nofun⟩
  | some env =>
    obtain ⟨before, g, after, hg, rfl⟩ := Store.Holds.exists_of_find? hf
    obtain ⟨hp₂, access, ha₂⟩ := h₂.of_upsert hc₂
    have hg₁ : store.Holds s₁.command.environment before g after := by rw [hc₁]; exact hg
    have hg₂ : store.Holds s₂.command.environment before g after := by
      rw [hc₂, Command.environment, ← hname]
      exact hg
    obtain ⟨urls₁, created₁, o₁, heff₁, rfl⟩ :=
      h₁.exists_effect hs.distinct hg₁ (by rw [hc₁]; trivial)
    obtain ⟨hreport₁, hafter₁⟩ := Step.run_of_effect h₁ hs.distinct hg₁ heff₁
    rw [hc₁] at heff₁
    obtain ⟨id, urls₂, o₂, hfresh, hagain, hid⟩ := heff₁.overwritten hp₂ ha₂
    rw [← hc₂] at hfresh hagain
    have hafter₂ := (Step.run_of_effect h₂ hs.distinct hg₂ hfresh).2
    -- the second request comes to the devurls that the first has left
    have hs₁ : (s₁.after store).Sound := hs.step s₁
    rw [hafter₁] at hs₁ ⊢
    have hg₁₂ := hg₂.withUrls urls₁ created₁
    obtain ⟨hreport₂, hafter₁₂⟩ := Step.run_of_effect h₂ hs₁.distinct hg₁₂ hagain
    refine ⟨hafter₁₂.trans hafter₂.symm, fun env henv => ⟨id, ?_, hreport₂⟩⟩
    obtain rfl := Option.some.inj henv
    rw [hg₁₂.urls hs₁.environments, hg.urls hs.environments]
    rcases hid with ho | ⟨ho, u, hu, hurls⟩
    · rw [← ho]
      exact .inl hreport₁
    · rw [← ho]
      exact .inr ⟨hreport₁, u, hu, hurls⟩

/-- A port that is free is asked for twice, in two spellings and the second time without a name. -/
theorem Store.last_of_two_upserts :
    let start : Store := ⟨[⟨⟨"e1", "dev"⟩, [⟨"a", "", 9090, none, .owner⟩]⟩], 0⟩
    let store := start.after [⟨.upsert ⟨"dev", "3000", "org", ""⟩, none, none⟩]
    let s₁ : Step := ⟨.upsert ⟨"dev", "8080", "org", "web"⟩, none, some 3⟩
    let s₂ : Step := ⟨.upsert ⟨"dev", "08080", "Public", ""⟩, none, none⟩
    store.Sound ∧ s₁.IsFor 8080 ∧ s₂.IsFor 8080 ∧
      store.find? "dev" = some ⟨"e1", "dev"⟩ ∧
      s₂.after (s₁.after store) = s₂.after store ∧
      ∃ id, s₂.Reports (s₁.after store) (.updated id 8080) := by
  intro start store s₁ s₂
  have hs : store.Sound :=
    (Store.initial_of_heads (by decide) (by decide) (by decide)).sound.after _
  have h₁ : s₁.IsFor 8080 := ⟨rfl, rfl⟩
  have h₂ : s₂.IsFor 8080 := ⟨rfl, rfl⟩
  have hf : store.find? "dev" = some ⟨"e1", "dev"⟩ := by decide +kernel
  obtain ⟨hsame, hid⟩ := Store.last_upsert_wins store hs 8080 ⟨"dev", "8080", "org", "web"⟩
    ⟨"dev", "08080", "Public", ""⟩ rfl s₁ s₂ rfl rfl h₁ h₂
  obtain ⟨id, -, hreport⟩ := hid _ hf
  exact ⟨hs, h₁, h₂, hf, hsame, id, hreport⟩

end PortShare
