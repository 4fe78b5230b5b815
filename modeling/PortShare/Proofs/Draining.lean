import Mathlib.Data.List.Induction
import PortShare.Proofs.Untroubled

/-! Removals from one port take its devurls away in the order of the list, until there is none, and
one removal takes back what was created on a free port. -/

namespace PortShare

/-- The devurls on a port. -/
def allOn (port : UInt16) (urls : List DevUrl) : List DevUrl := urls.filter fun u => u.port == port

/-- The devurls without the first `n` on a port, or without any on it if there are not so many. -/
def dropOn (port : UInt16) : Nat → List DevUrl → List DevUrl
  | 0, urls => urls
  | _ + 1, [] => []
  | n + 1, u :: urls => if u.port = port then dropOn port n urls else u :: dropOn port (n + 1) urls

section dropOn

variable {port : UInt16}

theorem dropOn_zero (urls : List DevUrl) : dropOn port 0 urls = urls := by
  cases urls <;> rfl

theorem dropOn_nil (n : Nat) : dropOn port n [] = [] := by
  cases n <;> rfl

theorem dropOn_append {pre : List DevUrl} (h : ∀ u ∈ pre, u.port ≠ port) (n : Nat)
    (urls : List DevUrl) : dropOn port n (pre ++ urls) = pre ++ dropOn port n urls := by
  cases n with
  | zero => rw [dropOn_zero, dropOn_zero]
  | succ n =>
    induction pre with
    | nil => rfl
    | cons u pre ih =>
      obtain ⟨hu, hpre⟩ := List.forall_mem_cons.mp h
      simp only [List.cons_append, dropOn, if_neg hu, ih hpre]

theorem dropOn_of_free {urls : List DevUrl} (h : ∀ u ∈ urls, u.port ≠ port) (n : Nat) :
    dropOn port n urls = urls := by
  have := dropOn_append h n []
  rwa [dropOn_nil, List.append_nil] at this

theorem dropOn_first {pre post : List DevUrl} {u : DevUrl} (hu : u.port = port)
    (h : ∀ w ∈ pre, w.port ≠ port) (n : Nat) :
    dropOn port (n + 1) (pre ++ u :: post) = pre ++ dropOn port n post := by
  rw [dropOn_append h, dropOn, if_pos hu]

theorem dropOn_sublist (port : UInt16) (n : Nat) (urls : List DevUrl) :
    (dropOn port n urls).Sublist urls := by
  fun_induction dropOn port n urls with
  | case1 urls => exact .refl urls
  | case2 n => exact .refl []
  | case3 n u urls _ ih => exact ih.cons u
  | case4 n u urls _ ih => exact ih.cons_cons u

theorem allOn_dropOn (port : UInt16) (n : Nat) (urls : List DevUrl) :
    allOn port (dropOn port n urls) = (allOn port urls).drop n := by
  fun_induction dropOn port n urls with
  | case1 urls => rfl
  | case2 n => rfl
  | case3 n u urls hu ih => simpa [allOn, hu] using ih
  | case4 n u urls hu ih => simpa [allOn, hu] using ih

theorem allOn_eq_nil {urls : List DevUrl} : allOn port urls = [] ↔ ∀ u ∈ urls, u.port ≠ port := by
  simp [allOn]

theorem head?_allOn (port : UInt16) (urls : List DevUrl) :
    (allOn port urls).head? = firstOn port urls :=
  List.head?_filter

theorem dropOn_concat {urls : List DevUrl} (h : ∀ w ∈ urls, w.port ≠ port) {u : DevUrl}
    (hu : u.port = port) : dropOn port 1 (urls ++ [u]) = urls := by
  rw [dropOn_first hu h, dropOn_nil, List.append_nil]

theorem allOn_concat {urls : List DevUrl} (h : ∀ w ∈ urls, w.port ≠ port) {u : DevUrl}
    (hu : u.port = port) : allOn port (urls ++ [u]) = [u] := by
  have hnone : allOn port urls = [] := allOn_eq_nil.mpr h
  rw [allOn] at hnone ⊢
  rw [List.filter_append, hnone]
  simp [hu]

/-- One more devurl on the port is gone. -/
theorem dropOn_one_dropOn (port : UInt16) (n : Nat) (urls : List DevUrl) :
    dropOn port 1 (dropOn port n urls) = dropOn port (n + 1) urls := by
  fun_induction dropOn port n urls with
  | case1 urls => rfl
  | case2 n => rfl
  | case3 n u urls hu ih => rw [ih, dropOn, if_pos hu]
  | case4 n u urls hu ih => rw [dropOn, if_neg hu, ih, dropOn, if_neg hu]

end dropOn

/-- Is the step, free of trouble, to remove a devurl from a port of an environment? -/
structure Step.Removes (s : Step) (name : String) (port : UInt16) : Prop where
  command : ∃ typed, s.command = .remove name typed ∧ readPort typed = .ok port
  trouble : s.trouble = none

namespace Step.Removes

variable {s : Step} {name : String} {port : UInt16}

theorem isFor (h : s.Removes name port) : s.IsFor port := by
  obtain ⟨typed, hc, hp⟩ := h.command
  refine ⟨?_, h.trouble⟩
  rw [hc]
  exact Command.port?_remove hp

theorem environment (h : s.Removes name port) : s.command.environment = name := by
  obtain ⟨typed, hc, -⟩ := h.command
  rw [hc]
  rfl

variable {store : Store} {before after : List Holding} {g : Holding}

/-- A removal from a port that is taken. -/
theorem removed (h : s.Removes name port) (hs : store.Distinct)
    (hg : store.Holds name before g after) {u : DevUrl} {rest : List DevUrl}
    (hu : allOn port g.urls = u :: rest) :
    s.Reports store (.deleted u.id port) ∧ s.after store =
      ⟨before ++ ⟨g.environment, dropOn port 1 g.urls⟩ :: after, store.created⟩ := by
  have hfirst : firstOn port g.urls = some u := by
    rw [← head?_allOn, hu]
    rfl
  obtain ⟨pre, post, hsplit, hport, hpre⟩ := firstOn_eq_some_iff.mp hfirst
  obtain ⟨typed, hc, hp⟩ := h.command
  have heff : Effect store.created s.command g.urls (pre ++ post) store.created
      (.deleted u.id port) := by
    rw [hc, hsplit]
    exact .removed hp hport hpre
  rw [hsplit, dropOn_first hport hpre, dropOn_zero]
  exact Step.run_of_effect h.isFor hs (by rwa [h.environment]) heff

/-- A removal from a port that is free. -/
theorem failed (h : s.Removes name port) (hs : store.Distinct)
    (hg : store.Holds name before g after) (hn : allOn port g.urls = []) :
    s.account store = ⟨.error (.notFound name port), [], [.resolve name, .list g.environment.id]⟩ ∧
      s.after store = store := by
  obtain ⟨typed, hc, hport⟩ := h.command
  obtain ⟨calls, result, hp, haccount, hafter⟩ := s.proceeds h.isFor store
  rw [haccount, hafter]
  have hf := hg.find?
  rw [← h.environment] at hf
  rw [allOn_eq_nil, ← hg.urls hs.environments] at hn
  cases hp with
  | unresolved hf' => cases hf.symm.trans hf'
  | absent hc' hp' hf' _ =>
    cases hf.symm.trans hf'
    cases hc.symm.trans hc'
    cases hport.symm.trans hp'
    rw [store.behind_listing, h.environment]
    exact ⟨rfl, rfl⟩
  | changed hf' hch =>
    cases hf.symm.trans hf'
    rw [hc] at hch
    cases hch with
    | delete hp' hu =>
      cases hport.symm.trans hp'
      obtain ⟨pre, post, hsplit, hu, -⟩ := hu
      exact absurd hu (hn _ (by simp [hsplit]))

/-- Whether or not the port is taken, a removal leaves the devurls without the first one on it. -/
theorem after_eq (h : s.Removes name port) (hs : store.Distinct)
    (hg : store.Holds name before g after) :
    s.after store = ⟨before ++ ⟨g.environment, dropOn port 1 g.urls⟩ :: after, store.created⟩ := by
  cases hu : allOn port g.urls with
  | nil =>
    rw [(h.failed hs hg hu).2, dropOn_of_free (allOn_eq_nil.mp hu), ← hg.split]
  | cons u rest => exact (h.removed hs hg hu).2

end Step.Removes

theorem Store.Distinct.withUrls {store : Store} (hs : store.Distinct) {name : String}
    {before after : List Holding} {g : Holding} (hg : store.Holds name before g after)
    {urls : List DevUrl} (hu : urls.Sublist g.urls) (created : Nat) :
    (⟨before ++ ⟨g.environment, urls⟩ :: after, created⟩ : Store).Distinct := by
  obtain ⟨he, hd⟩ := hs
  rw [hg.split] at he hd
  refine ⟨by simpa using he, ?_⟩
  simp only [List.forall_mem_append, List.forall_mem_cons] at hd ⊢
  exact ⟨hd.1, (hu.map DevUrl.id).nodup hd.2.1, hd.2.2⟩

/-- After some removals from a port, just as many devurls on it are gone from the head of the list,
and everything else is as before. -/
theorem Store.after_removals {store : Store} (hs : store.Distinct) {name : String}
    {before after : List Holding} {g : Holding} (hg : store.Holds name before g after)
    {port : UInt16} {steps : List Step} (h : ∀ s ∈ steps, s.Removes name port) :
    store.after steps =
      ⟨before ++ ⟨g.environment, dropOn port steps.length g.urls⟩ :: after, store.created⟩ := by
  -- from the last step, so that the steps before it leave a store to which it comes
  induction steps using List.reverseRecOn with
  | nil =>
    rw [List.length_nil, dropOn_zero, ← hg.split]
    rfl
  | append_singleton steps s ih =>
    obtain ⟨hsteps, hlast⟩ := List.forall_mem_append.mp h
    have hstep := (hlast s (List.mem_singleton_self s)).after_eq
      (hs.withUrls hg (dropOn_sublist port steps.length g.urls) store.created)
      (hg.withUrls _ _)
    rw [dropOn_one_dropOn] at hstep
    rw [Store.after, List.foldl_append, List.length_append]
    change s.after (store.after steps) = _
    rw [ih hsteps]
    exact hstep

/-- What a removal in the course of removals from a port makes of those before it. -/
theorem Step.Removes.behind {store : Store} (hs : store.Distinct) {name : String}
    {before after : List Holding} {g : Holding} (hg : store.Holds name before g after)
    {port : UInt16} {done : List Step} (hdone : ∀ s ∈ done, s.Removes name port) {s : Step}
    (h : s.Removes name port) :
    (∀ u, (allOn port g.urls)[done.length]? = some u →
      s.Reports (store.after done) (.deleted u.id port)) ∧
    ((allOn port g.urls).length ≤ done.length → s.account (store.after done) =
      ⟨.error (.notFound name port), [], [.resolve name, .list g.environment.id]⟩) := by
  have hs' := hs.withUrls hg (dropOn_sublist port done.length g.urls) store.created
  have hg' := hg.withUrls (dropOn port done.length g.urls) store.created
  have hleft := allOn_dropOn port done.length g.urls
  rw [Store.after_removals hs hg hdone]
  constructor
  · intro u hu
    rw [← List.head?_drop, ← hleft] at hu
    obtain ⟨rest, hrest⟩ := List.head?_eq_some_iff.mp hu
    exact (h.removed hs' hg' hrest).1
  · intro hle
    rw [List.drop_eq_nil_of_le hle] at hleft
    exact (h.failed hs' hg' hleft).1

/-- A removal takes back what was created on a port that was free. -/
theorem Step.Removes.undo {store : Store} (hs : store.Sound) {name : String}
    {before after : List Holding} {g : Holding} (hg : store.Holds name before g after)
    {port : UInt16} (hfree : ∀ u ∈ g.urls, u.port ≠ port) {r : Request} {s t : Step}
    (hc : s.command = .upsert r) (hname : r.environment = name) (h : s.IsFor port)
    (ht : t.Removes name port) :
    s.Reports store (.created port) ∧ (∃ id, t.Reports (s.after store) (.deleted id port)) ∧
      (t.after (s.after store)).holdings = store.holdings := by
  obtain ⟨hp, access, ha⟩ := h.of_upsert hc
  obtain ⟨u, hu, heff⟩ : ∃ u : DevUrl, u.port = port ∧ Effect store.created s.command g.urls
      (g.urls ++ [u]) (store.created + 1) (.created port) := by
    rw [hc]
    exact ⟨_, rfl, .appended hp ha hfree⟩
  have hgs : store.Holds s.command.environment before g after := by
    rw [hc, Command.environment, hname]
    exact hg
  obtain ⟨hreport, hafter⟩ := Step.run_of_effect h hs.distinct hgs heff
  have hs' := (hs.step s).distinct
  rw [hafter] at hs' ⊢
  obtain ⟨hdeleted, hback⟩ := ht.removed hs' (hg.withUrls _ _) (allOn_concat hfree hu)
  refine ⟨hreport, ⟨u.id, hdeleted⟩, ?_⟩
  rw [hback, dropOn_concat hfree hu, hg.split]

/-- Removals from one port of an environment report its devurls on the port in the order of the
list, each one once, and fail when there is none left; what stays is the list without those. And a
removal takes back what was created on a port that was free. -/
theorem Store.removed_in_order (store : Store) (hs : store.Distinct) (name : String)
    (before after : List Holding) (g : Holding) (hg : store.Holds name before g after)
    (port : UInt16) :
    (∀ steps : List Step, (∀ s ∈ steps, s.Removes name port) →
      store.after steps =
        ⟨before ++ ⟨g.environment, dropOn port steps.length g.urls⟩ :: after, store.created⟩ ∧
      ∀ done s rest, steps = done ++ s :: rest →
        (∀ u, (allOn port g.urls)[done.length]? = some u →
          s.Reports (store.after done) (.deleted u.id port)) ∧
        ((allOn port g.urls).length ≤ done.length → s.account (store.after done) =
          ⟨.error (.notFound name port), [], [.resolve name, .list g.environment.id]⟩)) ∧
    (store.Sound → (∀ u ∈ g.urls, u.port ≠ port) → ∀ (r : Request) (s t : Step),
      s.command = .upsert r → r.environment = name → s.IsFor port → t.Removes name port →
      s.Reports store (.created port) ∧
        (∃ id, t.Reports (s.after store) (.deleted id port)) ∧
        (t.after (s.after store)).holdings = store.holdings) := by
  refine ⟨fun steps h => ⟨Store.after_removals hs hg h, ?_⟩, ?_⟩
  · rintro done s rest rfl
    obtain ⟨hdone, hs'⟩ := List.forall_mem_append.mp h
    exact (hs' s List.mem_cons_self).behind hs hg hdone
  · intro hsound hfree r s t hc hname h ht
    exact ht.undo hsound hg hfree hc hname h

/-- Of three removals from a port with two devurls, the last finds none; and a devurl that is
created on a third port is removed again. -/
theorem Store.three_removals_of_two :
    let store : Store := ⟨[⟨⟨"e1", "dev"⟩, [⟨"a", "", 8080, none, .owner⟩,
      ⟨"b", "", 9090, none, .owner⟩, ⟨"c", "", 8080, none, .owner⟩]⟩], 0⟩
    let s₁ : Step := ⟨.remove "dev" "8080", none, none⟩
    let s₂ : Step := ⟨.remove "dev" "08080", none, some 3⟩
    let s₃ : Step := ⟨.upsert ⟨"dev", "3000", "org", "web"⟩, none, none⟩
    let s₄ : Step := ⟨.remove "dev" "3000", none, none⟩
    (∀ s ∈ [s₁, s₂, s₁], s.Removes "dev" 8080) ∧
      store.after [s₁, s₂, s₁] =
        ⟨[⟨⟨"e1", "dev"⟩, [⟨"b", "", 9090, none, .owner⟩]⟩], 0⟩ ∧
      s₁.Reports store (.deleted "a" 8080) ∧
      s₂.Reports (store.after [s₁]) (.deleted "c" 8080) ∧
      s₁.account (store.after [s₁, s₂]) =
        ⟨.error (.notFound "dev" 8080), [], [.resolve "dev", .list "e1"]⟩ ∧
      s₃.Reports store (.created 3000) ∧
      (s₄.after (s₃.after store)).holdings = store.holdings := by
  intro store s₁ s₂ s₃ s₄
  have hs : store.Sound :=
    (Store.initial_of_heads (by decide) (by decide) (by decide)).sound
  have hg : store.Holds "dev" [] ⟨⟨"e1", "dev"⟩, [⟨"a", "", 8080, none, .owner⟩,
      ⟨"b", "", 9090, none, .owner⟩, ⟨"c", "", 8080, none, .owner⟩]⟩ [] :=
    ⟨rfl, rfl, nofun⟩
  have h₁ : s₁.Removes "dev" 8080 := ⟨⟨_, rfl, rfl⟩, rfl⟩
  have h₂ : s₂.Removes "dev" 8080 := ⟨⟨_, rfl, rfl⟩, rfl⟩
  have h₄ : s₄.Removes "dev" 3000 := ⟨⟨_, rfl, rfl⟩, rfl⟩
  have h : ∀ s ∈ [s₁, s₂, s₁], s.Removes "dev" 8080 := by
    simp only [List.forall_mem_cons]
    exact ⟨h₁, h₂, h₁, nofun⟩
  obtain ⟨hafter, hseen⟩ := (Store.removed_in_order store hs.distinct "dev" [] [] _ hg 8080).1 _ h
  obtain ⟨hcreated, -, hback⟩ := (Store.removed_in_order store hs.distinct "dev" [] [] _ hg 3000).2
    hs (by decide) ⟨"dev", "3000", "org", "web"⟩ s₃ s₄ rfl rfl ⟨rfl, rfl⟩ h₄
  exact ⟨h, hafter, (hseen [] s₁ [s₂, s₁] rfl).1 _ rfl, (hseen [s₁] s₂ [s₁] rfl).1 _ rfl,
    (hseen [s₁, s₂] s₁ [] rfl).2 (by decide), hcreated, hback⟩

end PortShare
