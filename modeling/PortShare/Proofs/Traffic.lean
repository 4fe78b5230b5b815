import Mathlib.Data.Fintype.EquivFin
import PortShare.Proofs.Settled

/-! Commands for different ports do not disturb each other. In whichever order their calls come to
the store, each makes the change that was decided at the start, and the store is the one that they
leave when they come one after the other, in the order of their changes. -/

namespace PortShare

/-- The store behind a change, if there is one. -/
def Store.changedBy (store : Store) : Option Call → Store
  | none => store
  | some call => (store.answer call).2

theorem Store.Keeps.trans {start store store' : Store} {port? : Option UInt16}
    (h : start.Keeps port? store) (h' : store.Keeps port? store') : start.Keeps port? store' := by
  constructor
  · intro name
    exact (h'.find? name).trans (h.find? name)
  · intro port hp id
    exact (h'.firstOn port hp id).trans (h.firstOn port hp id)

/-- What a command reports on its own at a store is the outcome, unless it is a listing for people
and the table is too wide to be printed. -/
def Command.Reports (c : Command) (store : Store)
    (outcome : Except Failure (Option Outcome)) : Prop :=
  ((⟨c, none, none⟩ : Step).run store).1 = outcome ∨
    outcome = .ok none ∧
      ((⟨c, none, none⟩ : Step).run store).1 = .error (.panicked Report.tooWide) ∧
      ∃ name, c = .list name .human

namespace Plan

theorem advance_of_ok {α : Type} {call : Call} {next : call.Answer → Plan α} {store : Store}
    {a : call.Answer} (h : (store.answer call).1 = .ok a) :
    (Plan.ask call next).advance store = (next a, (store.answer call).2) := by
  obtain ⟨answer, store', hs⟩ : ∃ answer store', store.answer call = (answer, store') :=
    ⟨_, _, rfl⟩
  rw [hs] at h
  simp only [advance, hs]
  rw [show answer = .ok a from h]

theorem advance_of_error {α : Type} {call : Call} {next : call.Answer → Plan α} {store : Store}
    {e : Failure} (h : (store.answer call).1 = .error e) :
    (Plan.ask call next).advance store = (.fail e, (store.answer call).2) := by
  obtain ⟨answer, store', hs⟩ : ∃ answer store', store.answer call = (answer, store') :=
    ⟨_, _, rfl⟩
  rw [hs] at h
  simp only [advance, hs]
  rw [show answer = .error e from h]

/-- A plan with a result stays as it is. -/
theorem advance_of_result? {α : Type} {p : Plan α} {result : Except Failure α}
    (h : p.result? = some result) (store : Store) :
    p.nextCall? = none ∧ (p.advance store).2 = store ∧
      (p.advance store).1.result? = some result := by
  induction p with
  | done a => exact ⟨rfl, rfl, h⟩
  | fail e => exact ⟨rfl, rfl, h⟩
  | note entry rest ih => exact ih h
  | ask call next _ => cases h

namespace Settled

variable {start store : Store} {port? : Option UInt16} {p : Plan Completion}
  {change : Option Call} {outcome : Except Failure (Option Outcome)}

/-- Run on its own at a store that keeps what it needs, a plan does what is settled. -/
theorem run (h : p.Settled start port? change outcome) (hk : start.Keeps port? store)
    (calls : List Call) :
    (p.run Visit.service ⟨store, none, calls⟩).1.map Completion.outcome = outcome ∧
      (p.run Visit.service ⟨store, none, calls⟩).2.store = store.changedBy change := by
  have answered (call : Call) (calls : List Call) :
      Visit.service.answer call ⟨store, none, calls⟩ =
        ((store.answer call).1, ⟨(store.answer call).2, none, calls ++ [call]⟩) := rfl
  induction h generalizing calls with
  | done a => exact ⟨rfl, rfl⟩
  | fail e => exact ⟨rfl, rfl⟩
  | note _ ih => exact ih calls
  | @read call next change outcome hm _ herror ih =>
    have hread : (store.answer call).2 = store := Store.snd_answer_of_read store hm
    have hcall := answered call calls
    rw [hread] at hcall
    cases ha : (store.answer call).1 with
    | ok a =>
      rw [ha] at hcall
      rw [run_ask_ok hcall]
      exact ih store a hk ha (calls ++ [call])
    | error e =>
      rw [ha] at hcall
      rw [run_ask_error hcall]
      obtain ⟨rfl, rfl⟩ := herror store e hk ha
      exact ⟨rfl, rfl⟩
  | @change call a hm =>
    obtain ⟨answer, ha⟩ := Store.answer_of_isMutation hm store
    have hcall := answered call calls
    rw [ha] at hcall
    rw [run_ask_ok hcall]
    exact ⟨rfl, rfl⟩

/-- The next call reads, and all stays settled; or it is the change, and the outcome is there. -/
theorem advance (h : p.Settled start port? change outcome) (hk : start.Keeps port? store) :
    (p.nextCall?.any Call.isMutation = false ∧ (p.advance store).2 = store ∧
      (p.advance store).1.Settled start port? change outcome) ∨
    (p.nextCall?.any Call.isMutation = true ∧ change.isSome = true ∧
      (p.advance store).2 = store.changedBy change ∧
      (p.advance store).1.result?.map (Except.map Completion.outcome) = some outcome) := by
  induction h with
  | done a => exact .inl ⟨rfl, rfl, .done a⟩
  | fail e => exact .inl ⟨rfl, rfl, .fail e⟩
  | note _ ih => exact ih
  | @read call next change outcome hm hok herror _ =>
    have hread : (store.answer call).2 = store := Store.snd_answer_of_read store hm
    refine .inl ⟨hm, ?_⟩
    cases ha : (store.answer call).1 with
    | ok a =>
      rw [advance_of_ok ha]
      exact ⟨hread, hok store a hk ha⟩
    | error e =>
      rw [advance_of_error ha]
      obtain ⟨rfl, rfl⟩ := herror store e hk ha
      exact ⟨hread, .fail e⟩
  | @change call a hm =>
    obtain ⟨answer, ha⟩ := Store.answer_of_isMutation hm store
    refine .inr ⟨hm, rfl, ?_⟩
    rw [advance_of_ok ha]
    exact ⟨rfl, rfl⟩

/-- A plan that has no more calls to make has no change to make, and its outcome is there. -/
theorem ended (h : p.Settled start port? change outcome) (he : p.nextCall? = none) :
    change = none ∧ p.result?.map (Except.map Completion.outcome) = some outcome := by
  induction h with
  | done a => exact ⟨rfl, rfl⟩
  | fail e => exact ⟨rfl, rfl⟩
  | note _ ih => exact ih he
  | read _ _ _ _ => cases he
  | change _ _ => cases he

end Settled

end Plan

namespace Traffic

variable {ι : Type} {start : Store} {commands : ι → Command}

/-- The store once the commands have made their changes, one after the other. -/
def made (start : Store) (changes : ι → Option Call) (done : List ι) : Store :=
  done.foldl (fun store i => store.changedBy (changes i)) start

theorem made_concat (start : Store) (changes : ι → Option Call) (done : List ι) (i : ι) :
    made start changes (done ++ [i]) = (made start changes done).changedBy (changes i) := by
  rw [made, made, List.foldl_append, List.foldl_cons, List.foldl_nil]

/-- Are all the commands for different ports, so far as they are for a port? -/
def Apart (commands : ι → Command) : Prop :=
  ∀ i j port, (commands i).port? = some port → (commands j).port? = some port → i = j

/-- The change of each command, and its outcome, as they are decided at the start. -/
structure Decision (start : Store) (commands : ι → Command) (changes : ι → Option Call)
    (outcomes : ι → Except Failure (Option Outcome)) : Prop where
  sound : start.Sound
  apart : Apart commands
  decided : ∀ i, (commands i).Decided start (changes i) (outcomes i)

namespace Decision

variable {changes : ι → Option Call} {outcomes : ι → Except Failure (Option Outcome)}

/-- Changes of some commands keep a store sound, and what it holds for all the others. -/
theorem keeps (hd : Decision start commands changes outcomes) {done : List ι}
    (hn : done.Nodup) : (made start changes done).Sound ∧
      ∀ i, i ∉ done → start.Keeps (commands i).port? (made start changes done) := by
  induction done using List.reverseRecOn with
  | nil => exact ⟨hd.sound, fun i _ => .refl start _⟩
  | append_singleton done j ih =>
    obtain ⟨hn, hj⟩ : done.Nodup ∧ j ∉ done := by
      rw [← List.concat_eq_append, List.nodup_concat] at hn
      exact hn.symm
    obtain ⟨hs, hk⟩ := ih hn
    have other {i : ι} (hi : i ∉ done ++ [j]) : i ∉ done ∧ i ≠ j := by
      simpa [not_or] using hi
    rw [made_concat]
    cases hc : changes j with
    | none => exact ⟨hs, fun i hi => hk i (other hi).1⟩
    | some call =>
      obtain ⟨env, o, hf, hch⟩ := (hd.decided j).change call hc
      have hkj := hk j hj
      have hch' := hch.congr (hkj.firstOn o.port hch.port? env.id)
      refine ⟨hs.answer call, fun i hi => ?_⟩
      refine (hk i (other hi).1).trans (hch'.keeps hs ((hkj.find? _).trans hf) ?_)
      intro port hp ho
      exact (other hi).2 (hd.apart i j port hp (by rw [hch.port?, ho]))

/-- On its own, behind some of the others, a command does what is decided. -/
theorem run_alone (hd : Decision start commands changes outcomes) {done : List ι}
    (hn : done.Nodup) {i : ι} (hi : i ∉ done) :
    (commands i).Reports (made start changes done) (outcomes i) ∧
      (⟨commands i, none, none⟩ : Step).after (made start changes done) =
        (made start changes done).changedBy (changes i) := by
  have hk := (hd.keeps hn).2 i hi
  obtain ⟨hr, hs⟩ := (hd.decided i).settled.run hk []
  constructor
  · rw [← hr]
    exact (commands i).run_unlimited_cases Visit.service ⟨made start changes done, none, []⟩
  · rw [Step.after, Step.run, Command.snd_run]
    exact hs

/-- One after the other, the commands make the changes that are decided. -/
theorem after_eq (hd : Decision start commands changes outcomes) {done : List ι}
    (hn : done.Nodup) :
    start.after (done.map fun i => ⟨commands i, none, none⟩) = made start changes done := by
  induction done using List.reverseRecOn with
  | nil => rfl
  | append_singleton done i ih =>
    obtain ⟨hn, hi⟩ : done.Nodup ∧ i ∉ done := by
      rw [← List.concat_eq_append, List.nodup_concat] at hn
      exact hn.symm
    rw [made_concat, ← (hd.run_alone hn hi).2, ← ih hn, List.map_append, Store.after,
      List.foldl_append]
    rfl

end Decision

section interleaving

variable {changes : ι → Option Call} {outcomes : ι → Except Failure (Option Outcome)}
  {t : Traffic ι}

/-- How far the commands have come: those that have made their change have their outcome, and the
others are still to do what is decided for them. -/
structure Underway (start : Store) (commands : ι → Command) (changes : ι → Option Call)
    (outcomes : ι → Except Failure (Option Outcome)) (t : Traffic ι) : Prop where
  once : t.changed.Nodup
  store : t.store = made start changes t.changed
  waiting : ∀ i, i ∉ t.changed →
    (t.plans i).Settled start (commands i).port? (changes i) (outcomes i)
  finished : ∀ i ∈ t.changed, (changes i).isSome = true ∧ t.outcome? i = some (outcomes i)

theorem underway_start (hd : Decision start commands changes outcomes) :
    Underway start commands changes outcomes (Traffic.start start commands) :=
  ⟨List.nodup_nil, rfl, fun i _ => (hd.decided i).settled, nofun⟩

variable [DecidableEq ι]

theorem outcome?_move_of_ne {i j : ι} (h : j ≠ i) : (t.move i).outcome? j = t.outcome? j := by
  simp only [outcome?, move, if_neg h]

theorem outcome?_move_self (i : ι) : (t.move i).outcome? i =
    ((t.plans i).advance t.store).1.result?.map (Except.map Completion.outcome) := by
  simp only [outcome?, move, if_true]

/-- A move that changes nothing: what matters is how it leaves the command that moves. -/
theorem Underway.still (h : Underway start commands changes outcomes t) {i : ι}
    (hn : (t.plans i).nextCall?.any Call.isMutation = false)
    (hs : ((t.plans i).advance t.store).2 = t.store)
    (hw : i ∉ t.changed → ((t.plans i).advance t.store).1.Settled start (commands i).port?
      (changes i) (outcomes i))
    (hf : i ∈ t.changed → (t.move i).outcome? i = t.outcome? i) :
    Underway start commands changes outcomes (t.move i) := by
  have hchanged : (t.move i).changed = t.changed := by simp [Traffic.move, hn]
  have hstore : (t.move i).store = t.store := hs
  constructor
  · rw [hchanged]
    exact h.once
  · rw [hchanged, hstore]
    exact h.store
  · intro j hj
    rw [hchanged] at hj
    by_cases hne : j = i
    · subst hne
      simpa only [Traffic.move, if_true] using hw hj
    · simpa only [Traffic.move, if_neg hne] using h.waiting j hj
  · intro j hj
    rw [hchanged] at hj
    obtain ⟨hc, ho⟩ := h.finished j hj
    refine ⟨hc, ?_⟩
    by_cases hne : j = i
    · subst hne
      exact (hf hj).trans ho
    · exact (outcome?_move_of_ne hne).trans ho

/-- The move in which a command makes its change. -/
theorem Underway.change (h : Underway start commands changes outcomes t) {i : ι}
    (hi : i ∉ t.changed) (hn : (t.plans i).nextCall?.any Call.isMutation = true)
    (hc : (changes i).isSome = true)
    (hs : ((t.plans i).advance t.store).2 = t.store.changedBy (changes i))
    (ho : (t.move i).outcome? i = some (outcomes i)) :
    Underway start commands changes outcomes (t.move i) := by
  have hchanged : (t.move i).changed = t.changed ++ [i] := by simp [Traffic.move, hn]
  have hstore : (t.move i).store = t.store.changedBy (changes i) := hs
  constructor
  · rw [hchanged, ← List.concat_eq_append, List.nodup_concat]
    exact ⟨hi, h.once⟩
  · rw [hchanged, hstore, made_concat, h.store]
  · intro j hj
    rw [hchanged, List.mem_append, List.mem_singleton, not_or] at hj
    simpa only [Traffic.move, if_neg hj.2] using h.waiting j hj.1
  · intro j hj
    rw [hchanged, List.mem_append, List.mem_singleton] at hj
    by_cases hne : j = i
    · subst hne
      exact ⟨hc, ho⟩
    · rw [outcome?_move_of_ne hne]
      exact h.finished j (hj.resolve_right hne)

/-- What every move keeps. A command that has its outcome does nothing more; one that waits finds
at the store what was decided on, since all changes before it were for other ports. -/
theorem Underway.move (hd : Decision start commands changes outcomes)
    (h : Underway start commands changes outcomes t) (i : ι) :
    Underway start commands changes outcomes (t.move i) := by
  by_cases hi : i ∈ t.changed
  · obtain ⟨result, hr, -⟩ := Option.map_eq_some_iff.mp (h.finished i hi).2
    obtain ⟨hn, hs, hr'⟩ := Plan.advance_of_result? hr t.store
    refine h.still (by rw [hn]; rfl) hs (fun hni => absurd hi hni) fun _ => ?_
    rw [outcome?_move_self, hr', ← hr]
    rfl
  · have hk := (hd.keeps h.once).2 i hi
    rw [← h.store] at hk
    rcases (h.waiting i hi).advance hk with ⟨hn, hs, hw⟩ | ⟨hn, hc, hs, ho⟩
    · exact h.still hn hs (fun _ => hw) fun hmem => absurd hmem hi
    · exact h.change hi hn hc hs ((outcome?_move_self i).trans ho)

theorem Underway.run (hd : Decision start commands changes outcomes)
    (h : Underway start commands changes outcomes t) (schedule : List ι) :
    Underway start commands changes outcomes (t.run schedule) := by
  induction schedule generalizing t with
  | nil => exact h
  | cons i schedule ih => exact ih (h.move hd i)

/-- Once all have come to an end, each has its outcome, and just those have made a change that had
one to make. -/
theorem Underway.ended (h : Underway start commands changes outcomes t) (he : t.Ended) (i : ι) :
    t.outcome? i = some (outcomes i) ∧ (i ∈ t.changed ↔ (changes i).isSome = true) := by
  by_cases hi : i ∈ t.changed
  · obtain ⟨hc, ho⟩ := h.finished i hi
    exact ⟨ho, by simp only [hi, hc]⟩
  · obtain ⟨hc, ho⟩ := (h.waiting i hi).ended (he i)
    refine ⟨ho, ?_⟩
    simp only [hi, hc, Option.isSome_none, Bool.false_eq_true]

/-- An order in which commands could have come one after the other: those that made a change in the
order of the changes, and the others anywhere. -/
structure SerialOrder (t : Traffic ι) (order : List ι) : Prop where
  once : order.Nodup
  all : ∀ i, i ∈ order
  changes : order.filter (· ∈ t.changed) = t.changed

theorem exists_serialOrder [Finite ι] (h : t.changed.Nodup) : ∃ order, t.SerialOrder order := by
  obtain ⟨all, hn, hall⟩ := Finite.exists_univ_list ι
  refine ⟨t.changed ++ all.filter (· ∉ t.changed), ?_, ?_, ?_⟩
  · rw [List.nodup_append]
    refine ⟨h, hn.filter _, ?_⟩
    rintro i hi j hj rfl
    simp only [List.mem_filter, decide_eq_true_eq] at hj
    exact hj.2 hi
  · intro i
    by_cases hi : i ∈ t.changed <;> simp [hi, hall]
  · rw [List.filter_append, List.filter_filter]
    simp

/-- The commands that make no change leave no trace in the store. -/
theorem made_of_serialOrder {order : List ι} (ho : t.SerialOrder order)
    (hc : ∀ i, i ∈ t.changed ↔ (changes i).isSome = true) :
    made start changes order = made start changes t.changed := by
  rw [← ho.changes, made, made, List.foldl_filter]
  congr 1
  funext store i
  by_cases hi : i ∈ t.changed
  · simp only [hi, decide_true, if_true]
  · have hn : changes i = none := by simpa [hc i] using hi
    simp only [hi, hn, decide_false, Bool.false_eq_true, if_false, Store.changedBy]

/-- Commands for different ports that share a store are linearizable. However their calls come to
it, the store in the end and what each command reports are as if they had come one after the other,
in any order that has their changes as they were made. -/
theorem linearizable [Finite ι] (start : Store) (hi : start.Initial) (commands : ι → Command)
    (hp : Apart commands) (schedule : List ι)
    (he : ((Traffic.start start commands).run schedule).Ended) :
    (∃ order, ((Traffic.start start commands).run schedule).SerialOrder order) ∧
    ∀ order, ((Traffic.start start commands).run schedule).SerialOrder order →
      start.after (order.map fun i => ⟨commands i, none, none⟩) =
        ((Traffic.start start commands).run schedule).store ∧
      ∀ before i after, order = before ++ i :: after →
        ∃ outcome, ((Traffic.start start commands).run schedule).outcome? i = some outcome ∧
          (commands i).Reports (start.after (before.map fun j => ⟨commands j, none, none⟩))
            outcome := by
  choose changes outcomes hdecided using fun i => (commands i).exists_decided start
  have hd : Decision start commands changes outcomes := ⟨hi.sound, hp, hdecided⟩
  have hu := (underway_start hd).run hd schedule
  generalize (Traffic.start start commands).run schedule = t at he hu
  refine ⟨exists_serialOrder hu.once, fun order ho => ⟨?_, ?_⟩⟩
  · rw [hd.after_eq ho.once, made_of_serialOrder ho fun i => (hu.ended he i).2, hu.store]
  · rintro before i after rfl
    obtain ⟨hn, hnot⟩ : before.Nodup ∧ i ∉ before := by
      have h := List.nodup_append.mp ho.once
      exact ⟨h.1, fun hm => h.2.2 i hm i (by simp) rfl⟩
    rw [hd.after_eq hn]
    exact ⟨outcomes i, (hu.ended he i).1, (hd.run_alone hn hnot).1⟩

/-- One devurl is created between the listing and the removal of another. -/
theorem linearizable_removal_and_creation :
    let start : Store := ⟨[⟨⟨"e1", "dev"⟩, [⟨"a", "", 8080, none, .owner⟩]⟩], 0⟩
    let commands : Bool → Command := fun i =>
      if i then .upsert ⟨"dev", "9090", "org", ""⟩ else .remove "dev" "8080"
    let t := (Traffic.start start commands).run [false, true, false, true, true, false]
    start.Initial ∧ Apart commands ∧ t.Ended ∧ t.SerialOrder [true, false] ∧
      start.after [⟨commands true, none, none⟩, ⟨commands false, none, none⟩] = t.store := by
  intro start commands t
  have hi : start.Initial := by
    refine ⟨by decide, by decide, ?_⟩
    have heads : ∀ h ∈ start.holdings, ∀ u ∈ h.urls, u.id.toList.head? ≠ some 'n' := by decide
    exact fun h hh u hu => ne_newId (heads h hh u hu)
  have hp : Apart commands := by
    have ports : ∀ i, (commands i).port? = some (if i then 9090 else 8080) := by decide
    intro i j port hi hj
    rw [ports] at hi hj
    have differ : ∀ i j : Bool, (if i then (9090 : UInt16) else 8080) =
        (if j then 9090 else 8080) → i = j := by decide
    exact differ i j ((Option.some.inj hi).trans (Option.some.inj hj).symm)
  have he : t.Ended := by
    intro i
    cases i <;> rfl
  have ho : t.SerialOrder [true, false] := ⟨by decide, by decide, by decide⟩
  exact ⟨hi, hp, he, ho, ((linearizable start hi commands hp _ he).2 _ ho).1⟩

end interleaving

end Traffic

end PortShare
