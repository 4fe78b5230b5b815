import PortShare.Proofs.Utf8
import PortShare.Proofs.Visit
import PortShare.Session

/-! What room there is for the output of a command decides how much of it is written, and nothing
else: by then the calls have been made. -/

namespace PortShare

/-- Writes pieces one after the other. One that does not find room is the last. -/
def deliverEach (room : Option Nat) : List String → Except Failure Unit × Bytes
  | [] => (.ok (), [])
  | piece :: pieces =>
    match deliver room piece with
    | (.error e, out) => (.error e, out)
    | (.ok (), out) =>
      let (written, rest) := deliverEach (room.map (· - out.length)) pieces
      (written, out ++ rest)

/-- The failure that an output with too little room is. -/
def noRoom : Failure := .outputFailed "failed to write whole buffer"

theorem deliver_none (text : String) : deliver none text = (.ok (), Utf8.bytes text) := rfl

theorem deliver_some (n : Nat) (text : String) :
    deliver (some n) text =
      (if (Utf8.bytes text).length ≤ n then .ok () else .error noRoom,
        (Utf8.bytes text).take n) := by
  unfold deliver
  by_cases h : (Utf8.bytes text).length ≤ n
  · simp only [h, if_true, List.take_of_length_le]
  · simp only [h, if_false, noRoom]

theorem bytes_append (s t : String) : Utf8.bytes (s ++ t) = Utf8.bytes s ++ Utf8.bytes t := by
  simp only [Utf8.bytes, String.toList_append, Utf8.encode_append]

/-- Pieces come out as the whole text does. -/
theorem deliverEach_eq (room : Option Nat) (pieces : List String) :
    deliverEach room pieces = deliver room (String.join pieces) := by
  induction pieces generalizing room with
  | nil => cases room <;> rfl
  | cons piece pieces ih =>
    rw [String.join_cons]
    cases room with
    | none => simp only [deliverEach, deliver_none, Option.map_none, ih, bytes_append]
    | some n =>
      simp only [deliverEach, deliver_some, Option.map_some, ih, bytes_append, List.length_append]
      by_cases h : (Utf8.bytes piece).length ≤ n
      · have hle : (Utf8.bytes (String.join pieces)).length ≤ n - (Utf8.bytes piece).length ↔
            (Utf8.bytes piece).length + (Utf8.bytes (String.join pieces)).length ≤ n := by omega
        simp only [h, if_true, List.take_append, List.take_of_length_le, hle]
      · have hn : n ≤ (Utf8.bytes piece).length := by omega
        have hlt : ¬ (Utf8.bytes piece).length +
            (Utf8.bytes (String.join pieces)).length ≤ n := by omega
        simp only [h, hlt, if_false, List.take_append_of_le_length hn]

/-- With little room, what is printed is the beginning of what is printed with all there is. -/
theorem Completion.print_some (n : Nat) (done : Completion) :
    done.print (some n) =
      (if (done.print none).2.length ≤ n then (done.print none).1 else .error noRoom,
        (done.print none).2.take n) := by
  obtain ⟨outcome, text⟩ := done
  cases text with
  | none => simp only [print, List.length_nil, Nat.zero_le, if_true, List.take_nil]
  | some text =>
    simp only [print, deliver_none, deliver_some]
    by_cases h : (Utf8.bytes text).length ≤ n
    · simp only [h, if_true]
    · simp only [h, if_false]
      rfl

/-- A completion is not printed because there is no room for it, or because it cannot be laid out;
then nothing is written. -/
theorem Completion.error_of_print {room : Option Nat} {done : Completion} {e : Failure}
    (h : (done.print room).1 = .error e) :
    e = noRoom ∧ room ≠ none ∨
      done.text = none ∧ e = .panicked Report.tooWide ∧ (done.print room).2 = [] := by
  obtain ⟨outcome, text⟩ := done
  cases text with
  | none => exact .inr ⟨rfl, (Except.error.inj h).symm, rfl⟩
  | some text =>
    left
    cases room with
    | none => cases h
    | some n =>
      simp only [print, deliver_some] at h
      split at h
      · cases h
      · exact ⟨(Except.error.inj h).symm, nofun⟩

namespace Command

variable {σ : Type}

/-- A command with little room does what it does with all the room there is. -/
theorem run_some (service : Service σ) (n : Nat) (c : Command) (s : σ) :
    c.run service (some n) s =
      (if (c.run service none s).2.1.length ≤ n then (c.run service none s).1 else .error noRoom,
        (c.run service none s).2.1.take n, (c.run service none s).2.2) := by
  simp only [run_eq]
  cases (c.plan.run service s).1 with
  | error e => simp only [report, List.length_nil, Nat.zero_le, if_true, List.take_nil]
  | ok done => exact congrArg (fun p => (p.1, p.2, (c.plan.run service s).2)) (done.print_some n)

/-- A command fails as its plan does, or when its result is printed. -/
theorem error_of_run {service : Service σ} {room : Option Nat} {c : Command} {s : σ} {e : Failure}
    (h : (c.run service room s).1 = .error e) : (c.plan.run service s).1 = .error e ∨
      e = noRoom ∨ e = .panicked Report.tooWide := by
  rw [run_eq] at h
  cases hp : (c.plan.run service s).1 with
  | error e' =>
    rw [hp] at h
    exact .inl (congrArg Except.error (Except.error.inj h))
  | ok done =>
    rw [hp] at h
    exact .inr ((Completion.error_of_print h).imp And.left fun h => h.2.1)

end Command

/-- Of a course that fails no change has been made. -/
theorem Course.error_of_mutation {c : Command} {ts : List Turn} {e : Failure}
    (h : Course c ts (.error e)) {t : Turn} (ht : t ∈ ts) (hm : t.call.isMutation = true) :
    ∃ e', t.answer = .error e' := by
  obtain ⟨env, urls, o, -, -, hr⟩ := h.change_of_mem ht hm
  cases ha : t.answer with
  | error e' => exact ⟨e', rfl⟩
  | ok a => cases hr a ha

theorem Course.effect_of_error {c : Command} {ts : List Turn} {e : Failure}
    (h : Course c ts (.error e)) (store : Store) : ts.foldl Turn.effect store = store := by
  refine Turn.effect_of_still fun t ht => ?_
  cases hm : t.call.isMutation with
  | false => exact Turn.effect_of_read store hm
  | true =>
    obtain ⟨e', he⟩ := h.error_of_mutation ht hm
    simp only [Turn.effect, he]

/-- A command that fails, but not for the room there is, has written nothing and changed nothing:
what cannot be laid out is a listing. -/
theorem Step.still_of_error {store : Store} {step : Step} {e : Failure}
    (h : (step.run store).1 = .error e) (he : e ≠ noRoom) :
    (step.run store).2.1 = [] ∧ step.after store = store := by
  have hc := step.command.course Visit.service ⟨store, step.trouble, []⟩
  have hrun := Command.run_eq Visit.service step.room step.command ⟨store, step.trouble, []⟩
  rw [Step.run, hrun] at h
  rw [Step.after, Step.run, hrun, Plan.store_run]
  cases hp : (step.command.plan.run Visit.service ⟨store, step.trouble, []⟩).1 with
  | error e' =>
    rw [hp] at hc
    exact ⟨rfl, hc.effect_of_error store⟩
  | ok done =>
    rw [hp] at h hc
    obtain ⟨htext, -, hout⟩ := (Completion.error_of_print h).resolve_left fun hn => he hn.1
    refine ⟨hout, ?_⟩
    rcases Command.text_of_course hc with ⟨text, ht⟩ | ⟨name, env, urls, -, -, hts, -⟩
    · rw [htext] at ht
      cases ht
    · refine Turn.effect_of_still fun t ht => Turn.effect_of_read store ?_
      rw [hts] at ht
      rcases List.mem_cons.mp ht with rfl | ht
      · rfl
      · exact List.mem_singleton.mp ht ▸ rfl

/-- With room for `n` bytes a step makes the same calls and leaves the same store as with room for
all. It writes the first `n` bytes, in whatever pieces they come, and fails if those are not all. A
step that fails in any other way has written and changed nothing. -/
theorem Step.room_for_output (store : Store) (c : Command) (trouble : Option Trouble) :
    let full := (⟨c, trouble, none⟩ : Step).run store
    (∀ n, (⟨c, trouble, some n⟩ : Step).run store =
      (if full.2.1.length ≤ n then full.1 else .error noRoom, full.2.1.take n, full.2.2)) ∧
    (∀ n pieces, Utf8.bytes (String.join pieces) = full.2.1 → deliverEach (some n) pieces =
      (if full.2.1.length ≤ n then .ok () else .error noRoom, full.2.1.take n)) ∧
    ∀ room e, ((⟨c, trouble, room⟩ : Step).run store).1 = .error e → e ≠ noRoom →
      ((⟨c, trouble, room⟩ : Step).run store).2.1 = [] ∧
        (⟨c, trouble, room⟩ : Step).after store = store := by
  intro full
  refine ⟨fun n => c.run_some Visit.service n _, fun n pieces hp => ?_, fun room e h he => ?_⟩
  · rw [deliverEach_eq, deliver_some, hp]
  · exact Step.still_of_error h he

/-- A devurl is created although its line is cut short, and a port that nothing is on is left so. -/
theorem Step.room_for_half_a_line :
    let start : Store := ⟨[⟨⟨"e1", "dev"⟩, []⟩], 0⟩
    let creation : Step := ⟨.upsert ⟨"dev", "3000", "org", ""⟩, none, some 12⟩
    let removal : Step := ⟨.remove "dev" "3000", none, some 12⟩
    (creation.run start).1 = .error noRoom ∧
      (creation.run start).2.1 = Utf8.bytes "created devu" ∧
      (creation.after start).created = 1 ∧
      deliverEach (some 12) ["created devurl for port ", "3000", "\n"] =
        (.error noRoom, Utf8.bytes "created devu") ∧
      removal.after start = start := by
  intro start creation removal
  obtain ⟨hcut, hpieces, -⟩ := Step.room_for_output start creation.command none
  obtain ⟨-, -, hstill⟩ := Step.room_for_output start removal.command none
  have hout : ((⟨creation.command, none, none⟩ : Step).run start).2.1 =
      Utf8.bytes "created devurl for port 3000\n" := by decide +kernel
  have hrun := hcut 12
  have hpieces := hpieces 12 ["created devurl for port ", "3000", "\n"] hout.symm
  rw [hout] at hrun hpieces
  refine ⟨?_, ?_, ?_, hpieces, ?_⟩
  · exact congrArg Prod.fst hrun
  · exact congrArg (fun result => result.2.1) hrun
  · exact congrArg (fun result => result.2.2.store.created) hrun
  · exact (hstill (some 12) (.notFound "dev" 3000) rfl nofun).2

end PortShare
