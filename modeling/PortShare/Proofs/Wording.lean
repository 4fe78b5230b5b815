import PortShare.Proofs.Course
import PortShare.Proofs.Quoted
import PortShare.Proofs.Utf8
import PortShare.Store

/-! Messages that quote what was typed. Each is one line, and what is wrong and what was typed can
be told from it, whatever was typed. -/

namespace PortShare

namespace Failure

/-- A failure whose message quotes what was typed. -/
inductive Quotation where
  | invalidPort (typed : String) (fault : PortFault)
  | invalidAccessLevel (level : String)
  | invalidName (name : String)
  | environmentNotFound (name : String)
  | notFound (environment : String) (port : UInt16)
  deriving DecidableEq, Repr

namespace Quotation

def failure : Quotation → Failure
  | .invalidPort typed fault => .invalidPort typed fault.reason
  | .invalidAccessLevel level => .invalidAccessLevel level
  | .invalidName name => .invalidName name
  | .environmentNotFound name => .environmentNotFound name
  | .notFound environment port => .notFound environment port

/-- What the message for a missing port begins with. -/
def absence (port : UInt16) : String :=
  "no devurl found for port " ++ Numeral.decimal port.toNat ++ " in environment "

/-- What stands in front of the quoted text. -/
def front : Quotation → String
  | .invalidPort .. => "invalid port "
  | .invalidAccessLevel _ => "invalid access level "
  | .invalidName _ => "invalid devurl name "
  | .environmentNotFound _ => "environment "
  | .notFound _ port => absence port

def text : Quotation → String
  | .invalidPort typed _ => typed
  | .invalidAccessLevel level => level
  | .invalidName name | .environmentNotFound name | .notFound name _ => name

/-- What stands behind the quoted text. -/
def back : Quotation → String
  | .invalidPort _ fault => ": " ++ fault.reason
  | .invalidAccessLevel _ | .notFound .. => ""
  | .invalidName _ =>
    ": name must be < 64 chars in length, begin with a letter and only contain letters or digits"
  | .environmentNotFound _ => " not found"

theorem message_eq (q : Quotation) :
    q.failure.message = q.front ++ quote q.text ++ q.back := by
  cases q with
  | invalidPort typed fault => exact String.append_assoc
  | invalidAccessLevel | notFound => exact String.append_empty.symm
  | invalidName | environmentNotFound => rfl

theorem toList_absence (port : UInt16) :
    (absence port).toList = "no devurl found for port ".toList ++
      (Numeral.digits 10 port.toNat ++ " in environment ".toList) := by
  -- unfolded by its name it would be evaluated, letter by letter
  have h : absence port =
      "no devurl found for port " ++ Numeral.decimal port.toNat ++ " in environment " := rfl
  rw [h, String.toList_append, String.toList_append, Numeral.toList_decimal, List.append_assoc]

theorem isShown_front (q : Quotation) : IsShown q.front.toList := by
  cases q with
  | invalidPort | invalidAccessLevel | invalidName | environmentNotFound =>
    simp only [front]
    exact isShown_of_isPrintable (by decide)
  | notFound environment port =>
    rw [front, toList_absence]
    apply IsShown.append
    · exact isShown_of_isPrintable (by decide)
    · exact (isShown_digits (by decide) (by decide) _).append (isShown_of_isPrintable (by decide))

theorem isShown_back (q : Quotation) : IsShown q.back.toList := by
  cases q with
  | invalidPort typed fault =>
    simp only [back]
    cases fault <;> exact isShown_of_isPrintable (by decide)
  | invalidAccessLevel | notFound | invalidName | environmentNotFound =>
    simp only [back]
    exact isShown_of_isPrintable (by decide)

theorem isShown_message (q : Quotation) : IsShown q.failure.message.toList := by
  rw [message_eq, String.toList_append, String.toList_append]
  exact (q.isShown_front.append (isShown_quote _)).append q.isShown_back

theorem quote_not_mem_front (q : Quotation) : '"' ∉ q.front.toList := by
  cases q with
  | invalidPort | invalidAccessLevel | invalidName | environmentNotFound =>
    simp only [front]
    decide
  | notFound environment port =>
    have all : ∀ d : Fin 10, '"' ≠ Numeral.digit d := by decide
    rw [front, toList_absence, List.mem_append, List.mem_append]
    rintro (h | h | h)
    · exact absurd h (by decide)
    · obtain ⟨d, hd, he⟩ := Numeral.exists_digit_of_mem (by decide) h
      exact all ⟨d, hd⟩ he
    · exact absurd h (by decide)

theorem absence_inj {port port' : UInt16} (h : absence port = absence port') : port = port' := by
  have hlist := congrArg String.toList h
  rw [toList_absence, toList_absence, List.append_cancel_left_eq,
    List.append_cancel_right_eq] at hlist
  have hdecimal : Numeral.decimal port.toNat = Numeral.decimal port'.toNat :=
    congrArg String.ofList hlist
  exact UInt16.toNat_inj.mp (Numeral.decimal_inj.mp hdecimal)

/-- No other message begins as the one for a missing port. -/
theorem exists_of_front_eq_absence {q : Quotation} {port : UInt16} (h : q.front = absence port) :
    ∃ environment, q = .notFound environment port := by
  have ne_absence {s : String} (hs : s.toList.head? ≠ some 'n') : s ≠ absence port := by
    rintro rfl
    apply hs
    rw [toList_absence]
    rfl
  cases q with
  | invalidPort => exact absurd h (ne_absence (s := "invalid port ") (by decide))
  | invalidAccessLevel => exact absurd h (ne_absence (s := "invalid access level ") (by decide))
  | invalidName => exact absurd h (ne_absence (s := "invalid devurl name ") (by decide))
  | environmentNotFound => exact absurd h (ne_absence (s := "environment ") (by decide))
  | notFound environment port' => exact ⟨environment, by rw [absence_inj h]⟩

theorem reason_inj {fault fault' : PortFault} (h : ": " ++ fault.reason = ": " ++ fault'.reason) :
    fault = fault' := by
  cases fault with
  | notDecimal =>
    cases fault' with
    | notDecimal => rfl
    | tooLarge | zero => exact absurd h (by decide)
  | tooLarge =>
    cases fault' with
    | tooLarge => rfl
    | notDecimal | zero => exact absurd h (by decide)
  | zero =>
    cases fault' with
    | zero => rfl
    | notDecimal | tooLarge => exact absurd h (by decide)

/-- The three parts of a message tell what it says. -/
theorem eq_of_parts {q r : Quotation} (hfront : q.front = r.front) (htext : q.text = r.text)
    (hback : q.back = r.back) : q = r := by
  cases q with
  | notFound name port =>
    obtain ⟨name', rfl⟩ := exists_of_front_eq_absence hfront.symm
    exact congrArg (notFound · port) htext
  | invalidPort typed fault =>
    cases r with
    | invalidPort typed' fault' =>
      obtain rfl : typed = typed' := htext
      rw [reason_inj hback]
    | invalidAccessLevel | invalidName | environmentNotFound => simp [front] at hfront
    | notFound => obtain ⟨_, ⟨⟩⟩ := exists_of_front_eq_absence hfront
  | invalidAccessLevel level =>
    cases r with
    | invalidAccessLevel level' => exact congrArg invalidAccessLevel htext
    | invalidPort | invalidName | environmentNotFound => simp [front] at hfront
    | notFound => obtain ⟨_, ⟨⟩⟩ := exists_of_front_eq_absence hfront
  | invalidName name =>
    cases r with
    | invalidName name' => exact congrArg invalidName htext
    | invalidPort | invalidAccessLevel | environmentNotFound => simp [front] at hfront
    | notFound => obtain ⟨_, ⟨⟩⟩ := exists_of_front_eq_absence hfront
  | environmentNotFound name =>
    cases r with
    | environmentNotFound name' => exact congrArg environmentNotFound htext
    | invalidPort | invalidAccessLevel | invalidName => simp [front] at hfront
    | notFound => obtain ⟨_, ⟨⟩⟩ := exists_of_front_eq_absence hfront

/-- The first quote of a message opens the text, and the text shows where it ends. -/
theorem message_inj {q r : Quotation} (h : q.failure.message = r.failure.message) : q = r := by
  have toList_message (q : Quotation) : q.failure.message.toList =
      q.front.toList ++ '"' :: (Quoted.escape q.text.toList ++ '"' :: q.back.toList) := by
    rw [message_eq, String.toList_append, String.toList_append, toList_quote, Quoted.chars]
    simp
  have hlist := congrArg String.toList h
  rw [toList_message, toList_message] at hlist
  have free (q : Quotation) : ∀ c ∈ q.front.toList, c ≠ '"' := by
    intro c hc
    exact ne_of_mem_of_not_mem hc q.quote_not_mem_front
  obtain ⟨hfront, -, hbehind⟩ := split_unique (p := (· = '"')) hlist rfl rfl (free q) (free r)
  obtain ⟨htext, hback⟩ := Quoted.escape_append_inj hbehind
  exact eq_of_parts (String.toList_inj.mp hfront) (String.toList_inj.mp htext)
    (String.toList_inj.mp hback)

end Quotation

end Failure

section notice

theorem toList_emptyNotice (name : String) : (emptyNotice name).toList =
    "no devURLs found for environment ".toList ++ '"' :: (Quoted.escape name.toList ++ ['"']) := by
  have h : emptyNotice name = "no devURLs found for environment " ++ quote name := rfl
  rw [h, String.toList_append, toList_quote, Quoted.chars]

theorem isShown_emptyNotice (name : String) : IsShown (emptyNotice name).toList := by
  rw [toList_emptyNotice]
  have hfront : IsShown "no devURLs found for environment ".toList :=
    isShown_of_isPrintable (by decide)
  exact hfront.append (Quoted.isShown_chars name.toList)

theorem emptyNotice_inj {name name' : String} (h : emptyNotice name = emptyNotice name') :
    name = name' := by
  have hlist := congrArg String.toList h
  rw [toList_emptyNotice, toList_emptyNotice, List.append_cancel_left_eq] at hlist
  exact String.toList_inj.mp (Quoted.escape_append_inj (List.cons.inj hlist).2).1

/-- A listing for people is answered with an empty list. -/
def ListsNothing {σ : Type} (service : Service σ) (s : σ) (name : String) : Prop :=
  ∃ id, ⟨.list id, .ok []⟩ ∈ (Command.list name .human).plan.turns service s

variable {σ : Type} {service : Service σ} {s : σ} {name : String}

theorem ListsNothing.completion_eq (h : ListsNothing service s name) :
    ((Command.list name .human).plan.run service s).1 = .ok ⟨none, emptyNotice name ++ "\n"⟩ := by
  obtain ⟨id, hmem⟩ := h
  have hcourse := (Command.list name .human).course service s
  generalize (Command.list name .human).plan.turns service s = ts at hmem hcourse
  generalize ((Command.list name .human).plan.run service s).1 = result at hcourse ⊢
  cases hcourse with
  | refused hv => cases hv
  | unresolved _ => cases List.mem_singleton.mp hmem
  | unlisted _ =>
    rcases List.mem_cons.mp hmem with h | h
    · cases h
    · cases List.mem_singleton.mp h
  | listed _ he =>
    cases he with
    | shown hc =>
      cases hc
      rcases List.mem_cons.mp hmem with h | h
      · cases h
      · cases List.mem_singleton.mp h
        rfl
    | absent hc => cases hc
    | failed hc => cases hc
    | changed hc => cases hc

theorem ListsNothing.run_eq (h : ListsNothing service s name) :
    ((Command.list name .human).run service none s).1 = .ok none ∧
      ((Command.list name .human).run service none s).2.1 =
        Utf8.bytes (emptyNotice name ++ "\n") := by
  have hrun := h.completion_eq
  generalize emptyNotice name ++ "\n" = line at hrun ⊢
  rw [Command.run_eq, hrun]
  exact ⟨rfl, rfl⟩

theorem notice_line_inj {name name' : String}
    (h : Utf8.bytes (emptyNotice name ++ "\n") = Utf8.bytes (emptyNotice name' ++ "\n")) :
    name = name' := by
  have hlist := congrArg String.toList (Utf8.bytes_inj.mp h)
  rw [String.toList_append, String.toList_append, List.append_cancel_right_eq] at hlist
  exact emptyNotice_inj (String.toList_inj.mp hlist)

end notice

end PortShare
