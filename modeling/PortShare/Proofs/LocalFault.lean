import PortShare.Program
import PortShare.Proofs.CommandLine.Variables
import PortShare.Proofs.Failure
import PortShare.Proofs.Settings.Check
import PortShare.Proofs.Utf8
import PortShare.Proofs.Validation

/-!
What is wrong at home is found at home. A setting is taken from the first place that gives it and is
judged as it is there, and typed fields are judged as they are typed; if any of this is out of order
nothing is sent. -/

namespace PortShare

open CommandLine (Completes Invocation)

section places

variable (line : Invocation) (around : Surroundings) (file : FileSettings)

/-- The file of settings that the line names, or else the environment. -/
def namedFile : Option String := line.config <|> around.vars.get? "DEVURL_CONFIG"

def firstUrl : Option String := line.url <|> around.vars.get? "DEVURL_URL" <|> file.url

def firstToken : Option String := line.token <|> around.vars.get? "DEVURL_TOKEN" <|> file.token

def firstTimeout : UInt64 := (line.timeout <|> file.timeout).getD 30

/-- What the named file says; where no file is named, nothing is said. -/
inductive FileSays : FileSettings → Prop where
  | unnamed : namedFile line around = none → FileSays {}
  | named {path text : String} {file : FileSettings} : namedFile line around = some path →
      around.readText path = .ok text → FileSettings.parse around.vars text = .ok file →
      FileSays file

end places

/-- Are the typed fields of a command in order? -/
def Command.InOrder : Command → Prop
  | .list .. => True
  | .upsert r => IsPort r.port ∧ upper r.access ∈ accessNames ∧ (r.name = "" ∨ IsProperName r.name)
  | .remove _ typed => IsPort typed

/-- What can be wrong before anything is sent, with a line that is understood. -/
inductive LocalFault (line : Invocation) (around : Surroundings) (c : Command) : Prop where
  | unreadable {path : String} {fault : FileFault} : namedFile line around = some path →
      around.readText path = .error fault → LocalFault line around c
  | unparsable {path text : String} {e : Failure} : namedFile line around = some path →
      around.readText path = .ok text → FileSettings.parse around.vars text = .error e →
      LocalFault line around c
  | noUrl {file : FileSettings} : FileSays line around file → firstUrl line around file = none →
      LocalFault line around c
  | noToken {file : FileSettings} : FileSays line around file →
      firstToken line around file = none → LocalFault line around c
  | url {file : FileSettings} {url : String} : FileSays line around file →
      firstUrl line around file = some url → ¬ IsServiceUrl url → LocalFault line around c
  | token {file : FileSettings} {token : String} : FileSays line around file →
      firstToken line around file = some token → IsBlank token → LocalFault line around c
  | timeout {file : FileSettings} : FileSays line around file →
      ¬ (1 ≤ (firstTimeout line file).toNat ∧ (firstTimeout line file).toNat ≤ 600) →
      LocalFault line around c
  | typed : ¬ c.InOrder → LocalFault line around c

section settings

variable {line i : Invocation} {around : Surroundings}

theorem fileSettings_eq_ok_iff (h : Completes around.vars line i) {file : FileSettings} :
    i.fileSettings around = .ok file ↔ FileSays line around file := by
  have hname : i.config = namedFile line around := h.config
  unfold Invocation.fileSettings
  rw [hname]
  constructor
  · intro hf
    split at hf
    · next hn =>
      cases hf
      exact .unnamed hn
    · next path hn =>
      split at hf
      · cases hf
      · next text ht => exact .named hn ht hf
  · intro hs
    cases hs with
    | unnamed hn => rw [hn]
    | named hn ht hp => simp only [hn, ht, hp]

theorem FileSays.unique {file file' : FileSettings} (hfile : FileSays line around file)
    (h : Completes around.vars line i) (hfile' : FileSays line around file') : file = file' := by
  rw [← fileSettings_eq_ok_iff h] at hfile hfile'
  exact Except.ok.inj (hfile.symm.trans hfile')

theorem isConfiguration_of_parse {vars : Variables} {text : String} {e : Failure}
    (h : FileSettings.parse vars text = .error e) : e.IsConfiguration := by
  unfold FileSettings.parse at h
  split at h
  · cases h
  · exact ⟨_, (Except.error.inj h).symm⟩

theorem isConfiguration_of_fileSettings {e : Failure} (h : i.fileSettings around = .error e) :
    e.IsConfiguration := by
  unfold Invocation.fileSettings at h
  split at h
  · cases h
  · split at h
    · exact ⟨_, (Except.error.inj h).symm⟩
    · exact isConfiguration_of_parse h

/-- The settings of a run are the first that are given, and they are in order. -/
theorem checkedSettings_eq_ok_iff (h : Completes around.vars line i) {s : Settings} :
    i.checkedSettings around = .ok s ↔ ∃ file, FileSays line around file ∧
      firstUrl line around file = some s.url ∧ firstToken line around file = some s.token ∧
      firstTimeout line file = s.timeout ∧ s.InOrder := by
  have assoc (a b c : Option String) : ((a <|> b) <|> c) = (a <|> b <|> c) := by cases a <;> rfl
  have hmerge {file : FileSettings} :
      Settings.merge ⟨i.url, i.token, i.timeout⟩ file = .ok s ↔
        firstUrl line around file = some s.url ∧ firstToken line around file = some s.token ∧
        firstTimeout line file = s.timeout := by
    rw [Settings.merge_eq_ok_iff, h.url, h.token, h.timeout, assoc, assoc]
    rfl
  unfold Invocation.checkedSettings Invocation.settings
  cases hf : i.fileSettings around with
  | error e =>
    simp only [reduceCtorEq, false_iff, not_exists, not_and]
    intro file hfile
    rw [← fileSettings_eq_ok_iff h, hf] at hfile
    cases hfile
  | ok file =>
    have hfile := (fileSettings_eq_ok_iff h).mp hf
    simp only
    constructor
    · intro hs
      cases hm : Settings.merge ⟨i.url, i.token, i.timeout⟩ file with
      | error e =>
        rw [hm] at hs
        cases hs
      | ok s' =>
        rw [hm] at hs
        obtain ⟨_, hcheck, rfl⟩ := Json.ok_of_map hs
        obtain ⟨hurl, htoken, htimeout⟩ := hmerge.mp hm
        exact ⟨file, hfile, hurl, htoken, htimeout, Settings.check_eq_ok_iff.mp hcheck⟩
    · rintro ⟨file', hfile', hurl, htoken, htimeout, hin⟩
      obtain rfl := hfile'.unique h hfile
      simp only [hmerge.mpr ⟨hurl, htoken, htimeout⟩, Settings.check_eq_ok_iff.mpr hin]
      rfl

theorem isConfiguration_of_checkedSettings {e : Failure} (h : i.checkedSettings around = .error e) :
    e.IsConfiguration := by
  unfold Invocation.checkedSettings Invocation.settings at h
  cases hf : i.fileSettings around with
  | error e' =>
    simp only [hf] at h
    exact Except.error.inj h ▸ isConfiguration_of_fileSettings hf
  | ok file =>
    simp only [hf] at h
    cases hm : Settings.merge ⟨i.url, i.token, i.timeout⟩ file with
    | error e' =>
      simp only [hm] at h
      exact Except.error.inj h ▸ Settings.isConfiguration_of_merge hm
    | ok s =>
      simp only [hm] at h
      cases hc : s.check with
      | error e' =>
        rw [hc] at h
        exact Except.error.inj h ▸ Settings.isConfiguration_of_check hc
      | ok _ =>
        rw [hc] at h
        cases h

end settings

namespace Command

variable {c : Command}

theorem verdict_eq_ok_iff : c.verdict = .ok () ↔ c.InOrder := by
  have exists_ok {α : Type} {x : Except Failure α} :
      x.map (fun _ => ()) = .ok () ↔ ∃ a, x = .ok a := by
    cases x <;> simp [Except.map]
  cases c with
  | list name format => simp [verdict, InOrder]
  | upsert r =>
    rw [verdict, exists_ok, InOrder, ← exists_readPort_iff, ← AccessLevel.exists_ofName?_iff,
      ← isName_iff_isProperName]
    simp only [check_eq_ok_iff]
    constructor
    · rintro ⟨_, port, access, hp, ha, hn, -⟩
      exact ⟨⟨port, hp⟩, ⟨access, ha⟩, hn⟩
    · rintro ⟨⟨port, hp⟩, ⟨access, ha⟩, hn⟩
      exact ⟨_, port, access, hp, ha, hn, rfl⟩
  | remove name typed =>
    rw [verdict, exists_ok, InOrder, ← exists_readPort_iff]
    simp only [checkPort_eq_ok_iff]

end Command

/-- A run that ends with nothing sent and nothing printed, and with the code for such ends. -/
structure Finished.Refused (f : Finished) : Prop where
  requests : f.requests = []
  output : f.output = []
  exitCode : f.exitCode = 2

namespace Program

variable {line i : Invocation} {around : Surroundings} {c : Command}

/-- A fault leaves the run without settings, or the command without fields that are in order. -/
theorem refused_of_localFault (h : Completes around.vars line i) (hf : LocalFault line around c) :
    (∃ e, i.checkedSettings around = .error e) ∨ ∃ e, c.verdict = .error e := by
  by_contra hn
  simp only [not_or, not_exists] at hn
  obtain ⟨s, hs⟩ : ∃ s, i.checkedSettings around = .ok s := by
    cases hx : i.checkedSettings around with
    | error e => exact absurd hx (hn.1 e)
    | ok s => exact ⟨s, rfl⟩
  have hc : c.InOrder := by
    rw [← Command.verdict_eq_ok_iff]
    cases hx : c.verdict with
    | error e => exact absurd hx (hn.2 e)
    | ok _ => rfl
  obtain ⟨file, hfile, hurl, htoken, htimeout, hin⟩ := (checkedSettings_eq_ok_iff h).mp hs
  -- a fault of a setting speaks of what the file says, and the run has read the same
  have said {file' : FileSettings} (hfile' : FileSays line around file') : file' = file :=
    hfile'.unique h hfile
  cases hf with
  | unreadable hname hread =>
    cases hfile with
    | unnamed hname' =>
      rw [hname] at hname'
      cases hname'
    | named hname' hread' _ =>
      obtain rfl := Option.some.inj (hname.symm.trans hname')
      rw [hread] at hread'
      cases hread'
  | unparsable hname hread hparse =>
    cases hfile with
    | unnamed hname' =>
      rw [hname] at hname'
      cases hname'
    | named hname' hread' hparse' =>
      obtain rfl := Option.some.inj (hname.symm.trans hname')
      obtain rfl := Except.ok.inj (hread.symm.trans hread')
      rw [hparse] at hparse'
      cases hparse'
  | noUrl hfile' hnone =>
    rw [said hfile', hurl] at hnone
    cases hnone
  | noToken hfile' hnone =>
    rw [said hfile', htoken] at hnone
    cases hnone
  | url hfile' hfirst hbad =>
    rw [said hfile', hurl] at hfirst
    exact hbad (Option.some.inj hfirst ▸ hin.url)
  | token hfile' hfirst hblank =>
    rw [said hfile', htoken] at hfirst
    exact hin.token (Option.some.inj hfirst ▸ hblank)
  | timeout hfile' hbad =>
    rw [said hfile', htimeout] at hbad
    exact hbad hin.timeout
  | typed hbad => exact hbad hc

/-- What a run does comes to nothing but a failure, of which the user is told. -/
def Stops (x : Http.Exchange) (r : Except Failure (Option Outcome) × Bytes × Http.Exchange) :
    Prop :=
  ∃ e y, r = (.error e, [], y) ∧ e.exitCode = 2 ∧ y.requests = x.requests

theorem stops_work {e : Failure} (h : c.verdict = .error e) (settings : Settings)
    (proxies : Http.Proxies) (x : Http.Exchange) : Stops x (work settings proxies c x) := by
  unfold work
  dsimp only
  split
  · next e' hc =>
    unfold Http.Client.ofSettings at hc
    split at hc
    · cases hc
    · cases hc
      exact ⟨_, _, rfl, rfl, rfl⟩
  · have he := (Command.isTyped_of_verdict h).exitCode
    unfold Command.run
    rcases Command.refuses_plan h with hp | ⟨entry, hp⟩
    · rw [hp]
      exact ⟨e, _, rfl, he, rfl⟩
    · rw [hp]
      exact ⟨e, _, rfl, he, rfl⟩

theorem stops_act (h : Completes around.vars line i) (ha : i.action = .run c)
    (hf : LocalFault line around c) (x : Http.Exchange) : Stops x (act i around x) := by
  unfold act
  rw [ha]
  dsimp only
  cases hs : i.checkedSettings around with
  | error e => exact ⟨e, x, rfl, (isConfiguration_of_checkedSettings hs).exitCode, rfl⟩
  | ok settings =>
    rcases refused_of_localFault h hf with ⟨e, he⟩ | ⟨e, he⟩
    · rw [hs] at he
      cases he
    · exact stops_work he settings _ x

theorem refused_invoke (h : Completes around.vars line i) (ha : i.action = .run c)
    (hf : LocalFault line around c) (replies : List Http.Reply) :
    (invoke i around replies).Refused := by
  obtain ⟨e, y, hact, he, hy⟩ := stops_act h ha hf
    ((Http.Exchange.start replies).note ⟨.debug, "CLI config: " ++ i.action.shown⟩)
  simp only [invoke, hact]
  exact ⟨hy, rfl, he⟩

end Program

/-- With a line that is understood nothing is sent while anything is wrong at home: nothing is
printed, and the code is 2. What counts of a setting is the first that is given, on the line, in the
environment or in the file. The access levels are told in any case, and nothing is sent for them. -/
theorem Program.nothing_sent_on_local_fault {arguments : List String} {around : Surroundings}
    {i : Invocation} (h : CommandLine.read around.vars arguments = .ok i) :
    ∃ line, CommandLine.read [] arguments = .ok line ∧ line.action = i.action ∧
      ∀ screens replies,
        (∀ c, line.action = .run c → LocalFault line around c →
          (run screens arguments around replies).Refused) ∧
        (line.action = .describeAccess →
          (run screens arguments around replies).requests = [] ∧
          (run screens arguments around replies).output = Utf8.bytes Report.accessLevels ∧
          (run screens arguments around replies).exitCode = 0) := by
  obtain ⟨line, hline, hc⟩ := CommandLine.read_bare h
  refine ⟨line, hline, hc.action.symm, fun screens replies => ?_⟩
  rw [run, h, ← hc.action]
  refine ⟨fun c ha hf => refused_invoke hc ha hf replies, fun ha => ?_⟩
  simp only [invoke, act, ha, finish, and_true]
  rfl

/-- The environment and the file have URLs that would do, but the one on the line counts. -/
theorem Program.url_of_the_line_judged :
    let text := "[service]\nurl = \"http://127.0.0.1\"\n"
    let around : Surroundings :=
      ⟨[("DEVURL_URL", "http://127.0.0.1"), ("DEVURL_TOKEN", "t"), ("DEVURL_CONFIG", "file")],
        fun _ => .ok (Utf8.bytes text)⟩
    let arguments := ["urls", "rm", "--url", "ftp://127.0.0.1", "dev", "80"]
    (CommandLine.read around.vars arguments).isOk ∧
      ∀ screens replies, (run screens arguments around replies).Refused := by
  intro text around arguments
  have hread : CommandLine.read around.vars arguments =
      .ok ⟨some "ftp://127.0.0.1", some "t", some "file", none, false, false,
        .run (.remove "dev" "80")⟩ := by decide +kernel
  have hbare : CommandLine.read [] arguments =
      .ok ⟨some "ftp://127.0.0.1", none, none, none, false, false, .run (.remove "dev" "80")⟩ := by
    decide +kernel
  have hparse : (FileSettings.parse around.vars text).toOption =
      some ⟨some "http://127.0.0.1", none, none⟩ := by decide +kernel
  have hscheme : (Url.read "ftp://127.0.0.1").toOption.map Url.scheme = some "ftp".toList := by
    decide +kernel
  obtain ⟨line, hline, -, hrun⟩ := nothing_sent_on_local_fault hread
  obtain rfl := Except.ok.inj (hbare.symm.trans hline)
  refine ⟨by rw [hread]; rfl, fun screens replies => (hrun screens replies).1 _ rfl ?_⟩
  cases hp : FileSettings.parse around.vars text with
  | error e =>
    rw [hp] at hparse
    cases hparse
  | ok file =>
    refine .url (.named rfl ?_ hp) rfl ?_
    · simp only [Surroundings.readText, around, Utf8.text?_bytes]
    · rintro ⟨url, hurl, hs⟩
      rw [hurl] at hscheme
      rw [show url.scheme = "ftp".toList from Option.some.inj hscheme] at hs
      exact absurd hs (by decide)

end PortShare
