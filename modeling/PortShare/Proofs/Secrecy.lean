import PortShare.Program
import PortShare.Proofs.CommandLine.Screens
import PortShare.Proofs.Http.Classification
import PortShare.Proofs.Http.Token

/-!
The session token is not given away. Two runs of the program that differ in the token alone print
the same, say the same and end in the same way, and their requests differ in the pair that holds the
token alone. -/

namespace PortShare

open CommandLine (Invocation Screens)
open Http (Agree Client Exchange Proxies)

/-- What two runs leave behind is the same, but for the tokens in their requests. -/
structure Finished.Alike (s t : String) (f g : Finished) : Prop where
  exitCode : f.exitCode = g.exitCode
  output : f.output = g.output
  remarks : f.remarks = g.remarks
  requests : List.Forall₂ (Http.Request.Alike s t) f.requests g.requests

namespace Program

/-- The exchange of a run when its command begins. -/
def opening (i : Invocation) (settings : Settings) (replies : List Http.Reply) : Exchange :=
  ((Exchange.start replies).note ⟨.debug, "CLI config: " ++ i.action.shown⟩).note
    ⟨.debug, "service settings: " ++ settings.shown⟩

/-- No URL of the run is too long to be sent. -/
def HasShortUrls (as : List String) (around : Surroundings) (replies : List Http.Reply) : Prop :=
  ∀ i c settings client, CommandLine.read around.vars as = .ok i → i.action = .run c →
    i.checkedSettings around = .ok settings →
    Client.ofSettings settings.url settings.token settings.timeout
      (.ofVariables around.vars) = .ok client →
    c.plan.HasShortUrls client (opening i settings replies)

/-- What two runs find that differ in the token alone. What the file of settings says besides it
must not depend on it either. -/
structure Twins (as bs : List String) (around around' : Surroundings)
    (replies : List Http.Reply) : Prop where
  arguments : CommandLine.SameButToken as bs
  vars : around.vars.SameButToken around'.vars
  read : around.read = around'.read
  /-- A line with the word for help is the same in both, unless it is understood. -/
  help : "help" ∈ as → as = bs ∨ ∃ i, CommandLine.read around.vars as = .ok i
  file : ∀ i path text, CommandLine.read around.vars as = .ok i → i.config = some path →
    around.readText path = .ok text → FileSettings.SaysTheSame around.vars around'.vars text
  short : HasShortUrls as around replies
  short' : HasShortUrls bs around' replies

end Program

theorem Http.Proxies.ofVariables_eq {vars vars' : Variables} (hv : vars.SameButToken vars') :
    ofVariables vars = ofVariables vars' := by
  have first (names : List String)
      (hn : ∀ name ∈ names, ¬ Variables.tokenName.toList <+: name.toList) :
      firstOf vars names = firstOf vars' names := by
    unfold firstOf
    congr 1
    induction names with
    | nil => rfl
    | cons name names ih =>
      rw [List.findSome?_cons, List.findSome?_cons, hv.get?_eq _ (hn name List.mem_cons_self),
        ih fun name hm => hn name (List.mem_cons_of_mem _ hm)]
  unfold ofVariables
  rw [hv.get?_eq "REQUEST_METHOD" (by decide)]
  simp only [first ["ALL_PROXY", "all_proxy"] (by decide),
    first ["HTTP_PROXY", "http_proxy"] (by decide),
    first ["HTTPS_PROXY", "https_proxy"] (by decide),
    first ["NO_PROXY", "no_proxy"] (by decide)]

namespace CommandLine

variable {i j : Invocation} {around around' : Surroundings}

theorem token_isSome_of_read {vars : Variables} {as : List String} (h : read vars as = .ok i)
    (ht : (vars.get? Variables.tokenName).isSome) : i.token.isSome := by
  unfold read at h
  cases hr : readLevel vars .root {} as with
  | error e =>
    rw [hr] at h
    cases h
  | ok r =>
    rw [hr] at h
    cases h
    change (r.values.token <|> vars.get? Variables.tokenName).isSome = true
    cases r.values.token with
    | none => exact ht
    | some t => rfl

theorem Invocation.Alike.filter_eq (h : i.Alike j) (hv : around.vars.SameButToken around'.vars) :
    i.filter around = j.filter around' := by
  unfold Invocation.filter
  rw [hv.get?_eq _ (by decide), h.verbose]

/-- The files say the same besides the token, and the same of the token where it counts. -/
theorem fileSettings_alike (h : i.Alike j) {as : List String}
    (hi : read around.vars as = .ok i) (hv : around.vars.SameButToken around'.vars)
    (hread : around.read = around'.read)
    (hfile : ∀ path text, i.config = some path → around.readText path = .ok text →
      FileSettings.SaysTheSame around.vars around'.vars text) :
    ResultRel (fun a b => a.Agree b ∧ (a = b ∨ i.token.isSome)) (i.fileSettings around)
      (j.fileSettings around') := by
  have htext (path : String) : around'.readText path = around.readText path := by
    unfold Surroundings.readText
    rw [hread]
  unfold Invocation.fileSettings
  rw [← h.config]
  cases hc : i.config with
  | none => exact .ok ⟨⟨rfl, rfl⟩, .inl rfl⟩
  | some path =>
    simp only [htext]
    cases ht : around.readText path with
    | error fault => exact .error _
    | ok text =>
      rcases hv.eq_or_isSome with heq | hsome
      · simp only [heq]
        refine (ResultRel.refl _).mono ?_
        rintro file _ rfl
        exact ⟨⟨rfl, rfl⟩, .inl rfl⟩
      · exact (hfile path text hc ht).parse.mono fun a b hab =>
          ⟨hab, .inr (token_isSome_of_read hi hsome)⟩

variable (h : i.Alike j) {as bs : List String} {replies : List Http.Reply}
  (hi : read around.vars as = .ok i) (ht : Program.Twins as bs around around' replies)
include h hi ht

theorem settings_alike :
    ResultRel Settings.SameButToken (i.settings around) (j.settings around') := by
  unfold Invocation.settings
  rcases (fileSettings_alike h hi ht.vars ht.read fun path text => ht.file i path text hi).elim with
    ⟨e, hx, hy⟩ | ⟨a, b, hx, hy, hab, hfile⟩
  · rw [hx, hy]
    exact .error e
  · rw [hx, hy]
    exact Settings.merge_alike h.url h.token h.timeout hab hfile

theorem checkedSettings_alike :
    ResultRel Settings.SameButToken (i.checkedSettings around) (j.checkedSettings around') := by
  unfold Invocation.checkedSettings
  rcases (settings_alike h hi ht).elim with ⟨e, hx, hy⟩ | ⟨a, b, hx, hy, hab⟩
  · rw [hx, hy]
    exact .error e
  · rw [hx, hy]
    simp only [← hab.check]
    exact (ResultRel.refl a.check).map fun _ _ _ => hab

end CommandLine

namespace Program

variable {as bs : List String} {around around' : Surroundings} {replies : List Http.Reply}
  {i j : Invocation}

/-- A command comes to the same at the same service, whatever the token for it is. -/
theorem work_alike {a b : Settings} (hab : a.SameButToken b) (proxies : Proxies) (c : Command)
    (x : Exchange)
    (ha : ∀ client, Client.ofSettings a.url a.token a.timeout proxies = .ok client →
      c.plan.HasShortUrls client (x.note ⟨.debug, "service settings: " ++ a.shown⟩))
    (hb : ∀ client, Client.ofSettings b.url b.token b.timeout proxies = .ok client →
      c.plan.HasShortUrls client (x.note ⟨.debug, "service settings: " ++ b.shown⟩)) :
    (work a proxies c x).1 = (work b proxies c x).1 ∧
      Agree a.token b.token (work a proxies c x).2 (work b proxies c x).2 := by
  unfold work
  rw [← hab.url, ← hab.timeout, ← hab.shown] at hb ⊢
  rcases Client.ofSettings_withToken a.url a.timeout proxies with ⟨e, he⟩ | ⟨client, hc⟩
  · simp only [he]
    exact ⟨trivial, rfl, .refl _ _ _⟩
  · simp only [hc]
    exact c.agree_run none (ha _ (hc _)) (hb _ (hc _)) (.refl _ _ _)

/-- What two runs do comes to the same. -/
theorem act_alike (ht : Twins as bs around around' replies)
    (hi : CommandLine.read around.vars as = .ok i)
    (hj : CommandLine.read around'.vars bs = .ok j) (h : i.Alike j) :
    let x := (Exchange.start replies).note ⟨.debug, "CLI config: " ++ i.action.shown⟩
    ∃ s t, (act i around x).1 = (act j around' x).1 ∧
      Agree s t (act i around x).2 (act j around' x).2 := by
  intro x
  unfold act
  rw [← h.action]
  cases ha : i.action with
  | describeAccess => exact ⟨"", "", rfl, rfl, .refl _ _ _⟩
  | run c =>
    rcases (CommandLine.checkedSettings_alike h hi ht).elim with
      ⟨e, hx, hy⟩ | ⟨a, b, hx, hy, hab⟩
    · simp only [hx, hy]
      exact ⟨"", "", trivial, rfl, .refl _ _ _⟩
    · simp only [hx, hy, ← Proxies.ofVariables_eq ht.vars]
      refine ⟨_, _, work_alike hab _ c x (fun client hc => ?_) fun client hc => ?_⟩
      · exact ht.short i c a client hi ha hx hc
      · rw [Proxies.ofVariables_eq ht.vars] at hc
        have := ht.short' j c b client hj (h.action ▸ ha) hy hc
        rwa [opening, ← h.action] at this

theorem invoke_alike (ht : Twins as bs around around' replies)
    (hi : CommandLine.read around.vars as = .ok i)
    (hj : CommandLine.read around'.vars bs = .ok j) (h : i.Alike j) :
    ∃ s t, (invoke i around replies).Alike s t (invoke j around' replies) := by
  obtain ⟨s, t, hresult, houtput⟩ := act_alike ht hi hj h
  refine ⟨s, t, ?_⟩
  unfold invoke finish
  simp only [← h.action, ← h.filter_eq ht.vars, ← h.logJson]
  generalize act i around _ = a at hresult houtput ⊢
  generalize act j around' _ = b at hresult houtput ⊢
  obtain ⟨result, output, x⟩ := a
  obtain ⟨result', output', y⟩ := b
  obtain rfl : result = result' := hresult
  obtain ⟨rfl, hx⟩ := houtput
  cases result with
  | ok outcome => exact ⟨rfl, rfl, by rw [hx.notes], hx.requests⟩
  | error e => exact ⟨rfl, rfl, by rw [hx.notes], hx.requests⟩

/-- Two lines that are refused are refused with the same screen. -/
theorem screen_eq {screens : Screens} (hd : screens.Discreet)
    (ht : Twins as bs around around' replies) {r : CommandLine.Refusal}
    (hr : CommandLine.read around.vars as = .error r) :
    screens as around.vars r = screens bs around'.vars r := by
  have hquoted : screens as around.vars r = screens bs around.vars r := by
    by_cases hh : "help" ∈ as
    · rcases ht.help hh with rfl | ⟨i, hi⟩
      · rfl
      · rw [hi] at hr
        cases hr
    · exact hd.quotes ht.arguments hh hr
  exact hquoted.trans (hd.hides bs r (.of_sameButToken ht.vars))

theorem run_alike {screens : Screens} (hd : screens.Discreet)
    (ht : Twins as bs around around' replies) :
    ∃ s t, (run screens as around replies).Alike s t (run screens bs around' replies) := by
  unfold run
  rcases (CommandLine.read_alike ht.vars ht.arguments).elim with
    ⟨r, hx, hy⟩ | ⟨i, j, hi, hj, h⟩
  · rw [hx, hy]
    dsimp only
    rw [screen_eq hd ht hx]
    refine ⟨"", "", rfl, rfl, rfl, ?_⟩
    unfold display
    split <;> exact .nil
  · rw [hi, hj]
    exact invoke_alike ht hi hj h

end Program

namespace Program

/-- The environment gives the token, and a file the URL. -/
def configured (url token : String) : Surroundings :=
  ⟨[("DEVURL_TOKEN", token)],
    fun _ => .ok (Utf8.bytes ("[service]\nurl = \"" ++ url ++ "\"\n"))⟩

theorem readText_configured (url token path : String) : (configured url token).readText path =
    .ok ("[service]\nurl = \"" ++ url ++ "\"\n") := by
  simp only [Surroundings.readText, configured, Utf8.text?_bytes]

/-- A URL as a file gives it that the token is a part of. -/
def revealing : String := "http://127.0.0.1/$\x7bDEVURL_TOKEN\x7d"

def listing (token : String) : List String :=
  ["--config", "service.toml", "-v", "--log-json", "--token", token, "urls", "ls", "dev"]

/-- What is asked for by a listing. -/
def asked (token : String) : Invocation :=
  ⟨none, some token, some "service.toml", none, true, true, .run (.list "dev" .human)⟩

/-- The client of a service below that path of this computer. -/
def reached (path token : String) : Client :=
  ⟨⟨"http".toList, .path (some Client.loopback) none path.toList, none, none⟩, token, 30, {}⟩

/-- The URLs of a run are seen to be short from what it does. -/
theorem hasShortUrls_of_calls {as : List String} {around : Surroundings}
    {replies : List Http.Reply} {i : Invocation} {c : Command} {settings : Settings}
    {client : Client} {calls : List Call}
    (hi : CommandLine.read around.vars as = .ok i) (ha : i.action = .run c)
    (hs : (i.checkedSettings around).toOption = some settings)
    (hc : Client.ofSettings settings.url settings.token settings.timeout
      (.ofVariables around.vars) = .ok client)
    (hcalls : (c.plan.turns client.service (opening i settings replies)).map Turn.call = calls)
    (hn : ∀ call ∈ calls, client.names call = true) : HasShortUrls as around replies := by
  intro i' c' settings' client' hi' ha' hs' hc'
  obtain rfl : i = i' := Except.ok.inj (hi.symm.trans hi')
  obtain rfl : c = c' := CommandLine.Action.run.inj (ha.symm.trans ha')
  rw [hs'] at hs
  cases hs
  obtain rfl : client = client' := Except.ok.inj (hc.symm.trans hc')
  intro turn ht
  exact Client.hasShortUrl_of_names (hn _ (hcalls ▸ List.mem_map_of_mem ht))

theorem hasShortUrls_listing {url token : String} (seen path : String)
    (ht : token = "a" ∨ token = "b")
    (hs : ((asked token).checkedSettings (configured url token)).toOption = some ⟨seen, token, 30⟩)
    (hu : Url.read seen = .ok (reached path token).base)
    (hcalls : ((Command.list "dev" .human).plan.turns (reached path token).service
      (opening (asked token) ⟨seen, token, 30⟩ [.unanswered])).map Turn.call = [.resolve "dev"])
    (hn : ∀ call ∈ [Call.resolve "dev"], (reached path token).names call = true) :
    HasShortUrls (listing token) (configured url token) [.unanswered] := by
  have hi : CommandLine.read [("DEVURL_TOKEN", token)] (listing token) = .ok (asked token) := by
    rcases ht with rfl | rfl <;> decide +kernel
  have hc : Client.ofSettings seen token 30 (.ofVariables [("DEVURL_TOKEN", token)]) =
      .ok (reached path token) := by
    rw [Client.ofSettings, hu]
    rcases ht with rfl | rfl <;> rfl
  exact hasShortUrls_of_calls hi rfl hs hc hcalls hn

theorem hasShortUrls_plain {token : String} (h : token = "a" ∨ token = "b") :
    HasShortUrls (listing token) (configured "http://127.0.0.1" token) [.unanswered] := by
  refine hasShortUrls_listing "http://127.0.0.1" "/" h ?_ ?_ ?_ ?_ <;>
    rcases h with rfl | rfl <;> decide +kernel

theorem hasShortUrls_revealing {token : String} (h : token = "a" ∨ token = "b") :
    HasShortUrls (listing token) (configured revealing token) [.unanswered] := by
  refine hasShortUrls_listing ("http://127.0.0.1/" ++ token) ("/" ++ token) h ?_ ?_ ?_ ?_ <;>
    rcases h with rfl | rfl <;> decide +kernel

theorem interchangeable_letters : Interchangeable "a" "b" := by
  refine .inr ⟨?_, ?_⟩ <;> unfold IsBlank <;> decide

theorem listings_alike : CommandLine.SameButToken (listing "a") (listing "b") :=
  .same (by decide) (.same (by decide) (.same (by decide) (.same (by decide)
    (.apart interchangeable_letters (by decide) (by decide)
      (.same (by decide) (.same (by decide) (.same (by decide) .nil)))))))

theorem configured_alike (url : String) :
    (configured url "a").vars.SameButToken (configured url "b").vars :=
  .cons (.inr ⟨rfl, rfl, interchangeable_letters⟩) .nil

end Program

end PortShare
