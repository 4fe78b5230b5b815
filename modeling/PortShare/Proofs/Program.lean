import PortShare.Proofs.Configured
import PortShare.Proofs.Http.Classification
import PortShare.Proofs.Table

/-! The program is the command that it is asked for, run at the service that its settings name, with
a code for each way in which the command can end. -/

namespace PortShare.Program

open CommandLine (Invocation)
open Http (Client Exchange)

variable {arguments : List String} {around : Surroundings} {i : Invocation} {c : Command}
  {settings : Settings} {client : Client} {replies : List Http.Reply}

/-- With settings that are in order there is a service, and its host is known. -/
theorem exists_client (hs : i.checkedSettings around = .ok settings) (proxies : Http.Proxies) :
    ∃ client, Client.ofSettings settings.url settings.token settings.timeout proxies = .ok client ∧
      client.HasHost := by
  have hcheck : settings.check = .ok () := by
    unfold Invocation.checkedSettings at hs
    split at hs
    · cases hs
    · obtain ⟨_, hcheck, rfl⟩ := Json.ok_of_map hs
      exact hcheck
  obtain ⟨client, hb, hk⟩ := Settings.exists_client hcheck proxies
  exact ⟨client, hb, Client.hasHost_of_ofSettings hb hk⟩

/-- What is noted down before a command begins. -/
def preamble (i : Invocation) (settings : Settings) : List Log.Entry :=
  [⟨.debug, "CLI config: " ++ i.action.shown⟩, ⟨.debug, "service settings: " ++ settings.shown⟩]

/-- A command comes to the same in the program as by itself, behind what was noted down first. -/
theorem run_eq_finish (screens : CommandLine.Screens)
    (hread : CommandLine.read around.vars arguments = .ok i)
    (ha : i.action = .run c) (hs : i.checkedSettings around = .ok settings)
    (hb : Client.ofSettings settings.url settings.token settings.timeout
      (.ofVariables around.vars) = .ok client)
    (replies : List Http.Reply) : run screens arguments around replies =
      let step := c.run client.service none (.start replies)
      finish i around (step.1, step.2.1, step.2.2.behind (preamble i settings)) := by
  simp only [run, hread, invoke, act, ha, hs, work, hb, ← Command.run_behind, preamble]
  rfl

theorem timeout_of_ofSettings {url token : String} {timeout : UInt64} {proxies : Http.Proxies}
    (h : Client.ofSettings url token timeout proxies = .ok client) : client.timeout = timeout := by
  unfold Client.ofSettings at h
  split at h
  · cases h
    rfl
  · cases h

/-- A listing for people finds, in one of the replies, a URL that is too wide for a table. -/
def TooWide (c : Command) (replies : List Http.Reply) : Prop :=
  ∃ name, c = .list name .human ∧ ∃ reply ∈ replies, ∃ urls, Client.Lists reply urls ∧
    ∃ u ∈ urls, Report.maxWidth < u.url.utf8ByteSize

theorem exists_wide_of_text {name : String} {urls : List DevUrl}
    (h : Command.list.text name .human urls = none) :
    ∃ u ∈ urls, Report.maxWidth < u.url.utf8ByteSize := by
  by_contra hfit
  simp only [not_exists, not_and, Nat.not_lt] at hfit
  unfold Command.list.text at h
  dsimp only at h
  split at h
  · cases h
  · rw [Report.table_eq, if_pos hfit] at h
    cases h

/-- What cannot be laid out was read off a reply. -/
theorem tooWide_of_text {done : Completion}
    (h : (c.plan.run client.service (.start replies)).1 = .ok done) (ht : done.text = none) :
    TooWide c replies := by
  have hcourse := c.course client.service (.start replies)
  rw [h] at hcourse
  rcases Command.text_of_course hcourse with ⟨text, hsome⟩ | ⟨name, env, urls, rfl, -, hts, htext⟩
  · rw [ht] at hsome
    cases hsome
  · have hturn : ⟨.list env.id, .ok urls⟩ ∈
        (Command.list name .human).plan.turns client.service (.start replies) := by
      rw [hts]
      exact .tail _ (List.mem_singleton_self _)
    obtain ⟨reply, hm, ha⟩ := Plan.reply_of_turn client _ _ _ hturn _ rfl
    have hlists := Client.answerTo_list_iff.mp ha
    refine ⟨name, rfl, reply, hm.resolve_right ?_, urls, hlists, exists_wide_of_text htext⟩
    rintro rfl
    obtain ⟨body, hd, -⟩ := hlists
    cases hd

theorem error_cases (hu : client.HasHost) (hr : .interrupted ∉ replies) {e : Failure}
    (h : (c.run client.service none (.start replies)).1 = .error e) :
    (c.run client.service none (.start replies)).2.1 = [] ∧
      (e.IsTyped ∨ e.IsRemote ∨ e = .panicked Report.tooWide ∧ TooWide c replies) := by
  have hx : (Exchange.start replies).Uninterrupted := hr
  rw [Command.run_eq] at h ⊢
  cases hp : (c.plan.run client.service (.start replies)).1 with
  | error e' =>
    rw [hp] at h
    obtain rfl : e' = e := Except.error.inj h
    exact ⟨rfl, (Command.isTyped_or_isRemote hu c hx hp).imp_right .inl⟩
  | ok done =>
    rw [hp] at h
    rcases Completion.error_of_print h with ⟨-, hroom⟩ | ⟨ht, rfl, hout⟩
    · exact absurd rfl hroom
    · exact ⟨hout, .inr (.inr ⟨rfl, tooWide_of_text hp ht⟩)⟩

/-- A line that says all that is needed to remove a devurl. -/
def removalLine : List String :=
  ["--url", "http://127.0.0.1", "--token", "t", "urls", "rm", "dev", "8080"]

/-- No variables and no files. -/
def nowhere : Surroundings := ⟨[], fun _ => .error .missing⟩

def oneDevurl : List Http.Reply := Client.repliesWith Client.dev (Client.devurl "u1")

end PortShare.Program
