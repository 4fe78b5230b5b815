import PortShare.Program
import PortShare.Proofs.Delivery
import PortShare.Proofs.Http.Endpoint
import PortShare.Proofs.Http.Outcome
import PortShare.Proofs.Settings.Check

/-! Settings that are in order are in order for good. There is a client for them, and a URL for each
of its calls, so that nothing that is done with them fails as a matter of configuration. -/

namespace PortShare

open Http (Client Exchange)

namespace Failure

theorem IsTyped.not_isConfiguration {e : Failure} (h : e.IsTyped) : ¬ e.IsConfiguration := by
  rintro ⟨message, rfl⟩
  cases h

theorem IsRemote.not_isConfiguration {e : Failure} (h : e.IsRemote) : ¬ e.IsConfiguration := by
  rintro ⟨message, rfl⟩
  cases h

end Failure

section run

variable {client : Client} {call : Call} {c : Command} {x : Exchange} {e : Failure}

theorem Http.Client.not_isConfiguration_of_answer (hu : client.HasHost)
    (h : (client.answer call x).1 = .error e) : ¬ e.IsConfiguration := by
  rcases error_of_answer hu h with he | ⟨rfl, -⟩
  · exact he.not_isConfiguration
  · exact nofun

theorem Command.not_isConfiguration_of_plan (hu : client.HasHost)
    (h : (c.plan.run client.service x).1 = .error e) : ¬ e.IsConfiguration := by
  have hcourse := c.course client.service x
  rw [h] at hcourse
  rcases hcourse.failure_cases with he | ⟨name, port, rfl⟩ | ⟨turn, ht, he⟩
  · exact he.not_isConfiguration
  · exact nofun
  · refine (c.plan.invariant (I := fun _ => True)
      (P := fun turn => ∀ e, turn.answer = .error e → ¬ e.IsConfiguration)
      (fun _ _ _ => trivial) ?_ trivial).1 turn ht e he
    exact fun _ _ _ => ⟨fun _ => Client.not_isConfiguration_of_answer hu, trivial⟩

/-- A command can also fail because its result cannot be printed. -/
theorem Command.not_isConfiguration_of_run (hu : client.HasHost) {room : Option Nat}
    (h : (c.run client.service room x).1 = .error e) : ¬ e.IsConfiguration := by
  rcases error_of_run h with he | rfl | rfl
  · exact not_isConfiguration_of_plan hu he
  · exact nofun
  · exact nofun

end run

theorem eq_ok_of_toOption {ε α : Type} {x : Except ε α} {a : α} (h : x.toOption = some a) :
    x = .ok a := by
  cases x with
  | error e => cases h
  | ok b => exact congrArg Except.ok (Option.some.inj h)

namespace Settings

variable {s : Settings}

/-- For settings that are in order there is a client, which speaks one of the two schemes. -/
theorem exists_client (h : s.check = .ok ()) (proxies : Http.Proxies) :
    ∃ client, Client.ofSettings s.url s.token s.timeout proxies = .ok client ∧
      (client.isHttp = true ∨ client.isHttps = true) := by
  obtain ⟨url, hurl, hscheme⟩ := (check_eq_ok_iff.mp h).url
  have hb : Client.ofSettings s.url s.token s.timeout proxies =
      .ok ⟨url, s.token, s.timeout, proxies⟩ := by
    rw [Client.ofSettings, hurl]
  exact ⟨_, hb, hscheme.imp beq_iff_eq.mpr beq_iff_eq.mpr⟩

/-- With settings that are in order there is a client, whose URL has a host and a path from the root,
however it was spelled. Every URL below it can be made, and so the URL of every call. Whatever is
replied, no call fails as a matter of configuration, and neither does a command or the program's
work with the settings. -/
theorem configured_for_good (h : s.check = .ok ()) (proxies : Http.Proxies) :
    (∃ client, Client.ofSettings s.url s.token s.timeout proxies = .ok client ∧
      (∃ host port path, client.base.location = .path (some host) port path ∧
        Url.Path.IsRooted path) ∧
      (∀ segments : List String, ∃ endpoint, client.endpoint segments = .ok endpoint) ∧
      (∀ call : Call, ∃ endpoint, client.endpointOf call = .ok endpoint) ∧
      (∀ (call : Call) (x : Exchange) (e : Failure), (client.answer call x).1 = .error e →
        ¬ e.IsConfiguration) ∧
      ∀ (c : Command) (room : Option Nat) (x : Exchange) (e : Failure),
        (c.run client.service room x).1 = .error e → ¬ e.IsConfiguration) ∧
    ∀ (c : Command) (x : Exchange) (e : Failure), (Program.work s proxies c x).1 = .error e →
      ¬ e.IsConfiguration := by
  obtain ⟨client, hb, hk⟩ := exists_client h proxies
  have hu := Client.hasHost_of_ofSettings hb hk
  refine ⟨⟨client, hb, Client.exists_path_of_ofSettings hb hk, hu.endpoint, hu.endpointOf,
    fun _ _ _ => Client.not_isConfiguration_of_answer hu,
    fun _ _ _ _ => Command.not_isConfiguration_of_run hu⟩, fun c x e he => ?_⟩
  simp only [Program.work, hb] at he
  exact Command.not_isConfiguration_of_run hu he

/-- An address with a scheme in capitals, backslashes for slashes, a user and no path. -/
def oddlySpelled : Settings := ⟨"hTTp:\\\\u:p@127.0.0.1?k=v#f", "t", 30⟩

theorem oddlySpelled_for_good : oddlySpelled.check = .ok () ∧
    ∃ client, Client.ofSettings oddlySpelled.url oddlySpelled.token 30 = .ok client ∧
      (∃ endpoint, client.endpointOf (.delete "e/1" "..") = .ok endpoint) ∧
      ∀ replies e, (client.answer (.delete "e/1" "..") (.start replies)).1 = .error e →
        ¬ e.IsConfiguration := by
  have hcheck : oddlySpelled.check = .ok () := eq_ok_of_toOption (by decide +kernel)
  obtain ⟨⟨client, hb, -, -, hcalls, hanswers, -⟩, -⟩ := configured_for_good hcheck {}
  exact ⟨hcheck, client, hb, hcalls _, fun replies e => hanswers _ _ e⟩

/-- A text can be a URL with nothing below it; the check refuses it. -/
example : (Client.ofSettings "mailto:dev" "t" 30).toOption.map
      (fun client => (client.endpoint []).toOption) = some none ∧
    (requireUrl "service.url" "mailto:dev").toOption = none := by decide +kernel

end Settings

end PortShare
