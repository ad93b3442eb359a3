import Podmesh.Podctl.Reference
import Podmesh.Podctl.Sections

namespace Podmesh

namespace Podctl

variable {c : Client} {i : Input}

/-! The keys agents presented. -/

def CapacityOffer.presents (p : Platform) (now : UInt64) (offer : CapacityOffer) :
    List (String × String) :=
  if (offer.verify p now).isOk then [(offer.signingPubkey, offer.kemPubkey)] else []

def ListEntry.presents (p : Platform) (entry : ListEntry) : List (String × String) :=
  match entry.decoded with
  | .ok (.ok response) =>
    if (response.verify p).isOk then [(response.agentNodeId, response.agentKemPubkey)] else []
  | _ => []

def Action.presents (p : Platform) : Action → List (String × String)
  | .answer (.offered (.ok offer)) i => CapacityOffer.presents p i.now offer
  | .answer (.listed (.ok reply)) _ => reply.answered.flatMap (ListEntry.presents p)
  | _ => []

structure Audit where
  session : Session
  presented : List (String × String)

namespace Audit

def fresh : Audit := ⟨.fresh, []⟩

def step (c : Client) (a : Audit) (action : Action) : Option Audit :=
  (a.session.step c action).map fun session =>
    ⟨session, a.presented ++ action.presents c.platform⟩

def policy (c : Client) (a : Audit) : Policy where
  trust t := t = .allowlist c.trustedAgents
  may key kem :=
    (AgentTrust.allowlist c.trustedAgents).authorize key = .ok () ∧ (key, kem) ∈ a.presented
  kept _ := False
  readies := True

end Audit

/-- No run is asked to accept any agent the mesh offers. -/
def Action.strict : Action → Bool
  | .apply request _ => !request.trustAnyAgent
  | _ => true

/-- A verified list answer that reports a workload is from an agent of the trust store. -/
def ListEntry.trusted (c : Client) (entry : ListEntry) : Bool :=
  match entry.decoded with
  | .ok (.ok response) => !(response.verify c.platform).isOk || response.workloads.isEmpty
      || ((AgentTrust.allowlist c.trustedAgents).authorize response.agentNodeId).isOk
  | _ => true

/-- The step condition: no run accepts any agent, and no untrusted agent reports a workload. -/
def Action.trusted (c : Client) : Action → Bool
  | .answer (.listed (.ok reply)) _ => reply.answered.all (ListEntry.trusted c)
  | action => action.strict

theorem ListEntry.authorized {entry : ListEntry} (h : entry.trusted c = true)
    (hd : entry.decoded = .ok (.ok resp)) (hv : resp.verify c.platform = .ok ())
    (hs : resp.workloads ≠ []) :
    (AgentTrust.allowlist c.trustedAgents).authorize resp.agentNodeId = .ok () := by
  have hr : resp.workloads.isEmpty = false := List.isEmpty_eq_false_iff.2 hs
  simp only [ListEntry.trusted, hd, hv, hr, Except.isOk, Except.toBool,
    Bool.not_true, Bool.false_or] at h
  exact ok_of_isOk h

theorem resolve_strict (h : c.resolve false = .ok trust) : trust = .allowlist c.trustedAgents := by
  simp only [Client.resolve, Bool.false_eq_true, if_false] at h
  split at h
  · cases h
  · exact (Except.ok.inj h).symm

namespace Audit

theorem policy_widens {a : Audit} {s : Session} {more : List (String × String)} :
    (a.policy c).Widens (policy c ⟨s, a.presented ++ more⟩) where
  trust _ ht := ht
  may _ _ h := ⟨h.1, List.mem_append.2 (.inl h.2)⟩
  kept _ h := h
  readies h := h

theorem action_within {a : Audit} {s : Session} {action : Action} (ht : action.trusted c = true) :
    action.Within c (policy c ⟨s, a.presented ++ action.presents c.platform⟩) := by
  unfold Action.Within
  split
  · next req i =>
    intro trust htr
    have hs : req.trustAnyAgent = false := by
      simpa [Action.trusted, Action.strict] using ht
    rw [hs] at htr
    exact resolve_strict htr
  · next reply i =>
    intro entry he resp hd hv hsm
    have ha := ListEntry.authorized (List.all_eq_true.1 ht entry he) hd
      hv hsm
    refine ⟨ha, List.mem_append.2 (.inr (List.mem_flatMap.2 ⟨entry, he, ?_⟩))⟩
    simp [ListEntry.presents, hd, hv, Except.isOk, Except.toBool]
  · next ag i =>
    rintro hv _ rfl hat
    refine ⟨hat, List.mem_append.2 (.inr ?_)⟩
    simp [Action.presents, CapacityOffer.presents, hv, Except.isOk, Except.toBool]
  · trivial
  · trivial

theorem reach_within (hr : Reach (step c) (fun _ action => action.trusted c = true) fresh a) :
    a.session.Within (a.policy c) := by
  refine Reach.invariant (fun a => a.session.Within (a.policy c)) ?_
    (fun a action a' _ ha hok h => ?_) hr
  · have ho : Owner.Within (policy c fresh) ⟨∅, []⟩ :=
      ⟨fun k catalog hl => (by cases hl), fun s hs => (by cases hs), fun k hk => hk.elim⟩
    exact ⟨ho, fun stage hst => by cases hst⟩
  · obtain ⟨s, hs, rfl⟩ := Option.map_eq_some_iff.1 h
    exact (Session.Within.mono policy_widens ha).step (action_within hok) hs

end Audit

/-- What may be read only by an agent the owner trusts. -/
def Secret.isWorkload : Secret → Bool
  | .admission _ => false
  | .execution _ | .grant _ | .update _ => true

/-- In every sequence of apply and list runs from no catalog, with an allowlist and whatever the
mesh answers, every execution spec, grant and update (and every admission) is sealed to a KEM key
that an agent of the trust store presented under its signing key, if every verified list answer that
reports a workload is from an agent of the trust store. -/
theorem seals_for_trusted_agents
    (hr : Reach (Audit.step c) (fun _ action => action.trusted c = true) .fresh a)
    (hs : s ∈ a.session.owner.seals) :
    ∃ key, (AgentTrust.allowlist c.trustedAgents).authorize key = .ok () ∧
      (key, s.recipientKem) ∈ a.presented :=
  (Audit.reach_within hr).owner.seals s hs

end Podctl

namespace Reference
open Podctl

def reportA : Podctl.Action :=
  .answer (.listed (.ok ⟨[listEntry 5 "list" [summary 5 "a" 0 1]], [], []⟩)) (podctlInput "list")

def firstDeploy : List Podctl.Action :=
  [.apply ⟨utf8Bytes "Pod/a\n", false⟩ (podctlInput "apply"),
    .answer (.listed (.ok ⟨[], [], []⟩)) (podctlInput "list"),
    .answer (.offered (.ok (offer 9))) (podctlInput "admit"),
    .answer (.admitted (.ok (reservation 9 "admit" "a" 0))) (podctlInput "deploy")]

end Reference

namespace Podctl
open Reference

theorem first_deploy_seals_for_trusted_agent :
    ∃ a, Reach (Audit.step client) (fun _ action => action.trusted client = true) .fresh a ∧
      ∃ s ∈ a.session.owner.seals, s.secret.isWorkload = true ∧
        ∃ key, (AgentTrust.allowlist client.trustedAgents).authorize key = .ok () ∧
          (key, s.recipientKem) ∈ a.presented := by
  obtain ⟨a, hr, s, hs, hsc⟩ := exists_reach_of_run (Audit.step client)
    (fun _ action => action.trusted client = true) .fresh firstDeploy
    (fun a => ∃ s ∈ a.session.owner.seals, s.secret.isWorkload = true) (by decide +kernel)
  exact ⟨a, hr, s, hs, hsc, seals_for_trusted_agents hr hs⟩

/-- An agent that is not in the trust store reports a replica of its own making; the next apply run
seals the workload to its key. -/
theorem reported_agent_reads_workload :
    ∃ a, Reach (Audit.step client) (fun _ action => action.strict = true) .fresh a ∧
      ∃ s ∈ a.session.owner.seals, s.secret.isWorkload = true ∧
        ∀ key, (key, s.recipientKem) ∈ a.presented →
          (AgentTrust.allowlist client.trustedAgents).authorize key ≠ .ok () := by
  obtain ⟨a, hr, s, hs, hsc, ha⟩ := exists_reach_of_run (Audit.step client)
    (fun _ action => action.strict = true) .fresh
    [.list (podctlInput "list"), reportA, .apply ⟨utf8Bytes "Pod/a\n", false⟩ (podctlInput "apply")]
    (fun a => ∃ s ∈ a.session.owner.seals, s.secret.isWorkload = true ∧
      ∀ e ∈ a.presented, e.2 = s.recipientKem →
        (AgentTrust.allowlist client.trustedAgents).authorize e.1 ≠ .ok ()) (by decide +kernel)
  exact ⟨a, hr, s, hs, hsc, fun key hk => ha _ hk rfl⟩

end Podctl
end Podmesh
