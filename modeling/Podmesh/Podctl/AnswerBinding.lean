import Podmesh.Podctl.PlacementLoop
import Podmesh.Podctl.Recipients

namespace Podmesh

namespace Podctl

open Locked

variable {c : Client} {i : Input} {p : Placing} {s : Session}

structure AnswersAdmission (c : Client) (p : Placing) (agent : CapacityOffer)
    (admission : AdmissionRequest) (r : Reservation) : Prop where
  signer : r.agentNodeId = agent.signingPubkey
  request : r.requestId = admission.requestId
  owner : r.namespaceId = c.namespaceId
  workload : r.workloadId = c.workloadId p.plan.workloadName p.replicaIndex

structure ReceiptFor (c : Client) (p : Placing) (agent : CapacityOffer) (r : DeploymentReceipt) :
    Prop where
  owner : r.namespaceId = c.namespaceId
  workload : r.workloadId = c.workloadId p.plan.workloadName p.replicaIndex
  signer : r.agentNodeId = agent.signingPubkey
  revision : r.revisionId = p.plan.revisionId

theorem readReservation_refused :
    c.readReservation i plan replicaIndex ag adm r = .ok (.refused reason) ↔
      r.verify c.platform i.now = .ok () ∧ r.accepted = false ∧
        isCapacityRefusal r.reason = true ∧ reason = r.reason := by
  rw [Client.readReservation, unit_bind_ok]
  refine and_congr_right fun _ => ?_
  cases ha : r.accepted with
  | true =>
    simp only [Bool.not_true, Bool.false_eq_true, if_false, Bool.true_eq_false, false_and,
      iff_false, unit_bind_ok, not_and]
    intro _ h
    cases h
  | false =>
    rw [Bool.not_false, if_pos rfl]
    by_cases hr : isCapacityRefusal r.reason = true
    · rw [if_pos hr]
      constructor
      · intro h
        cases h
        exact ⟨rfl, hr, rfl⟩
      · intro ⟨_, _, h⟩
        rw [h]
        rfl
    · rw [if_neg hr]
      constructor
      · intro h
        cases h
      · intro ⟨_, h, _⟩
        exact absurd h hr

theorem afterAdmission_retries {reservation : Except String Reservation} (owner : Owner) :
    (∃ p', ((c.afterAdmission i p agent agentEndpointId admission reservation).exec owner).1 =
      .ok (.wait (.selecting p'))) ↔
    ∃ r, reservation = .ok r ∧ r.verify c.platform i.now = .ok () ∧ r.accepted = false ∧
      isCapacityRefusal r.reason = true ∧ p.refusals.length < maxAdmissionCapacityRetries := by
  constructor
  · intro ⟨p', hx⟩
    obtain ⟨reason, hrd, hrm, _⟩ | ⟨_, _, _, _, hn⟩ :=
      (afterAdmission_answers agent agentEndpointId admission reservation owner trivial
        trivial).2 _ hx
    · obtain ⟨r, hr, hrd⟩ := bind_ok.1 hrd
      obtain ⟨hv, ha, hrs, _⟩ := readReservation_refused.1 hrd
      exact ⟨r, hr, hv, ha, hrs, hrm⟩
    · cases hn
  · intro ⟨r, hr, hv, ha, hrs, hrm⟩
    have hrd : (reservation >>= c.readReservation i p.plan p.replicaIndex agent admission) =
        .ok (.refused r.reason) := by
      rw [hr]
      exact readReservation_refused.2 ⟨hv, ha, hrs, rfl⟩
    refine ⟨p.refuse agentEndpointId r.reason, ?_⟩
    have hl : decide ((p.refusals ++ [s!"{agentEndpointId} ({r.reason})"]).length ≤
        maxAdmissionCapacityRetries) = true := by
      rw [List.length_append, List.length_singleton]
      exact decide_eq_true hrm
    have hp : liftExcept (withContext (Client.deployContext p agentEndpointId)
        (.ok (.refused r.reason))) = (pure (.refused r.reason) : Locked Owner Client.Admitted) :=
      rfl
    rw [Client.afterAdmission, hrd, hp, pure_bind]
    dsimp only
    rw [hl]
    rfl

theorem Session.step_admitted (h : s.run = some (.admitting p ag aid adm)) :
    s.step c (.answer (.admitted reply) i) =
      some (s.advance (c.afterAdmission i p ag aid adm reply)) := by
  simp only [Session.step, h, Option.bind_some, Client.resume, Option.map_some]

theorem Session.step_deployed (h : s.run = some (.deploying p ag aid grant exp)) :
    s.step c (.answer (.deployed rcpt) i) =
      some (s.advance (c.afterDeploy i p ag aid exp rcpt)) := by
  simp only [Session.step, h, Option.bind_some, Client.resume, Option.map_some]

theorem Session.run_advance :
    (s.advance x).run = some stage ↔ (x.exec s.owner).1 = .ok (.wait stage) := by
  unfold Session.advance
  cases x.exec s.owner with
  | mk res owner =>
    cases res with
    | error e => simp
    | ok next =>
      cases next with
      | wait stage' => simp
      | finish outcome => simp

theorem afterDeploy_goes_on {rcpt : Except String DeploymentReceipt} :
    (s.advance (c.afterDeploy i p ag aid exp rcpt)).run.isSome = true ↔ ∃ r placement,
      rcpt = .ok r ∧ c.confirmDeploy p.plan p.replicaIndex ag aid exp r = .ok placement ∧
      ((c.save i (p.recording placement)).exec s.owner).1.isOk = true := by
  cases hc : (rcpt >>= c.confirmDeploy p.plan p.replicaIndex ag aid exp) with
  | error e =>
    obtain ⟨e', hx⟩ := afterDeploy_error (i := i) hc s.owner
    rw [Session.advance_error (congrArg Prod.fst hx)]
    constructor
    · intro h
      cases h
    · intro ⟨r, placement, hr, hcn, _⟩
      rw [hr] at hc
      cases hcn.symm.trans hc
  | ok placement =>
    obtain ⟨r, hr, hcn⟩ := bind_ok.1 hc
    have hx := congrArg Prod.fst (afterDeploy_confirmed (i := i) hc s.owner)
    cases hsv : ((c.save i (p.recording placement)).exec s.owner).1 with
    | error e =>
      have hf : ((c.afterDeploy i p ag aid exp rcpt).exec
          s.owner).1 = .error e := by
        rw [hx, hsv]
        rfl
      rw [Session.advance_error hf]
      constructor
      · intro h
        cases h
      · intro ⟨r', placement', hr', hc', hs⟩
        cases hr.symm.trans hr'
        cases hcn.symm.trans hc'
        rw [hsv] at hs
        cases hs
    | ok u =>
      have hs : ((c.save i (p.recording placement)).exec s.owner).1.isOk = true := by
        rw [hsv]
        rfl
      refine iff_of_true ?_ ⟨r, placement, hr, hcn, hs⟩
      obtain ⟨stage, hst⟩ := placeFrom_wait (c := c) p.plan (p.recording placement)
        (p.occupied ++ [aid]) (p.plan.replicaCount.toNat - (p.replicaIndex.toNat + 1))
      have hg : ((c.afterDeploy i p ag aid exp rcpt).exec
          s.owner).1 = .ok (.wait stage) := by
        rw [hx, hsv, ← hst]
        rfl
      rw [Session.run_advance.2 hg]
      rfl

end Podctl

namespace Reference
open Podctl

def foreignRefusal : Reservation :=
  { capacityRefusal 5 "other" with namespaceId := owner 2, workloadId := client.workloadId "b" 0 }

def foreignReceipt : DeploymentReceipt :=
  { receipt 9 "a" 0 with
    namespaceId := owner 2, revisionId := platform.revisionId (utf8Bytes "Pod/b\n") }

/-- The run waits for an answer to its admission, and the given one, which names all or nothing of
what it should, makes it try another agent. -/
def triesAnother (named : Bool) (r : Reservation) (s : Session) : Bool :=
  match s.run with
  | some (.admitting p agent agentEndpointId admission) =>
    (r.agentNodeId == agent.signingPubkey) == named
    && (r.requestId == admission.requestId) == named
    && (r.namespaceId == client.namespaceId) == named
    && (r.workloadId == client.workloadId p.plan.workloadName p.replicaIndex) == named
    && (s.step client (.answer (.admitted (.ok r)) (podctlInput "read"))).any fun s' =>
      match s'.run with
      | some (.selecting p') => p'.excluded.contains agentEndpointId
      | _ => false
  | _ => false

theorem of_triesAnother (h : triesAnother named r s = true) :
    ∃ p agent agentEndpointId admission s' p',
      s.run = some (.admitting p agent agentEndpointId admission) ∧
      (r.agentNodeId == agent.signingPubkey) = named ∧
      (r.requestId == admission.requestId) = named ∧
      (r.namespaceId == client.namespaceId) = named ∧
      (r.workloadId == client.workloadId p.plan.workloadName p.replicaIndex) = named ∧
      s.step client (.answer (.admitted (.ok r)) (podctlInput "read")) = some s' ∧
      s'.run = some (.selecting p') ∧ agentEndpointId ∈ p'.excluded := by
  unfold triesAnother at h
  split at h
  · next p agent agentEndpointId admission hrn =>
    simp only [Bool.and_eq_true, beq_iff_eq] at h
    obtain ⟨⟨⟨⟨hs, hr⟩, ho⟩, hw⟩, hst⟩ := h
    obtain ⟨s', hs', he⟩ := (Option.any_eq_true _ _).1 hst
    split at he
    · next p' hp' =>
      exact ⟨p, agent, agentEndpointId, admission, s', p', hrn, hs, hr, ho,
        hw, hs', hp', by simpa using he⟩
    · cases he
  · cases h

def recordsReceipt (r : DeploymentReceipt) (s : Session) : Bool :=
  match s.run with
  | some (.deploying p _ _ _ _) =>
    r.namespaceId != client.namespaceId && r.revisionId != p.plan.revisionId
    && (s.step client (.answer (.deployed (.ok r)) (podctlInput "save"))).any fun s' =>
      (s'.owner.catalogs.lookup (client.deploymentId "a")).any fun catalog =>
        catalog.replicas.any fun placement => placement.receipt == r
  | _ => false

def firstOffer : List Podctl.Action := firstDeploy.take 3

end Reference

namespace Podctl
open Reference

end Podctl
end Podmesh
