import Podmesh.Podctl.Apply

namespace Podmesh

namespace Podctl

open Locked

/-- What the runs of a session keep to. -/
structure Policy where
  trust : AgentTrust → Prop
  /-- The signing keys and KEM keys of the agents that may be sealed to. -/
  may : String → String → Prop
  kept : String → Prop
  /-- Whether a run may come to wait for a connector. -/
  readies : Prop

variable {c : Client} {i : Input} {P : Policy}

def ReplicaPlacement.Within (P : Policy) (r : ReplicaPlacement) : Prop :=
  P.may r.agentSigningPubkey r.agentKemPubkey

def DeploymentCatalog.Within (P : Policy) (catalog : DeploymentCatalog) : Prop :=
  ∀ r ∈ catalog.replicas, r.Within P

def CatalogDir.Within (P : Policy) (catalogs : CatalogDir) : Prop :=
  ∀ k catalog, catalogs.lookup k = some catalog → catalog.Within P

structure Owner.Within (P : Policy) (o : Owner) : Prop where
  catalogs : CatalogDir.Within P o.catalogs
  seals : ∀ s ∈ o.seals, ∃ key, P.may key s.recipientKem
  kept : ∀ k, P.kept k → k ∈ o.catalogs

abbrev Stays (P : Policy) (x : Locked Owner α) (Q : α → Prop) : Prop :=
  Keeps (Owner.Within P) (fun _ => True) x fun a _ => Q a

theorem Stays.of_any (h : Stays P x Q) : Keeps (Owner.Within P) S x fun a _ => Q a :=
  h.mono (fun _ _ _ => trivial) fun _ _ _ hQ => hQ

structure Updating.Within (P : Policy) (u : Updating) : Prop where
  plan : P.trust u.plan.trust
  catalog : u.catalog.Within P

structure Placing.Within (P : Policy) (p : Placing) : Prop where
  plan : P.trust p.plan.trust
  catalog : p.catalog.Within P

def Stage.Within (P : Policy) : Stage → Prop
  | .listing intent _ => ∀ x, intent = some x → P.trust x.trust
  | .updating u placement _ _ =>
    u.Within P ∧ placement.Within P ∧ u.catalog.replicas[u.index]? = some placement
  | .readying u => u.Within P ∧ P.readies
  | .selecting p => p.Within P
  | .admitting p agent _ _ => p.Within P ∧ P.may agent.signingPubkey agent.kemPubkey
  | .deploying p agent _ _ _ => p.Within P ∧ P.may agent.signingPubkey agent.kemPubkey
  | .bootstrapping _ => True

def Next.Within (P : Policy) : Next → Prop
  | .wait stage => stage.Within P
  | .finish _ => True

/-! The catalogs. -/

variable {catalog : DeploymentCatalog}

theorem DeploymentCatalog.Within.set (hw : catalog.Within P) (hr : r.Within P) (index : Nat) :
    DeploymentCatalog.Within P { catalog with replicas := catalog.replicas.set index r } := by
  intro r' hr'
  rcases List.mem_or_eq_of_mem_set hr' with ho | rfl
  · exact hw r' ho
  · exact hr

theorem DeploymentCatalog.Within.sorted (hw : catalog.Within P) : catalog.sorted.Within P := by
  intro r hr
  exact hw r ((List.mem_insertionSort _).1 hr)

theorem DeploymentCatalog.Within.push (hw : catalog.Within P) (hr : r.Within P) :
    DeploymentCatalog.Within P { catalog with replicas := catalog.replicas ++ [r] } := by
  intro r' hr'
  rcases List.mem_append.1 hr' with ho | hn
  · exact hw r' ho
  · cases List.mem_singleton.1 hn
    exact hr

theorem DeploymentCatalog.Within.new {deploymentId workloadName : String} {replicaCount : UInt32} :
    (DeploymentCatalog.new deploymentId workloadName replicaCount).Within P := by
  intro r hr
  cases hr

theorem ReplicaPlacement.retaining_within {r : ReplicaPlacement} (existing : ReplicaPlacement)
    (hr : r.Within P) : (r.retaining existing).Within P := by
  unfold ReplicaPlacement.retaining
  split <;> exact hr

theorem upsert_within (hr : r.Within P) (hl : ∀ x ∈ l, ReplicaPlacement.Within P x) :
    ∀ x ∈ upsert r l, x.Within P := by
  induction l with
  | nil =>
    intro x hx
    cases List.mem_singleton.1 hx
    exact hr
  | cons existing rest ih =>
    obtain ⟨he, hrs⟩ := List.forall_mem_cons.1 hl
    rw [upsert]
    split
    · exact List.forall_mem_cons.2 ⟨ReplicaPlacement.retaining_within existing hr, hrs⟩
    · exact List.forall_mem_cons.2 ⟨he, ih hrs⟩

variable {catalogs : CatalogDir}

theorem CatalogDir.Within.insert (hw : CatalogDir.Within P catalogs)
    (hc : catalog.Within P) (path : String) : CatalogDir.Within P (catalogs.insert path catalog) :=
      by
  intro k x hx
  rcases Assoc.lookup_insert_cases hx with ⟨_, rfl⟩ | ⟨_, ho⟩
  · exact hc
  · exact hw k x ho

theorem loadIfExists_ok (h : catalogs.loadIfExists p deploymentId = .ok existing) :
    existing = catalogs.lookup deploymentId ∧
      ∀ catalog, existing = some catalog → catalog.validate p = .ok () := by
  obtain ⟨path, hp, h⟩ := bind_ok.1 h
  obtain ⟨_, hp⟩ := unit_bind_ok.1 hp
  cases hp
  cases hl : catalogs.lookup deploymentId with
  | none =>
    rw [hl] at h
    cases h
    exact ⟨rfl, fun _ h => by cases h⟩
  | some catalog =>
    rw [hl] at h
    obtain ⟨hv, h⟩ := unit_bind_ok.1 h
    cases h
    exact ⟨rfl, fun _ h => by cases h; exact hv⟩

theorem CatalogDir.Within.load (hw : CatalogDir.Within P catalogs)
    (h : catalogs.loadIfExists p deploymentId = .ok (some catalog)) : catalog.Within P :=
  hw deploymentId catalog (loadIfExists_ok h).1.symm

/-! Writing and encrypting. -/

theorem save_stays (hc : catalog.Within P) : Stays P (c.save i catalog) fun _ => True := by
  refine .lift_bind fun _ _ => .lift_bind fun path _ => .lift_bind fun _ _ => ?_
  refine .modify (fun o ho _ => ?_) (fun _ _ _ => trivial)
  refine ⟨ho.catalogs.insert hc path, ho.seals, fun k hk => ?_⟩
  exact (AList.mem_insert _).2 (.inr (ho.kept k hk))

theorem Owner.Within.push {o : Owner} (ho : o.Within P) (hv : P.may key recipientKem)
    (secret : Secret) : Owner.Within P { o with seals := o.seals ++ [⟨recipientKem, secret⟩] } := by
  refine ⟨ho.catalogs, fun s hs => ?_, ho.kept⟩
  rcases List.mem_append.1 hs with hol | hn
  · exact ho.seals s hol
  · cases List.mem_singleton.1 hn
    exact ⟨key, hv⟩

theorem encryptFor_stays (hv : P.may key recipientKem) (secret : Secret) :
    Stays P (c.encryptFor secret recipientKem) fun _ => True := by
  refine .lift_bind fun _ _ => .lift_bind fun _ _ => ?_
  exact .modify (fun o ho _ => ho.push hv secret) (fun _ _ _ => trivial)

theorem prepareExecution_stays (hv : P.may agentSigningPubkey agentKemPubkey) :
    Stays P (c.prepareExecution i plan replicaIndex agentSigningPubkey agentKemPubkey)
      fun _ => True := by
  refine .lift_bind fun _ _ => .lift_bind fun _ _ => .lift_bind fun _ _ => .lift_bind fun _ _ => ?_
  refine Keeps.bind (R := fun _ _ => True) (.modify (fun o ho _ => ho.push hv _) fun _ _ _ => trivial)
    fun _ => ?_
  exact .pure fun _ _ _ => trivial

theorem sendUpdate_stays (hv : pl.Within P) : Stays P (c.sendUpdate i plan pl) fun _ => True := by
  refine .lift_bind fun _ _ => ?_
  refine (prepareExecution_stays hv).bind fun (capsule, exp) => ?_
  refine .lift_bind fun grant _ => .lift_bind fun update _ => ?_
  refine (encryptFor_stays hv _).bind fun _ => ?_
  exact .pure fun _ _ _ => trivial

theorem sendAdmission_stays (hv : P.may ag.signingPubkey ag.kemPubkey) :
    Stays P (c.sendAdmission i plan replicaIndex ag) fun _ => True := by
  refine .lift_bind fun adm _ => ?_
  refine (encryptFor_stays hv _).bind fun _ => ?_
  exact .pure fun _ _ _ => trivial

theorem sendGrant_stays (hv : P.may ag.signingPubkey ag.kemPubkey) :
    Stays P (c.sendGrant i plan replicaIndex ag reservationId) fun _ => True := by
  refine (prepareExecution_stays hv).bind fun (capsule, exp) => ?_
  refine .lift_bind fun grant _ => ?_
  refine (encryptFor_stays hv _).bind fun _ => ?_
  exact .pure fun _ _ _ => trivial

/-! The sections of a run. -/

theorem placeFrom_within (hp : P.trust plan.trust) (hc : catalog.Within P) (occupied : List String)
    (left : Nat) : (c.placeFrom plan catalog occupied left).Within P := by
  induction left with
  | zero => trivial
  | succ left ih =>
    rw [Client.placeFrom]
    split
    · exact ih
    · exact ⟨hp, hc⟩

theorem updateFrom_stays (hu : u.Within P) (left : Nat) :
    Stays P (c.updateFrom i left u) (Next.Within P) := by
  induction left generalizing u with
  | zero =>
    rw [Client.updateFrom]
    split
    · exact .pure fun _ _ _ => placeFrom_within hu.plan hu.catalog _ _
    · exact .throw
  | succ left ih =>
    rw [Client.updateFrom]
    split
    · exact ih hu
    · next pl hp =>
      have hv : pl.Within P := hu.catalog pl (List.mem_of_getElem? hp)
      split
      · exact ih ⟨hu.plan, hu.catalog.set (r := { pl with updateState := .active }) hv _⟩
      · have hm := hu.catalog.set (r := { pl with
          updateState := .updating u.plan.revisionId }) hv u.index
        refine (save_stays hm).bind fun _ => ?_
        refine ((sendUpdate_stays hv).attempt (fun _ _ _ _ => trivial)
          fun _ _ _ => trivial).bind (R := fun _ _ => True) fun r => ?_
        cases r with
        | ok sent =>
          have hi := (List.getElem?_eq_some_iff.1 hp).1
          exact .pure fun _ _ _ => ⟨⟨hu.plan, hm⟩, hv, List.getElem?_set_self hi⟩
        | error e => exact ih ⟨hu.plan, hm⟩

theorem updateNext_stays (hu : u.Within P) : Stays P (c.updateNext i u) (Next.Within P) :=
  updateFrom_stays (u := { u with index := u.index + 1 }) ⟨hu.plan, hu.catalog⟩ _

theorem continueApply_stays (hi : P.trust intent.trust)
    (he : ∀ catalog, existing = some catalog → catalog.Within P) :
    Stays P (c.continueApply i intent existing) (Next.Within P) := by
  refine .lift_bind fun _ _ => .lift_bind fun (man, ms) _ => .lift_bind fun _ _ => ?_
  dsimp only
  split
  · exact .lift_bind fun _ _ => .pure fun _ _ _ => trivial
  · refine .lift_bind fun annotations _ => .get_bind fun o _ _ => .lift_bind fun cfg _ =>
      .lift_bind fun proxyEndpoints _ => .lift_bind fun _ _ => .lift_bind fun _ _ => ?_
    cases existing with
    | some catalog =>
      refine Stays.of_any (updateFrom_stays ?_ _)
      exact ⟨hi, he catalog rfl⟩
    | none =>
      refine .pure fun _ _ _ => placeFrom_within ?_ .new _ _
      exact hi

theorem startApply_stays (ha : ∀ trust, c.resolve apply.trustAnyAgent = .ok trust → P.trust trust) :
    Stays P (c.startApply i apply) (Next.Within P) := by
  refine .lift_bind fun trust ht => .lift_bind fun (workloadName, replicaCount, man) _ => ?_
  refine .get_bind fun o ho _ => .lift_bind fun existing he => ?_
  cases existing with
  | some catalog =>
    refine Stays.of_any (continueApply_stays ?_ ?_)
    · exact ha trust ht
    · rintro _ ⟨⟩
      exact ho.catalogs.load he
  | none =>
    refine .lift_bind fun req _ => .pure fun _ _ _ => ?_
    rintro x ⟨⟩
    exact ha trust ht

def ListReply.Within (c : Client) (P : Policy) (reply : ListReply) : Prop :=
  ∀ entry ∈ reply.answered, ∀ response, entry.decoded = .ok (.ok response) →
    response.verify c.platform = .ok () → response.workloads ≠ [] →
    P.may response.agentNodeId response.agentKemPubkey

theorem recoverWorkload_within (hd : CatalogDir.Within P catalogs)
    (hv : P.may resp.agentNodeId resp.agentKemPubkey) (hr : CatalogDir.Within P r.recovered)
    (h : c.recoverWorkload catalogs aid resp r workload = .ok r') :
    CatalogDir.Within P r'.recovered := by
  obtain ⟨_, h⟩ := unit_bind_ok.1 h
  obtain ⟨_, h⟩ := unit_bind_ok.1 h
  obtain ⟨_, h⟩ := unit_bind_ok.1 h
  obtain ⟨catalog, hc, h⟩ := bind_ok.1 h
  obtain ⟨_, h⟩ := unit_bind_ok.1 h
  cases h
  have hw : catalog.Within P := by
    dsimp only [Client.recoveredCatalog] at hc
    split at hc
    · next hl =>
      cases hc
      exact hr _ _ hl
    · obtain ⟨existing, he, hc⟩ := bind_ok.1 hc
      cases hc
      cases existing with
      | none => exact .new
      | some catalog => exact hd.load he
  have hp : (c.reportedPlacement aid resp workload).Within P := hv
  refine hr.insert ?_ _
  exact upsert_within hp hw

theorem recoverEntry_within (hd : CatalogDir.Within P catalogs)
    (hv : ∀ resp, entry.decoded = .ok (.ok resp) → resp.verify c.platform = .ok () →
      resp.workloads ≠ [] → P.may resp.agentNodeId resp.agentKemPubkey)
    (hr : CatalogDir.Within P r.recovered)
    (h : c.recoverEntry catalogs req r entry = .ok r') : CatalogDir.Within P r'.recovered := by
  obtain ⟨decrypted, hdc, h⟩ := bind_ok.1 h
  cases decrypted with
  | error e =>
    cases h
    exact hr
  | ok resp =>
    dsimp only at h
    split at h
    · next hvr =>
      obtain ⟨_, h⟩ := unit_bind_ok.1 h
      obtain ⟨_, h⟩ := unit_bind_ok.1 h
      refine foldlM_ok (fun r => CatalogDir.Within P r.recovered) (fun workload hw _ _ hr h => ?_)
        hr h
      have hs : resp.workloads ≠ [] := List.ne_nil_of_mem hw
      exact recoverWorkload_within hd (hv resp hdc (ok_of_isOk hvr) hs) hr h
    · cases h
      exact hr

theorem reconcileWorkloads_stays (hrp : reply.Within c P) :
    Stays P (c.reconcileWorkloads i req reply) fun _ => True := by
  refine .get_bind fun o ho _ => .lift_bind fun r hr => ?_
  have hrc : CatalogDir.Within P r.recovered := by
    refine foldlM_ok (fun r => CatalogDir.Within P r.recovered) (fun entry hen _ _ hr h => ?_)
      (fun k catalog hl => by cases hl) hr
    exact recoverEntry_within ho.catalogs (hrp entry hen) hr h
  refine .forM fun catalog hc => save_stays (DeploymentCatalog.Within.sorted ?_)
  obtain ⟨e, he, rfl⟩ := List.mem_map.1 ((i.order _).2.subset hc)
  exact hrc e.1 e.2 (AList.mem_lookup_iff.2 he)

theorem afterListing_stays (hi : ∀ x, intent = some x → P.trust x.trust)
    (hrp : ∀ r, reply = .ok r → r.Within c P) :
    Stays P (c.afterListing i intent req reply) (Next.Within P) := by
  refine .lift_bind fun r hr => ?_
  refine (reconcileWorkloads_stays (hrp r hr)).bind fun _ => ?_
  cases intent with
  | none => exact .pure fun _ _ _ => trivial
  | some intent =>
    refine .get_bind fun o ho _ => .lift_bind fun existing he => .lift_bind fun _ _ => ?_
    refine Stays.of_any (continueApply_stays (hi intent rfl) ?_)
    rintro catalog rfl
    exact ho.catalogs.load he

theorem confirmUpdate_same (h : c.confirmUpdate i plan pl update exp resp = .ok upd) :
    upd.replicaIndex = pl.replicaIndex ∧ (pl.Within P → upd.Within P) := by
  obtain ⟨_, h⟩ := unit_bind_ok.1 h
  obtain ⟨_, h⟩ := unit_bind_ok.1 h
  cases ho : resp.outcome with
  | applied | alreadyActive =>
    rw [ho] at h
    obtain ⟨_, h⟩ := unit_bind_ok.1 h
    cases h
    exact ⟨rfl, id⟩
  | conflict | rejected =>
    rw [ho] at h
    cases h

theorem afterUpdate_stays (hu : u.Within P) (hv : pl.Within P) (hr : P.readies) :
    Stays P (c.afterUpdate i u pl update exp resp) (Next.Within P) := by
  unfold Client.afterUpdate
  split
  · next upd hup =>
    obtain ⟨_, _, hcn⟩ := bind_ok.1 hup
    have hc := hu.catalog.set ((confirmUpdate_same hcn).2 hv) u.index
    refine (save_stays hc).bind fun _ => ?_
    exact .pure fun _ _ _ => ⟨⟨hu.plan, hc⟩, hr⟩
  · refine updateNext_stays ?_
    exact ⟨hu.plan, hu.catalog⟩

theorem selectAgent_ok (h : c.selectAgent i plan offer = .ok ag) :
    offer = .ok ag ∧ ag.verify c.platform i.now = .ok () ∧
      plan.trust.authorize ag.signingPubkey = .ok () := by
  obtain ⟨_, rfl, h⟩ := bind_ok.1 h
  obtain ⟨hv, h⟩ := unit_bind_ok.1 h
  obtain ⟨ha, h⟩ := unit_bind_ok.1 h
  cases h
  exact ⟨rfl, hv, ha⟩

theorem afterOffer_stays (hp : p.Within P)
    (ho : ∀ ag, offer = .ok ag → ag.verify c.platform i.now = .ok () →
      p.plan.trust.authorize ag.signingPubkey = .ok () → P.may ag.signingPubkey ag.kemPubkey) :
    Stays P (c.afterOffer i p offer) (Next.Within P) := by
  refine .lift_bind fun ag hag => .lift_bind fun aid _ => ?_
  obtain ⟨hok, hvr, ha⟩ := selectAgent_ok (withContext_ok.1 hag)
  have hv := ho ag hok hvr ha
  refine (sendAdmission_stays hv).context.bind fun adm => ?_
  exact .pure fun _ _ _ => ⟨hp, hv⟩

theorem afterAdmission_stays (hp : p.Within P) (hv : P.may ag.signingPubkey ag.kemPubkey) :
    Stays P (c.afterAdmission i p ag aid adm rsv) (Next.Within P) := by
  refine .lift_bind fun admitted _ => ?_
  cases admitted with
  | refused reason =>
    refine .lift_bind fun _ _ => .pure fun _ _ _ => ?_
    exact ⟨hp.plan, hp.catalog⟩
  | reserved reservationId =>
    refine (sendGrant_stays hv).context.bind fun (grant, exp) => ?_
    exact .pure fun _ _ _ => ⟨hp, hv⟩

theorem afterDeploy_stays (hp : p.Within P) (hv : P.may ag.signingPubkey ag.kemPubkey) :
    Stays P (c.afterDeploy i p ag agentEndpointId expiresAtSecs rcpt) (Next.Within P) := by
  refine .lift_bind fun pl hpl => ?_
  obtain ⟨r, _, hc⟩ := bind_ok.1 (withContext_ok.1 hpl)
  obtain ⟨_, hc⟩ := unit_bind_ok.1 hc
  obtain ⟨_, hc⟩ := unit_bind_ok.1 hc
  cases hc
  have hct := (hp.catalog.push (r := ⟨p.replicaIndex, r.revisionId, r, c.apiBase,
    agentEndpointId, ag.agentEndpoint, ag.kemPubkey, ag.signingPubkey, expiresAtSecs,
    .active⟩) hv).sorted
  refine (save_stays hct).bind fun _ => ?_
  exact .pure fun _ _ _ => placeFrom_within hp.plan hct _ _
/-! Sessions. -/

structure Session.Within (P : Policy) (s : Session) : Prop where
  owner : s.owner.Within P
  run : ∀ stage, s.run = some stage → stage.Within P

structure Policy.Widens (P P' : Policy) : Prop where
  trust : ∀ t, P.trust t → P'.trust t
  may : ∀ key kem, P.may key kem → P'.may key kem
  kept : ∀ k, P'.kept k → P.kept k
  readies : P.readies → P'.readies

section Mono
variable {P' : Policy} (hP : P.Widens P')
include hP

theorem CatalogDir.Within.mono (hw : CatalogDir.Within P catalogs) :
    CatalogDir.Within P' catalogs :=
  fun k catalog hl r hr => hP.may _ _ (hw k catalog hl r hr)

theorem Owner.Within.mono {o : Owner} (ho : o.Within P) : o.Within P' := by
  refine ⟨CatalogDir.Within.mono hP ho.catalogs, fun s hs => ?_, fun k hk => ho.kept k (hP.kept k hk)⟩
  obtain ⟨key, hky⟩ := ho.seals s hs
  exact ⟨key, hP.may _ _ hky⟩

theorem Updating.Within.mono {u : Updating} (hu : u.Within P) : u.Within P' :=
  ⟨hP.trust _ hu.plan, fun r hr => hP.may _ _ (hu.catalog r hr)⟩

theorem Placing.Within.mono {p : Placing} (hp : p.Within P) : p.Within P' :=
  ⟨hP.trust _ hp.plan, fun r hr => hP.may _ _ (hp.catalog r hr)⟩

theorem Stage.Within.mono {stage : Stage} (hs : stage.Within P) : stage.Within P' := by
  cases stage with
  | listing intent req => exact fun x hx => hP.trust _ (hs x hx)
  | updating u pl update exp =>
    exact ⟨Updating.Within.mono hP hs.1, hP.may _ _ hs.2.1, hs.2.2⟩
  | readying u => exact ⟨Updating.Within.mono hP hs.1, hP.readies hs.2⟩
  | selecting p => exact Placing.Within.mono hP hs
  | admitting p ag aid adm
  | deploying p ag aid grant exp =>
    exact ⟨Placing.Within.mono hP hs.1, hP.may _ _ hs.2⟩
  | bootstrapping deploymentId => trivial

theorem Session.Within.mono {s : Session} (hs : s.Within P) : s.Within P' :=
  ⟨Owner.Within.mono hP hs.owner, fun stage hst => Stage.Within.mono hP (hs.run stage hst)⟩

end Mono

theorem Session.advance_within {s : Session} {x : Locked Owner Next} (hs : s.owner.Within P)
    (hx : Stays P x (Next.Within P)) : (s.advance x).Within P := by
  obtain ⟨hk, ha⟩ := hx s.owner hs trivial
  unfold Session.advance
  cases hr : x.exec s.owner with
  | mk r owner =>
    rw [hr] at hk ha
    cases r with
    | error e => exact ⟨hk, fun stage hst => by cases hst⟩
    | ok next =>
      have hn := ha next rfl
      cases next with
      | finish outcome => exact ⟨hk, fun stage hst => by cases hst⟩
      | wait stage =>
        refine ⟨hk, fun stage' hst => ?_⟩
        cases hst
        exact hn

def Action.Within (c : Client) (P : Policy) : Action → Prop
  | .apply request _ => ∀ trust, c.resolve request.trustAnyAgent = .ok trust → P.trust trust
  | .answer (.listed (.ok reply)) _ => reply.Within c P
  | .answer (.offered (.ok agent)) i => agent.verify c.platform i.now = .ok () →
      ∀ trust, P.trust trust → trust.authorize agent.signingPubkey = .ok () →
      P.may agent.signingPubkey agent.kemPubkey
  | .answer (.updated _) _ => P.readies
  | _ => True

theorem resume_stays (hs : stage.Within P) (ha : Action.Within c P (.answer ans i))
    (hx : c.resume i stage ans = some x) : Stays P x (Next.Within P) := by
  cases stage with
  | listing intent req =>
    cases ans with
    | listed reply =>
      cases hx
      refine afterListing_stays hs ?_
      rintro r rfl
      exact ha
    | _ => cases hx
  | updating u pl update exp =>
    cases ans with
    | updated resp =>
      cases hx
      exact afterUpdate_stays hs.1 hs.2.1 ha
    | _ => cases hx
  | readying u =>
    cases ans with
    | ready r =>
      cases hx
      exact .lift_bind fun _ _ => updateNext_stays hs.1
    | _ => cases hx
  | selecting p =>
    cases ans with
    | offered offer =>
      cases hx
      refine afterOffer_stays hs ?_
      rintro ag rfl hv hat
      exact ha hv _ hs.plan hat
    | _ => cases hx
  | admitting p ag aid adm =>
    cases ans with
    | admitted rsv =>
      cases hx
      exact afterAdmission_stays hs.1 hs.2
    | _ => cases hx
  | deploying p ag aid grant exp =>
    cases ans with
    | deployed rcpt =>
      cases hx
      exact afterDeploy_stays hs.1 hs.2
    | _ => cases hx
  | bootstrapping deploymentId =>
    cases ans with
    | bootstrapped r =>
      cases hx
      exact .lift_bind fun _ _ => .pure fun _ _ _ => trivial
    | _ => cases hx

theorem Session.Within.step {s s' : Session} (hs : s.Within P) (ha : action.Within c P)
    (h : s.step c action = some s') : s'.Within P := by
  cases action with
  | apply req i =>
    obtain ⟨_, h⟩ := Option.ite_none_right_eq_some.1 h
    cases h
    exact advance_within hs.owner (startApply_stays ha)
  | list i =>
    obtain ⟨_, h⟩ := Option.ite_none_right_eq_some.1 h
    cases h
    refine advance_within hs.owner (.lift_bind fun req _ => .pure fun _ _ _ => ?_)
    intro x hx
    cases hx
  | answer answer i =>
    obtain ⟨stage, hst, h⟩ := Option.bind_eq_some_iff.1 h
    obtain ⟨x, hx, rfl⟩ := Option.map_eq_some_iff.1 h
    exact advance_within hs.owner (resume_stays (hs.run stage hst) ha hx)
  | crash =>
    obtain ⟨_, h⟩ := Option.ite_none_right_eq_some.1 h
    cases h
    exact ⟨hs.owner, fun stage hst => by cases hst⟩

end Podctl
end Podmesh
