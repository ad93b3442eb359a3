import Podmesh.Podctl.Reference
import Podmesh.Podctl.Sections

namespace Podmesh

namespace Podctl

open Locked

variable {c : Client} {i : Input} {plan : Plan} {initial : DeploymentCatalog} {p : Placing}

/-! What the sections of the loop answer. -/

def Placing.recording (p : Placing) (placement : ReplicaPlacement) : DeploymentCatalog :=
  { p.catalog with replicas := p.catalog.replicas ++ [placement] }.sorted

abbrev Answers (x : Locked Owner Next) (Q : Next → Prop) : Prop :=
  Keeps (fun _ => True) (fun _ => True) x fun next _ => Q next

theorem offeredEndpointId_ok (h : Client.offeredEndpointId excluded offer = .ok aid) :
    aid ∉ excluded := by
  obtain ⟨_, h⟩ := unit_bind_ok.1 h
  obtain ⟨hf, h⟩ := unit_bind_ok.1 h
  cases h
  simpa using hf

theorem afterOffer_answers (offer : Except String CapacityOffer) :
    Answers (c.afterOffer i p offer) fun next => ∃ ag agentEndpointId admission,
      next = .wait (.admitting p ag agentEndpointId admission) ∧ agentEndpointId ∉ p.excluded := by
  refine .lift_bind fun ag _ => .lift_bind fun agentEndpointId hid => ?_
  refine (Keeps.any (c.sendAdmission i p.plan p.replicaIndex ag)).context.bind fun admission => ?_
  exact .pure fun _ _ _ => ⟨ag, agentEndpointId, admission, rfl, offeredEndpointId_ok hid⟩

def Placing.refuse (p : Placing) (agentEndpointId reason : String) : Placing :=
  { p with
    refusals := p.refusals ++ [s!"{agentEndpointId} ({reason})"]
    excluded := p.excluded ++ [agentEndpointId] }

theorem afterAdmission_answers (ag : CapacityOffer) (aid : String)
    (adm : AdmissionRequest) (rsv : Except String Reservation) :
    Answers (c.afterAdmission i p ag aid adm rsv) fun next =>
      (∃ reason, (rsv >>= c.readReservation i p.plan p.replicaIndex ag adm) =
          .ok (.refused reason) ∧ p.refusals.length < maxAdmissionCapacityRetries ∧
        next = .wait (.selecting (p.refuse aid reason))) ∨
      ∃ reservationId grant expiresAtSecs,
        (rsv >>= c.readReservation i p.plan p.replicaIndex ag adm) =
          .ok (.reserved reservationId) ∧
        next = .wait (.deploying p ag aid grant expiresAtSecs) := by
  refine .lift_bind fun admitted ha => ?_
  have hr := withContext_ok.1 ha
  cases admitted with
  | refused reason =>
    refine .lift_bind fun _ hrm => .pure fun _ _ _ => .inl ⟨reason, hr, ?_, rfl⟩
    have hl := of_decide_eq_true (ensure_ok.1 hrm)
    rw [List.length_append, List.length_singleton] at hl
    omega
  | reserved reservationId =>
    refine (Keeps.any (c.sendGrant i p.plan p.replicaIndex ag reservationId)).context.bind
      fun (grant, expiresAtSecs) => ?_
    exact .pure fun _ _ _ => .inr ⟨reservationId, grant, expiresAtSecs, hr, rfl⟩

structure ReplicaPlacement.Confirms (c : Client) (plan : Plan) (replicaIndex : UInt32)
    (agent : CapacityOffer) (agentEndpointId : String) (receipt : DeploymentReceipt)
    (placement : ReplicaPlacement) : Prop where
  index : placement.replicaIndex = replicaIndex
  address : placement.agentEndpointId = agentEndpointId
  proof : placement.receipt = receipt
  verified : receipt.verify c.platform = .ok ()
  workload : receipt.workloadId = c.workloadId plan.workloadName replicaIndex
  signer : receipt.agentNodeId = agent.signingPubkey

theorem confirmDeploy_ok {rcpt : Except String DeploymentReceipt}
    (h : (rcpt >>= c.confirmDeploy plan replicaIndex ag aid exp) = .ok pl) :
    ∃ r, rcpt = .ok r ∧ pl.Confirms c plan replicaIndex ag aid r := by
  obtain ⟨r, hr, h⟩ := bind_ok.1 h
  obtain ⟨hv, h⟩ := unit_bind_ok.1 h
  obtain ⟨hb, h⟩ := unit_bind_ok.1 h
  cases h
  rw [ensure_ok, Bool.and_eq_true, beq_iff_eq, beq_iff_eq] at hb
  exact ⟨r, hr, rfl, rfl, rfl, hv, hb.1, hb.2⟩

theorem afterDeploy_error {rcpt : Except String DeploymentReceipt}
    (h : (rcpt >>= c.confirmDeploy p.plan p.replicaIndex ag aid exp) = .error e) (owner : Owner) :
    ∃ e', (c.afterDeploy i p ag aid exp rcpt).exec owner = (.error e', owner) := by
  rw [Client.afterDeploy, h]
  exact ⟨_, exec_bind_error _ (exec_liftExcept _ _)⟩

theorem afterDeploy_confirmed {rcpt : Except String DeploymentReceipt}
    (h : (rcpt >>= c.confirmDeploy p.plan p.replicaIndex ag aid exp) = .ok pl) (owner : Owner) :
    (c.afterDeploy i p ag aid exp rcpt).exec owner =
      (((c.save i (p.recording pl)).exec owner).1.map fun _ =>
          c.placeFrom p.plan (p.recording pl) (p.occupied ++ [aid])
            (p.plan.replicaCount.toNat - (p.replicaIndex.toNat + 1)),
        ((c.save i (p.recording pl)).exec owner).2) := by
  rw [Client.afterDeploy, h]
  refine (exec_bind_ok _ (exec_liftExcept _ _)).trans ?_
  cases hs : (c.save i (p.recording pl)).exec owner with
  | mk res owner' =>
    cases res with
    | error e => exact exec_bind_error _ hs
    | ok u => exact exec_bind_ok _ hs

theorem placeFrom_wait (plan : Plan) (catalog : DeploymentCatalog) (occupied : List String)
    (left : Nat) : ∃ stage, c.placeFrom plan catalog occupied left = .wait stage := by
  induction left with
  | zero => exact ⟨_, rfl⟩
  | succ left ih =>
    rw [Client.placeFrom]
    split
    · exact ih
    · exact ⟨_, rfl⟩

/-! The history of the loop. -/

inductive PlacementEvent where
  | attempted (replicaIndex : UInt32) (agentEndpointId : String)
  | refused (replicaIndex : UInt32) (agentEndpointId : String)
  | confirmed (placement : ReplicaPlacement)
  | saved (catalog : DeploymentCatalog)
  deriving DecidableEq

def PlacementEvent.attempts (replicaIndex : UInt32) : PlacementEvent → Bool
  | .attempted index _ => index == replicaIndex
  | _ => false

/-- What happens when a wait of the loop ends, the latest event first. -/
def Client.placementEvents (c : Client) (i : Input) (owner : Owner) :
    Stage → Answer → List PlacementEvent
  | .selecting p, .offered offer =>
    match ((c.afterOffer i p offer).exec owner).1 with
    | .ok (.wait (.admitting _ _ agentEndpointId _)) => [.attempted p.replicaIndex agentEndpointId]
    | _ => []
  | .admitting p agent agentEndpointId admission, .admitted reservation =>
    match reservation >>= c.readReservation i p.plan p.replicaIndex agent admission with
    | .ok (.refused _) => [.refused p.replicaIndex agentEndpointId]
    | _ => []
  | .deploying p agent agentEndpointId _ expiresAtSecs, .deployed receipt =>
    match receipt >>= c.confirmDeploy p.plan p.replicaIndex agent agentEndpointId expiresAtSecs with
    | .ok placement =>
      if ((c.save i (p.recording placement)).exec owner).1.isOk then
        [.saved (p.recording placement), .confirmed placement]
      else [.confirmed placement]
    | .error _ => []
  | _, _ => []

/-- A run with what happened in its placement loop, the latest event first. -/
structure PlacementLog where
  session : Session
  history : List PlacementEvent

namespace PlacementLog

def start (owner : Owner) (stage : Stage) : PlacementLog := ⟨⟨owner, some stage, none⟩, []⟩

def step (c : Client) (l : PlacementLog) (a : Answer × Input) : Option PlacementLog :=
  l.session.run.bind fun stage =>
    (l.session.step c (.answer a.1 a.2)).map fun session =>
      ⟨session, c.placementEvents a.2 l.session.owner stage a.1 ++ l.history⟩

end PlacementLog

/-! The invariant of the loop. -/

structure SavedAfter (plan : Plan) (initial : DeploymentCatalog) (before : List PlacementEvent)
    (catalog : DeploymentCatalog) : Prop where
  indexes : (catalog.replicas.map ReplicaPlacement.replicaIndex).Nodup
  agents : (catalog.replicas.map ReplicaPlacement.agentEndpointId).Nodup
  known : ∀ r ∈ catalog.replicas, r ∈ initial.replicas ∨ .confirmed r ∈ before
  confirmed : ∀ r, .confirmed r ∈ before → r ∈ catalog.replicas
  apart : ∀ r, .confirmed r ∈ before → r.agentEndpointId ∉ plan.antiAffinityAgents
  willing : ∀ r, .confirmed r ∈ before → .refused r.replicaIndex r.agentEndpointId ∉ before

def SavesSound (plan : Plan) (initial : DeploymentCatalog) : List PlacementEvent → Prop
  | [] => True
  | .saved catalog :: before => SavedAfter plan initial before catalog ∧ SavesSound plan initial before
  | _ :: before => SavesSound plan initial before

theorem SavesSound.save (h : SavesSound plan initial history)
    (hs : history = after ++ .saved catalog :: bef) : SavedAfter plan initial bef catalog := by
  induction after generalizing history with
  | nil =>
    rw [hs] at h
    exact h.1
  | cons e after ih =>
    rw [hs] at h
    have hr : SavesSound plan initial (after ++ .saved catalog :: bef) := by
      cases e with
      | saved oth => exact h.2
      | attempted | refused | confirmed => exact h
    exact ih hr rfl

structure LoopState (plan : Plan) (initial : DeploymentCatalog) (history : List PlacementEvent)
    (catalog : DeploymentCatalog) (occupied : List String) (next : Nat) : Prop extends
    SavedAfter plan initial history catalog where
  taken : ∀ r ∈ catalog.replicas, r.agentEndpointId ∈ occupied
  kept : ∀ agent ∈ plan.antiAffinityAgents, agent ∈ occupied
  later : ∀ index : UInt32, next ≤ index.toNat →
    history.countP (PlacementEvent.attempts index) = 0 ∧ ∀ agent, .refused index agent ∉ history

structure ReplicaState (plan : Plan) (initial : DeploymentCatalog) (history : List PlacementEvent)
    (p : Placing) (attempts : Nat) : Prop extends
    LoopState plan initial history p.catalog p.occupied (p.replicaIndex.toNat + 1) where
  planned : p.plan = plan
  below : p.replicaIndex.toNat < plan.replicaCount.toNat
  free : p.catalog.contains p.replicaIndex = false
  excluded : ∀ agent ∈ p.occupied, agent ∈ p.excluded
  refused : ∀ agent, .refused p.replicaIndex agent ∈ history → agent ∈ p.excluded
  refusals : p.refusals.length ≤ maxAdmissionCapacityRetries
  sent : history.countP (PlacementEvent.attempts p.replicaIndex) = attempts

def Stage.Tracks (plan : Plan) (initial : DeploymentCatalog) (history : List PlacementEvent) :
    Stage → Prop
  | .selecting p => ReplicaState plan initial history p p.refusals.length
  | .admitting p _ agentEndpointId _ =>
    ReplicaState plan initial history p (p.refusals.length + 1) ∧ agentEndpointId ∉ p.excluded
  | .deploying p _ agentEndpointId _ _ =>
    ReplicaState plan initial history p (p.refusals.length + 1) ∧ agentEndpointId ∉ p.excluded
  | .bootstrapping _ => True
  | _ => False

theorem ReplicaState.index_ne (h : ReplicaState plan initial history p attempts)
    (hr : r ∈ p.catalog.replicas) : r.replicaIndex ≠ p.replicaIndex := by
  have hf := List.any_eq_false.1 h.free r hr
  simpa using hf

theorem LoopState.place (h : LoopState plan initial history catalog occupied next)
    (hn : next ≤ plan.replicaCount.toNat) :
    ∃ stage, c.placeFrom plan catalog occupied (plan.replicaCount.toNat - next) = .wait stage ∧
      stage.Tracks plan initial history := by
  generalize hr : plan.replicaCount.toNat - next = left
  induction left generalizing next with
  | zero => exact ⟨_, rfl, trivial⟩
  | succ left ih =>
    have hi : (plan.replicaCount.toNat - (left + 1)).toUInt32.toNat = next := by
      have hlt := plan.replicaCount.toNat_lt
      rw [Nat.toUInt32_eq, UInt32.toNat_ofNat', Nat.mod_eq_of_lt (by omega)]
      omega
    rw [Client.placeFrom]
    split
    · have hs : LoopState plan initial history catalog occupied (next + 1) :=
        { h with later := fun index hle => h.later index (by omega) }
      exact ih hs (by omega) (by omega)
    · next hf =>
      refine ⟨_, rfl, ?_⟩
      refine { h with later := ?_, planned := rfl, below := ?_, free := ?_, excluded := ?_,
                      refused := ?_, refusals := ?_, sent := ?_ }
      · intro index hle
        exact h.later index (by rw [hi] at hle; omega)
      · rw [hi]
        omega
      · exact Bool.eq_false_iff.2 hf
      · exact fun _ ha => ha
      · intro ag ha
        exact absurd ha ((h.later _ (Nat.le_of_eq hi.symm)).2 ag)
      · exact Nat.zero_le _
      · exact (h.later _ (Nat.le_of_eq hi.symm)).1

theorem LoopState.entering (plan : Plan)
    (hi : (initial.replicas.map ReplicaPlacement.replicaIndex).Nodup)
    (hag : (initial.replicas.map ReplicaPlacement.agentEndpointId).Nodup) :
    let own := initial.replicas.map ReplicaPlacement.agentEndpointId
    LoopState plan initial [] initial
      (own ++ plan.antiAffinityAgents.filter fun ag => !own.contains ag) 0 where
  indexes := hi
  agents := hag
  known := fun r hr => .inl hr
  confirmed := fun r hr => by cases hr
  apart := fun r hr => by cases hr
  willing := fun r hr => by cases hr
  taken := fun r hr => List.mem_append_left _ (List.mem_map_of_mem hr)
  kept := by
    intro ag ha
    by_cases ho : ag ∈ initial.replicas.map ReplicaPlacement.agentEndpointId
    · exact List.mem_append_left _ ho
    · exact List.mem_append_right _ (List.mem_filter.2 ⟨ha, by simpa using ho⟩)
  later := fun index _ => ⟨rfl, fun ag => List.not_mem_nil⟩

/-! One answer. -/

structure PlacementEvent.Local (catalog : DeploymentCatalog) (next : Nat) (e : PlacementEvent) :
    Prop where
  confirmed : ∀ r, e ≠ .confirmed r
  refused : ∀ index agent, e = .refused index agent →
    index.toNat < next ∧ ∀ r ∈ catalog.replicas, r.replicaIndex ≠ index
  attempted : ∀ index agent, e = .attempted index agent → index.toNat < next

theorem LoopState.extend (h : LoopState plan initial history catalog occupied next)
    (he : e.Local catalog next) : LoopState plan initial (e :: history) catalog occupied next := by
  have hm : ∀ r, .confirmed r ∈ e :: history → .confirmed r ∈ history := by
    intro r hr
    exact (List.mem_cons.1 hr).resolve_left fun heq => he.confirmed r heq.symm
  refine { h with known := ?_, confirmed := ?_, apart := ?_, willing := ?_, later := ?_ }
  · exact fun r hr => (h.known r hr).imp_right (List.mem_cons_of_mem e)
  · exact fun r hr => h.confirmed r (hm r hr)
  · exact fun r hr => h.apart r (hm r hr)
  · intro r hr ha
    rcases List.mem_cons.1 ha with heq | ha
    · exact (he.refused _ _ heq.symm).2 r (h.confirmed r (hm r hr)) rfl
    · exact h.willing r (hm r hr) ha
  · intro index hle
    obtain ⟨hc, hn⟩ := h.later index hle
    refine ⟨?_, fun ag ha => ?_⟩
    · rw [List.countP_cons_of_neg, hc]
      intro hs
      cases e with
      | attempted oth ag =>
        cases eq_of_beq hs
        exact Nat.not_lt.2 hle (he.attempted index ag rfl)
      | _ => cases hs
    · rcases List.mem_cons.1 ha with heq | ha
      · exact Nat.not_lt.2 hle (he.refused index ag heq.symm).1
      · exact hn ag ha

theorem ReplicaState.attempt (h : ReplicaState plan initial history p attempts) (aid : String) :
    ReplicaState plan initial (.attempted p.replicaIndex aid :: history) p (attempts + 1) := by
  have he : (PlacementEvent.attempted p.replicaIndex aid).Local p.catalog
      (p.replicaIndex.toNat + 1) := by
    refine ⟨fun r heq => ?_, fun index ag heq => ?_, fun index ag heq => ?_⟩
    · cases heq
    · cases heq
    · cases heq
      exact Nat.lt_succ_self _
  refine { h with toLoopState := h.extend he, refused := ?_, sent := ?_ }
  · intro ag ha
    rcases List.mem_cons.1 ha with heq | ha
    · cases heq
    · exact h.refused ag ha
  · rw [List.countP_cons_of_pos (by simp [PlacementEvent.attempts]), h.sent]

theorem ReplicaState.refuse (h : ReplicaState plan initial history p attempts)
    (hrm : p.refusals.length < maxAdmissionCapacityRetries) (aid reason : String) :
    ReplicaState plan initial (.refused p.replicaIndex aid :: history)
      (p.refuse aid reason) attempts := by
  have he : (PlacementEvent.refused p.replicaIndex aid).Local p.catalog
      (p.replicaIndex.toNat + 1) := by
    refine ⟨fun r heq => ?_, fun index ag heq => ?_, fun index ag heq => ?_⟩
    · cases heq
    · cases heq
      exact ⟨Nat.lt_succ_self _, fun r hr => h.index_ne hr⟩
    · cases heq
  refine { h with
    toLoopState := h.extend he, excluded := ?_, refused := ?_, refusals := ?_, sent := ?_ }
  · exact fun ag ha => List.mem_append_left _ (h.excluded ag ha)
  · intro ag ha
    rcases List.mem_cons.1 ha with heq | ha
    · injection heq with _ hag
      exact List.mem_append_right _ (List.mem_singleton.2 hag)
    · exact List.mem_append_left _ (h.refused ag ha)
  · rw [Placing.refuse, List.length_append, List.length_singleton]
    exact hrm
  · rw [List.countP_cons_of_neg (by simp [PlacementEvent.attempts])]
    exact h.sent

theorem Placing.mem_recording :
    r ∈ (p.recording placement).replicas ↔ r ∈ p.catalog.replicas ∨ r = placement := by
  rw [Placing.recording, DeploymentCatalog.sorted, List.mem_insertionSort, List.mem_append,
    List.mem_singleton]

theorem Placing.nodup_recording [DecidableEq κ] {key : ReplicaPlacement → κ}
    (hn : (p.catalog.replicas.map key).Nodup) (hnw : ∀ r ∈ p.catalog.replicas, key r ≠ key pl) :
    ((p.recording pl).replicas.map key).Nodup := by
  have hp := (List.perm_insertionSort (fun a b : ReplicaPlacement =>
    a.replicaIndex ≤ b.replicaIndex) (p.catalog.replicas ++ [pl])).map key
  refine hp.nodup_iff.2 ?_
  rw [List.map_append, List.map_singleton]
  refine List.nodup_append.2 ⟨hn, List.nodup_singleton _, ?_⟩
  intro a ha b hb heq
  obtain ⟨r, hr, rfl⟩ := List.mem_map.1 ha
  rw [List.mem_singleton.1 hb] at heq
  exact hnw r hr heq

theorem ReplicaState.confirm (h : ReplicaState plan initial history p attempts)
    (hnw : aid ∉ p.excluded) (hc : pl.Confirms c p.plan p.replicaIndex ag aid rcpt) :
    LoopState plan initial (.confirmed pl :: history) (p.recording pl)
      (p.occupied ++ [aid]) (p.replicaIndex.toNat + 1) := by
  have hrf : ∀ index ag, .refused index ag ∈ PlacementEvent.confirmed pl ::
      history → .refused index ag ∈ history := by
    intro index ag ha
    rcases List.mem_cons.1 ha with heq | ha
    · cases heq
    · exact ha
  have hm : ∀ r, .confirmed r ∈ PlacementEvent.confirmed pl :: history →
      r = pl ∨ .confirmed r ∈ history := by
    intro r hr
    rcases List.mem_cons.1 hr with heq | hr
    · injection heq with heq
      exact .inl heq
    · exact .inr hr
  refine ⟨⟨?_, ?_, ?_, ?_, ?_, ?_⟩, ?_, ?_, ?_⟩
  · apply Placing.nodup_recording h.indexes
    intro r hr
    rw [hc.index]
    exact h.index_ne hr
  · apply Placing.nodup_recording h.agents
    intro r hr heq
    rw [hc.address] at heq
    exact hnw (heq ▸ h.excluded _ (h.taken r hr))
  · intro r hr
    rcases Placing.mem_recording.1 hr with ho | rfl
    · exact (h.known r ho).imp_right (List.mem_cons_of_mem _)
    · exact .inr List.mem_cons_self
  · intro r hr
    rcases hm r hr with rfl | ho
    · exact Placing.mem_recording.2 (.inr rfl)
    · exact Placing.mem_recording.2 (.inl (h.confirmed r ho))
  · intro r hr
    rcases hm r hr with rfl | ho
    · rw [hc.address]
      exact fun ha => hnw (h.excluded _ (h.kept _ ha))
    · exact h.apart r ho
  · intro r hr ha
    rcases hm r hr with rfl | ho
    · rw [hc.index, hc.address] at ha
      exact hnw (h.refused _ (hrf _ _ ha))
    · exact h.willing r ho (hrf _ _ ha)
  · intro r hr
    rcases Placing.mem_recording.1 hr with ho | rfl
    · exact List.mem_append_left _ (h.taken r ho)
    · rw [hc.address]
      exact List.mem_append_right _ (List.mem_singleton.2 rfl)
  · exact fun ag ha => List.mem_append_left _ (h.kept ag ha)
  · intro index hle
    obtain ⟨hcn, hn⟩ := h.later index hle
    refine ⟨?_, fun ag ha => hn ag (hrf index ag ha)⟩
    rw [List.countP_cons_of_neg (by simp [PlacementEvent.attempts]), hcn]

theorem LoopState.save (h : LoopState plan initial history catalog occupied next)
    (written : DeploymentCatalog) :
    LoopState plan initial (.saved written :: history) catalog occupied next := by
  apply h.extend
  refine ⟨fun r heq => ?_, fun index ag heq => ?_, fun index ag heq => ?_⟩ <;> cases heq

/-! A whole run. -/

theorem Session.advance_wait {s : Session} {x : Locked Owner Next}
    (h : (x.exec s.owner).1 = .ok (.wait stage)) :
    s.advance x = ⟨(x.exec s.owner).2, some stage, none⟩ := by
  unfold Session.advance
  cases hx : x.exec s.owner with
  | mk res owner =>
    rw [hx] at h
    cases h
    rfl

theorem Session.advance_error {s : Session} {x : Locked Owner Next}
    (h : (x.exec s.owner).1 = .error e) :
    s.advance x = ⟨(x.exec s.owner).2, none, some (.error e)⟩ := by
  unfold Session.advance
  cases hx : x.exec s.owner with
  | mk res owner =>
    rw [hx] at h
    cases h
    rfl

namespace PlacementLog
variable {s : Session} {history : List PlacementEvent}

structure Sound (plan : Plan) (initial : DeploymentCatalog) (l : PlacementLog) : Prop where
  saves : SavesSound plan initial l.history
  attempts : ∀ index, l.history.countP (PlacementEvent.attempts index) ≤
    maxAdmissionCapacityRetries + 1
  run : ∀ stage, l.session.run = some stage → stage.Tracks plan initial l.history

theorem Sound.ended (hs : SavesSound plan initial history)
    (ha : ∀ index, history.countP (PlacementEvent.attempts index) ≤
      maxAdmissionCapacityRetries + 1) :
    Sound plan initial ⟨⟨owner, none, returned⟩, history⟩ :=
  ⟨hs, ha, fun stage hst => by cases hst⟩

theorem Sound.waiting (hs : SavesSound plan initial history)
    (ha : ∀ index, history.countP (PlacementEvent.attempts index) ≤ maxAdmissionCapacityRetries + 1)
    (ht : stage.Tracks plan initial history) :
    Sound plan initial ⟨⟨owner, some stage, returned⟩, history⟩ := by
  refine ⟨hs, ha, fun stage' hst => ?_⟩
  cases hst
  exact ht

section
variable (h : Sound plan initial ⟨s, history⟩)
include h

theorem Sound.offered (hr : s.run = some (.selecting p)) (offer : Except String CapacityOffer) :
    Sound plan initial ⟨s.advance (c.afterOffer i p offer),
      c.placementEvents i s.owner (.selecting p) (.offered offer) ++ history⟩ := by
  have hp : ReplicaState plan initial history p p.refusals.length := h.run _ hr
  rw [Client.placementEvents]
  cases hx : ((c.afterOffer i p offer).exec s.owner).1 with
  | error e =>
    rw [Session.advance_error hx]
    exact .ended h.saves h.attempts
  | ok next =>
    obtain ⟨ag, agentEndpointId, admission, rfl, hn⟩ :=
      (afterOffer_answers offer s.owner trivial trivial).2 next hx
    rw [Session.advance_wait hx]
    refine .waiting h.saves ?_ ⟨hp.attempt agentEndpointId, hn⟩
    intro index
    by_cases hi : index = p.replicaIndex
    · rw [hi, List.singleton_append, (hp.attempt agentEndpointId).sent]
      exact Nat.succ_le_succ hp.refusals
    · rw [List.singleton_append, List.countP_cons_of_neg]
      · exact h.attempts index
      · simpa [PlacementEvent.attempts] using Ne.symm hi

theorem Sound.admitted (hrn : s.run = some (.admitting p ag aid adm))
    (rsv : Except String Reservation) :
    Sound plan initial
      ⟨s.advance (c.afterAdmission i p ag aid adm rsv),
        c.placementEvents i s.owner (.admitting p ag aid adm)
          (.admitted rsv) ++ history⟩ := by
  obtain ⟨hp, hn⟩ := h.run _ hrn
  have hc : ∀ index, (PlacementEvent.refused p.replicaIndex aid ::
      history).countP (PlacementEvent.attempts index) ≤ maxAdmissionCapacityRetries + 1 := by
    intro index
    rw [List.countP_cons_of_neg (by simp [PlacementEvent.attempts])]
    exact h.attempts index
  rw [Client.placementEvents]
  cases hx : ((c.afterAdmission i p ag aid adm rsv).exec s.owner).1 with
  | error e =>
    rw [Session.advance_error hx]
    split
    · exact .ended h.saves hc
    · exact .ended h.saves h.attempts
  | ok next =>
    obtain ⟨reason, hr, hrm, rfl⟩ | ⟨reservationId, grant, expiresAtSecs, hr, rfl⟩ :=
      (afterAdmission_answers ag aid adm rsv s.owner trivial trivial).2 next hx
    · rw [Session.advance_wait hx, hr]
      refine .waiting h.saves hc ?_
      have hrf := hp.refuse hrm aid reason
      rw [Stage.Tracks, Placing.refuse, List.length_append, List.length_singleton]
      exact hrf
    · rw [Session.advance_wait hx, hr]
      exact .waiting h.saves h.attempts ⟨hp, hn⟩

theorem Sound.deployed (hr : s.run = some (.deploying p ag aid grant exp))
    (rcpt : Except String DeploymentReceipt) :
    Sound plan initial
      ⟨s.advance (c.afterDeploy i p ag aid exp rcpt),
        c.placementEvents i s.owner (.deploying p ag aid grant exp)
          (.deployed rcpt) ++ history⟩ := by
  obtain ⟨hp, hn⟩ := h.run _ hr
  rw [Client.placementEvents]
  cases hc : (rcpt >>= c.confirmDeploy p.plan p.replicaIndex ag aid exp) with
  | error e =>
    obtain ⟨e', hx⟩ := afterDeploy_error (i := i) hc s.owner
    rw [Session.advance_error (congrArg Prod.fst hx)]
    exact .ended h.saves h.attempts
  | ok pl =>
    obtain ⟨r, _, hcn⟩ := confirmDeploy_ok hc
    have hl := hp.confirm hn hcn
    have hx := congrArg Prod.fst (afterDeploy_confirmed (i := i) hc s.owner)
    have hco : ∀ index, (PlacementEvent.confirmed pl :: history).countP
        (PlacementEvent.attempts index) ≤ maxAdmissionCapacityRetries + 1 := by
      intro index
      rw [List.countP_cons_of_neg (by simp [PlacementEvent.attempts])]
      exact h.attempts index
    dsimp only at hx ⊢
    cases hs : ((c.save i (p.recording pl)).exec s.owner).1 with
    | error e =>
      rw [hs] at hx
      rw [Session.advance_error hx]
      exact .ended h.saves hco
    | ok u =>
      obtain ⟨stage, hst, ht⟩ := (hl.save (p.recording pl)).place (c := c) hp.below
      rw [hs, hp.planned] at hx
      rw [Session.advance_wait (hx.trans (congrArg Except.ok hst))]
      refine .waiting ⟨hl.toSavedAfter, h.saves⟩ ?_ ht
      intro index
      rw [if_pos (show (Except.ok u : Except String Unit).isOk = true from rfl), List.cons_append,
        List.countP_cons_of_neg (by simp [PlacementEvent.attempts])]
      exact hco index

end

theorem Sound.step {l l' : PlacementLog} (h : l.Sound plan initial)
    (hs : l.step c a = some l') : l'.Sound plan initial := by
  obtain ⟨ans, i⟩ := a
  obtain ⟨stage, hr, hs⟩ := Option.bind_eq_some_iff.1 hs
  obtain ⟨ses, hst, rfl⟩ := Option.map_eq_some_iff.1 hs
  simp only [Session.step] at hst hr
  rw [hr, Option.bind_some] at hst
  obtain ⟨x, hx, rfl⟩ := Option.map_eq_some_iff.1 hst
  have ht := h.run stage hr
  cases stage with
  | listing | updating | readying => exact ht.elim
  | selecting p =>
    cases ans with
    | offered offer =>
      cases hx
      exact h.offered hr offer
    | _ => cases hx
  | admitting p ag aid adm =>
    cases ans with
    | admitted rsv =>
      cases hx
      exact h.admitted hr rsv
    | _ => cases hx
  | deploying p ag aid grant exp =>
    cases ans with
    | deployed rcpt =>
      cases hx
      exact h.deployed hr rcpt
    | _ => cases hx
  | bootstrapping deploymentId =>
    cases ans with
    | bootstrapped r =>
      cases hx
      refine ⟨h.saves, h.attempts, fun stage hsg => ?_⟩
      cases r with
      | ok | error => cases hsg
    | _ => cases hx

end PlacementLog

/-- Whatever the scheduler and the agents answer: each catalog that the placement loop writes has
each index and each agent at most once and every replica confirmed so far, no new replica is on an
agent of a loaded anti-affinity catalog or on one that refused it for capacity, and no replica is
offered more than `MAX_ADMISSION_CAPACITY_RETRIES + 1` times. -/
theorem placement_loop_keeps (hindexes : (initial.replicas.map ReplicaPlacement.replicaIndex).Nodup)
    (hagents : (initial.replicas.map ReplicaPlacement.agentEndpointId).Nodup)
    (hplan : plan.antiAffinityAgents = antiAffinityAgents c.platform catalogs targets)
    (hstart : c.startPlacing plan initial = .wait stage)
    (hr : Reach (PlacementLog.step c) always (.start owner stage) l) :
    (∀ after catalog before, l.history = after ++ .saved catalog :: before →
      (catalog.replicas.map ReplicaPlacement.replicaIndex).Nodup ∧
      (catalog.replicas.map ReplicaPlacement.agentEndpointId).Nodup ∧
      (∀ r ∈ catalog.replicas, r ∈ initial.replicas ∨ .confirmed r ∈ before) ∧
      ∀ r, .confirmed r ∈ before → r ∈ catalog.replicas ∧
        (∀ target ∈ targets, ∀ other, catalogs.load c.platform target = .ok other →
          ∀ r' ∈ other.replicas, r.agentEndpointId ≠ r'.agentEndpointId) ∧
        .refused r.replicaIndex r.agentEndpointId ∉ before) ∧
    ∀ index, l.history.countP (PlacementEvent.attempts index) ≤
      maxAdmissionCapacityRetries + 1 := by
  obtain ⟨first, hf, htr⟩ :=
    (LoopState.entering plan hindexes hagents).place (c := c) (Nat.zero_le _)
  have hsn : l.Sound plan initial := by
    refine Reach.invariant (PlacementLog.Sound plan initial) ?_ (fun l a l' _ hl _ h => hl.step h) hr
    cases hstart.symm.trans hf
    exact .waiting trivial (fun index => Nat.zero_le _) htr
  refine ⟨?_, hsn.attempts⟩
  intro after catalog before hsp
  have hs := hsn.saves.save hsp
  refine ⟨hs.indexes, hs.agents, hs.known, fun r hr => ?_⟩
  refine ⟨hs.confirmed r hr, ?_, hs.willing r hr⟩
  intro target ht other hl r' hr' heq
  apply hs.apart r hr
  rw [hplan, heq]
  refine List.mem_eraseDups.2 (List.mem_flatMap.2 ⟨target, ht, ?_⟩)
  rw [hl]
  exact List.mem_map_of_mem hr'

end Podctl

namespace Reference
open Podctl

def placementPlan : Plan where
  trust := .anyAgent
  workloadName := "a"
  replicaCount := 2
  manifest := utf8Bytes "Pod/a\n"
  resources := reserved
  revisionId := platform.revisionId (utf8Bytes "Pod/a\n")
  proxyEndpoints := [proxyEndpoint]
  relayAuthToken := "0123456789abcdef0123456789abcdef"
  relayCaCertificates := []
  antiAffinityAgents := []

def placementCatalog : DeploymentCatalog := .new (client.deploymentId "a") "a" 2

def placementStage : Stage := .selecting ⟨placementPlan, placementCatalog, [], 0, [], []⟩

def capacityRefusal (n : UInt8) (requestId : String) : Reservation :=
  { reservation n requestId "a" 0 with
    accepted := false, reason := AdmissionRefusal.insufficientCapacity.asStr }

def placementAnswers : List (Answer × Podctl.Input) :=
  [(.offered (.ok (offer 9)), podctlInput "first"),
    (.admitted (.ok (capacityRefusal 9 "first")), podctlInput "read"),
    (.offered (.ok (offer 8)), podctlInput "second"),
    (.admitted (.ok (reservation 8 "second" "a" 0)), podctlInput "grant"),
    (.deployed (.ok (receipt 8 "a" 0)), podctlInput "save")]

end Reference

namespace Podctl
open Reference

theorem placement_loop_keeps_sample :
    ∃ l, Reach (PlacementLog.step client) always (.start ⟨∅, []⟩ placementStage) l ∧
      (l.history.any fun e => e matches .saved _) = true ∧
      ∀ after catalog before, l.history = after ++ .saved catalog :: before →
        (catalog.replicas.map ReplicaPlacement.agentEndpointId).Nodup := by
  obtain ⟨l, hr, hs⟩ := exists_reach_of_run (PlacementLog.step client) always
    (.start ⟨∅, []⟩ placementStage) placementAnswers
    (fun l => l.history.any fun e => e matches .saved _) (by decide +kernel)
  have hi : (placementCatalog.replicas.map ReplicaPlacement.replicaIndex).Nodup :=
    List.nodup_nil
  have ha : (placementCatalog.replicas.map ReplicaPlacement.agentEndpointId).Nodup :=
    List.nodup_nil
  have hp : placementPlan.antiAffinityAgents = antiAffinityAgents client.platform ∅ [] := rfl
  have hst : client.startPlacing placementPlan placementCatalog = .wait placementStage := rfl
  have hk := placement_loop_keeps hi ha hp hst hr
  exact ⟨l, hr, hs, fun after catalog before hsp =>
    (hk.1 after catalog before hsp).2.1⟩

end Podctl
end Podmesh
