import Podmesh.Agent.World

namespace Podmesh

/-- A change of a finite map at one key at most. -/
inductive Edit (V : Type) where
  | keep
  | put (key : String) (v : V)
  | drop (key : String)

def Edit.apply : Edit V → (AList fun _ : String => V) → AList fun _ : String => V
  | .keep, m => m
  | .put key v, m => m.insert key v
  | .drop key, m => m.erase key

/-- What one section does to the records in memory and on disk, the pods, the reservations and the
mutation guards. -/
structure Effect where
  memory : Edit StoredWorkload
  disk : Edit (Option StoredWorkload)
  pods : PodMap
  reservations : ReservationMap
  mutations : AList fun _ : String => MutationOwner

structure Node.Does (n n' : Node) (e : Effect) : Prop where
  active : n'.state.active = e.memory.apply n.state.active
  workloads : n'.store.workloads = e.disk.apply n.store.workloads
  pods : n'.pods = e.pods
  reservations : n'.state.reservations = e.reservations
  mutations : n'.mutations = e.mutations
  quarantined : n'.state.quarantined = n.state.quarantined
  replay : n'.replay = n.replay

def Input.effective (i : Input) : Bool :=
  match i.reply with
  | .ok | .other _ => true
  | .failed _ | .unknown _ => i.tookEffect

def Input.plain (i : Input) : Bool :=
  match i.reply with
  | .other _ => false
  | _ => true

def Host.keepsName (h : Host) (d : WorkloadDeployment) (name : String) : Bool :=
  match h.runtime.targetId d with
  | .ok target => target == name
  | .error _ => true

theorem Input.plain_reply {i : Input} (hi : i.plain = true) (other : String) : i.reply ≠ .other other := by
  intro hr
  rw [Input.plain, hr] at hi
  cases hi

def Deployed (h : Host) (i : Input) (d : WorkloadDeployment) (pods pods' : PodMap) : Prop :=
  pods' = pods ∨
    i.effective = true ∧ ∃ id pod, h.runtime.targetId d = .ok id ∧ pods' = pods.insert id pod

def Deleted (id : String) (pods pods' : PodMap) : Prop := pods' = pods ∨ pods' = pods.erase id

theorem runtimeCall_cases (i : Input) (pods after : PodMap) :
    ((runtimeCall i pods after).1 = pods ∨
        i.effective = true ∧ (runtimeCall i pods after).1 = after) ∧
      ((∃ r, (runtimeCall i pods after).2 = .ok r) → (runtimeCall i pods after).1 = after) := by
  unfold runtimeCall Input.effective
  cases i.reply with
  | ok | other id => exact ⟨.inr ⟨rfl, rfl⟩, fun _ => rfl⟩
  | failed m | unknown m =>
    refine ⟨?_, fun ⟨r, hr⟩ => by cases hr⟩
    cases i.tookEffect
    · exact .inl rfl
    · exact .inr ⟨rfl, rfl⟩

theorem runtimeDeploy_cases (h : Host) (i : Input) (d : WorkloadDeployment) (n : Node) :
    ∃ pods res, runtimeDeploy h i d n = ({ n with pods }, res) ∧ Deployed h i d n.pods pods := by
  unfold runtimeDeploy
  cases hid : h.runtime.targetId d with
  | error e => exact ⟨n.pods, _, rfl, .inl rfl⟩
  | ok id =>
    refine ⟨_, _, rfl, ?_⟩
    rcases (runtimeCall_cases i n.pods
      (n.pods.insert id ⟨d.manifest, i.podEndpointId, i.podSigningKey⟩)).1 with hp | ⟨he, hp⟩
    · exact .inl hp
    · exact .inr ⟨he, id, _, hid, hp⟩

theorem runtimeDelete_cases (i : Input) (id : String) (n : Node) :
    ∃ pods res, runtimeDelete i id n = ({ n with pods }, res) ∧ Deleted id n.pods pods ∧
      (res = .ok () → pods = n.pods.erase id) := by
  refine ⟨_, (runtimeCall i n.pods (n.pods.erase id)).2.map fun _ => (), rfl,
    (runtimeCall_cases i n.pods (n.pods.erase id)).1.imp_right And.right, fun hok => ?_⟩
  refine (runtimeCall_cases i n.pods (n.pods.erase id)).2 ?_
  cases hr : (runtimeCall i n.pods (n.pods.erase id)).2 with
  | error e =>
    rw [hr] at hok
    cases hok
  | ok r => exact ⟨r, rfl⟩

theorem runtimeCleanup_cases (h : Host) (i : Input) (id : String) (unc : Bool) (n : Node) :
    ∃ pods res, runtimeCleanup h i id unc n = ({ n with pods }, res) ∧
      Deleted id n.pods pods ∧ (res = .ok () → pods = n.pods.erase id) := by
  unfold runtimeCleanup
  split
  · exact ⟨n.pods, _, rfl, .inl rfl, fun hok => by cases hok⟩
  · exact runtimeDelete_cases i id n

/-- What one runtime call did to the pods; a pod that appears runs the manifest asked for. -/
inductive PodChange (h : Host) (deploys : Option WorkloadDeployment) (deletes : Option String)
    (effective : Bool) (pods : PodMap) : PodMap → Prop
  | none : PodChange h deploys deletes effective pods pods
  | deployed : deploys = some d → effective = true → h.runtime.targetId d = .ok target →
      pod.manifest = d.manifest →
      PodChange h deploys deletes effective pods (pods.insert target pod)
  | deleted : deletes = some target →
      PodChange h deploys deletes effective pods (pods.erase target)

theorem runtimeDeploy_change (h : Host) (i : Input) (d : WorkloadDeployment) (n : Node)
    (deletes : Option String) :
    PodChange h (some d) deletes i.effective n.pods (runtimeDeploy h i d n).1.pods := by
  unfold runtimeDeploy
  cases hid : h.runtime.targetId d with
  | error e => exact .none
  | ok id =>
    dsimp only
    obtain hp | ⟨he, hp⟩ := (runtimeCall_cases i n.pods
      (n.pods.insert id ⟨d.manifest, i.podEndpointId, i.podSigningKey⟩)).1
    · rw [hp]
      exact .none
    · rw [hp]
      exact .deployed rfl he hid rfl

theorem Deleted.change (hx : Deleted tgt pods pods') (ht : deletes = some tgt) :
    PodChange h deploys deletes effective pods pods' := by
  obtain rfl | rfl := hx
  · exact .none
  · exact .deleted ht

theorem write_ok {n n' : Node} (h : n.write i f = (n', .ok ())) :
    n' = { n with store := f n.store } ∧ i.stored = .ok () := by
  unfold Node.write at h
  split at h
  · next hs =>
    cases h
    exact ⟨rfl, hs⟩
  · cases h

theorem write_error {n n' : Node} (h : n.write i f = (n', .error e)) :
    n' = n ∧ i.stored = .error e := by
  unfold Node.write at h
  split at h
  · cases h
  · next hs =>
    cases h
    exact ⟨rfl, hs⟩

/-- What one section does to the persistent tables: at most one write. -/
inductive Store.Change (s : Store) : Store → Prop
  | same : Change s s
  | saved (w : StoredWorkload) : Change s (s.save w)
  | removed (workloadId : String) : Change s (s.remove workloadId)
  | unbound (workloadId : String) : Change s (s.removeEnrollment workloadId)

namespace Effect

def record (n : Node) (memory : Edit StoredWorkload) (disk : Edit (Option StoredWorkload))
    (pods : PodMap) : Effect :=
  ⟨memory, disk, pods, n.state.reservations, n.mutations⟩

def call (n : Node) (pods : PodMap) : Effect := record n .keep .keep pods

def quiet (n : Node) : Effect := call n n.pods

def guarded (n : Node) (workloadId : String) : Effect :=
  { quiet n with mutations := n.mutations.insert workloadId .lifecycle }

end Effect

def Task.isReader : Task → Bool
  | .deployGuard _ _ | .deployLock _ _ _ | .updateGuard _ _ | .updateLock _ _ _ _
  | .commandLock _ _ | .commandRuntime _ _ _ | .deleteGuard _ _ | .deleteLookup _ _
  | .listLock _ _ => true
  | _ => false

def Task.deploys : Task → Option WorkloadDeployment
  | .deployRuntime _ _ deployment | .updateRuntime _ _ _ _ deployment
  | .rollbackRuntime _ _ deployment _ => some deployment
  | _ => none

def Task.deletes : Task → Option String
  | .deployCleanup _ target _ | .deleteCleanup _ _ _ target => some target
  | .deleteRuntime _ _ active => some active.runtimeId
  | _ => none

def Task.isInspection : Task → Bool
  | .enrollInspect _ _ => true
  | _ => false

def Task.isEnrollment : Task → Bool
  | .enrollLock _ | .enrollInspect _ _ | .enrollInstall _ => true
  | _ => false

/-- Everything a section can do to the records, the pods and the reservations. -/
inductive PollCase (h : Host) (i : Input) (n : Node) : Task → Effect → After → Prop
  | admitted : PollCase h i n (.admitLock now request)
      ⟨.keep, .keep, n.pods, (admitLocked h now i.freshId request n.state).1.reservations,
        n.mutations⟩ (.done r)
  | guardWait : t.guard = none → PollCase h i n t (.quiet n) (.next t)
  | ended : t.isReader = true → PollCase h i n t (.quiet n) (.done r)
  | enrolled : t.isEnrollment = true → PollCase h i n t (.quiet n) (.quit r)
  | inspecting : n.state.active.lookup wid = some stored →
      PollCase h i n (.enrollLock wid) (.quiet n) (.next (.enrollInspect stored delegation))
  | installing : PollCase h i n (.enrollInspect stored delegation) (.quiet n)
      (.next (.enrollInstall stored))
  | deployGuarded : n.mutations.lookup grant.workloadId = none →
      PollCase h i n (.deployGuard grant execution) (.guarded n grant.workloadId)
        (.next (.deployLock now grant execution))
  | deployRefused : n.state.reservations.lookup grant.reservationId = some reservation →
      PollCase h i n (.deployLock now grant execution)
        ⟨.keep, .keep, n.pods, n.state.reservations.erase grant.reservationId, n.mutations⟩
        (.done r)
  | deployStarted : n.state.reservations.lookup grant.reservationId = some reservation →
      planDeployment h now (n.state.consume grant.reservationId) grant execution reservation =
        .ok (stored, deployment) →
      PollCase h i n (.deployLock now grant execution)
        ⟨.put grant.workloadId stored, .put stored.grant.workloadId (some stored), n.pods,
          n.state.reservations.erase grant.reservationId, n.mutations⟩
        (.next (.deployRuntime now stored deployment))
  | deployFailed : Deployed h i deployment n.pods pods →
      PollCase h i n (.deployRuntime now stored deployment) (.call n pods)
        (.next (.deployFail stored uncertain error))
  | deployUnsaved : Deployed h i deployment n.pods pods →
      PollCase h i n (.deployRuntime now stored deployment) (.call n pods)
        (.next (.deployFail { stored with phase := .active } uncertain error))
  | deploySaved : Deployed h i deployment n.pods pods →
      PollCase h i n (.deployRuntime now stored deployment)
        (.record n .keep (.put stored.grant.workloadId (some { stored with phase := .active })) pods)
        (.next (.deployCommit now { stored with phase := .active }))
  | failRecorded : (disk = .keep ∨ disk = .put stored.grant.workloadId
        (some { stored with phase := .cleanupPending uncertain })) →
      (after = .done (.error error) ∨ ∃ target,
        h.cleanupTarget { stored with phase := .cleanupPending uncertain } = .ok target ∧ after =
          .next (.deployCleanup { stored with phase := .cleanupPending uncertain } target error)) →
      PollCase h i n (.deployFail stored uncertain error)
        (.record n (.put stored.grant.workloadId { stored with phase := .cleanupPending uncertain })
          disk n.pods) after
  | cleanupFailed : Deleted target n.pods pods →
      PollCase h i n (.deployCleanup stored target error) (.call n pods) (.done r)
  | cleanupDone : PollCase h i n (.deployCleanup stored target error)
      (.record n .keep (.drop stored.grant.workloadId) (n.pods.erase target))
      (.next (.deployRemove stored error))
  | deployRemoved : PollCase h i n (.deployRemove stored error)
      (.record n (.drop stored.grant.workloadId) .keep n.pods) (.done r)
  | deployCommitted : PollCase h i n (.deployCommit now stored)
      (.record n (.put stored.grant.workloadId stored) .keep n.pods) (.done r)
  | updateGuarded : n.mutations.lookup request.workloadId = none →
      updateManifest h i.now request execution = .ok manifest →
      PollCase h i n (.updateGuard request execution) (.guarded n request.workloadId)
        (.next (.updateLock i.now request execution manifest))
  | updateStarted : n.state.owned request.workloadId request.namespaceId = some active →
      planUpdate h n.state request execution active = .ok .transition →
      PollCase h i n (.updateLock now request execution manifest)
        (.record n (.put request.workloadId (transitioning request active))
          (.put active.grant.workloadId (some (transitioning request active))) n.pods)
        (.next (.updateRuntime now request execution active
          ⟨request.workloadId, request.namespaceId, manifest⟩))
  | updateAbandoned : Deployed h i deployment n.pods pods →
      PollCase h i n (.updateRuntime now request execution active deployment) (.call n pods)
        (.done r)
  | updateFailed : Deployed h i deployment n.pods pods →
      rollbackDeployment h active = .ok previous →
      PollCase h i n (.updateRuntime now request execution active deployment) (.call n pods)
        (.next (.rollbackRuntime request active previous error))
  | updateSaved : Deployed h i deployment n.pods pods →
      (runtimeDeploy h i deployment n).2 = .ok runtimeId →
      PollCase h i n (.updateRuntime now request execution active deployment)
        (.record n .keep (.put request.grant.workloadId
          (some (updatedWorkload request execution runtimeId))) pods)
        (.next (.updateCommit now request active (updatedWorkload request execution runtimeId)))
  | rollbackFailed : Deployed h i deployment n.pods pods →
      PollCase h i n (.rollbackRuntime request active deployment error) (.call n pods) (.done r)
  | rollbackSaved : Deployed h i deployment n.pods pods →
      (runtimeDeploy h i deployment n).2 = .ok runtimeId → i.stored = .ok () →
      PollCase h i n (.rollbackRuntime request active deployment error)
        (.record n .keep (.put active.grant.workloadId (some active)) pods)
        (.next (.rollbackInsert request active error))
  | rolledBack : PollCase h i n (.rollbackInsert request active error)
      (.record n (.put active.grant.workloadId active) .keep n.pods) (.done r)
  | updateCommitted : PollCase h i n (.updateCommit now request active updated)
      (.record n (.put request.workloadId updated) .keep n.pods) (.done r)
  | deleteRequested : PollCase h i n (.commandLock now command) (.quiet n)
      (.next (.deleteGuard now command))
  | operationStarted : PollCase h i n (.commandLock now command) (.quiet n)
      (.next (.commandRuntime now command active))
  | deleteGuarded : n.mutations.lookup command.workloadId = none →
      PollCase h i n (.deleteGuard now command) (.guarded n command.workloadId)
        (.next (.deleteLookup now command))
  | deleteNeedsCleanup : n.state.owned command.workloadId command.namespaceId = some active →
      active.needsCleanup = true → h.cleanupTarget active = .ok target →
      PollCase h i n (.deleteLookup now command) (.quiet n)
        (.next (.deleteCleanup now command active target))
  | deleteFound : n.state.owned command.workloadId command.namespaceId = some active →
      active.needsCleanup = false → active.isUpdating = false →
      PollCase h i n (.deleteLookup now command) (.quiet n) (.next (.deleteMark now command active))
  | deleteCleanupFailed : Deleted target n.pods pods →
      PollCase h i n (.deleteCleanup now command active target) (.call n pods) (.done r)
  | deleteCleanupDone : PollCase h i n (.deleteCleanup now command active target)
      (.record n .keep (.drop active.grant.workloadId) (n.pods.erase target))
      (.next (.deleteRemove now command active))
  | deleteMarkGone : n.state.active.lookup command.workloadId = none →
      PollCase h i n (.deleteMark now command active) (.quiet n) (.done r)
  | deleteUnsaved : n.state.active.lookup command.workloadId = some current →
      i.stored = .error error →
      PollCase h i n (.deleteMark now command active)
        (.record n (.put command.workloadId { current with deleting := true }) .keep n.pods)
        (.next (.deleteUnmark command active error))
  | deleteMarked : n.state.active.lookup command.workloadId = some current →
      PollCase h i n (.deleteMark now command active)
        (.record n (.put command.workloadId { current with deleting := true })
          (.put current.grant.workloadId (some { current with deleting := true })) n.pods)
        (.next (.deleteRuntime now command active))
  | deleteUnmarkGone : n.state.active.lookup command.workloadId = none →
      PollCase h i n (.deleteUnmark command active error) (.quiet n) (.done r)
  | deleteUnmarked : n.state.active.lookup command.workloadId = some current →
      PollCase h i n (.deleteUnmark command active error)
        (.record n (.put command.workloadId { current with deleting := false }) .keep n.pods)
        (.done r)
  | deleteStopped : Deleted active.runtimeId n.pods pods →
      PollCase h i n (.deleteRuntime now command active) (.call n pods) (.done r)
  | deleteRemoving : (active.runtimeId ≠ "" → pods = n.pods.erase active.runtimeId) →
      Deleted active.runtimeId n.pods pods →
      PollCase h i n (.deleteRuntime now command active)
        (.record n .keep (.drop command.workloadId) pods)
        (.next (.deleteRemove now command active))
  | deleteRestoring : Deleted active.runtimeId n.pods pods →
      PollCase h i n (.deleteRuntime now command active)
        (.record n .keep (.put active.grant.workloadId (some active)) pods)
        (.next (.deleteRestore now command active error))
  | deleteRemoved : PollCase h i n (.deleteRemove now command active)
      (.record n (.drop command.workloadId) .keep n.pods) (.done r)
  | deleteRestored : PollCase h i n (.deleteRestore now command active error)
      (.record n (.put command.workloadId active) .keep n.pods) (.done r)

def Explains (h : Host) (i : Input) (n : Node) (t : Task) (p : Polled) : Prop :=
  ∃ e, n.Does p.1 e ∧ PollCase h i n t e p.2

theorem does_call (n : Node) (pods : PodMap) : n.Does { n with pods } (.call n pods) :=
  ⟨rfl, rfl, rfl, rfl, rfl, rfl, rfl⟩

theorem does_quiet (n : Node) : n.Does n (.quiet n) := ⟨rfl, rfl, rfl, rfl, rfl, rfl, rfl⟩

/-- A section did one of the listed cases, left the pods its runtime call left, and wrote at most
once unless it recorded an enrollment. -/
structure PollOutcome (h : Host) (i : Input) (n : Node) (t : Task) (p : Polled) : Prop where
  explains : Explains h i n t p
  deploys : ∀ d, t.deploys = some d → p.1.pods = (runtimeDeploy h i d n).1.pods
  store : t.isInspection = false → n.store.Change p.1.store

theorem PollOutcome.ofCase (ht : t.deploys = none) (hc : PollCase h i n t e after)
    (hn : n.Does n' e) (hs : n.store.Change n'.store) : PollOutcome h i n t (n', after) := by
  refine ⟨⟨e, hn, hc⟩, fun d hd => ?_, fun _ => hs⟩
  rw [ht] at hd
  cases hd

theorem PollOutcome.unchanged (ht : t.deploys = none) (hc : PollCase h i n t (.quiet n) after) :
    PollOutcome h i n t (n, after) :=
  .ofCase ht hc (does_quiet n) .same

theorem PollOutcome.ended (ht : t.deploys = none) (hr : t.isReader = true) :
    PollOutcome h i n t (n, .done r) :=
  .unchanged ht (.ended hr)

theorem PollOutcome.deployed (ht : t.deploys = some d)
    (hr : runtimeDeploy h i d n = ({ n with pods }, res))
    (hc : PollCase h i n t (.record n .keep disk pods) after)
    (hn : n.Does n' (.record n .keep disk pods)) (hs : n.store.Change n'.store) :
    PollOutcome h i n t (n', after) := by
  refine ⟨⟨_, hn, hc⟩, fun d' hd => ?_, fun _ => hs⟩
  cases ht.symm.trans hd
  rw [hr]
  exact hn.pods

theorem mutationWithOwner_ok {n n' : Node} (hn : n.mutationWithOwner wid o = .ok n') :
    n.mutations.lookup wid = none ∧ n' = { n with mutations := n.mutations.insert wid o } := by
  unfold Node.mutationWithOwner at hn
  split at hn
  · cases hn
  · split at hn
    · cases hn
    · next hnn =>
      cases hn
      exact ⟨hnn, rfl⟩

theorem PollOutcome.guard {n : Node} {acquired : Node → Polled} (hd : t.deploys = none)
    (ht : t.guard = none) (hr : t.isReader = true) (ha : n.mutations.lookup wid = none →
      PollOutcome h i n t (acquired { n with mutations := n.mutations.insert wid .lifecycle })) :
    PollOutcome h i n t (ownerMutation n i wid t acquired) := by
  unfold ownerMutation
  split
  · exact .ended hd hr
  · split
    · next n' hn =>
      obtain ⟨hf, hn'⟩ := mutationWithOwner_ok hn
      subst hn'
      exact ha hf
    · exact .unchanged hd (.guardWait ht)
    · exact .ended hd hr
    · exact .ended hd hr

theorem does_guarded (n : Node) (wid : String) :
    n.Does { n with mutations := n.mutations.insert wid .lifecycle } (.guarded n wid) :=
  ⟨rfl, rfl, rfl, rfl, rfl, rfl, rfl⟩

end Podmesh
