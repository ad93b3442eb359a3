import Podmesh.Agent.Guarded

namespace Podmesh

variable {h : Host} {exact : Prop} {i : Input} {n : Node} {w w' : World} {a : Action}

/-- The checks an update passed before it changed the record `active`. -/
structure Update (h : Host) (request : UpdateRequest) (execution : ExecutionSpec)
    (manifest : Bytes) (active : StoredWorkload) : Prop where
  decoded : h.decodeExecution request.grant = .ok execution
  checked : ∃ now, updateManifest h now request execution = .ok manifest
  key : active.grant.workloadId = request.workloadId
  namespaceId : active.grant.namespaceId = request.namespaceId
  phase : active.phase = .active
  named : active.runtimeId ≠ ""

/-- Everything that makes a record. If the answers of the runtime are `exact`, a record names the
pod that the runtime was asked for. -/
inductive Recorded (h : Host) (exact : Prop) : StoredWorkload → Prop
  | created : h.decodeExecution grant = .ok execution →
      planDeployment h now state grant execution reservation = .ok (stored, deployment) →
      Recorded h exact stored
  | deployed : Recorded h exact r → r.phase = .creating →
      Recorded h exact { r with phase := .active }
  | failed : Recorded h exact r → r.phase = .creating →
      Recorded h exact { r with phase := .cleanupPending uncertain }
  | marked (deleting : Bool) : Recorded h exact r → Recorded h exact { r with deleting }
  | updating : Recorded h exact r → Update h request execution manifest r →
      Recorded h exact (transitioning request r)
  | updated : Recorded h exact r → Update h request execution manifest r →
      h.runtime.targetId ⟨request.workloadId, request.namespaceId, manifest⟩ = .ok target →
      (exact → runtimeId = target) → Recorded h exact (updatedWorkload request execution runtimeId)
  | rolledForward : Recorded h exact r → r.phase = .updating previous rid request →
      planInterruptedUpdate h r request = .ok (execution, deployment) →
      h.runtime.targetId deployment = .ok target → (exact → runtimeId = target) →
      Recorded h exact (rolledForward r request execution runtimeId)
  | redeployed : Recorded h exact r → planRedeploy h r = .ok deployment →
      h.runtime.targetId deployment = .ok target → (exact → runtimeId = target) →
      Recorded h exact { r with runtimeId }

theorem Recorded.fail {st : StoredWorkload}
    (hr : Recorded h exact { st with phase := .creating }) (unc : Bool) :
    Recorded h exact { st with phase := .cleanupPending unc } :=
  .failed (r := { st with phase := .creating }) hr rfl

theorem Recorded.unmark
    (hr : Recorded h exact { active with deleting := true }) : Recorded h exact active :=
  .marked (r := { active with deleting := true }) active.deleting hr

def Task.Carries (h : Host) (exact : Prop) : Task → Prop
  | .updateLock now request execution manifest =>
    updateManifest h now request execution = .ok manifest
  | .updateRuntime _ request execution active deployment =>
    Recorded h exact active ∧ Update h request execution deployment.manifest active
  | .rollbackRuntime _ active _ _ | .rollbackInsert _ active _ => Recorded h exact active
  | _ => True

theorem runtimeDeploy_target (hd : (runtimeDeploy h i d n).2 = .ok rid)
    (hi : exact → i.plain = true) :
    ∃ tgt, h.runtime.targetId d = .ok tgt ∧ (exact → rid = tgt) := by
  unfold runtimeDeploy at hd
  split at hd
  · cases hd
  · next tgt ht =>
    refine ⟨tgt, ht, fun he => ?_⟩
    have hp := Input.plain_reply (hi he)
    simp only [runtimeCall] at hd
    cases hr : i.reply with
    | ok =>
      rw [hr] at hd
      cases hd
      rfl
    | other other => exact absurd hr (hp other)
    | failed m | unknown m =>
      rw [hr] at hd
      cases hd

inductive Writes (h : Host) (exact : Prop) : Edit StoredWorkload → Prop
  | keep : Writes h exact .keep
  | put : Recorded h exact r → Writes h exact (.put key r)
  | drop : Writes h exact (.drop key)

inductive Saves (h : Host) (exact : Prop) : Edit (Option StoredWorkload) → Prop
  | keep : Saves h exact .keep
  | put : Recorded h exact r → Saves h exact (.put key (some r))
  | drop : Saves h exact (.drop key)

theorem Update.of_start (hd : h.decodeExecution req.grant = .ok exe)
    (hm : updateManifest h now req exe = .ok man)
    (ho : state.owned req.workloadId req.namespaceId = some active)
    (hb : active.Bound req.workloadId) (hp : planUpdate h state req exe active = .ok .transition) :
    Update h req exe man active :=
  have hs := planUpdate_transition hp
  ⟨hd, ⟨now, hm⟩, hb.key, (owned_some ho).2, hs.phase, hs.named⟩

section
variable {t : Task} {e : Effect} {after : After}

structure Knows (h : Host) (exact : Prop) (n : Node) (t : Task) : Prop where
  sound : ∀ k, (n.slot k).Sound k
  holds : ∀ k o, t.guard = some (k, o) → t.Holds (n.slot k)
  prepared : t.Prepared h
  carries : t.Carries h exact
  memory : ∀ k m, (n.slot k).memory = some m → Recorded h exact m
  disk : ∀ k r, (n.slot k).disk = some (some r) → Recorded h exact r

theorem PollCase.writes (hc : PollCase h i n t e after) (hk : Knows h exact n t) :
    Writes h exact e.memory := by
  cases hc with
  | deployStarted _ hp => exact .put (.created hk.prepared hp)
  | failRecorded =>
    have hs : n.slot _ = _ := hk.holds _ _ rfl
    have hm := hk.memory _ _ (congrArg Slot.memory hs)
    exact .put (hm.fail _)
  | deployCommitted =>
    have hs := (hk.holds _ _ rfl).1
    exact .put (hk.disk _ _ (congrArg Slot.disk hs))
  | updateStarted hl hp =>
    have hm := hk.memory _ _ (owned_some hl).1
    have hb := ((hk.sound _).memory_bound (owned_some hl).1).1
    exact .put (.updating hm (.of_start hk.prepared.1 hk.carries hl hb hp))
  | rolledBack => exact .put hk.carries
  | updateCommitted =>
    have hs := (hk.holds _ _ rfl).2.1
    exact .put (hk.disk _ _ (congrArg Slot.disk hs))
  | deleteUnsaved hl | deleteMarked hl => exact .put (.marked true (hk.memory _ _ hl))
  | deleteUnmarked hl => exact .put (.marked false (hk.memory _ _ hl))
  | deleteRestored =>
    have hs := (hk.holds _ _ rfl).2.2
    exact .put (hk.disk _ _ (congrArg Slot.disk hs))
  | deployRemoved | deleteRemoved => exact .drop
  | _ => exact .keep

theorem PollCase.saves (hc : PollCase h i n t e after) (hk : Knows h exact n t)
    (hi : exact → i.plain = true) : Saves h exact e.disk := by
  cases hc with
  | deployStarted _ hp => exact .put (.created hk.prepared hp)
  | deploySaved =>
    obtain ⟨hs, hph⟩ := hk.holds _ _ rfl
    have hm := hk.memory _ _ (congrArg Slot.memory hs)
    exact .put (.deployed hm hph)
  | failRecorded hds =>
    have hs : n.slot _ = _ := hk.holds _ _ rfl
    have hm := hk.memory _ _ (congrArg Slot.memory hs)
    rcases hds with rfl | rfl
    · exact .keep
    · exact .put (hm.fail _)
  | updateStarted hl hp =>
    have hm := hk.memory _ _ (owned_some hl).1
    have hb := ((hk.sound _).memory_bound (owned_some hl).1).1
    exact .put (.updating hm (.of_start hk.prepared.1 hk.carries hl hb hp))
  | updateSaved _ hd =>
    obtain ⟨tgt, ht, hn⟩ := runtimeDeploy_target hd hi
    rw [hk.prepared.2.1] at ht
    exact .put (.updated hk.carries.1 hk.carries.2 ht hn)
  | rollbackSaved => exact .put hk.carries
  | deleteMarked hl => exact .put (.marked true (hk.memory _ _ hl))
  | deleteRestoring =>
    have hs := (hk.holds _ _ rfl).2.2
    have hm := hk.memory _ _ (congrArg Slot.memory hs)
    exact .put hm.unmark
  | cleanupDone | deleteCleanupDone | deleteRemoving => exact .drop
  | _ => exact .keep

theorem PollCase.carries (hc : PollCase h i n t e (.next t')) (hk : Knows h exact n t) :
    t'.Carries h exact := by
  cases hc with
  | guardWait | rollbackSaved => exact hk.carries
  | updateGuarded _ hm => exact hm
  | updateStarted hl hp =>
    have hb := ((hk.sound _).memory_bound (owned_some hl).1).1
    exact ⟨hk.memory _ _ (owned_some hl).1, .of_start hk.prepared.1 hk.carries hl hb hp⟩
  | updateFailed => exact hk.carries.1
  | failRecorded _ ha =>
    rcases ha with hd | ⟨tgt, _, hn⟩
    · cases hd
    · cases hn
      trivial
  | _ => trivial

end

theorem RestoreCase.saves (hc : RestoreCase h i n t disk pods r) (ht : t.Holds h)
    (hs : Recorded h exact t.stored) (hi : exact → i.plain = true) : Saves h exact disk := by
  cases hc with
  | updateDone _ hok =>
    obtain ⟨⟨prev, rid, hp⟩, hpl⟩ := ht
    obtain ⟨tgt, htr, hn⟩ := runtimeDeploy_target hok hi
    exact .put (.rolledForward hs hp hpl htr hn)
  | redeployDone _ hok =>
    obtain ⟨tgt, htr, hn⟩ := runtimeDeploy_target hok hi
    exact .put (.redeployed hs ht htr hn)
  | cleanupDone | deleteDone => exact .drop
  | _ => exact .keep

theorem BeginCase.saves (hc : BeginCase h st disk r) : Saves h exact disk := by
  cases hc with
  | retained | waits => exact .keep
  | dropped => exact .drop

theorem Saves.lookup (hs : Saves h exact e)
    (hw : ∀ k r, wls.lookup k = some (some r) → Recorded h exact r) (k : String)
    (r : StoredWorkload) (hr : (e.apply wls).lookup k = some (some r)) : Recorded h exact r := by
  cases hs with
  | keep => exact hw k r hr
  | put hp =>
    rcases Assoc.lookup_insert_cases hr with ⟨_, he⟩ | ⟨_, hr⟩
    · cases he
      exact hp
    · exact hw k r hr
  | drop => exact hw k r (Assoc.lookup_of_erase hr).2

theorem Writes.lookup (hs : Writes h exact e)
    (hw : ∀ k m, act.lookup k = some m → Recorded h exact m) (k : String) (m : StoredWorkload)
    (hm : (e.apply act).lookup k = some m) : Recorded h exact m := by
  cases hs with
  | keep => exact hw k m hm
  | put hp =>
    rcases Assoc.lookup_insert_cases hm with ⟨_, rfl⟩ | ⟨_, hm⟩
    · exact hp
    · exact hw k m hm
  | drop => exact hw k m (Assoc.lookup_of_erase hm).2

structure World.Recorded (h : Host) (exact : Prop) (w : World) : Prop where
  memory : ∀ k m, w.node.state.active.lookup k = some m → Podmesh.Recorded h exact m
  disk : ∀ k r, w.node.store.workloads.lookup k = some (some r) → Podmesh.Recorded h exact r
  tasks : ∀ k t, w.tasks.lookup k = some t → t.Carries h exact

namespace World.Recorded

theorem of_node {node : Node} (hw : w.Recorded h exact)
    (hs : node.state.active = w.node.state.active)
    (hst : node.store.workloads = w.node.store.workloads) :
    World.Recorded h exact { w with node } :=
  ⟨hs ▸ hw.memory, hst ▸ hw.disk, hw.tasks⟩

theorem of_idle (hw : w'.Idle)
    (hd : ∀ k r, w'.node.store.workloads.lookup k = some (some r) → Podmesh.Recorded h exact r) :
    w'.Recorded h exact where
  memory k m hm := by
    rw [hw.state] at hm
    cases hm
  disk := hd
  tasks k t ht := absurd ht hw.no_task

theorem knows (hw : w.Recorded h exact) (hr : w.Running h) (ht : w.tasks.lookup task = some t) :
    Knows h exact w.node t where
  sound := hr.sound
  holds k o hg := hr.holds task t k o ht hg
  prepared := hr.prepared task t ht
  carries := hw.tasks task t ht
  memory := hw.memory
  disk := hw.disk

theorem advance (hw : w.Recorded h exact) (hr : w.Running h) (ht : w.tasks.lookup task = some t)
    (hd : w.node.Does p.1 e) (hc : PollCase h i w.node t e p.2) (hi : exact → i.plain = true) :
    (w.advance task (some t) p).Recorded h exact where
  memory k m hm := by
    rw [World.advance_state, hd.active] at hm
    exact (hc.writes (hw.knows hr ht)).lookup hw.memory k m hm
  disk k r hr' := by
    rw [World.advance_store, hd.workloads] at hr'
    exact (hc.saves (hw.knows hr ht) hi).lookup hw.disk k r hr'
  tasks k u hu := by
    rcases World.advance_tasks hu with ⟨_, hn⟩ | ⟨_, ho⟩
    · rw [hn] at hc
      exact hc.carries (hw.knows hr ht)
    · exact hw.tasks k u ho

theorem receive (hw : w.Recorded h exact) (msg : OwnerMessage) :
    (w.advance task none (receive h i w.node msg)).Recorded h exact := by
  refine ⟨fun k m hm => ?_, fun k r hr => ?_, fun k u hu => ?_⟩
  · rw [World.received_state] at hm
    exact hw.memory k m hm
  · rw [World.received_store] at hr
    exact hw.disk k r hr
  · rcases World.advance_tasks hu with ⟨_, hs⟩ | ⟨_, ho⟩
    · have hg := ((receive_received h i w.node msg).next u hs).1
      cases u with
      | updateLock | updateRuntime | rollbackRuntime | rollbackInsert => cases hg
      | _ => trivial
    · exact hw.tasks k u ho

end World.Recorded

def Action.plain : Action → Bool
  | .poll _ i | .restore i => i.plain
  | _ => true

theorem World.Recorded.step (hw : w.Recorded h exact) (hin : w.Inv h)
    (hi : exact → a.plain = true) (hs : w.step h a = some w') : w'.Recorded h exact := by
  have hi' := hin.step hs
  cases step_cases hs with
  | unstarted => exact hw
  | restarted | crashed | refused => exact of_idle (hi'.idle fun hp => by cases hp) hw.disk
  | corrupted hp hl =>
    refine of_idle (hi'.idle fun hrn => ?_) fun k r hr => ?_
    · have hr' : w.phase = .running := hrn
      rw [hp] at hr'
      cases hr'
    · rcases Assoc.lookup_insert_cases hr with ⟨_, he⟩ | ⟨_, hr⟩
      · cases he
      · exact hw.disk k r hr
  | continued hp hn hcs =>
    have hrs := hin.restoring hp
    have hst := hw.disk _ _ hrs.on_disk.2.2.2
    have hsv := hcs.saves (hrs.planned _ _ rfl) hst hi
    refine of_idle (hi'.idle (Restored.phase_ne_running _)) fun k r hr => ?_
    rw [hn.workloads] at hr
    exact hsv.lookup hw.disk k r hr
  | quarantined hp => exact of_idle (hi'.idle fun hrn => by cases hrn) hw.disk
  | begun hp hn hcs =>
    refine of_idle (hi'.idle (Restored.phase_ne_running _)) fun k r hr => ?_
    rw [hn.workloads] at hr
    exact hcs.saves.lookup hw.disk k r hr
  | started hp =>
    have hrs := hin.restoring hp
    exact ⟨fun k m hm => hw.disk k m (hrs.memory_on_disk hm), hw.disk, hw.tasks⟩
  | restoreCalled | called | attached => exact hw.of_node rfl rfl
  | received => exact hw.receive _
  | enrolled =>
    refine ⟨hw.memory, hw.disk, fun k t ht => ?_⟩
    rcases Assoc.lookup_insert_cases ht with ⟨_, rfl⟩ | ⟨_, ho⟩
    · trivial
    · exact hw.tasks k t ho
  | polled hl hd hc =>
    exact hw.advance (hin.polling hl) hl hd hc hi
  | cancelled hl =>
    refine ⟨fun k m hm => ?_, fun k r hr => ?_, fun k t ht => hw.tasks k t (Assoc.lookup_of_erase ht).2⟩
    · rw [dropGuard_state] at hm
      exact hw.memory k m hm
    · rw [dropGuard_store] at hr
      exact hw.disk k r hr
  | offered _ hstt =>
    rcases hstt with rfl | rfl <;> exact hw.of_node rfl rfl

/-- No record comes about in any other way, whatever the interleaving. -/
theorem reach_recorded (hr : Reach (World.step h) ok .fresh w)
    (hok : ∀ w a, ok w a → exact → a.plain = true) : w.Recorded h exact := by
  have hb : w.Inv h ∧ w.Recorded h exact := by
    refine Reach.invariant (fun w => w.Inv h ∧ w.Recorded h exact) ?_ ?_ hr
    · refine ⟨World.fresh_inv h, fun k m hm => ?_, fun k r hr => ?_, fun k t ht => ?_⟩
      · cases hm
      · cases hr
      · cases ht
    · rintro s a s' _ ⟨hi, hrc⟩ ha hs
      exact ⟨hi.step hs, hrc.step hi (hok s a ha) hs⟩
  exact hb.2

/-- The measured limits of a manifest are within the amounts a record is charged with. -/
def ManifestResources.charged (measured : ManifestResources) (r : StoredWorkload) : Prop :=
  measured.within r.cpuMilli r.memoryBytes r.storageBytes = true

structure Planned (h : Host) (r : StoredWorkload) (manifest : Bytes) (target : String) : Prop where
  granted : ∃ execution measured, h.grantManifest r.grant = .ok (execution, manifest, measured) ∧
    (r.isUpdating = false → measured.charged r)
  names : h.runtime.targetId ⟨r.grant.workloadId, r.grant.namespaceId, manifest⟩ = .ok target

structure Proposed (h : Host) (request : UpdateRequest) (r : StoredWorkload) : Prop where
  checked : ∃ now execution manifest, h.decodeExecution request.grant = .ok execution ∧
    updateManifest h now request execution = .ok manifest
  key : r.grant.workloadId = request.workloadId
  namespaceId : r.grant.namespaceId = request.namespaceId
  amount : r.amount = request.amount

theorem updateManifest_within (hm : updateManifest h now req exe = .ok man) :
    ∃ ms, h.runtimeManifest req.workloadId req.namespaceId exe = .ok (man, ms) ∧
      ms.within req.cpuMilli req.memoryBytes req.storageBytes = true := by
  simp only [updateManifest, bind_ok, ensure_ok, pure, Except.pure, Except.ok.injEq] at hm
  obtain ⟨_, _, _, _, ⟨runtime, ms⟩, hr, _, hw, rfl⟩ := hm
  exact ⟨ms, hr, hw⟩

theorem planDeployment_within (hp : planDeployment h now state grant exe rsv = .ok (stored, dep)) :
    ∃ ms, h.runtimeManifest grant.workloadId grant.namespaceId exe =
      .ok (dep.manifest, ms) ∧ ms.charged stored := by
  simp only [planDeployment, bind_ok, ensure_ok, pure, Except.pure, Except.ok.injEq,
    Prod.mk.injEq] at hp
  obtain ⟨_, _, _, _, _, _, ⟨man, ms⟩, hm, _, hw, id, _, _, _, hs, hd⟩ := hp
  subst hs hd
  exact ⟨ms, hm, hw⟩

theorem planInterruptedUpdate_ok (hp : planInterruptedUpdate h r req = .ok (exe, dep)) :
    h.decodeExecution req.grant = .ok exe ∧ ∃ measured,
      h.runtimeManifest r.grant.workloadId req.namespaceId exe = .ok (dep.manifest, measured) ∧
      measured.within req.cpuMilli req.memoryBytes req.storageBytes = true ∧
      dep = ⟨r.grant.workloadId, req.namespaceId, dep.manifest⟩ := by
  simp only [planInterruptedUpdate, bind_ok, ensure_ok, pure, Except.pure, Except.ok.injEq,
    Prod.mk.injEq] at hp
  obtain ⟨exe', hd, ⟨man, measured⟩, hm, _, hw, rfl, rfl⟩ := hp
  exact ⟨hd, measured, hm, hw, rfl⟩

theorem planRedeploy_ok (hp : planRedeploy h r = .ok dep) :
    ∃ exe measured, h.grantManifest r.grant = .ok (exe, dep.manifest, measured) ∧
      measured.charged r ∧ dep = ⟨r.grant.workloadId, r.grant.namespaceId, dep.manifest⟩ := by
  simp only [planRedeploy, bind_ok, ensure_ok, pure, Except.pure, Except.ok.injEq] at hp
  obtain ⟨⟨exe, manifest, measured⟩, hg, _, hw, rfl⟩ := hp
  exact ⟨exe, measured, hg, hw, rfl⟩

theorem Recorded.pending (hr : Recorded h exact r)
    (hp : r.phase = .updating prev rid req) : Proposed h req r := by
  induction hr with
  | created _ hpl =>
    rw [(planDeployment_ok hpl).phase] at hp
    cases hp
  | deployed | failed | updated | rolledForward => cases hp
  | marked _ _ ih | redeployed _ _ _ _ ih =>
    have hpn := ih hp
    exact ⟨hpn.checked, hpn.key, hpn.namespaceId, hpn.amount⟩
  | updating _ hu =>
    cases hp
    obtain ⟨now, hm⟩ := hu.checked
    refine ⟨⟨now, _, _, hu.decoded, hm⟩, hu.key, hu.namespaceId, ?_⟩
    funext d
    cases d <;> rfl

theorem Proposed.grant (hp : Proposed h req r) :
    req.grant.workloadId = r.grant.workloadId ∧ req.grant.namespaceId = req.namespaceId := by
  obtain ⟨now, execution, manifest, _, hm⟩ := hp.checked
  obtain ⟨hk, hns, _⟩ := updateManifest_ok hm
  exact ⟨hk.trans hp.key.symm, hns⟩

theorem Recorded.plan (hr : Recorded h exact r) :
    ∃ man target, Planned h r man target ∧ (exact → r.runtimeId = target) := by
  induction hr with
  | created hd hp =>
    obtain ⟨measured, hmn, hw⟩ := planDeployment_within hp
    have hok := planDeployment_ok hp
    have hg := grantManifest_of_decode hd hmn
    have ht := hok.target
    rw [hok.subject] at ht
    rw [← hok.record] at hg ht
    exact ⟨_, _, ⟨⟨_, measured, hg, fun _ => hw⟩, ht⟩, fun _ => rfl⟩
  | deployed _ hph ih | failed _ hph ih =>
    obtain ⟨man, target, ⟨⟨exe, measured, hg, hw⟩, ht⟩, hn⟩ := ih
    refine ⟨man, target, ⟨⟨exe, measured, hg, fun _ => hw ?_⟩, ht⟩, hn⟩
    simp [StoredWorkload.isUpdating, hph]
  | marked _ _ ih =>
    obtain ⟨man, target, ⟨⟨exe, measured, hg, hw⟩, ht⟩, hn⟩ := ih
    exact ⟨man, target, ⟨⟨exe, measured, hg, hw⟩, ht⟩, hn⟩
  | updating _ _ ih =>
    obtain ⟨man, target, ⟨⟨exe, measured, hg, _⟩, ht⟩, hn⟩ := ih
    exact ⟨man, target, ⟨⟨exe, measured, hg, fun hnt => by cases hnt⟩, ht⟩,
      hn⟩
  | updated _ hu ht hn =>
    obtain ⟨now, hm⟩ := hu.checked
    obtain ⟨hk, hns, _⟩ := updateManifest_ok hm
    obtain ⟨measured, hmn, hw⟩ := updateManifest_within hm
    rw [← hk, ← hns] at hmn ht
    have hg := grantManifest_of_decode hu.decoded hmn
    exact ⟨_, _, ⟨⟨_, measured, hg, fun _ => hw⟩, ht⟩, hn⟩
  | rolledForward hr hph hp ht hn =>
    obtain ⟨hd, measured, hmn, hw, hs⟩ := planInterruptedUpdate_ok hp
    obtain ⟨hk, hns⟩ := (hr.pending hph).grant
    rw [hs] at ht
    rw [← hk, ← hns] at hmn ht
    have hg := grantManifest_of_decode hd hmn
    exact ⟨_, _, ⟨⟨_, measured, hg, fun _ => hw⟩, ht⟩, hn⟩
  | redeployed _ hp ht hn =>
    obtain ⟨exe, measured, hg, hw, hs⟩ := planRedeploy_ok hp
    rw [hs] at ht
    exact ⟨_, _, ⟨⟨exe, measured, hg, fun _ => hw⟩, ht⟩, hn⟩

theorem Recorded.cleanupTarget (hr : Recorded h exact r) :
    ∃ target, h.cleanupTarget r = .ok target := by
  unfold Host.cleanupTarget
  split
  · obtain ⟨man, target, ⟨⟨exe, measured, hg, _⟩, ht⟩, _⟩ := hr.plan
    exact ⟨target, by simp only [hg, bind, Except.bind, ht]⟩
  · exact ⟨_, rfl⟩

end Podmesh
