import Podmesh.Agent.Bindings
import Podmesh.Agent.Mirror

namespace Podmesh

variable {h : Host} {i : Input} {n : Node}

abbrev ConnectorKeys := String × String

def EnrollmentBinding.keys (b : EnrollmentBinding) : ConnectorKeys :=
  (b.endpointId, b.signingPublicKeyB64)

def ConnectorReport.keys (r : ConnectorReport) : ConnectorKeys :=
  (r.endpointId, r.signingPublicKeyB64)

def Input.podKeys (i : Input) : ConnectorKeys := (i.podEndpointId, i.podSigningKey)

def Host.delegationDigest (h : Host) (grant : DeploymentGrant) : Except String String := do
  let execution ← h.decodeExecution grant
  let delegation ← h.platform.decodeDelegation execution.workloadCredentialB64
  let encoded ← h.platform.encodeDelegation delegation
  return h.platform.blake3Hex [encoded]

/-- A runtime `deploy` creates a pod, whatever its answer. -/
def Host.creates (h : Host) (i : Input) (d : WorkloadDeployment) : Bool :=
  i.effective && (h.runtime.targetId d).isOk

def Task.recreates (h : Host) (i : Input) (t : Task) : Option String :=
  (t.deploys.filter (h.creates i)).bind fun _ => t.guard.map Prod.fst

def RestoreTask.recreates (h : Host) (i : Input) (workloadId : String) (t : RestoreTask) :
    Option String :=
  (t.deploys.filter (h.creates i)).map fun _ => workloadId

/-- The workload whose pod a transition creates anew, with the keys of the new connector. -/
def World.recreates (h : Host) (w : World) : Action → Option (String × ConnectorKeys)
  | .poll task i => ((w.tasks.lookup task).bind (Task.recreates h i)).map (·, i.podKeys)
  | .effect task i =>
    ((w.tasks.lookup task).bind (Task.recreates h { i with reply := .ok })).map (·, i.podKeys)
  | .restore i =>
    match w.phase with
    | .restoring _ (some (workloadId, t)) _ _ =>
      (t.recreates h i workloadId).map (·, i.podKeys)
    | _ => none
  | .restoreEffect i =>
    match w.phase with
    | .restoring _ (some (workloadId, t)) _ _ =>
      (t.recreates h { i with reply := .ok } workloadId).map (·, i.podKeys)
    | _ => none
  | _ => none

/-- The agent, with the keys of the connectors every workload has had, the latest first. -/
structure Tracked where
  world : World
  connectors : String → List ConnectorKeys

namespace Tracked

def fresh : Tracked := ⟨.fresh, fun _ => []⟩

def grow (connectors : String → List ConnectorKeys) :
    Option (String × ConnectorKeys) → String → List ConnectorKeys
  | some (workloadId, keys) =>
    Function.update connectors workloadId (keys :: connectors workloadId)
  | none => connectors

def step (h : Host) (s : Tracked) (a : Action) : Option Tracked :=
  (s.world.step h a).map fun world => ⟨world, grow s.connectors (s.world.recreates h a)⟩

def reports (s : Tracked) (workloadId : String) (report : ConnectorReport) : Bool :=
  (s.connectors workloadId).head? == some report.keys

def honest (s : Tracked) : Action → Bool
  | .poll task i =>
    match s.world.tasks.lookup task, i.report with
    | some (.enrollInspect stored _), .ok report => s.reports stored.grant.workloadId report
    | _, _ => true
  | _ => true

/-- A new pod gets keys that no pod of its workload had. -/
def freshKeys (h : Host) (s : Tracked) (a : Action) : Bool :=
  (s.world.recreates h a).all fun (workloadId, keys) => !(s.connectors workloadId).contains keys

end Tracked

def Action.damages : Action → Bool
  | .corrupt _ => true
  | _ => false

/-- The runs meant here: no record is damaged, no operation is dropped between its two writes,
every pod has keys of its own and its connector reports them. -/
def Tracked.lawful (h : Host) (s : Tracked) (a : Action) : Bool :=
  flagsSaved s.world a && !a.damages && s.honest a && s.freshKeys h a

def Task.settles : Task → Option (WorkloadDeployment × DeploymentGrant)
  | .updateRuntime _ request _ _ deployment => some (deployment, request.grant)
  | .rollbackRuntime _ active deployment _ => some (deployment, active.grant)
  | _ => none

def RestoreTask.settles : RestoreTask → Option (WorkloadDeployment × DeploymentGrant)
  | .update _ request _ deployment => some (deployment, request.grant)
  | _ => none

def Node.unbound (h : Host) (i : Input) (n : Node) (deployment : WorkloadDeployment)
    (grant : DeploymentGrant) : Bool :=
  !(runtimeDeploy h i deployment n).2.isOk ||
    (n.store.enrollments.lookup grant.workloadId).all fun b =>
      decide (h.delegationDigest grant ≠ .ok b.delegationDigest)

/-- The step condition: an update, a rollback or a completed interrupted update that replaces the
pod ends with a delegation that is not bound yet. -/
def World.renews (h : Host) (w : World) : Action → Bool
  | .poll task i => ((w.tasks.lookup task).bind Task.settles).all fun (deployment, grant) =>
      w.node.unbound h i deployment grant
  | .restore i =>
    match w.phase with
    | .restoring _ (some (_, t)) _ _ =>
      t.settles.all fun (deployment, grant) => w.node.unbound h i deployment grant
    | _ => true
  | _ => true

/-- A binding against the record of its workload: it is settled unless an update is under way. -/
def Tied (h : Host) (connectors : List ConnectorKeys) (b : EnrollmentBinding)
    (r : StoredWorkload) : Prop :=
  r.isUpdating = true ∨ r.phase = .active ∧
    (h.delegationDigest r.grant = .ok b.delegationDigest → connectors.head? = some b.keys)

structure Binds (h : Host) (connectors : List ConnectorKeys) (workloadId : String)
    (b : EnrollmentBinding) (disk : Option (Option StoredWorkload)) : Prop where
  key : b.workloadId = workloadId
  known : b.keys ∈ connectors
  record : ∃ r, disk = some (some r) ∧ Tied h connectors b r

theorem Tied.of_phase (ht : Tied h connectors b r) :
    r.phase ≠ .creating ∧ ∀ uncertain, r.phase ≠ .cleanupPending uncertain := by
  unfold Tied StoredWorkload.isUpdating at ht
  constructor
  · intro hp
    rw [hp] at ht
    rcases ht with ht | ⟨ht, _⟩ <;> cases ht
  · intro uncertain hp
    rw [hp] at ht
    rcases ht with ht | ⟨ht, _⟩ <;> cases ht

theorem Binds.of_disk (hb : Binds h connectors k b (some disk)) :
    ∃ r, disk = some r ∧ Tied h connectors b r := by
  obtain ⟨r, hr, ht⟩ := hb.record
  exact ⟨r, Option.some.inj hr, ht⟩

theorem Binds.updating (hb : Binds h connectors k b disk) (hr : r.isUpdating = true)
    (hsb : ∀ x ∈ connectors, x ∈ connectors') : Binds h connectors' k b (some (some r)) :=
  ⟨hb.key, hsb _ hb.known, r, rfl, .inl hr⟩

theorem Binds.renewed (hb : Binds h connectors k b disk) (hr : r.phase = .active)
    (hd : h.delegationDigest r.grant ≠ .ok b.delegationDigest)
    (hsb : ∀ x ∈ connectors, x ∈ connectors') : Binds h connectors' k b (some (some r)) :=
  ⟨hb.key, hsb _ hb.known, r, rfl, .inr ⟨hr, fun h => absurd h hd⟩⟩

theorem Binds.rewritten (hb : Binds h connectors k b (some (some r))) (hp : r'.phase = r.phase)
    (hg : r'.grant = r.grant) : Binds h connectors k b (some (some r')) := by
  obtain ⟨_, hr, ht⟩ := hb.of_disk
  cases hr
  refine ⟨hb.key, hb.known, r', rfl, ?_⟩
  unfold Tied StoredWorkload.isUpdating at ht ⊢
  rw [hp, hg]
  exact ht

theorem Binds.absurd_creating (hb : Binds h connectors k b (some (some r)))
    (hr : r.phase = .creating) : False := by
  obtain ⟨_, he, ht⟩ := hb.of_disk
  cases he
  exact ht.of_phase.1 hr

theorem isUpdating_of_phase {r : StoredWorkload}
    (hp : r.phase = .updating prev rid req) : r.isUpdating = true := by
  rw [StoredWorkload.isUpdating, hp]

theorem Tied.of_current (hr : r.needsCleanup = false) (hk : connectors.head? = some b.keys) :
    Tied h connectors b r := by
  cases hp : r.phase with
  | active => exact .inr ⟨hp, fun _ => hk⟩
  | updating prev id req => exact .inl (isUpdating_of_phase hp)
  | creating | cleanupPending unc =>
    rw [StoredWorkload.needsCleanup, hp] at hr
    cases hr

variable {s : Slot}

theorem Binds.memory (hb : Binds h connectors k b s.disk) (hs : s.Sound k) : s.memory ≠ none := by
  obtain ⟨r, hr, _⟩ := hb.record
  cases hs with
  | empty | unreadable => cases hr
  | holding =>
    intro hn
    cases hn

theorem Task.deploys_of_reader {t : Task} (ht : t.isReader = true) : t.deploys = none := by
  cases t with
  | deployRuntime | updateRuntime | rollbackRuntime => cases ht
  | _ => rfl

theorem Task.deploys_of_enrollment {t : Task} (ht : t.isEnrollment = true) : t.deploys = none := by
  cases t with
  | deployRuntime | updateRuntime | rollbackRuntime => cases ht
  | _ => rfl

theorem Binds.deploying {t : Task} (hb : Binds h connectors k b s.disk)
    (hh : t.Holds s) (ht : t.deploys ≠ none) (hsb : ∀ x ∈ connectors, x ∈ connectors') :
    Binds h connectors' k b s.disk := by
  cases t with
  | deployRuntime =>
    rw [hh.1] at hb
    exact (hb.absurd_creating hh.2).elim
  | updateRuntime | rollbackRuntime =>
    rw [hh.2] at hb ⊢
    exact hb.updating rfl hsb
  | _ => exact absurd rfl ht

theorem Binds.redeploying {t : RestoreTask} (hb : Binds h connectors k b (some (some t.stored)))
    (hh : t.Holds h) (ht : t.deploys ≠ none) (hc : ∀ st dep, t ≠ .redeploy st dep)
    (hsb : ∀ x ∈ connectors, x ∈ connectors') : Binds h connectors' k b (some (some t.stored)) := by
  cases t with
  | update st req exe dep =>
    obtain ⟨⟨prev, runtimeId, hp⟩, _⟩ := hh
    exact hb.updating (isUpdating_of_phase hp) hsb
  | redeploy st dep => exact absurd rfl (hc st dep)
  | _ => exact absurd rfl ht

theorem disk_of_put (hk : key = k) :
    (s.after (.record n memory (.put key v) pods) k).disk = some v :=
  Edit.at_put_of_eq hk v s.disk

/-- The grant with which a task settles its record is not the one of the binding. -/
def Renewed (h : Host) (i : Input) (n : Node) (b : EnrollmentBinding)
    (settles : Option (WorkloadDeployment × DeploymentGrant)) : Prop :=
  ∀ deployment grant runtimeId, settles = some (deployment, grant) →
    (runtimeDeploy h i deployment n).2 = .ok runtimeId →
    h.delegationDigest grant ≠ .ok b.delegationDigest

theorem Node.unbound_ne (hu : n.unbound h i dep grant = true)
    (hd : (runtimeDeploy h i dep n).2 = .ok rid)
    (hb : n.store.enrollments.lookup grant.workloadId = some b) :
    h.delegationDigest grant ≠ .ok b.delegationDigest := by
  rw [Node.unbound, hd, hb] at hu
  exact of_decide_eq_true hu

theorem Task.settles_key {t : Task} (hh : t.Holds s) (hg : t.guard = some (k, o))
    (ht : t.settles = some (dep, grant)) : grant.workloadId = k := by
  cases t with
  | updateRuntime =>
    cases hg
    cases ht
    exact hh.1.grantKey
  | rollbackRuntime =>
    cases hg
    cases ht
    exact hh.1.key
  | _ => cases ht

theorem PollCase.binds (hc : PollCase h i n t e after) (hg : t.guard = some (wid, .lifecycle))
    (hs : (n.slot wid).Sound wid) (hh : t.Holds (n.slot wid)) (hm : t.Mirrored (n.slot wid))
    (hr : Renewed h i n b t.settles) (hb : Binds h connectors wid b (n.slot wid).disk)
    (hk : ((n.slot wid).after e wid).disk = none → (n.slot wid).disk = none)
    (hsb : ∀ x ∈ connectors, x ∈ connectors') (hsm : t.deploys = none → connectors' = connectors) :
    Binds h connectors' wid b ((n.slot wid).after e wid).disk := by
  have hst (hd : e.disk = .keep) (ht : t.deploys = none) :
      Binds h connectors' wid b ((n.slot wid).after e wid).disk := by
    rw [Slot.after, hd, hsm ht]
    exact hb
  have hgn (hn : ((n.slot wid).after e wid).disk = none) :
      Binds h connectors' wid b ((n.slot wid).after e wid).disk := by
    obtain ⟨r, hr, _⟩ := hb.record
    rw [hk hn] at hr
    cases hr
  cases hc with
  | deployStarted _ hp =>
    cases hg
    exact absurd (planDeployment_ok hp).absent (hb.memory hs)
  | deploySaved =>
    cases hg
    rw [hh.1] at hb
    exact (hb.absurd_creating hh.2).elim
  | failRecorded =>
    cases hg
    rw [hh] at hb
    exact (hb.absurd_creating rfl).elim
  | cleanupDone | deleteRemoving =>
    cases hg
    exact hgn Edit.at_drop
  | updateStarted ho =>
    cases hg
    have hky := (hs.memory_bound (owned_some ho).1).1.key
    rw [disk_of_put hky]
    exact hb.updating rfl hsb
  | updateSaved _ hok =>
    cases hg
    rw [disk_of_put hh.1.grantKey]
    exact hb.renewed rfl (hr _ _ _ rfl hok) hsb
  | rollbackSaved _ hok =>
    cases hg
    rw [disk_of_put hh.1.key]
    exact hb.renewed hh.1.phase (hr _ _ _ rfl hok) hsb
  | deleteCleanupDone =>
    cases hg
    obtain ⟨_, r, hsl⟩ := hh
    have hky := (hs.memory_bound (congrArg Slot.memory hsl)).1.key
    exact hgn (Edit.at_drop_of_eq hky _)
  | deleteMarked hl =>
    cases hg
    obtain ⟨hcl, _, r, hsl⟩ := hh
    have hky := (hs.memory_bound (congrArg Slot.memory hsl)).1.key
    have hcr := memory_of_slot hsl hl
    subst hcr
    have ha := hm.agrees rfl
    rw [hsl] at ha hb
    obtain ⟨r', rfl, hag⟩ := ha.of_holding
    obtain ⟨hgr, hph, _⟩ := hag.settled hcl
    rw [disk_of_put hky, hsm rfl]
    exact hb.rewritten hph hgr
  | deleteRestoring =>
    cases hg
    obtain ⟨_, _, hsl⟩ := hh
    have hky := (hs.memory_bound (congrArg Slot.memory hsl)).1.key
    rw [hsl] at hb
    rw [disk_of_put hky, hsm rfl]
    exact hb.rewritten rfl rfl
  | guardWait hn =>
    rw [hn] at hg
    cases hg
  | ended hrd => exact hst rfl (Task.deploys_of_reader hrd)
  | enrolled he => exact hst rfl (Task.deploys_of_enrollment he)
  | deployFailed | deployUnsaved | updateAbandoned | updateFailed | rollbackFailed =>
    exact hb.deploying hh (by intro hn; cases hn) hsb
  | admitted | inspecting | installing | deployGuarded | updateGuarded | deleteRequested
  | operationStarted | deleteGuarded => cases hg
  | _ =>
    exact hst rfl rfl

theorem RestoreCase.binds (hc : RestoreCase h i n t disk pods rst) (ht : t.Holds h)
    (hw : t.stored.Bound wid) (hr : Renewed h i n b t.settles)
    (hb : Binds h connectors wid b (some (some t.stored))) (hcl : ∀ st dep, t ≠ .redeploy st dep)
    (hk : disk.at wid (some (some t.stored)) ≠ none) (hsb : ∀ x ∈ connectors, x ∈ connectors')
    (hsm : t.deploys = none → connectors' = connectors) :
    Binds h connectors' wid b (disk.at wid (some (some t.stored))) := by
  cases hc with
  | cleanupDone | deleteDone => exact absurd (Edit.at_drop_of_eq hw.key _) hk
  | updateFailed => exact hb.redeploying ht (by intro hn; cases hn) hcl hsb
  | updateDone _ hok =>
    obtain ⟨⟨prev, id, hp⟩, _⟩ := ht
    rw [Edit.at_put_of_eq (hw.update prev id _ hp).1]
    exact hb.renewed rfl (hr _ _ _ rfl hok) hsb
  | redeployFailed | redeployUnsaved | redeployDone => exact absurd rfl (hcl _ _)
  | _ =>
    rw [hsm rfl]
    exact hb

theorem BeginCase.keeps (hc : BeginCase h st disk r) (hb : st.Bound k)
    (v : Option (Option StoredWorkload)) : disk.at k v = v ∨ disk.at k v = none := by
  cases hc with
  | retained | waits => exact .inl rfl
  | dropped => exact .inr (Edit.at_drop_of_eq hb.key v)

theorem RestoreTask.settles_key {t : RestoreTask} (ht : t.Holds h) (hb : t.stored.Bound k)
    (hs : t.settles = some (dep, grant)) : grant.workloadId = k := by
  cases t with
  | update st req exe d =>
    cases hs
    obtain ⟨⟨prev, runtimeId, hp⟩, _⟩ := ht
    exact (hb.update prev runtimeId req hp).1
  | _ => cases hs

theorem Settles.elsewhere (hs : Settles k st disk r) (hne : k' ≠ k)
    (v : Option (Option StoredWorkload)) : disk.at k' v = v := by
  cases hs with
  | waits | retained => rfl
  | rewritten | gone => exact if_neg hne

namespace Tracked
variable {connectors : String → List ConnectorKeys}

theorem mem_grow (e : Option (String × ConnectorKeys)) (hx : x ∈ connectors k) :
    x ∈ grow connectors e k := by
  cases e with
  | none => exact hx
  | some e =>
    obtain ⟨wid, keys⟩ := e
    by_cases hk : k = wid
    · subst hk
      rw [grow, Function.update_self]
      exact List.mem_cons_of_mem _ hx
    · rwa [grow, Function.update_of_ne hk]

theorem grow_of_ne (he : ∀ keys, e ≠ some (k, keys)) : grow connectors e k = connectors k := by
  cases e with
  | none => rfl
  | some e =>
    obtain ⟨wid, keys⟩ := e
    rw [grow, Function.update_of_ne]
    rintro rfl
    exact he keys rfl

end Tracked

theorem Task.recreates_some {t : Task} (ht : t.recreates h i = some k) :
    t.deploys ≠ none ∧ t.guard = some (k, .lifecycle) := by
  cases t with
  | deployRuntime | updateRuntime | rollbackRuntime =>
    obtain ⟨_, _, hk⟩ := Option.bind_eq_some_iff.1 ht
    cases hk
    refine ⟨?_, rfl⟩
    intro hn
    cases hn
  | _ => cases ht

theorem RestoreTask.recreates_some {t : RestoreTask} (ht : t.recreates h i workloadId = some k) :
    t.deploys ≠ none ∧ k = workloadId := by
  obtain ⟨d, hd, hk⟩ := Option.map_eq_some_iff.1 ht
  refine ⟨?_, hk.symm⟩
  intro hn
  rw [hn] at hd
  cases hd

structure Tracked.Enrolled (h : Host) (s : Tracked) : Prop where
  bound : ∀ k b, s.world.node.store.enrollments.lookup k = some b →
    Binds h (s.connectors k) k b (s.world.node.store.workloads.lookup k)
  inspecting : ∀ task stored delegation,
    s.world.tasks.lookup task = some (.enrollInspect stored delegation) →
      ∃ m, s.world.node.state.active.lookup stored.grant.workloadId = some m ∧
        m.needsCleanup = false
  redeploying : ∀ pending k stored deployment active quarantined,
    s.world.phase = .restoring pending (some (k, .redeploy stored deployment)) active quarantined →
      s.world.node.store.enrollments.lookup k = none

structure EnrollmentReady (h : Host) (n : Node) (workloadId : String) (stored : StoredWorkload)
    (delegation : EnrollmentDelegation) : Prop where
  record : n.state.active.lookup workloadId = some stored
  phase : stored.phase = .active
  deleting : stored.deleting = false
  named : stored.runtimeId ≠ ""
  decoded : ∃ execution, h.decodeExecution stored.grant = .ok execution ∧
    h.platform.decodeDelegation execution.workloadCredentialB64 = .ok delegation

theorem enrollLock_next (hn : (enrollLock h i n wid).2 = .next t) :
    ∃ st delegation, t = .enrollInspect st delegation ∧ EnrollmentReady h n wid st delegation := by
  unfold enrollLock at hn
  split at hn
  · cases hn
  · next st hr =>
    dsimp only at hn
    split at hn
    · cases hn
    · next delegation hc =>
      cases hn
      simp only [bind_ok, ensure_ok, pure, Except.pure, Except.ok.injEq, Bool.and_eq_true,
        beq_iff_eq, bne_iff_ne, Bool.not_eq_true'] at hc
      obtain ⟨_, ⟨⟨hp, hdl⟩, hnm⟩, execution, he, delegation', hd, _, _, _, _, rfl⟩ := hc
      exact ⟨st, delegation', rfl, hr, hp, hdl, hnm, execution, he, hd⟩

theorem EnrollmentReady.needsCleanup (hr : EnrollmentReady h n wid st del) :
    st.needsCleanup = false := by
  rw [StoredWorkload.needsCleanup, hr.phase]
  simpa using hr.named

namespace Tracked
variable {s : Tracked} {t : Task}

theorem connectors_poll (hl : s.world.tasks.lookup task = some t)
    (hk : t.deploys = none ∨ t.guard ≠ some (k, .lifecycle)) :
    grow s.connectors (s.world.recreates h (.poll task i)) k = s.connectors k := by
  refine grow_of_ne fun keys he => ?_
  obtain ⟨k', hk', he⟩ := Option.map_eq_some_iff.1 he
  cases he
  rw [hl] at hk'
  obtain ⟨hd, hg⟩ := Task.recreates_some hk'
  rcases hk with hk | hk
  · exact hd hk
  · exact hk hg

theorem Enrolled.poll_bound (hs : s.Enrolled h) (hw : s.world.Running h)
    (hm : s.world.Slots Mirrors) (hl : s.world.tasks.lookup task = some t)
    (ht : t.isInspection = false) (hok : s.world.renews h (.poll task i) = true)
    (hb : (poll h i s.world.node t).1.store.enrollments.lookup k = some b) :
    Binds h (grow s.connectors (s.world.recreates h (.poll task i)) k) k b
      ((poll h i s.world.node t).1.store.workloads.lookup k) := by
  obtain ⟨⟨e, hd, hc⟩, _, hsr⟩ := poll_outcome h i s.world.node t
  obtain ⟨ho, hk⟩ := (hsr ht).survives hb
  have hbn := hs.bound k b ho
  have hds := congrArg Slot.disk (hd.slot k)
  by_cases hg : t.guard = some (k, .lifecycle)
  · have hse : Renewed h i s.world.node b t.settles := by
      intro dep grant rid hst hdp
      rw [World.renews, hl, Option.bind_some, hst, Option.all_some] at hok
      refine Node.unbound_ne hok hdp ?_
      rw [Task.settles_key (hw.holds task t k _ hl hg) hg hst]
      exact ho
    show Binds h _ k b ((poll h i s.world.node t).1.slot k).disk
    rw [hds]
    refine hc.binds hg (hw.sound k) (hw.holds task t k _ hl hg) (hm.held task t k hl hg) hse
      hbn ?_ (fun x hx => mem_grow _ hx) fun hn => connectors_poll hl (.inl hn)
    rw [← hds]
    exact hk
  · have hsl := congrArg Slot.disk (hw.elsewhere hl hd hc hg)
    show Binds h _ k b ((poll h i s.world.node t).1.slot k).disk
    rw [connectors_poll hl (.inr hg), hsl]
    exact hbn

theorem Enrolled.inspect_bound (hs : s.Enrolled h) (hw : s.world.Running h)
    (hm : s.world.Slots Mirrors) (hl : s.world.tasks.lookup task = some (.enrollInspect st del))
    (hok : s.honest (.poll task i) = true)
    (hb : (enrollInspect h i s.world.node st del).1.store.enrollments.lookup k = some b) :
    Binds h (s.connectors k) k b (s.world.node.store.workloads.lookup k) := by
  rcases enrollInspect_store h i s.world.node st del with
    hst | ⟨report, encoded, hr, _, hst⟩
  · rw [hst] at hb
    exact hs.bound k b hb
  · rw [hst] at hb
    rcases Assoc.lookup_insert_cases hb with ⟨rfl, rfl⟩ | ⟨_, hb⟩
    · obtain ⟨m, hmm, hc⟩ := hs.inspecting task st del hl
      have hf : s.world.node.mutations.lookup st.grant.workloadId ≠ some .lifecycle := by
        rw [hw.exclusive.held task _ _ _ hl rfl]
        intro heq
        cases heq
      obtain ⟨_, r, hsl⟩ := (hw.sound st.grant.workloadId).memory_bound hmm
      have ha : (s.world.node.slot st.grant.workloadId).Agrees := hm.free _ hf
      rw [hsl] at ha
      obtain ⟨r', rfl, hag⟩ := ha.of_holding
      have hh : (s.connectors st.grant.workloadId).head? = some report.keys := by
        simpa [honest, hl, hr, reports] using hok
      refine ⟨rfl, List.mem_of_mem_head? hh, r', congrArg Slot.disk hsl, ?_⟩
      exact .of_current (hag.needsCleanup ▸ hc) hh
    · exact hs.bound k b hb

theorem enrolls_ready {w : World} (hw : w.Running h) (hl : w.tasks.lookup task = some t)
    (hd : w.node.Does (poll h i w.node t).1 e) (hc : PollCase h i w.node t e (poll h i w.node t).2)
    (hn : (poll h i w.node t).2 = .next (.enrollInspect st del)) :
    ∃ m, ((poll h i w.node t).1.slot st.grant.workloadId).memory = some m ∧
      m.needsCleanup = false := by
  have hc' := hn ▸ hc
  cases hc' with
  | guardWait hnn => cases hnn
  | failRecorded _ ha =>
    rcases ha with hdn | ⟨_, _, hcl⟩
    · cases hdn
    · cases hcl
  | @inspecting wid _ _ hr =>
    obtain ⟨_, _, he, hrd⟩ := enrollLock_next hn
    cases he
    have hk := ((hw.sound wid).memory_bound hr).1.key
    have hsl := hw.elsewhere (k := st.grant.workloadId) hl hd hc (by intro hg; cases hg)
    rw [hsl, hk]
    exact ⟨st, hr, hrd.needsCleanup⟩

theorem Enrolled.poll (hs : s.Enrolled h) (hi : s.world.Inv h)
    (hm : s.world.SlotInv Mirrors) (hl : s.world.tasks.lookup task = some t)
    (hh : s.honest (.poll task i) = true) (hr : s.world.renews h (.poll task i) = true) :
    Enrolled h ⟨s.world.advance task (some t) (poll h i s.world.node t),
      grow s.connectors (s.world.recreates h (.poll task i))⟩ := by
  have hrn := hi.running hl
  have hw := hi.up hrn
  obtain ⟨e, hd, hc⟩ := poll_explains h i s.world.node t
  refine ⟨fun k b hb => ?_, fun j st del hj => ?_, ?_⟩
  · rw [World.advance_store] at hb ⊢
    cases ht : t.isInspection with
    | false => exact hs.poll_bound hw (hm hrn) hl ht hr hb
    | true =>
      cases t with
      | enrollInspect st del =>
        have hsl := hw.elsewhere (k := k) hl hd hc (by intro hg; cases hg)
        have hds := congrArg Slot.disk hsl
        dsimp only at hds ⊢
        rw [connectors_poll hl (.inl rfl)]
        show Binds h _ k b ((Podmesh.poll h i s.world.node _).1.slot k).disk
        rw [hds]
        exact hs.inspect_bound hw (hm hrn) hl hh hb
      | _ => cases ht
  · rw [World.advance_state]
    show ∃ m, ((Podmesh.poll h i s.world.node t).1.slot _).memory = some m ∧ _
    rcases World.advance_tasks hj with ⟨rfl, hn⟩ | ⟨hne, hj⟩
    · exact enrolls_ready hw hl hd hc hn
    · obtain ⟨m, hmm, hcl⟩ := hs.inspecting j st del hj
      have hsl := hw.elsewhere (k := st.grant.workloadId) hl hd hc (by
        intro hg
        exact hne (hw.exclusive.unique j task _ t _ _ _ hj hl rfl hg))
      rw [hsl]
      exact ⟨m, hmm, hcl⟩
  · intro pend k st dep act quar hp
    rw [World.advance_phase, hrn] at hp
    cases hp

theorem connectors_restore {t : RestoreTask}
    (hp : s.world.phase = .restoring pend (some (k, t)) act quar) (hk : t.deploys = none ∨ k' ≠ k) :
    grow s.connectors (s.world.recreates h (.restore i)) k' = s.connectors k' := by
  refine grow_of_ne fun keys he => ?_
  simp only [World.recreates, hp] at he
  obtain ⟨k'', hk'', he⟩ := Option.map_eq_some_iff.1 he
  cases he
  obtain ⟨hd, hky⟩ := RestoreTask.recreates_some hk''
  rcases hk with hk | hk
  · exact hd hk
  · exact hk hky

theorem redeploying_of_cleared (hs : Settles k st disk p.2) (hb : st.Bound k) (hcl : Cleared n p)
    (hp : p.2.phase pend act quar k = .restoring pend' (some (k', .redeploy st' dep)) act' quar') :
    p.1.store.enrollments.lookup k' = none := by
  obtain ⟨node, rst⟩ := p
  cases rst with
  | wait t =>
    cases hp
    have hk : st'.grant.workloadId = k := by
      cases hs with
      | waits ht =>
        rw [← hb.key, ← ht]
        rfl
    rw [← hk]
    exact hcl.redeploy st' dep rfl
  | keep w | gone => cases hp

theorem inspecting_of_idle {w : World} (hw : w.Idle) (node : Node) :
    ∀ task st del, w.tasks.lookup task = some (.enrollInspect st del) →
      ∃ m, node.state.active.lookup st.grant.workloadId = some m ∧ m.needsCleanup = false :=
  fun _ _ _ hl => absurd hl hw.no_task

section
variable (hs : s.Enrolled h)
include hs

theorem Enrolled.continued {t : RestoreTask}
    (hp : s.world.phase = .restoring pend (some (k, t)) act quar)
    (hw : s.world.Restoring h pend (some (k, t)) act quar)
    (hok : s.world.renews h (.restore i) = true) :
    Enrolled h ⟨{ s.world with
        node := (restoreContinue h i s.world.node t).1
        phase := (restoreContinue h i s.world.node t).2.phase pend act quar k },
      grow s.connectors (s.world.recreates h (.restore i))⟩ := by
  obtain ⟨⟨disk, pods, hnd, hc⟩, _, hcl⟩ := restoreContinue_result h i s.world.node t
  obtain ⟨_, _, _, hd⟩ := hw.on_disk
  have hbn := hw.bound k _ hd
  have hst := hc.settles (hw.planned k t rfl) hbn
  refine ⟨fun k' b hb => ?_, inspecting_of_idle hw.idle _, fun _ _ _ _ _ _ hph => ?_⟩
  · obtain ⟨ho, hkp⟩ := hcl.change.survives hb
    have hbi := hs.bound k' b ho
    dsimp only
    rw [hnd.workloads, Edit.lookup_apply] at hkp ⊢
    by_cases hk : k' = k
    · subst hk
      rw [hd] at hbi hkp ⊢
      refine hc.binds (hw.planned k' t rfl) hbn ?_ hbi ?_ ?_ (fun x hx => mem_grow _ hx)
        fun hn => connectors_restore hp (.inl hn)
      · intro dep grant rid ht hdp
        simp only [World.renews, hp, ht, Option.all_some] at hok
        refine Node.unbound_ne hok hdp ?_
        rw [RestoreTask.settles_key (hw.planned k' t rfl) hbn ht]
        exact ho
      · rintro st dep rfl
        rw [hs.redeploying _ _ _ _ _ _ hp] at ho
        cases ho
      · intro hn
        cases hkp hn
    · rw [hst.elsewhere hk, connectors_restore hp (.inr hk)]
      exact hbi
  · exact redeploying_of_cleared hst hbn hcl hph

theorem Enrolled.begun
    (hp : s.world.phase = .restoring ((k, some st) :: pend) none act quar)
    (hw : s.world.Restoring h ((k, some st) :: pend) none act quar) :
    Enrolled h ⟨{ s.world with
        node := (restoreBegin h i s.world.node st).1
        phase := (restoreBegin h i s.world.node st).2.phase pend act quar k },
      s.connectors⟩ := by
  obtain ⟨disk, hn, hc, hcl⟩ := restoreBegin_cases h i s.world.node st
  have hd := hw.next_on_disk
  have hbn := hw.bound k _ hd
  have hst := hc.settles hbn
  refine ⟨fun k' b hb => ?_, inspecting_of_idle hw.idle _, fun _ _ _ _ _ _ hph => ?_⟩
  · obtain ⟨ho, hkp⟩ := hcl.change.survives hb
    have hbi := hs.bound k' b ho
    rw [hn.workloads, Edit.lookup_apply] at hkp ⊢
    by_cases hk : k' = k
    · subst hk
      rcases hc.keeps hbn (s.world.node.store.workloads.lookup k') with hsm | hnn
      · rw [hsm]
        exact hbi
      · have hg := hkp hnn
        rw [hd] at hg
        cases hg
    · rw [hst.elsewhere hk]
      exact hbi
  · exact redeploying_of_cleared hst hbn hcl hph

theorem Enrolled.restore (hi : s.world.Inv h)
    (hok : s.world.renews h (.restore i) = true) (he : s.world.restore h i = some w) :
    Enrolled h ⟨w, grow s.connectors (s.world.recreates h (.restore i))⟩ := by
  have hg (hp : ∀ pend cur act quar,
      s.world.phase ≠ .restoring pend (some cur) act quar) :
      grow s.connectors (s.world.recreates h (.restore i)) = s.connectors := by
    simp only [World.recreates]
    split
    · next hph => exact absurd hph (hp _ _ _ _)
    · rfl
  unfold World.restore at he
  split at he
  · next pend k t act quar hp =>
    cases he
    exact hs.continued hp (hi.restoring hp) hok
  · next k pend act quar hp =>
    cases he
    rw [hg (by simp [hp])]
    have hw := hi.restoring hp
    exact ⟨hs.bound, inspecting_of_idle hw.idle _, fun _ _ _ _ _ _ hph => by cases hph⟩
  · next k st pend act quar hp =>
    cases he
    rw [hg (by simp [hp])]
    exact hs.begun hp (hi.restoring hp)
  · next act quar hp =>
    rw [hg (by simp [hp])]
    have hw := hi.restoring hp
    dsimp only at he
    split at he
    · cases he
      exact ⟨hs.bound, inspecting_of_idle hw.idle _, fun _ _ _ _ _ _ hph => by cases hph⟩
    · cases he
      refine ⟨hs.bound, fun task st del hl => ?_, fun _ _ _ _ _ _ hph => by cases hph⟩
      cases hl
  · cases he

theorem Enrolled.effect (hw : s.world.Running h)
    (hl : s.world.tasks.lookup task = some t) (hb : s.world.node.store.enrollments.lookup k = some
      b) :
    Binds h (grow s.connectors (s.world.recreates h (.effect task i)) k) k b
      (s.world.node.store.workloads.lookup k) := by
  have hbn := hs.bound k b hb
  by_cases hk : ∃ keys, s.world.recreates h (.effect task i) = some (k, keys)
  · obtain ⟨keys, hk⟩ := hk
    obtain ⟨k', hk', he⟩ := Option.map_eq_some_iff.1 hk
    cases he
    rw [hl] at hk'
    obtain ⟨hd, hg⟩ := Task.recreates_some hk'
    have hsl : Binds h (s.connectors k) k b (s.world.node.slot k).disk := hbn
    exact hsl.deploying (hw.holds task t k _ hl hg) hd fun x hx => mem_grow _ hx
  · rw [grow_of_ne (not_exists.1 hk)]
    exact hbn

theorem Enrolled.restoreEffect {t : RestoreTask}
    (hp : s.world.phase = .restoring pend (some (wid, t)) act quar)
    (hw : s.world.Restoring h pend (some (wid, t)) act quar)
    (hb : s.world.node.store.enrollments.lookup k = some b) :
    Binds h (grow s.connectors (s.world.recreates h (.restoreEffect i)) k) k b
      (s.world.node.store.workloads.lookup k) := by
  have hbn := hs.bound k b hb
  by_cases hk : ∃ keys, s.world.recreates h (.restoreEffect i) = some (k, keys)
  · obtain ⟨keys, hk⟩ := hk
    simp only [World.recreates, hp] at hk
    obtain ⟨k', hk', he⟩ := Option.map_eq_some_iff.1 hk
    cases he
    obtain ⟨hd, hky⟩ := RestoreTask.recreates_some hk'
    subst hky
    obtain ⟨_, _, _, hds⟩ := hw.on_disk
    rw [hds] at hbn ⊢
    refine hbn.redeploying (hw.planned k t rfl) hd ?_ fun x hx => mem_grow _ hx
    rintro st dep rfl
    rw [hs.redeploying _ _ _ _ _ _ hp] at hb
    cases hb
  · rw [grow_of_ne (not_exists.1 hk)]
    exact hbn

theorem Enrolled.receive (hp : s.world.phase = .running) :
    Enrolled h ⟨s.world.advance task none (receive h i s.world.node msg), s.connectors⟩ := by
  refine ⟨fun k b hb => ?_, fun j st del hj => ?_, fun _ _ _ _ _ _ hph => ?_⟩
  · rw [World.received_store] at hb ⊢
    exact hs.bound k b hb
  · rw [World.received_state]
    rcases World.advance_tasks hj with ⟨_, ht⟩ | ⟨_, hj⟩
    · cases ((receive_received h i s.world.node msg).next _ ht).1
    · exact hs.inspecting j st del hj
  · rw [World.advance_phase, hp] at hph
    cases hph

theorem Enrolled.step (hi : s.world.Inv h)
    (hm : s.world.SlotInv Mirrors) (hlw : s.lawful h a = true)
    (hr : s.world.renews h a = true) (he : s.step h a = some s') : s'.Enrolled h := by
  obtain ⟨w, hw, rfl⟩ := Option.map_eq_some_iff.1 he
  cases step_cases hw with
  | polled =>
    obtain ⟨t, hl, hw'⟩ := World.step_poll hw
    rw [hw']
    simp only [lawful, Bool.and_eq_true] at hlw
    exact hs.poll hi hm hl hlw.1.2 hr
  | continued | quarantined | begun | started | refused => exact hs.restore hi hr hw
  | called hl =>
    have hrn := hi.polling hl
    exact ⟨fun k b hb => hs.effect hrn hl hb, hs.inspecting, hs.redeploying⟩
  | restoreCalled hp =>
    have hrs := hi.restoring hp
    exact ⟨fun k b hb => hs.restoreEffect hp hrs hb, hs.inspecting, hs.redeploying⟩
  | unstarted => exact hs
  | restarted | crashed =>
    refine ⟨hs.bound, fun task st del hl => ?_, fun _ _ _ _ _ _ hp => ?_⟩
    · cases hl
    · cases hp
  | corrupted => simp [lawful, Action.damages] at hlw
  | received hp => exact hs.receive hp
  | enrolled =>
    refine ⟨hs.bound, fun j st del hl => ?_, hs.redeploying⟩
    rcases Assoc.lookup_insert_cases hl with ⟨_, heq⟩ | ⟨_, hl⟩
    · cases heq
    · exact hs.inspecting j st del hl
  | cancelled =>
    refine ⟨fun k b hb => ?_, fun j st del hj => ?_, fun _ _ _ _ _ _ hp => ?_⟩
    · rw [dropGuard_store] at hb ⊢
      exact hs.bound k b hb
    · rw [dropGuard_state]
      exact hs.inspecting j st del (Assoc.lookup_of_erase hj).2
    · rw [dropGuard_store]
      exact hs.redeploying _ _ _ _ _ _ hp
  | offered _ hst =>
    rcases hst with rfl | rfl <;> exact ⟨hs.bound, hs.inspecting, hs.redeploying⟩
  | attached => exact ⟨hs.bound, hs.inspecting, hs.redeploying⟩

end

theorem reach_world (hr : Reach (step h) (fun s a => s.lawful h a = true ∧
    s.world.renews h a = true) fresh s) :
    Reach (World.step h) (fun w a => flagsSaved w a = true) .fresh s.world := by
  refine Reach.invariant (fun s => Reach (World.step h) (fun w a => flagsSaved w a = true) .fresh
    s.world) .start (fun s a s' _ hs hok he => ?_) hr
  obtain ⟨w, hw, rfl⟩ := Option.map_eq_some_iff.1 he
  have hl := hok.1
  simp only [lawful, Bool.and_eq_true] at hl
  exact .next hs hl.1.1.1 hw

theorem fresh_enrolled (h : Host) : Enrolled h fresh := by
  refine ⟨fun k b hb => ?_, fun task st del hl => ?_, fun _ _ _ _ _ _ hp => ?_⟩
  · cases hb
  · cases hl
  · cases hp

theorem reach_enrolled (hr : Reach (step h) (fun s a => s.lawful h a = true ∧
    s.world.renews h a = true) fresh s) : s.Enrolled h := by
  refine Reach.invariant (Enrolled h) (fresh_enrolled h) (fun s a s' hrc hs hok he => ?_) hr
  have hw := reach_world hrc
  exact hs.step (reach_inv hw) (reach_mirrors hw) hok.1 hok.2 he

end Tracked

end Podmesh
