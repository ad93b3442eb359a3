import Podmesh.Agent.Kept
import Podmesh.Lib.Exclusive

namespace Podmesh

variable {h : Host} {i : Input}

def Task.Prepared (h : Host) : Task → Prop
  | .deployGuard grant execution | .deployLock _ grant execution =>
    h.decodeExecution grant = .ok execution
  | .deployRuntime _ stored deployment =>
    h.runtime.targetId deployment = .ok stored.runtimeId ∧ stored.runtimeId ≠ "" ∧
      ∃ execution measured, h.grantManifest stored.grant =
        .ok (execution, deployment.manifest, measured) ∧
        deployment = ⟨stored.grant.workloadId, stored.grant.namespaceId, deployment.manifest⟩
  | .deployCleanup stored target _ | .deleteCleanup _ _ stored target =>
    h.cleanupTarget stored = .ok target
  | .updateGuard request execution => h.decodeExecution request.grant = .ok execution
  | .updateLock _ request execution manifest => h.decodeExecution request.grant = .ok execution ∧
    ∃ measured, h.runtimeManifest request.workloadId request.namespaceId execution =
      .ok (manifest, measured)
  | .updateRuntime _ request execution _ deployment =>
    h.decodeExecution request.grant = .ok execution ∧
      deployment = ⟨request.workloadId, request.namespaceId, deployment.manifest⟩ ∧
      ∃ measured, h.runtimeManifest request.workloadId request.namespaceId execution =
        .ok (deployment.manifest, measured)
  | .rollbackRuntime _ active deployment _ => rollbackDeployment h active = .ok deployment
  | _ => True

theorem grantManifest_of_decode (hd : h.decodeExecution grant = .ok exe)
    (hm : h.runtimeManifest grant.workloadId grant.namespaceId exe =
      .ok (manifest, ms)) : h.grantManifest grant = .ok (exe, manifest, ms) := by
  simp only [Host.grantManifest, hd, hm, bind, Except.bind, pure, Except.pure]

theorem PollCase.prepared (hc : PollCase h i n t e (.next t')) (ht : t.Prepared h) :
    t'.Prepared h := by
  cases hc with
  | guardWait | deployGuarded => exact ht
  | deployStarted _ hp =>
    have hpl := planDeployment_ok hp
    obtain ⟨measured, hm⟩ := hpl.manifest
    have hg := grantManifest_of_decode ht hm
    have hs := hpl.subject
    rw [← hpl.record] at hg hs
    exact ⟨hpl.target, hpl.named, _, measured, hg, hs⟩
  | failRecorded _ ha =>
    rcases ha with hd | ⟨tgt, htr, hn⟩
    · cases hd
    · cases hn
      exact htr
  | updateGuarded _ hm => exact ⟨ht, (updateManifest_ok hm).2.2⟩
  | updateStarted => exact ⟨ht.1, rfl, ht.2⟩
  | updateFailed _ hpr => exact hpr
  | deleteNeedsCleanup _ _ htr => exact htr
  | _ => trivial

theorem recorded_cases {n : Node} {k : ReplayCache → Polled} {r : ReplayCache × Except String Unit}
    {P : Polled → Prop} (he : ∀ replay e, P (failWith { n with replay } e))
    (hok : ∀ replay, P (k replay)) :
    P (match (motive := ReplayCache × Except String Unit → Polled) r with
      | (replay, .error e) => failWith { n with replay } e
      | (replay, .ok ()) => k replay) := by
  obtain ⟨replay, res⟩ := r
  cases res with
  | error e => exact he replay e
  | ok u => exact hok replay

structure Received (h : Host) (n : Node) (p : Polled) : Prop where
  node : ∃ replay, p.1 = { n with replay }
  next : ∀ t, p.2 = .next t → t.guard = none ∧ t.Prepared h

theorem received_fail (h : Host) (n : Node) (replay : ReplayCache) (e : String) :
    Received h n (failWith { n with replay } e) :=
  ⟨⟨replay, rfl⟩, done_next⟩

theorem received_next (n : Node) (replay : ReplayCache) (hg : t.guard = none)
    (hp : t.Prepared h) : Received h n ({ n with replay }, .next t) :=
  ⟨⟨replay, rfl⟩, fun _ ht => by cases ht; exact ⟨hg, hp⟩⟩

theorem receive_received (h : Host) (i : Input) (n : Node) (m : OwnerMessage) :
    Received h n (receive h i n m) := by
  have hs (e : String) : Received h n (failWith n e) := received_fail h n n.replay e
  cases m with
  | admission req =>
    simp only [receive, admitReceive]
    split
    · exact hs _
    · split
      · exact hs _
      · exact recorded_cases (received_fail h n) fun replay => received_next n replay rfl trivial
  | deploy grant =>
    simp only [receive, deployReceive]
    split
    · exact hs _
    · split
      · exact hs _
      · refine recorded_cases (received_fail h n) fun replay => ?_
        split
        · exact received_fail h n replay _
        · next exe hc =>
          refine received_next n replay rfl ?_
          simp only [bind_ok, pure, Except.pure, Except.ok.injEq] at hc
          obtain ⟨spec, hsp, _, _, rfl⟩ := hc
          exact hsp
  | update req =>
    simp only [receive, updateReceive]
    split
    · exact hs _
    · split
      · exact hs _
      · refine recorded_cases (received_fail h n) fun replay => ?_
        split
        · exact received_fail h n replay _
        · next exe hd => exact received_next n replay rfl hd
  | command command =>
    simp only [receive, commandReceive]
    split
    · exact hs _
    · split
      · exact hs _
      · exact recorded_cases (received_fail h n) fun replay => received_next n replay rfl trivial
  | list req =>
    simp only [receive, listReceive]
    split
    · exact hs _
    · exact recorded_cases (received_fail h n) fun replay => received_next n replay rfl trivial

theorem Kept.slot_other (hk : Kept n wid t e after) (hd : n.Does n' e)
    (hne : other ≠ wid) : n'.slot other = n.slot other := by
  rw [hd.slot, Slot.after, hk.memory.elsewhere hne, hk.disk.elsewhere hne]

theorem Kept.sound_all (hk : Kept n wid t e after) (hd : n.Does n' e)
    (hs : ∀ k, (n.slot k).Sound k) (other : String) : (n'.slot other).Sound other := by
  by_cases hne : other = wid
  · subst hne
    rw [hd.slot]
    exact hk.sound
  · rw [hk.slot_other hd hne]
    exact hs other

theorem slot_unchanged {n n' : Node} (hd : n.Does n' e) (hm : e.memory = .keep)
    (hds : e.disk = .keep) (workloadId : String) : n'.slot workloadId = n.slot workloadId := by
  rw [hd.slot, Slot.after, hm, hds]
  rfl

theorem retainReservations_empty {s : WorkloadState} (hr : s.reservations = ∅) (now : UInt64) :
    (s.retainReservations now).reservations = ∅ := by
  simp only [WorkloadState.retainReservations, hr]
  rfl

theorem PollCase.repair (hc : PollCase h i n t e after) (hq : n.state.quarantined ≠ ∅)
    (hr : n.state.reservations = ∅) : e.reservations = ∅ := by
  cases hc with
  | @admitted now req r =>
    obtain hs | ⟨ha, _⟩ := admitLocked_cases h now i.freshId req n.state
    · exact (congrArg WorkloadState.reservations hs).trans (retainReservations_empty hr now)
    · have hcr : n.state.quarantined.card = 0 := by
        simp only [AdmissionChecks.accepted, Bool.and_eq_true] at ha
        simpa [admissionChecks, WorkloadState.retainReservations] using ha.1.1.1.1.1
      exact absurd (Finset.card_eq_zero.1 hcr) hq
  | deployRefused | deployStarted =>
    dsimp only
    rw [hr]
    rfl
  | _ => exact hr

structure World.Running (h : Host) (w : World) : Prop where
  exclusive : Exclusive Task.guard w.tasks w.node.mutations
  prepared : ∀ k t, w.tasks.lookup k = some t → t.Prepared h
  sound : ∀ workloadId, (w.node.slot workloadId).Sound workloadId
  holds : ∀ k t workloadId o, w.tasks.lookup k = some t → t.guard = some (workloadId, o) →
    t.Holds (w.node.slot workloadId)
  repair : w.node.state.quarantined ≠ ∅ → w.node.state.reservations = ∅

namespace World.Running
variable {w : World}

theorem quarantine (hw : w.Running h) (hm : wid ∈ w.node.state.quarantined) :
    w.node.state.reservations = ∅ :=
  hw.repair (Finset.ne_empty_of_mem hm)

variable {node : Node}

theorem of_node (hw : w.Running h)
    (hs : ∀ workloadId, node.slot workloadId = w.node.slot workloadId)
    (hm : node.mutations = w.node.mutations)
    (hr : node.state.quarantined ≠ ∅ → node.state.reservations = ∅) :
    World.Running h { w with node } where
  exclusive := hm ▸ hw.exclusive
  prepared := hw.prepared
  sound workloadId := hs workloadId ▸ hw.sound workloadId
  holds k t workloadId o hk hg := hs workloadId ▸ hw.holds k t workloadId o hk hg
  repair := hr

/-- A node after a section of one task: the workloads of the other tasks are as before. -/
structure Beside (w : World) (task : Nat) (node : Node) : Prop where
  sound : ∀ workloadId, (node.slot workloadId).Sound workloadId
  others : ∀ k t workloadId o, k ≠ task → w.tasks.lookup k = some t →
    t.guard = some (workloadId, o) → node.slot workloadId = w.node.slot workloadId
  repair : node.state.quarantined ≠ ∅ → node.state.reservations = ∅

section
variable (hw : w.Running h)
include hw

theorem beside (hs : ∀ wid, node.slot wid = w.node.slot wid)
    (hr : node.state.quarantined ≠ ∅ → node.state.reservations = ∅) (task : Nat) :
    Beside w task node :=
  ⟨fun k => hs k ▸ hw.sound k, fun _ _ k _ _ _ _ => hs k, hr⟩

theorem with_task (hex : Exclusive Task.guard (w.tasks.insert task t') node.mutations)
    (hp : t'.Prepared h) (hs : ∀ wid o, t'.guard = some (wid, o) → t'.Holds (node.slot wid))
    (hb : Beside w task node) : World.Running h { w with node, tasks := w.tasks.insert task t' }
      where
  exclusive := hex
  prepared k t hk := by
    rcases Assoc.lookup_insert_cases hk with ⟨_, rfl⟩ | ⟨_, hk⟩
    · exact hp
    · exact hw.prepared k t hk
  sound := hb.sound
  holds k t wid o hk hg := by
    rcases Assoc.lookup_insert_cases hk with ⟨_, rfl⟩ | ⟨hne, hk⟩
    · exact hs wid o hg
    · rw [hb.others k t wid o hne hk hg]
      exact hw.holds k t wid o hk hg
  repair := hb.repair

theorem without_task {responses : List (Nat × Except String Response)}
    (hex : Exclusive Task.guard (w.tasks.erase task) node.mutations) (hb : Beside w task node) :
    World.Running h { w with node, tasks := w.tasks.erase task, responses } where
  exclusive := hex
  prepared k t hk := hw.prepared k t (Assoc.lookup_of_erase hk).2
  sound := hb.sound
  holds k t wid o hk hg := by
    obtain ⟨hne, hk⟩ := Assoc.lookup_of_erase hk
    rw [hb.others k t wid o hne hk hg]
    exact hw.holds k t wid o hk hg
  repair := hb.repair

theorem repair_of_poll (hd : w.node.Does node e) (hc : PollCase h i w.node t e after)
    (hq : node.state.quarantined ≠ ∅) : node.state.reservations = ∅ := by
  rw [hd.quarantined] at hq
  exact hd.reservations.trans (hc.repair hq (hw.repair hq))

section
variable (ht : w.tasks.lookup task = some t)
include ht

theorem advance_held (hg : t.guard = some (wl, o)) (hd : w.node.Does p.1 e)
    (hc : PollCase h i w.node t e p.2) : (w.advance task (some t) p).Running h := by
  obtain ⟨node, after⟩ := p
  have hk := hc.kept hg (hw.sound wl) (hw.holds task t wl o ht hg) hw.quarantine
  have hb : Beside w task node := by
    refine ⟨hk.sound_all hd hw.sound, fun k u oth o' hne hu hug => ?_, hw.repair_of_poll hd hc⟩
    refine hk.slot_other hd fun hs => hne ?_
    subst hs
    exact hw.exclusive.unique k task u t oth o' o hu ht hug hg
  have hm : node.mutations = w.node.mutations := hd.mutations.trans hk.mutations
  have hex := hw.exclusive.release ht hg
  rw [← hm] at hex
  cases after with
  | next t' =>
    obtain ⟨hgr, hn⟩ := hk.next t' rfl
    refine hw.with_task ?_ (hc.prepared (hw.prepared task t ht)) (fun wid o' hg' => ?_) hb
    · rw [hm]
      exact hw.exclusive.replace ht hgr
    · rw [hgr, hg] at hg'
      cases hg'
      rw [hd.slot]
      exact hn
  | done r | quit r =>
    simp only [World.advance, Option.elim, Node.dropGuard, hg]
    exact hw.without_task hex { hb with }

theorem advance_unguarded (hg : t.guard = none) (hd : w.node.Does p.1 e)
    (hc : PollCase h i w.node t e p.2) : (w.advance task (some t) p).Running h := by
  obtain ⟨node, after⟩ := p
  have hnn : ∀ u, w.tasks.lookup task = some u → u.guard = none := fun u hu => by
    rw [ht] at hu
    cases hu
    exact hg
  cases hc.unguarded hg with
  | still hm hds hmt hn =>
    have hb := hw.beside (slot_unchanged hd hm hds) (hw.repair_of_poll hd hc) task
    have hf := hw.exclusive.finish hnn
    rw [← hmt, ← hd.mutations] at hf
    cases after with
    | next t' =>
      have hnt := hn t' rfl
      refine hw.with_task ?_ (hc.prepared (hw.prepared task t ht)) (fun wid o' hg' => ?_) hb
      · rw [hd.mutations, hmt]
        exact hw.exclusive.idle hnn hnt
      · rw [hnt] at hg'
        cases hg'
    | done r | quit r =>
      simp only [World.advance, Option.elim, Node.dropGuard, hg]
      exact hw.without_task hf hb
  | acquired hm hds hfr hmt hn hgr hh =>
    subst hn
    refine hw.with_task ?_ (hc.prepared (hw.prepared task t ht)) (fun wid o' _ => hh _)
      (hw.beside (slot_unchanged hd hm hds) (hw.repair_of_poll hd hc) task)
    rw [hd.mutations, hmt]
    exact hw.exclusive.acquire hnn hfr hgr

theorem advance (hd : w.node.Does p.1 e)
    (hc : PollCase h i w.node t e p.2) : (w.advance task (some t) p).Running h := by
  cases hg : t.guard with
  | none => exact hw.advance_unguarded ht hg hd hc
  | some g => exact hw.advance_held (o := g.2) ht hg hd hc

end

theorem receive (ht : w.tasks.lookup task = none) (m : OwnerMessage) :
    (w.advance task none (receive h i w.node m)).Running h := by
  obtain ⟨⟨replay, hnd⟩, hn⟩ := receive_received h i w.node m
  generalize Podmesh.receive h i w.node m = p at hnd hn
  obtain ⟨node, after⟩ := p
  subst hnd
  have hnn : ∀ u, w.tasks.lookup task = some u → u.guard = none := fun u hu => by
    rw [ht] at hu
    cases hu
  have hs := @beside h w { w.node with replay } hw (fun _ => rfl) hw.repair task
  cases after with
  | next t' =>
    obtain ⟨hg, hp⟩ := hn t' rfl
    refine hw.with_task (hw.exclusive.idle hnn hg) hp (fun wid o' hg' => ?_) hs
    rw [hg] at hg'
    cases hg'
  | done r | quit r =>
    exact hw.without_task (hw.exclusive.finish hnn) hs

theorem enroll (ht : w.tasks.lookup task = none) (hf : w.node.mutations.lookup wid = none) :
    World.Running h
      { w with node := { w.node with mutations := w.node.mutations.insert wid .enrollment }
               tasks := w.tasks.insert task (.enrollLock wid) } := by
  refine hw.with_task (hw.exclusive.acquire (fun u hu => ?_) hf rfl) trivial
    (fun _ _ _ => trivial) ⟨hw.sound, fun _ _ _ _ _ _ _ => rfl, hw.repair⟩
  rw [ht] at hu
  cases hu

theorem cancel (ht : w.tasks.lookup task = some t) :
    World.Running h { w with node := w.node.dropGuard t, tasks := w.tasks.erase task } := by
  cases hg : t.guard with
  | none =>
    simp only [Node.dropGuard, hg]
    refine hw.without_task (hw.exclusive.finish fun u hu => ?_)
      (hw.beside (fun _ => rfl) hw.repair task)
    rw [ht] at hu
    cases hu
    exact hg
  | some g =>
    simp only [Node.dropGuard, hg]
    exact hw.without_task (hw.exclusive.release (o := g.2) ht hg)
      ⟨hw.sound, fun _ _ _ _ _ _ _ => rfl, hw.repair⟩

end

end World.Running

end Podmesh
