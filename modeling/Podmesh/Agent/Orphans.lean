import Podmesh.Agent.Pods

namespace Podmesh

variable {h : Host} {i : Input} {n : Node}

/-- The step condition: no runtime call of an update, or of its completion after a crash, that takes
effect creates a pod under another name than the record has. Nothing damages a record, and the
runtime answers a deployment with the name it was asked for. -/
def podNamesKept (h : Host) (w : World) : Action → Bool
  | .corrupt _ => false
  | .poll task i => i.plain &&
    match w.tasks.lookup task with
    | some (.updateRuntime _ _ _ active deployment) =>
      !i.effective || h.keepsName deployment active.runtimeId
    | _ => true
  | .effect task _ =>
    match w.tasks.lookup task with
    | some (.updateRuntime _ _ _ active deployment) => h.keepsName deployment active.runtimeId
    | _ => true
  | .restore i => i.plain &&
    match w.phase with
    | .restoring _ (some (_, .update stored _ _ deployment)) _ _ =>
      !i.effective || h.keepsName deployment stored.runtimeId
    | _ => true
  | .restoreEffect _ =>
    match w.phase with
    | .restoring _ (some (_, .update stored _ _ deployment)) _ _ =>
      h.keepsName deployment stored.runtimeId
    | _ => true
  | _ => true

theorem Host.keeps_of_keepsName (hk : h.keepsName d name = true) : h.Keeps d name := by
  intro tgt ht
  rw [Host.keepsName, ht] at hk
  exact beq_iff_eq.1 hk

theorem PollCase.pods_unguarded (hc : PollCase h i n t e after) (hg : t.guard = none) :
    e.pods = n.pods := by
  cases hc with
  | admitted | guardWait | ended | enrolled | deployGuarded | updateGuarded | deleteRequested
  | operationStarted | deleteGuarded => rfl
  | _ => cases hg

theorem planRedeploy_keeps (hr : r.Named h) (hd : planRedeploy h r = .ok dep) :
    h.Keeps dep r.runtimeId := by
  simp only [planRedeploy, bind_ok, ensure_ok, pure, Except.pure, Except.ok.injEq] at hd
  obtain ⟨⟨exe, manifest, ms⟩, hg, _, _, rfl⟩ := hd
  exact Host.keeps_of_target (hr.target exe manifest ms hg)

theorem rolledForward_named (hb : st.Bound k) (hn : st.Named h)
    (hph : st.phase = .updating prev rid req) (hp : planInterruptedUpdate h st req = .ok (exe, dep))
    (ht : h.runtime.targetId dep = .ok runtimeId) (hs : runtimeId = st.runtimeId) :
    (rolledForward st req exe runtimeId).Named h := by
  simp only [planInterruptedUpdate, bind_ok, ensure_ok, pure, Except.pure, Except.ok.injEq,
    Prod.mk.injEq] at hp
  obtain ⟨_, hd, ⟨man, ms⟩, hm, _, _, rfl, rfl⟩ := hp
  obtain ⟨hk, hns, _⟩ := hb.update prev rid req hph
  rw [hb.key, ← hk, ← hns] at hm ht
  have hg := grantManifest_of_decode hd hm
  refine ⟨?_, fun exe' man' ms' hg' => ?_⟩
  · rw [rolledForward, hs]
    exact hn.nonempty
  · have hbt : h.grantManifest req.grant = .ok (exe', man', ms') := hg'
    rw [hg] at hbt
    cases hbt
    exact ht

structure Reconciles (h : Host) (pods pods' : PodMap) (d d' : Option (Option StoredWorkload)) :
    Prop where
  named : ∀ r, d' = some (some r) → r.Named h
  step : PodStep pods pods' d d'

theorem reconciles_same (hn : r.Named h)
    (hs : ∀ name pod, pods'.lookup name = some pod → (pods.lookup name).isSome) :
    Reconciles h pods pods' (some (some r)) (some (some r)) := by
  refine ⟨fun r' hr' => ?_, .kept hs fun r' hr' => ⟨r', hr', rfl⟩⟩
  cases hr'
  exact hn

theorem reconciles_deleted (hn : tgt = r.runtimeId) :
    Reconciles h pods (pods.erase tgt) (some (some r)) none := by
  refine ⟨fun r' hr' => (by cases hr'), .deleted rfl fun r' hr' => ?_⟩
  cases hr'
  exact hn.symm

theorem reconciles_deployed (hn : r'.Named h) (hid : r'.runtimeId = r.runtimeId)
    (hd : Deployed h i dep pods pods') (ht : i.effective = true → h.Keeps dep r.runtimeId) :
    Reconciles h pods pods' (some (some r)) (some (some r')) := by
  refine ⟨fun r₀ hr₀ => ?_, podStep_deployed rfl rfl hid hd ht⟩
  cases hr₀
  exact hn

theorem RestoreCase.reconciles (hc : RestoreCase h i n t disk pods rst) (ht : t.Holds h)
    (hb : t.stored.Bound k) (hn : t.stored.Named h) (hi : ∀ oth, i.reply ≠ .other oth)
    (hu : ∀ st req exe dep, t = .update st req exe dep → i.effective = true →
      h.Keeps dep st.runtimeId) :
    Reconciles h n.pods pods (some (some t.stored)) (disk.at k (some (some t.stored))) := by
  cases hc with
  | cleanupFailed hd | deleteFailed hd | undone hd => exact reconciles_same hn hd.sub
  | cleanupDone =>
    rw [Edit.at_drop_of_eq (by exact hb.key)]
    exact reconciles_deleted (cleanupTarget_eq hn ht.2)
  | deleteDone =>
    rw [Edit.at_drop_of_eq (by exact hb.key)]
    exact reconciles_deleted rfl
  | updateFailed hd => exact reconciles_deployed hn rfl hd (hu _ _ _ _ rfl)
  | updateDone hd hdp =>
    obtain ⟨⟨prev, rid, hp⟩, hpl⟩ := ht
    obtain ⟨htr, he⟩ := runtimeDeploy_ok hdp hi
    have hs := hu _ _ _ _ rfl he _ htr
    rw [Edit.at_put_of_eq (hb.update prev rid _ hp).1]
    exact reconciles_deployed (rolledForward_named hb hn hp hpl htr hs) hs hd
      (hu _ _ _ _ rfl)
  | statusKept | statusGone => exact reconciles_same hn (pods_sub_refl _)
  | redeployFailed hd | redeployUnsaved hd =>
    exact reconciles_deployed hn rfl hd fun _ => planRedeploy_keeps hn ht
  | redeployDone hd hdp =>
    obtain ⟨htr, _⟩ := runtimeDeploy_ok hdp hi
    have hs := planRedeploy_keeps hn ht _ htr
    rw [Edit.at_put_of_eq (by exact hb.key)]
    subst hs
    exact reconciles_deployed hn rfl hd fun _ => planRedeploy_keeps hn ht

theorem BeginCase.reconciles (hc : BeginCase h st disk rst) (hn : st.Named h) :
    Reconciles h pods pods (some (some st)) (disk.at k (some (some st))) := by
  cases hc with
  | retained | waits => exact reconciles_same hn (pods_sub_refl _)
  | dropped _ _ he => exact absurd he hn.nonempty

/-- What a transition keeps: every record is named, memory and disk name the same pods, and every
pod has a persisted record. -/
structure World.Housed (h : Host) (w : World) : Prop where
  slots : w.phase = .running → ∀ k, (w.node.slot k).Named h
  disk : ∀ k r, w.node.store.workloads.lookup k = some (some r) → r.Named h
  covered : Covered w.node.pods w.node.store.workloads

variable {w : World} {w' : World}

section
variable (hw : w.Housed h)
include hw

theorem World.Housed.of_node (hp : w'.phase = w.phase) (hs : ∀ k, w'.node.slot k = w.node.slot k)
    (hpd : w'.node.pods = w.node.pods) : w'.Housed h where
  slots hrn k := by
    rw [hs k]
    exact hw.slots (hp.symm.trans hrn) k
  disk k r hr := by
    have hd : (w'.node.slot k).disk = some (some r) := hr
    rw [hs k] at hd
    exact hw.disk k r hd
  covered := by
    intro name pod hpo
    rw [hpd] at hpo
    obtain ⟨k, r, hk, hr⟩ := hw.covered name pod hpo
    have hd : (w.node.slot k).disk = some (some r) := hk
    rw [← hs k] at hd
    exact ⟨k, r, hd, hr⟩

theorem World.Housed.of_section (wid : String) (hrn : w.phase = .running)
    (hk : PodsKept h w.node.pods w'.node.pods (w.node.slot wid) (w'.node.slot wid))
    (hsl : ∀ k, k ≠ wid → w'.node.slot k = w.node.slot k) : w'.Housed h := by
  have hs : ∀ k, (w'.node.slot k).Named h := by
    intro k
    by_cases hne : k = wid
    · subst hne
      exact hk.named
    · rw [hsl k hne]
      exact hw.slots hrn k
  refine ⟨fun _ => hs, fun k r hr => (hs k).disk r hr, ?_⟩
  exact PodStep.covered hw.covered hk.step fun k hne => congrArg Slot.disk (hsl k hne)

theorem World.Housed.of_restore (wid : String)
    (hp : w'.phase ≠ .running)
    (hk : Reconciles h w.node.pods w'.node.pods (w.node.store.workloads.lookup wid)
      (w'.node.store.workloads.lookup wid))
    (ho : ∀ k, k ≠ wid →
      w'.node.store.workloads.lookup k = w.node.store.workloads.lookup k) : w'.Housed h where
  slots hrn := absurd hrn hp
  disk k r hr := by
    by_cases hne : k = wid
    · subst hne
      exact hk.named r hr
    · rw [ho k hne] at hr
      exact hw.disk k r hr
  covered := PodStep.covered hw.covered hk.step ho

theorem World.Housed.polled (hr : w.Running h) (hrn : w.phase = .running)
    (hl : w.tasks.lookup task = some t) (hd : w.node.Does p.1 e) (hc : PollCase h i w.node t e p.2)
    (hok : podNamesKept h w (.poll task i) = true) : (w.advance task (some t) p).Housed h := by
  cases hg : t.guard with
  | none =>
    have hsl : ∀ k, p.1.slot k = w.node.slot k := by
      cases hc.unguarded hg with
      | still hm hds => exact slot_unchanged hd hm hds
      | acquired hm hds => exact slot_unchanged hd hm hds
    refine hw.of_node World.advance_phase (fun k => ?_) ?_
    · rw [World.advance_slot, hsl k]
    · rw [World.advance_pods, hd.pods, hc.pods_unguarded hg]
  | some g =>
    obtain ⟨wid, o⟩ := g
    simp only [podNamesKept, hl, Bool.and_eq_true] at hok
    obtain ⟨hpl, hn⟩ := hok
    have hk : KeepsName h i t := by
      rintro now req exe act dep rfl he
      simp only [he, Bool.not_true, Bool.false_or] at hn
      exact Host.keeps_of_keepsName hn
    have hs := hr.sound wid
    have hh := hr.holds task t wid o hl hg
    have hkp := hc.kept hg hs hh hr.quarantine
    have hp := hc.podsKept hg hs hh (hr.prepared task t hl) hr.quarantine
      (hw.slots hrn wid) (Input.plain_reply hpl) hk
    rw [← hd.slot, ← hd.pods] at hp
    refine hw.of_section wid hrn ?_ fun k hne => ?_
    · rw [World.advance_slot, World.advance_pods]
      exact hp
    · rw [World.advance_slot]
      exact hkp.slot_other hd hne

theorem World.Housed.called (hr : w.Running h) (hrn : w.phase = .running)
    (hl : w.tasks.lookup task = some t) (hc : Called h t.deploys t.deletes w.node.pods pods)
    (hok : podNamesKept h w (.effect task i) = true) :
    World.Housed h { w with node := { w.node with pods } } := by
  cases hc with
  | none => exact hw.of_node rfl (fun _ => rfl) rfl
  | deleted _ hd =>
    exact hw.of_section "" hrn (podsKept_same (hw.slots hrn "") hd.sub)
      fun _ _ => rfl
  | deployed ht hd =>
    have hn (wid : String) := hw.slots hrn wid
    cases t with
    | deployRuntime now st dep =>
      cases ht
      have hs := (hr.holds task _ _ _ hl rfl).1
      exact hw.of_section _ hrn (podsKept_called hs (hn _) hd fun _ =>
        Host.keeps_of_target (hr.prepared task _ hl).1) fun _ _ => rfl
    | updateRuntime now req exe act dep =>
      cases ht
      have hs := (hr.holds task _ _ _ hl rfl).2
      simp only [podNamesKept, hl] at hok
      have hnm := Host.keeps_of_keepsName hok
      exact hw.of_section _ hrn (podsKept_called hs (hn _) hd fun _ => hnm) fun _ _ => rfl
    | rollbackRuntime req act dep error =>
      cases ht
      have hs := (hr.holds task _ _ _ hl rfl).2
      have ha := SamePod.named ⟨rfl, rfl⟩ ((hn _).memory _ (by rw [hs]; rfl))
      exact hw.of_section _ hrn (podsKept_called hs (hn _) hd fun _ =>
        rollbackDeployment_keeps ha (hr.prepared task _ hl)) fun _ _ => rfl
    | _ => cases ht

theorem World.Housed.settled {node : Node} {disk : Edit (Option StoredWorkload)}
    (hn : w.node.Restores node disk pods) (hs : Settles k st disk rst)
    (hd : w.node.store.workloads.lookup k = some (some st))
    (hk : Reconciles h w.node.pods pods (some (some st)) (disk.at k (some (some st)))) :
    World.Housed h { w with node, phase := rst.phase pend act quar k } := by
  refine hw.of_restore k (Restored.phase_ne_running _) ?_ fun k' hne => ?_
  · rw [hn.pods, hn.workloads, Edit.lookup_apply, hd]
    exact hk
  · rw [hn.workloads, Edit.lookup_apply]
    exact (Edit.within_of_settles hs).elsewhere hne _

theorem World.Housed.restoreCalled (hp : w.phase = .restoring pend (some (k, t)) act quar)
    (hr : w.Restoring h pend (some (k, t)) act quar)
    (hc : Called h t.deploys t.deletes w.node.pods pods)
    (hok : podNamesKept h w (.restoreEffect i) = true) :
    World.Housed h { w with node := { w.node with pods } } := by
  obtain ⟨_, _, _, hds⟩ := hr.on_disk
  have hn := hw.disk k _ hds
  have hst : w.phase ≠ .running := by
    rw [hp]
    intro hrn
    cases hrn
  have hs (hk : Reconciles h w.node.pods pods (some (some t.stored)) (some (some t.stored))) :
      World.Housed h { w with node := { w.node with pods } } := by
    refine hw.of_restore k hst ?_ fun _ _ => rfl
    rw [hds]
    exact hk
  have hpl := hr.planned k t rfl
  cases hc with
  | none => exact hs (reconciles_same hn (pods_sub_refl _))
  | deleted _ hd => exact hs (reconciles_same hn hd.sub)
  | deployed ht hd =>
    cases t with
    | update st req exe dep =>
      cases ht
      simp only [podNamesKept, hp] at hok
      exact hs (reconciles_deployed hn rfl hd fun _ => Host.keeps_of_keepsName hok)
    | redeploy st dep =>
      cases ht
      exact hs (reconciles_deployed hn rfl hd fun _ => planRedeploy_keeps hn hpl)
    | _ => cases ht

theorem World.Housed.started (hr : w.Restoring h [] none act quar) :
    World.Housed h { w with node := { w.node with state := ⟨act, ∅, quar⟩ }
                            phase := .running } := by
  refine ⟨fun _ k => ?_, hw.disk, hw.covered⟩
  have hv := hr.views k
  have hd := hw.disk k
  show Slot.Named h ⟨act.lookup k, w.node.store.workloads.lookup k, decide (k ∈ quar)⟩
  generalize act.lookup k = a at hv
  generalize decide (k ∈ quar) = q at hv
  generalize w.node.store.workloads.lookup k = d at hv hd
  cases hv with
  | absent | unreadable => exact ⟨fun m hm => (by cases hm), hd, fun m r hm => by cases hm⟩
  | rebuilt r => exact named_holding (hd r rfl) (hd r rfl) rfl

theorem World.Housed.step (hi : w.Inv h)
    (hok : podNamesKept h w a = true) (hc : StepCase h w a w') : w'.Housed h := by
  cases hc with
  | unstarted => exact hw
  | restarted | crashed | quarantined | refused =>
    exact ⟨fun hp => (by cases hp), hw.disk, hw.covered⟩
  | corrupted => cases hok
  | @continued _ k t _ _ _ _ _ _ _ hp hn hc =>
    have hr := hi.restoring hp
    obtain ⟨_, _, _, hds⟩ := hr.on_disk
    have hpl := hr.planned k t rfl
    have hb := hr.bound k _ hds
    simp only [podNamesKept, hp, Bool.and_eq_true] at hok
    obtain ⟨hpn, hnm⟩ := hok
    refine hw.settled hn (hc.settles hpl hb) hds (hc.reconciles hpl hb
      (hw.disk k _ hds) (Input.plain_reply hpn) ?_)
    rintro st req exe dep rfl he
    simp only [he, Bool.not_true, Bool.false_or] at hnm
    exact Host.keeps_of_keepsName hnm
  | @begun k _ _ _ _ _ _ _ _ hp hn hc =>
    have hr := hi.restoring hp
    have hds := hr.next_on_disk
    exact hw.settled hn (hc.settles (hr.bound k _ hds)) hds
      (hc.reconciles (hw.disk k _ hds))
  | started hp => exact hw.started (hi.restoring hp)
  | restoreCalled hp hcl =>
    exact hw.restoreCalled hp (hi.restoring hp) hcl hok
  | received =>
    exact hw.of_node World.advance_phase (World.received_slot _ _ _ _)
      World.received_pods
  | enrolled | attached => exact hw.of_node rfl (fun _ => rfl) rfl
  | polled hl hd hc =>
    have hrn := hi.running hl
    exact hw.polled (hi.up hrn) hrn hl hd hc hok
  | called hl hcl =>
    have hrn := hi.running hl
    exact hw.called (hi.up hrn) hrn hl hcl hok
  | cancelled =>
    refine hw.of_node rfl (fun k => ?_) (dropGuard_pods _ _)
    simp [Node.slot, dropGuard_state, dropGuard_store]
  | offered _ hs =>
    rcases hs with rfl | rfl
    · exact hw
    · exact hw.of_node rfl (fun _ => rfl) rfl

end

theorem reach_housed (hr : Reach (World.step h) (fun w a => podNamesKept h w a = true) .fresh w) :
    w.Housed h := by
  refine Reach.invariant (World.Housed h) ⟨(by intro hp; cases hp), ?_, ?_⟩
    (fun w a w' hw hf hok hs => hf.step (reach_inv hw) hok (step_cases hs)) hr
  · intro k r hk
    cases hk
  · intro name pod hpd
    cases hpd

theorem World.Housed.in_memory (hw : w.Housed h) (hr : w.Running h)
    (hrn : w.phase = .running) (hk : w.node.store.workloads.lookup k = some (some r)) :
    ∃ m, w.node.state.active.lookup k = some m ∧ m.runtimeId = r.runtimeId := by
  have hs := hr.sound k
  have hn := hw.slots hrn k
  have hd : (w.node.slot k).disk = some (some r) := hk
  obtain ⟨m, hm⟩ : ∃ m, (w.node.slot k).memory = some m := by
    generalize w.node.slot k = s at hs hd
    cases hs with
    | empty | unreadable => cases hd
    | @holding m => exact ⟨m, rfl⟩
  exact ⟨m, hm, (hn.same m r hm hd).symm⟩

/-- In every run in which no update creates a pod under a new name, every pod of a running agent is
the one of an active workload, also while operations are in flight; and an update that is about to
be answered as applied has replaced the pod of the previous revision. -/
theorem pods_belong_to_workloads
    (hr : Reach (World.step h) (fun w a => podNamesKept h w a = true) .fresh w)
    (hrun : w.phase = .running) :
    (∀ name pod, w.node.pods.lookup name = some pod →
      ∃ k m, w.node.state.active.lookup k = some m ∧ m.runtimeId = name) ∧
    ∀ task now request active updated,
      w.tasks.lookup task = some (.updateCommit now request active updated) →
      updated.runtimeId = active.runtimeId := by
  have hh := reach_housed hr
  have hrn := (reach_inv hr).up hrun
  refine ⟨fun name pod hp => ?_, fun task now request active updated hl => ?_⟩
  · obtain ⟨k, r, hk, hnm⟩ := hh.covered name pod hp
    obtain ⟨m, hm, hs⟩ := hh.in_memory hrn hrun hk
    exact ⟨k, m, hm, hs.trans hnm⟩
  · have hsl := (hrn.holds task _ _ _ hl rfl).2.1
    have hn := hh.slots hrun request.workloadId
    rw [hsl] at hn
    exact hn.same (transitioning request active) updated rfl rfl

open Reference

theorem replaced_pod_belongs :
    ∃ w, Reach (World.step (host .default))
        (fun w a => podNamesKept (host .default) w a = true) .fresh w ∧
      wasApplied w = true ∧ w.node.pods.lookup "a" ≠ none ∧
      ∀ name pod, w.node.pods.lookup name = some pod →
        ∃ k m, w.node.state.active.lookup k = some m ∧ m.runtimeId = name := by
  obtain ⟨w, hr, hi, ha, hp⟩ := exists_reach_of_run (World.step (host .default))
    (podNamesKept (host .default) · · = true) .fresh (updateRun "Pod/a\n# 2")
    (fun w => (w.phase.isRunning && w.tasks.entries.isEmpty) ∧ wasApplied w ∧
      w.node.pods.lookup "a" ≠ none) (by decide +kernel)
  exact ⟨w, hr, ha, hp, (pods_belong_to_workloads hr (World.quiescent_of_empty hi).1).1⟩

/-- An update from a Pod to a Deployment of the same name is applied under a new pod name; the old
pod stays behind, and no record names it. -/
theorem updated_kind_orphans_pod :
    ∃ w, Reach (World.step (host .default)) always .fresh w ∧ w.Quiescent ∧
      wasApplied w = true ∧ w.node.pods.lookup "a" ≠ none ∧
      ∀ k m, w.node.state.active.lookup k = some m → m.runtimeId ≠ "a" := by
  obtain ⟨w, hr, hi, ha, hp, hn⟩ := exists_reach_of_run
    (World.step (host .default)) always .fresh (updateRun "Deployment/a\n")
    (fun w => (w.phase.isRunning && w.tasks.entries.isEmpty) ∧ wasApplied w ∧
      w.node.pods.lookup "a" ≠ none ∧ ∀ e ∈ w.node.state.active.entries, e.2.runtimeId ≠ "a")
    (by decide +kernel)
  exact ⟨w, hr, World.quiescent_of_empty hi, ha, hp,
    fun k m hm => hn ⟨k, m⟩ (AList.mem_lookup_iff.1 hm)⟩

end Podmesh
