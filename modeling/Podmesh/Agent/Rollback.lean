import Podmesh.Agent.Manifests
import Podmesh.Agent.Provenance
import Podmesh.Agent.Reference

namespace Podmesh

variable {h : Host} {i : Input} {n : Node} {w w' : World} {a : Action}

def Node.runs (n : Node) (name : String) : Option Bytes := (n.pods.lookup name).map Pod.manifest

/-- A runtime call leaves the pod `name` alone, or it belongs to the update itself and either took
no effect or concerns the pod of the previous revision. -/
def sparing (h : Host) (own : Bool) (previous name : String) (t : Task) (effective : Bool) : Bool :=
  !concerns h t.deploys t.deletes name || (own && (name == previous || !effective))

/-- The step condition while the update `task` is in flight. Other operations get other task
numbers. -/
def World.spares (h : Host) (task : Nat) (previous name : String) (w : World) : Action → Bool
  | .receive j _ _ | .enroll j _ => j != task
  | .poll j i =>
    (w.tasks.lookup j).all fun t => sparing h (j == task) previous name t i.effective
  | .effect j _ => (w.tasks.lookup j).all fun t => sparing h (j == task) previous name t true
  | _ => true

theorem not_concerned_of_sparing (hs : sparing h own prev name t effective = true)
    (hn : own = false ∨ name ≠ prev ∧ effective = true) :
    concerns h t.deploys t.deletes name = false := by
  obtain rfl | ⟨hne, rfl⟩ := hn
  · simpa [sparing] using hs
  · have hnm : (name == prev) = false := beq_false_of_ne hne
    simpa [sparing, hnm] using hs

theorem World.step_effect (hs : w.step h (.effect task i) = some w') :
    ∃ t pods, w.tasks.lookup task = some t ∧ w' = { w with node := { w.node with pods } } ∧
      PodChange h t.deploys t.deletes true w.node.pods pods := by
  obtain ⟨node, hn, rfl⟩ := Option.map_eq_some_iff.1 hs
  obtain ⟨t, hl, he⟩ := Option.bind_eq_some_iff.1 hn
  obtain ⟨⟨pods, rfl⟩, hc⟩ := Task.effect_change he
  exact ⟨t, pods, hl, rfl, hc⟩

inductive Passes (h : Host) (w w' : World) (previous name : String) (t : Task) : Task → Prop
  /-- It waits on; only its own call may have changed the pod of the previous revision. -/
  | waits : (name ≠ previous ∨ concerns h t.deploys t.deletes name = false →
      w'.node.pods.lookup name = w.node.pods.lookup name) → Passes h w w' previous name t t
  | runs : (poll h input w.node t).2 = .next t' → w'.node.pods = (poll h input w.node t).1.pods →
      sparing h true previous name t input.effective = true → Passes h w w' previous name t t'

theorem World.step_passes (hi : w.Inv h) (hs : w.step h a = some w')
    (hok : w.spares h task prev name a = true) (hl : w'.tasks.lookup task = some t') :
    ∃ t, w.tasks.lookup task = some t ∧ Passes h w w' prev name t t' := by
  have hrs {pend cur active quarantined} (hr : w.tasks.lookup task = some t')
      (hp : w.phase = .restoring pend cur active quarantined) :
      ∃ t, w.tasks.lookup task = some t ∧ Passes h w w' prev name t t' := by
    have hrn := hi.running hr
    rw [hp] at hrn
    cases hrn
  have hsm (hr : w.tasks.lookup task = some t') (hp : w'.node.pods = w.node.pods) :
      ∃ t, w.tasks.lookup task = some t ∧ Passes h w w' prev name t t' :=
    ⟨t', hr, .waits fun _ => by rw [hp]⟩
  cases step_cases hs with
  | @polled j _ _ _ i =>
    obtain ⟨t, hj, hw'⟩ := World.step_poll hs
    rw [hw'] at hl ⊢
    simp only [World.spares, hj, Option.all_some] at hok
    obtain ⟨rfl, hnx⟩ | ⟨hne, hr⟩ := World.advance_tasks hl
    · rw [beq_self_eq_true] at hok
      exact ⟨t, hj, .runs hnx (World.advance_pods _ _ _ _) hok⟩
    · have ho : (j == task) = false := beq_false_of_ne (Ne.symm hne)
      rw [ho] at hok
      refine ⟨t', hr, .waits fun _ => ?_⟩
      rw [World.advance_pods]
      exact (poll_change h i w.node t).untouched (not_concerned_of_sparing hok (.inl rfl))
  | @called j _ _ i =>
    obtain ⟨t, pods, hj, hw', hc⟩ := World.step_effect hs
    rw [hw'] at hl ⊢
    simp only [World.spares, hj, Option.all_some] at hok
    refine ⟨t', hl, .waits fun hn => ?_⟩
    apply hc.untouched
    by_cases hjt : j = task
    · subst hjt
      have hl' : w.tasks.lookup j = some t' := hl
      rw [hj] at hl'
      cases hl'
      obtain hne | hf := hn
      · exact not_concerned_of_sparing hok (.inr ⟨hne, rfl⟩)
      · exact hf
    · have ho : (j == task) = false := beq_false_of_ne hjt
      rw [ho] at hok
      exact not_concerned_of_sparing hok (.inl rfl)
  | restarted | crashed | refused => cases hl
  | unstarted | corrupted | attached | offered => exact hsm hl rfl
  | continued hp | quarantined hp | begun hp | started hp | restoreCalled hp =>
    exact hrs hl hp
  | received =>
    obtain ⟨rfl, _⟩ | ⟨_, hr⟩ := World.advance_tasks hl
    · rw [World.spares, bne_self_eq_false] at hok
      cases hok
    · exact hsm hr World.received_pods
  | enrolled =>
    rcases Assoc.lookup_insert_cases hl with ⟨rfl, _⟩ | ⟨_, hr⟩
    · rw [World.spares, bne_self_eq_false] at hok
      cases hok
    · exact hsm hr rfl
  | cancelled => exact hsm (Assoc.lookup_of_erase hl).2 (dropGuard_pods _ _)

/-- What an update that fails has left of the pod `name`, which ran `before`; `manifest` is the one
of the previous revision. -/
def Undoes (request : UpdateRequest) (active : StoredWorkload) (manifest : Bytes) (name : String)
    (before : Option Bytes) (n : Node) : Task → Prop
  | .updateRuntime _ r _ old _ | .rollbackRuntime r old _ _ =>
    r = request ∧ old = active ∧ (name ≠ active.runtimeId → n.runs name = before)
  | .rollbackInsert r old _ =>
    r = request ∧ old = active ∧
      n.runs name = if name = active.runtimeId then some manifest else before
  | .updateCommit _ _ _ _ => True
  | _ => False

section Undoes
variable {request : UpdateRequest} {active : StoredWorkload} {manifest : Bytes} {name : String}
  {before : Option Bytes}

theorem runs_congr {n' : Node} (hp : n'.pods.lookup name = n.pods.lookup name) :
    n'.runs name = n.runs name := by
  rw [Node.runs, Node.runs, hp]

theorem Undoes.waits (hu : Undoes request active manifest name before n t)
    (hp : name ≠ active.runtimeId ∨ concerns h t.deploys t.deletes name = false → n'.pods.lookup
      name = n.pods.lookup name) :
    Undoes request active manifest name before n' t := by
  cases t with
  | updateRuntime | rollbackRuntime =>
    obtain ⟨hr, ho, hb⟩ := hu
    exact ⟨hr, ho, fun hne => (runs_congr (hp (.inl hne))).trans (hb hne)⟩
  | rollbackInsert r old error =>
    obtain ⟨hr, ho, hb⟩ := hu
    exact ⟨hr, ho, (runs_congr (hp (.inr rfl))).trans hb⟩
  | updateCommit now r old upd => trivial
  | _ => exact hu.elim

theorem poll_spares (hs : sparing h true active.runtimeId name t i.effective = true)
    (hd : t.deletes = none) (hne : name ≠ active.runtimeId) :
    (poll h i n t).1.runs name = n.runs name := by
  apply runs_congr
  have hn : (name == active.runtimeId) = false := beq_false_of_ne hne
  apply (poll_change h i n t).away
  · intro d hdp he ht
    have hc : concerns h t.deploys t.deletes name = true := by
      rw [concerns, hdp, Option.any_some, ht, beq_self_eq_true, Bool.true_or]
    simp only [sparing, hc, hn, he, Bool.not_true, Bool.or_self, Bool.and_false] at hs
    cases hs
  · rw [hd]
    intro hdl
    cases hdl

theorem rollbackDeployment_plan (hp : Planned h active manifest target)
    (hd : rollbackDeployment h active = .ok dep) :
    dep.manifest = manifest ∧ h.runtime.targetId dep = .ok target := by
  simp only [rollbackDeployment, bind_ok, pure, Except.pure, Except.ok.injEq] at hd
  obtain ⟨⟨exe, found, ms⟩, hg, rfl⟩ := hd
  obtain ⟨exe', ms', hg', _⟩ := hp.granted
  rw [hg] at hg'
  cases hg'
  exact ⟨rfl, hp.names⟩

theorem rollback_runs (hp : Planned h active manifest active.runtimeId)
    (hd : rollbackDeployment h active = .ok dep) (hok : (runtimeDeploy h i dep n).2 = .ok rid) :
    (runtimeDeploy h i dep n).1.runs name =
      if name = active.runtimeId then some manifest else n.runs name := by
  obtain ⟨hm, htr⟩ := rollbackDeployment_plan hp hd
  obtain ⟨tgt, pod, ht, hpo, hpd⟩ := runtimeDeploy_runs hok
  rw [htr] at ht
  cases ht
  rw [Node.runs, hpd]
  split
  · next hn =>
    rw [hn, AList.lookup_insert, Option.map_some, hpo, hm]
  · next hne => rw [AList.lookup_insert_ne hne, Node.runs]

theorem Undoes.passes (hu : Undoes request active manifest name before w.node t)
    (hpr : t.Prepared h) (hpl : Planned h active manifest active.runtimeId)
    (hp : Passes h w w' active.runtimeId name t t') :
    Undoes request active manifest name before w'.node t' := by
  cases hp with
  | waits hsm => exact hu.waits hsm
  | @runs i _ hn hpd hs =>
    have hr : w'.node.runs name = (poll h i w.node t).1.runs name := runs_congr (by rw [hpd])
    obtain ⟨e, hd, hc⟩ := poll_explains h i w.node t
    rw [hn] at hc
    cases t with
    | updateRuntime now r exe old dep =>
      obtain ⟨rfl, rfl, hb⟩ := hu
      have hk (hne : name ≠ old.runtimeId) : w'.node.runs name = before :=
        hr.trans ((poll_spares hs rfl hne).trans (hb hne))
      cases hc with
      | guardWait hg => cases hg
      | updateFailed => exact ⟨rfl, rfl, hk⟩
      | updateSaved => trivial
    | rollbackRuntime r old dep error =>
      obtain ⟨rfl, rfl, hb⟩ := hu
      cases hc with
      | guardWait hg => cases hg
      | rollbackSaved _ hok =>
        refine ⟨rfl, rfl, ?_⟩
        have hcl : w'.node.runs name = (runtimeDeploy h i dep w.node).1.runs name := by
          rw [hr]
          exact runs_congr (by rw [(poll_outcome h i w.node _).deploys _ rfl])
        rw [hcl, rollback_runs hpl hpr hok]
        split
        · rfl
        · next hne => exact hb hne
    | rollbackInsert r old error =>
      cases hc with
      | guardWait hg => cases hg
    | updateCommit now r old upd =>
      cases hc with
      | guardWait hg => cases hg
    | _ => exact hu.elim

theorem Undoes.reach (hpl : Planned h active manifest active.runtimeId) (hi : w.Inv h)
    (hu : ∀ t, w.tasks.lookup task = some t → Undoes request active manifest name before w.node t)
    (hr : Reach (World.step h) (fun w a => w.spares h task active.runtimeId name a = true) w w') :
    w'.Inv h ∧
      ∀ t, w'.tasks.lookup task = some t → Undoes request active manifest name before w'.node t := by
  refine Reach.invariant (fun w' => w'.Inv h ∧ ∀ t, w'.tasks.lookup task = some t →
    Undoes request active manifest name before w'.node t) ⟨hi, hu⟩ ?_ hr
  rintro s a s' _ ⟨hi, hu⟩ hok hs
  refine ⟨hi.step hs, fun t' hl => ?_⟩
  obtain ⟨t, ht, hp⟩ := World.step_passes hi hs hok hl
  have hrn := hi.polling ht
  exact (hu t ht).passes (hrn.prepared task t ht) hpl hp

end Undoes

/-- The run of an update that fails and is rolled back: `w` is about to start it, `started` waits
for the runtime, `rolled` has persisted the previous record again, and `ended` has answered. In
between any other operation may run. -/
structure FailedUpdate (h : Host) (task : Nat) (name : String) (request : UpdateRequest)
    (active : StoredWorkload) (w started rolled ended : World) : Prop where
  locked : ∃ now execution manifest,
    w.tasks.lookup task = some (.updateLock now request execution manifest)
  begins : ∃ i, w.step h (.poll task i) = some started
  updating : ∃ now r execution deployment,
    started.tasks.lookup task = some (.updateRuntime now r execution active deployment)
  meanwhile : Reach (World.step h)
    (fun w a => w.spares h task active.runtimeId name a = true) started rolled
  rolledBack : ∃ r old error, rolled.tasks.lookup task = some (.rollbackInsert r old error)
  ends : ∃ i, rolled.step h (.poll task i) = some ended

namespace FailedUpdate
variable {request : UpdateRequest} {active : StoredWorkload} {name : String}
  {started rolled ended : World}

theorem starts (hf : FailedUpdate h task name request active w started rolled ended) :
    w.node.state.active.lookup request.workloadId = some active ∧
      started.node.runs name = w.node.runs name ∧
      ∃ now execution deployment,
        started.tasks.lookup task = some (.updateRuntime now request execution active deployment) := by
  obtain ⟨now, execution, manifest, hl⟩ := hf.locked
  obtain ⟨i, hs⟩ := hf.begins
  obtain ⟨now', r, execution', deployment, hl'⟩ := hf.updating
  obtain ⟨t, ht, rfl⟩ := World.step_poll hs
  rw [hl] at ht
  cases ht
  have hp : (w.advance task (some (.updateLock now request execution manifest))
      (poll h i w.node (.updateLock now request execution manifest))).node.runs name =
        w.node.runs name := by
    apply runs_congr
    rw [World.advance_pods]
    exact (poll_change h i w.node _).untouched rfl
  obtain ⟨_, hn⟩ | ⟨hne, _⟩ := World.advance_tasks hl'
  · obtain ⟨e, _, hc⟩ := poll_explains h i w.node (.updateLock now request execution manifest)
    rw [hn] at hc
    cases hc with
    | updateStarted ho => exact ⟨(owned_some ho).1, hp, _, _, _, hl'⟩
  · exact absurd rfl hne

theorem finishes (hf : FailedUpdate h task name request active w started rolled ended)
    (hi : rolled.Inv h)
    (hl : rolled.tasks.lookup task = some (.rollbackInsert request active error)) :
    ended.node.slot request.workloadId = .holding active (some active) ∧
      ended.node.runs name = rolled.node.runs name := by
  obtain ⟨i, hs⟩ := hf.ends
  obtain ⟨t, ht, rfl⟩ := World.step_poll hs
  rw [hl] at ht
  cases ht
  have hr := hi.polling hl
  obtain ⟨ho, hsl⟩ := hr.holds task _ _ _ hl rfl
  refine ⟨?_, ?_⟩
  · rw [World.advance_slot]
    have hd : rolled.node.store.workloads.lookup request.workloadId = some (some active) :=
      congrArg Slot.disk hsl
    have hq := congrArg Slot.quarantined hsl
    simp only [poll, rollbackInsert, failWith, Node.insertActive, Node.slot, ho.key,
      AList.lookup_insert, hd, Slot.holding, Option.map_some, Slot.mk.injEq, true_and]
    exact hq
  · apply runs_congr
    rw [World.advance_pods]
    exact (poll_change h i rolled.node _).untouched rfl

end FailedUpdate

/-- An update that fails and is rolled back, while any other operations run, leaves the record in
memory as it was, and the persisted record exactly if it was in line with memory before. The pod of
the previous revision runs its manifest again, and every pod that neither another operation nor the
new revision touched is as it was. -/
theorem failed_update_restores (hr : Reach (World.step h) (fun _ a => a.plain = true) .fresh w)
    (hf : FailedUpdate h task name request active w started rolled ended) :
    w.node.state.active.lookup request.workloadId = some active ∧
      ended.node.state.active.lookup request.workloadId = some active ∧
      (ended.node.store.workloads.lookup request.workloadId =
          w.node.store.workloads.lookup request.workloadId ↔
        w.node.store.workloads.lookup request.workloadId = some (some active)) ∧
      ∃ execution previous measured,
        h.grantManifest active.grant = .ok (execution, previous, measured) ∧
        ended.node.runs name =
          if name = active.runtimeId then some previous else w.node.runs name := by
  have hi := reach_inv hr
  obtain ⟨ha, hpd, now, execution, deployment, hl⟩ := hf.starts
  have hrc : w.Recorded h True := reach_recorded hr fun _ _ hp _ => hp
  obtain ⟨previous, target, hpl, hn⟩ := (hrc.memory _ _ ha).plan
  cases hn trivial
  obtain ⟨i, hs⟩ := hf.begins
  have hst : ∀ t, started.tasks.lookup task = some t →
      Undoes request active previous name (w.node.runs name) started.node t := by
    intro t ht
    rw [hl] at ht
    cases ht
    exact ⟨rfl, rfl, fun _ => hpd⟩
  obtain ⟨hi', hu⟩ := Undoes.reach hpl (hi.step hs) hst hf.meanwhile
  obtain ⟨r, old, error, hrl⟩ := hf.rolledBack
  obtain ⟨rfl, rfl, hrn⟩ := hu _ hrl
  obtain ⟨hsl, hsm⟩ := hf.finishes hi' hrl
  have hd : ended.node.store.workloads.lookup r.workloadId = some (some old) :=
    congrArg Slot.disk hsl
  obtain ⟨execution', measured, hg, _⟩ := hpl.granted
  refine ⟨ha, congrArg Slot.memory hsl, ?_, execution', previous, measured, hg, hsm.trans hrn⟩
  rw [hd]
  exact eq_comm

namespace Reference

def halfDone : Input := { input "" with reply := .failed "refused" }

def updateWaiting (manifest : String) : List Action :=
  deployedRun ++
    [.receive 0 (.update (update "a" "Pod/a\n" manifest "n3" 1000 1024 1024)) (input ""),
      .poll 0 (input "")]

def halfUndone : List Action := [.poll 0 halfDone, .poll 0 (input "")]

def isUpdateLock (w : World) : Bool :=
  match w.tasks.lookup 0 with
  | some (.updateLock _ _ _ _) => true
  | _ => false

def isRollbackInsert (w : World) : Bool :=
  match w.tasks.lookup 0 with
  | some (.rollbackInsert _ _ _) => true
  | _ => false

def rollsBack (name : String) (w : World) : Bool :=
  isUpdateLock w && (w.step (host .default) (.poll 0 (input ""))).any fun started =>
    match started.tasks.lookup 0 with
    | some (.updateRuntime _ _ _ active _) =>
      (runWhile (World.step (host .default))
          (fun w a => w.spares (host .default) 0 active.runtimeId name a) started halfUndone).any
        fun rolled => isRollbackInsert rolled &&
          (rolled.step (host .default) (.poll 0 (input ""))).isSome
    | _ => false

theorem failedUpdate_of_rollsBack (hw : rollsBack name w = true) :
    ∃ request active started rolled ended,
      FailedUpdate (host .default) 0 name request active w started rolled ended := by
  obtain ⟨hlc, hw⟩ := Bool.and_eq_true_iff.1 hw
  obtain ⟨started, hs, hw⟩ := (Option.any_eq_true _ _).1 hw
  split at hw
  · next now r execution active deployment hl =>
    obtain ⟨rolled, hrn, hw⟩ := (Option.any_eq_true _ _).1 hw
    obtain ⟨hi, hw⟩ := Bool.and_eq_true_iff.1 hw
    obtain ⟨ended, he⟩ := Option.isSome_iff_exists.1 hw
    unfold isUpdateLock at hlc
    unfold isRollbackInsert at hi
    split at hlc
    · next now' request execution' manifest hw =>
      split at hi
      · next r' old error hr =>
        exact ⟨request, active, started, rolled, ended, ⟨now', execution', manifest, hw⟩, ⟨_, hs⟩,
          ⟨now, r, execution, deployment, hl⟩, reach_of_runWhile hrn, ⟨r', old, error, hr⟩, ⟨_, he⟩⟩
      · cases hi
    · cases hlc
  · cases hw

end Reference

open Reference

/-- The update of a Pod to a Deployment fails after its pod was created. The rollback puts the
previous pod back, but the pod of the new revision stays. -/
theorem rollback_leaves_new_pod :
    ∃ w ended, Reach (World.step (host .default)) (fun _ a => a.plain = true) .fresh w ∧
      runWhile (World.step (host .default)) (fun _ _ => true) w
        ([.poll 0 (input "")] ++ halfUndone ++ [.poll 0 (input "")]) =
          some ended ∧
      w.node.runs "a-pod" = none ∧ ended.node.runs "a-pod" ≠ none := by
  obtain ⟨w, hr, hn, ended, he, hp⟩ := exists_reach_of_run (World.step (host .default))
    (fun _ a => a.plain = true) .fresh (updateWaiting "Deployment/a\n")
    (fun w => w.node.runs "a-pod" = none ∧
      ∃ ended, runWhile (World.step (host .default)) (fun _ _ => true) w
        ([Action.poll 0 (input "")] ++ halfUndone ++ [Action.poll 0 (input "")]) = some ended ∧
          ended.node.runs "a-pod" ≠ none) (by decide +kernel)
  exact ⟨w, ended, hr, he, hn, hp⟩

/-- A failed update that keeps the name of the pod is undone. -/
theorem failed_update_restores_pod :
    ∃ w request active started rolled ended previous,
      FailedUpdate (host .default) 0 "a" request active w started rolled ended ∧
      ended.node.state.active.lookup request.workloadId = some active ∧
      ended.node.runs "a" = if "a" = active.runtimeId then some previous else w.node.runs "a" := by
  obtain ⟨w, hr, hw⟩ := exists_reach_of_run (World.step (host .default))
    (fun _ a => a.plain = true) .fresh (updateWaiting "Pod/a\n# 2") (rollsBack "a" · = true)
    (by decide +kernel)
  obtain ⟨request, active, started, rolled, ended, hf⟩ := failedUpdate_of_rollsBack hw
  obtain ⟨_, hm, _, _, previous, _, _, hrn⟩ := failed_update_restores hr hf
  exact ⟨w, request, active, started, rolled, ended, previous, hf, hm, hrn⟩

end Podmesh
