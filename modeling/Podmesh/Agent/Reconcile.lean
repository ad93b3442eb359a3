import Podmesh.Agent.Kept

namespace Podmesh

variable {h : Host} {i : Input} {n : Node}

namespace RestoreTask

def stored : RestoreTask → StoredWorkload
  | .cleanup stored _ | .delete stored | .update stored _ _ _ | .status stored
  | .redeploy stored _ | .undo stored _ => stored

def Holds (h : Host) : RestoreTask → Prop
  | .cleanup stored target => stored.needsCleanup = true ∧ h.cleanupTarget stored = .ok target
  | .delete stored => stored.runtimeId ≠ ""
  | .update stored request execution deployment =>
    (∃ previous id, stored.phase = .updating previous id request) ∧
      planInterruptedUpdate h stored request = .ok (execution, deployment)
  | .redeploy stored deployment => planRedeploy h stored = .ok deployment
  | .status _ | .undo _ _ => True

end RestoreTask

inductive BeginCase (h : Host) (stored : StoredWorkload) :
    Edit (Option StoredWorkload) → Restored → Prop
  | retained : BeginCase h stored .keep (.keep stored)
  | waits : t.stored = stored → t.Holds h → BeginCase h stored .keep (.wait t)
  | dropped : stored.needsCleanup = false → stored.deleting = true → stored.runtimeId = "" →
      BeginCase h stored (.drop stored.grant.workloadId) .gone

inductive RestoreCase (h : Host) (i : Input) (n : Node) :
    RestoreTask → Edit (Option StoredWorkload) → PodMap → Restored → Prop
  | cleanupFailed : Deleted target n.pods pods →
      RestoreCase h i n (.cleanup stored target) .keep pods (.keep stored)
  | cleanupDone : RestoreCase h i n (.cleanup stored target) (.drop stored.grant.workloadId)
      (n.pods.erase target) .gone
  | deleteFailed : Deleted stored.runtimeId n.pods pods →
      RestoreCase h i n (.delete stored) .keep pods (.keep stored)
  | deleteDone : RestoreCase h i n (.delete stored) (.drop stored.grant.workloadId)
      (n.pods.erase stored.runtimeId) .gone
  | updateFailed : Deployed h i deployment n.pods pods →
      RestoreCase h i n (.update stored request execution deployment) .keep pods (.keep stored)
  | updateDone : Deployed h i deployment n.pods pods →
      (runtimeDeploy h i deployment n).2 = .ok runtimeId →
      RestoreCase h i n (.update stored request execution deployment)
        (.put request.grant.workloadId (some (rolledForward stored request execution runtimeId)))
        pods (.keep (rolledForward stored request execution runtimeId))
  | statusKept : RestoreCase h i n (.status stored) .keep n.pods (.keep stored)
  | statusGone : planRedeploy h stored = .ok deployment →
      RestoreCase h i n (.status stored) .keep n.pods (.wait (.redeploy stored deployment))
  | redeployFailed : Deployed h i deployment n.pods pods →
      RestoreCase h i n (.redeploy stored deployment) .keep pods (.keep stored)
  | redeployUnsaved : Deployed h i deployment n.pods pods →
      (runtimeDeploy h i deployment n).2 = .ok runtimeId →
      RestoreCase h i n (.redeploy stored deployment) .keep pods (.wait (.undo stored runtimeId))
  | redeployDone : Deployed h i deployment n.pods pods →
      (runtimeDeploy h i deployment n).2 = .ok runtimeId →
      RestoreCase h i n (.redeploy stored deployment)
        (.put stored.grant.workloadId (some { stored with runtimeId })) pods
        (.keep { stored with runtimeId })
  | undone : Deleted runtimeId n.pods pods →
      RestoreCase h i n (.undo stored runtimeId) .keep pods (.keep stored)

structure Node.Restores (n n' : Node) (disk : Edit (Option StoredWorkload)) (pods : PodMap) :
    Prop where
  state : n'.state = n.state
  mutations : n'.mutations = n.mutations
  replay : n'.replay = n.replay
  workloads : n'.store.workloads = disk.apply n.store.workloads
  pods : n'.pods = pods

theorem restores_pods (n : Node) (pods : PodMap) : n.Restores { n with pods } .keep pods :=
  ⟨rfl, rfl, rfl, rfl, rfl⟩

theorem restores_refl (n : Node) : n.Restores n .keep n.pods := ⟨rfl, rfl, rfl, rfl, rfl⟩

structure Cleared (n : Node) (p : Node × Restored) : Prop where
  change : n.store.Change p.1.store
  redeploy : ∀ stored deployment, p.2 = .wait (.redeploy stored deployment) →
    p.1.store.enrollments.lookup stored.grant.workloadId = none

theorem Cleared.keep (hc : n.store.Change n'.store) : Cleared n (n', .keep st) :=
  ⟨hc, fun _ _ ht => by cases ht⟩

theorem Cleared.gone (hc : n.store.Change n'.store) : Cleared n (n', .gone) :=
  ⟨hc, fun _ _ ht => by cases ht⟩

theorem restoreRedeploy_cases (h : Host) (i : Input) (n : Node) (st : StoredWorkload) :
    n.Restores (restoreRedeploy h i n st).1 .keep n.pods ∧
      ((restoreRedeploy h i n st).2 = .keep st ∨ ∃ dep, planRedeploy h st = .ok dep ∧
          (restoreRedeploy h i n st).2 = .wait (.redeploy st dep)) ∧
      Cleared n (restoreRedeploy h i n st) := by
  unfold restoreRedeploy
  split
  · exact ⟨restores_refl n, .inl rfl, .keep .same⟩
  · next dep hp =>
    split
    · next hw =>
      rw [(write_error hw).1]
      exact ⟨restores_refl n, .inl rfl, .keep .same⟩
    · next hw =>
      rw [(write_ok hw).1]
      refine ⟨⟨rfl, rfl, rfl, rfl, rfl⟩, .inr ⟨dep, hp, rfl⟩, .unbound _, ?_⟩
      rintro _ _ ⟨⟩
      exact AList.lookup_erase _ _

theorem restoreBegin_cases (h : Host) (i : Input) (n : Node) (st : StoredWorkload) :
    ∃ disk, n.Restores (restoreBegin h i n st).1 disk n.pods ∧
      BeginCase h st disk (restoreBegin h i n st).2 ∧ Cleared n (restoreBegin h i n st) := by
  unfold restoreBegin
  split
  · next hc =>
    split
    · exact ⟨_, restores_refl n, .retained, .keep .same⟩
    · next htr =>
      exact ⟨_, restores_refl n, .waits rfl ⟨hc, htr⟩, .same, fun _ _ ht => by cases ht⟩
  · next hc =>
    split
    · next hd =>
      split
      · next hid =>
        split
        · next hw =>
          rw [(write_error hw).1]
          exact ⟨_, restores_refl n, .retained, .keep .same⟩
        · next hw =>
          rw [(write_ok hw).1]
          exact ⟨_, ⟨rfl, rfl, rfl, rfl, rfl⟩, .dropped (Bool.eq_false_iff.2 hc) hd hid,
            .gone (.removed _)⟩
      · next hid => exact ⟨_, restores_refl n, .waits rfl hid, .same, fun _ _ ht => by cases ht⟩
    · split
      · next hph =>
        split
        · exact ⟨_, restores_refl n, .retained, .keep .same⟩
        · next hp =>
          exact ⟨_, restores_refl n, .waits rfl ⟨⟨_, _, hph⟩, hp⟩, .same,
            fun _ _ ht => by cases ht⟩
      · split
        · obtain ⟨hr, ho | ⟨dep, hp, ho⟩, hcl⟩ := restoreRedeploy_cases h i n st
          · exact ⟨_, hr, ho ▸ .retained, hcl⟩
          · exact ⟨_, hr, ho ▸ .waits rfl hp, hcl⟩
        · exact ⟨_, restores_refl n, .waits rfl trivial, .same, fun _ _ ht => by cases ht⟩

def RestoreTask.deploys : RestoreTask → Option WorkloadDeployment
  | .update _ _ _ deployment | .redeploy _ deployment => some deployment
  | _ => none

def RestoreTask.deletes : RestoreTask → Option String
  | .cleanup _ target => some target
  | .delete stored => some stored.runtimeId
  | .undo _ runtimeId => some runtimeId
  | _ => none

structure RestoreResult (h : Host) (i : Input) (n : Node) (t : RestoreTask)
    (p : Node × Restored) : Prop where
  explains : ∃ disk pods, n.Restores p.1 disk pods ∧ RestoreCase h i n t disk pods p.2
  deploys : ∀ d, t.deploys = some d → p.1.pods = (runtimeDeploy h i d n).1.pods
  cleared : Cleared n p

theorem RestoreResult.ofCase (ht : t.deploys = none) (hc : RestoreCase h i n t disk pods r)
    (hn : n.Restores n' disk pods) (hs : Cleared n (n', r)) : RestoreResult h i n t (n', r) := by
  refine ⟨⟨_, _, hn, hc⟩, fun d hd => ?_, hs⟩
  rw [ht] at hd
  cases hd

theorem RestoreResult.deployed (ht : t.deploys = some d)
    (hr : runtimeDeploy h i d n = ({ n with pods }, res)) (hc : RestoreCase h i n t disk pods r)
    (hn : n.Restores n' disk pods) (hs : Cleared n (n', r)) : RestoreResult h i n t (n', r) := by
  refine ⟨⟨_, _, hn, hc⟩, fun d' hd => ?_, hs⟩
  cases ht.symm.trans hd
  rw [hr]
  exact hn.pods

theorem restoreContinue_result (h : Host) (i : Input) (n : Node) (t : RestoreTask) :
    RestoreResult h i n t (restoreContinue h i n t) := by
  cases t with
  | cleanup st tgt =>
    simp only [restoreContinue]
    obtain ⟨pods, e, hc, hd⟩ | hc := cleanupPending_cases h i n st tgt
    · rw [hc]
      exact .ofCase rfl (.cleanupFailed hd) (restores_pods n pods) (.keep .same)
    · rw [hc]
      exact .ofCase rfl .cleanupDone ⟨rfl, rfl, rfl, rfl, rfl⟩ (.gone (.removed _))
  | delete st =>
    obtain ⟨pods, result, hr, hd, hok⟩ := runtimeDelete_cases i st.runtimeId n
    simp only [restoreContinue, hr]
    cases result with
    | error e => exact .ofCase rfl (.deleteFailed hd) (restores_pods n pods) (.keep .same)
    | ok u =>
      dsimp only
      split
      · next hw =>
        rw [(write_error hw).1]
        exact .ofCase rfl (.deleteFailed hd) (restores_pods n pods) (.keep .same)
      · next hw =>
        rw [(write_ok hw).1, hok rfl]
        exact .ofCase rfl .deleteDone ⟨rfl, rfl, rfl, rfl, rfl⟩ (.gone (.removed _))
  | update st req exe dep =>
    obtain ⟨pods, result, hr, hd⟩ := runtimeDeploy_cases h i dep n
    simp only [restoreContinue, hr]
    cases result with
    | error e => exact .deployed rfl hr (.updateFailed hd) (restores_pods n pods) (.keep .same)
    | ok rid =>
      dsimp only
      split
      · next hw =>
        rw [(write_error hw).1]
        exact .deployed rfl hr (.updateFailed hd) (restores_pods n pods) (.keep .same)
      · next hw =>
        rw [(write_ok hw).1]
        exact .deployed rfl hr (.updateDone hd (congrArg Prod.snd hr)) ⟨rfl, rfl, rfl, rfl, rfl⟩
          (.keep (.saved _))
  | status st =>
    have hk : RestoreResult h i n (.status st) (n, .keep st) :=
      .ofCase rfl .statusKept (restores_refl n) (.keep .same)
    have hg : RestoreResult h i n (.status st) (restoreRedeploy h i n st) := by
      obtain ⟨hr, ho, hcl⟩ := restoreRedeploy_cases h i n st
      generalize restoreRedeploy h i n st = p at hr ho hcl ⊢
      obtain ⟨n', r⟩ := p
      obtain rfl | ⟨dep, hp, rfl⟩ := ho
      · exact .ofCase rfl .statusKept hr hcl
      · exact .ofCase rfl (.statusGone hp) hr hcl
    simp only [restoreContinue]
    split
    · exact hk
    · exact hk
    · exact hg
    · exact hg
  | redeploy st dep =>
    obtain ⟨pods, result, hr, hd⟩ := runtimeDeploy_cases h i dep n
    simp only [restoreContinue, hr]
    cases result with
    | error e => exact .deployed rfl hr (.redeployFailed hd) (restores_pods n pods) (.keep .same)
    | ok rid =>
      dsimp only
      split
      · next hw =>
        rw [(write_error hw).1]
        exact .deployed rfl hr (.redeployUnsaved hd (congrArg Prod.snd hr)) (restores_pods n pods)
          ⟨.same, fun _ _ ht => by cases ht⟩
      · next hw =>
        rw [(write_ok hw).1]
        exact .deployed rfl hr (.redeployDone hd (congrArg Prod.snd hr)) ⟨rfl, rfl, rfl, rfl, rfl⟩
          (.keep (.saved _))
  | undo st rid =>
    obtain ⟨pods, result, hr, hd, _⟩ := runtimeDelete_cases i rid n
    simp only [restoreContinue, hr]
    exact .ofCase rfl (.undone hd) (restores_pods n pods) (.keep .same)

theorem restoreContinue_cases (h : Host) (i : Input) (n : Node) (t : RestoreTask) :
    ∃ disk pods, n.Restores (restoreContinue h i n t).1 disk pods ∧
      RestoreCase h i n t disk pods (restoreContinue h i n t).2 :=
  (restoreContinue_result h i n t).explains

end Podmesh
