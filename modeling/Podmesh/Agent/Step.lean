import Podmesh.Agent.Reconcile
import Podmesh.Agent.Running

namespace Podmesh

variable {h : Host}

inductive Called (h : Host) (deploys : Option WorkloadDeployment) (deletes : Option String)
    (pods : PodMap) : PodMap → Prop
  | none : Called h deploys deletes pods pods
  | deployed : deploys = some deployment → Deployed h i deployment pods pods' →
      Called h deploys deletes pods pods'
  | deleted : deletes = some target → Deleted target pods pods' → Called h deploys deletes pods pods'

theorem PodChange.called {i : Input} (hi : i.effective = true)
    (hc : PodChange h deploys deletes effective pods pods') : Called h deploys deletes pods pods' :=
      by
  cases hc with
  | none => exact .none
  | deployed hdp _ ht => exact .deployed hdp (.inr ⟨hi, _, _, ht, rfl⟩)
  | deleted hd => exact .deleted hd (.inr rfl)

theorem Task.effect_change {n n' : Node} {t : Task} (he : t.effect h i n = some n') :
    (∃ pods, n' = { n with pods }) ∧ PodChange h t.deploys t.deletes true n.pods n'.pods := by
  cases t with
  | deployRuntime _ _ d | updateRuntime _ _ _ _ d | rollbackRuntime _ _ d =>
    obtain ⟨pods, _, hr, _⟩ := runtimeDeploy_cases h { i with reply := .ok } d n
    cases he
    exact ⟨⟨pods, congrArg Prod.fst hr⟩, runtimeDeploy_change h { i with reply := .ok } d n _⟩
  | deployCleanup st tgt | deleteCleanup _ _ st tgt =>
    obtain ⟨pods, _, hr, hx, _⟩ :=
      runtimeCleanup_cases h { i with reply := .ok } tgt st.cleanupUncertain n
    cases he
    rw [hr]
    exact ⟨⟨pods, rfl⟩, hx.change rfl⟩
  | deleteRuntime _ _ act =>
    obtain ⟨pods, _, hr, hx, _⟩ := runtimeDelete_cases { i with reply := .ok } act.runtimeId n
    cases he
    rw [hr]
    exact ⟨⟨pods, rfl⟩, hx.change rfl⟩
  | _ => cases he

theorem RestoreTask.effect_change (h : Host) (i : Input) (n : Node) (t : RestoreTask) :
    (∃ pods, t.effect h i n = { n with pods }) ∧
      PodChange h t.deploys t.deletes true n.pods (t.effect h i n).pods := by
  cases t with
  | update _ _ _ d | redeploy _ d =>
    obtain ⟨pods, _, hr, _⟩ := runtimeDeploy_cases h { i with reply := .ok } d n
    exact ⟨⟨pods, congrArg Prod.fst hr⟩, runtimeDeploy_change h { i with reply := .ok } d n _⟩
  | cleanup st tgt =>
    obtain ⟨pods, _, hr, hx, _⟩ :=
      runtimeCleanup_cases h { i with reply := .ok } tgt st.cleanupUncertain n
    rw [effect, hr]
    exact ⟨⟨pods, rfl⟩, hx.change rfl⟩
  | delete st =>
    obtain ⟨pods, _, hr, hx, _⟩ := runtimeDelete_cases { i with reply := .ok } st.runtimeId n
    rw [effect, hr]
    exact ⟨⟨pods, rfl⟩, hx.change rfl⟩
  | undo _ rid =>
    obtain ⟨pods, _, hr, hx, _⟩ := runtimeDelete_cases { i with reply := .ok } rid n
    rw [effect, hr]
    exact ⟨⟨pods, rfl⟩, hx.change rfl⟩
  | status => exact ⟨⟨n.pods, rfl⟩, .none⟩

/-- Everything a transition of the agent and its host can do. -/
inductive StepCase (h : Host) (w : World) : Action → World → Prop
  | unstarted : w.phase = .down → StepCase h w (.restart i) w
  | restarted : w.phase = .down → h.config.validate = .ok () →
      w.node.store.loadAll.length ≤ h.config.maxWorkloads →
      StepCase h w (.restart i) { w with node := w.node.reboot, tasks := ∅
                                         phase := .restoring w.node.store.loadAll none ∅ ∅ }
  | crashed : StepCase h w .crash (w.stopped w.node)
  | corrupted : w.phase = .down → w.node.store.workloads.lookup workloadId = some b →
      StepCase h w (.corrupt workloadId) { w with node := { w.node with store := { w.node.store with
        workloads := w.node.store.workloads.insert workloadId none } } }
  | continued : w.phase = .restoring pending (some (k, t)) active quarantined →
      w.node.Restores node disk pods → RestoreCase h i w.node t disk pods restored →
      StepCase h w (.restore i)
        { w with node, phase := restored.phase pending active quarantined k }
  | quarantined : w.phase = .restoring ((k, none) :: pending) none active quarantined →
      StepCase h w (.restore i)
        { w with phase := .restoring pending none active (insert k quarantined) }
  | begun : w.phase = .restoring ((k, some stored) :: pending) none active quarantined →
      w.node.Restores node disk w.node.pods → BeginCase h stored disk restored →
      StepCase h w (.restore i)
        { w with node, phase := restored.phase pending active quarantined k }
  | started : w.phase = .restoring [] none active quarantined →
      h.config.fits (WorkloadState.usage ⟨active, ∅, quarantined⟩) = true →
      StepCase h w (.restore i) { w with node := { w.node with state := ⟨active, ∅, quarantined⟩ }
                                         phase := .running }
  | refused : w.phase = .restoring [] none active quarantined →
      h.config.fits (WorkloadState.usage ⟨active, ∅, quarantined⟩) = false →
      StepCase h w (.restore i) (w.stopped w.node)
  | restoreCalled : w.phase = .restoring pending (some (k, t)) active quarantined →
      Called h t.deploys t.deletes w.node.pods pods →
      StepCase h w (.restoreEffect i) { w with node := { w.node with pods } }
  | received : w.phase = .running → w.tasks.lookup task = none →
      StepCase h w (.receive task message i) (w.advance task none (receive h i w.node message))
  | enrolled : w.phase = .running → w.tasks.lookup task = none →
      w.node.mutations.lookup workloadId = none →
      StepCase h w (.enroll task workloadId)
        { w with node := { w.node with mutations := w.node.mutations.insert workloadId .enrollment }
                 tasks := w.tasks.insert task (.enrollLock workloadId) }
  | polled : w.tasks.lookup task = some t → w.node.Does p.1 e → PollCase h i w.node t e p.2 →
      StepCase h w (.poll task i) (w.advance task (some t) p)
  | called : w.tasks.lookup task = some t → Called h t.deploys t.deletes w.node.pods pods →
      StepCase h w (.effect task i) { w with node := { w.node with pods } }
  | cancelled : w.tasks.lookup task = some t →
      StepCase h w (.cancel task) { w with node := w.node.dropGuard t, tasks := w.tasks.erase task }
  | offered : w.phase = .running →
      (state = w.node.state ∨ state = w.node.state.retainReservations now) →
      StepCase h w (.offer query address now) { w with node := { w.node with state } }
  | attached : w.phase = .running → StepCase h w (.attach address)
      { w with node := { w.node with endpointAddress := some address } }

theorem restore_cases (hs : w.restore h i = some w') : StepCase h w (.restore i) w' := by
  unfold World.restore at hs
  split at hs
  · next pend k t act quar hp =>
    cases hs
    obtain ⟨disk, pods, hn, hc⟩ := restoreContinue_cases h i w.node t
    exact .continued hp hn hc
  · next k pend act quar hp =>
    cases hs
    exact .quarantined hp
  · next k st pend act quar hp =>
    cases hs
    obtain ⟨disk, hn, hc, _⟩ := restoreBegin_cases h i w.node st
    exact .begun hp hn hc
  · next act quar hp =>
    dsimp only at hs
    split at hs
    · next hf =>
      cases hs
      exact .started hp hf
    · next hf =>
      cases hs
      exact .refused hp (by simpa using hf)
  · cases hs

theorem restart_cases (hs : w.step h (.restart i) = some w') : StepCase h w (.restart i) w' := by
  simp only [World.step] at hs
  split at hs
  · next hp hv _ =>
    split at hs
    · next hc =>
      cases hs
      exact .restarted hp hv hc
    · cases hs
      exact .unstarted hp
  · next hp _ =>
    cases hs
    exact .unstarted hp
  · cases hs

theorem step_cases {w w' : World} (hs : w.step h a = some w') : StepCase h w a w' := by
  cases a with
  | restart i => exact restart_cases hs
  | crash =>
    cases hs
    exact .crashed
  | corrupt wid =>
    simp only [World.step] at hs
    split at hs
    · next hp hl =>
      cases hs
      exact .corrupted hp hl
    · cases hs
  | restore i => exact restore_cases hs
  | restoreEffect i =>
    simp only [World.step] at hs
    split at hs
    · next pend k t act quar hp =>
      cases hs
      obtain ⟨⟨pods, hn⟩, hc⟩ := t.effect_change h i w.node
      rw [hn] at hc ⊢
      exact .restoreCalled hp (hc.called (i := { i with reply := .ok }) rfl)
    · cases hs
  | receive task msg i =>
    simp only [World.step] at hs
    split at hs
    · next hp hl =>
      cases hs
      exact .received hp hl
    · cases hs
  | enroll task wid =>
    simp only [World.step] at hs
    split at hs
    · next node hp hl hm =>
      obtain ⟨hf, hnd⟩ := mutationWithOwner_ok hm
      subst hnd
      cases hs
      exact .enrolled hp hl hf
    · cases hs
  | poll task i =>
    simp only [World.step] at hs
    split at hs
    · next t hl =>
      cases hs
      obtain ⟨e, hd, hc⟩ := poll_explains h i w.node t
      exact .polled hl hd hc
    · cases hs
  | effect task i =>
    obtain ⟨node, hnd, hw⟩ := Option.map_eq_some_iff.1 hs
    obtain ⟨t, hl, he⟩ := Option.bind_eq_some_iff.1 hnd
    obtain ⟨⟨pods, hn⟩, hc⟩ := Task.effect_change he
    subst hw hn
    exact .called hl (hc.called (i := { i with reply := .ok }) rfl)
  | cancel task =>
    simp only [World.step] at hs
    split at hs
    · next t hl =>
      cases hs
      exact .cancelled hl
    · cases hs
  | offer query address now =>
    simp only [World.step] at hs
    split at hs
    · next hp =>
      cases hs
      exact .offered hp (capacityOffer_cases h query address now w.node.state)
    · cases hs
  | attach address =>
    simp only [World.step] at hs
    split at hs
    · next hp =>
      cases hs
      exact .attached hp
    · cases hs

theorem World.step_poll {w w' : World} (hs : w.step h (.poll task i) = some w') :
    ∃ t, w.tasks.lookup task = some t ∧ w' = w.advance task (some t) (poll h i w.node t) := by
  simp only [World.step] at hs
  split at hs
  · next t hl =>
    cases hs
    exact ⟨t, hl, rfl⟩
  · cases hs

end Podmesh
