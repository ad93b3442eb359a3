import Podmesh.Agent.Guarded
import Podmesh.Agent.Reference

namespace Podmesh

variable {h : Host} {i : Input} {n : Node}

structure Agree (m r : StoredWorkload) : Prop where
  needsCleanup : m.needsCleanup = r.needsCleanup
  deleting : m.deleting = r.deleting
  settled : m.needsCleanup = false → m.grant = r.grant ∧ m.phase = r.phase ∧ m.amount = r.amount

theorem Agree.refl (m : StoredWorkload) : Agree m m := ⟨rfl, rfl, fun _ => ⟨rfl, rfl, rfl⟩⟩

inductive Slot.Agrees : Slot → Prop
  | empty : Agrees ⟨none, none, false⟩
  | unreadable : Agrees ⟨none, some none, true⟩
  | holding {m r : StoredWorkload} : Agree m r → Agrees (.holding m (some r))

theorem Slot.Agrees.self (m : StoredWorkload) : Slot.Agrees (.holding m (some m)) :=
  .holding (.refl m)

theorem Agree.of_cleanup (hm : m.needsCleanup = true) (hr : r.needsCleanup = true)
    (hd : m.deleting = r.deleting) : Agree m r :=
  ⟨hm.trans hr.symm, hd, fun hf => by rw [hm] at hf; cases hf⟩

/-- The waits between the two writes of an operation. -/
def Task.torn : Task → Bool
  | .deployRemove _ _ | .deployCommit _ _ | .rollbackInsert _ _ _ | .updateCommit _ _ _ _
  | .deleteUnmark _ _ _ | .deleteRemove _ _ _ | .deleteRestore _ _ _ _ => true
  | _ => false

/-- What an operation finds at its workload; between its two writes the second one is due. -/
def Task.Mirrored (s : Slot) : Task → Prop
  | .deleteUnmark _ active _ => active.deleting = false ∧
    ∃ r, Agree active r ∧ s = .holding { active with deleting := true } (some r)
  | t => t.torn = true ∨ s.Agrees

def Mirrors (t : Option Task) (_ : String) (s : Slot) : Prop := t.elim s.Agrees (Task.Mirrored s)

def flagsSaved (w : World) : Action → Bool
  | .poll task i =>
    match w.tasks.lookup task with
    | some (.deleteMark _ command _) => i.stored.isOk ||
        (w.node.state.active.lookup command.workloadId).all fun current => !current.deleting
    | _ => true
  | .cancel task => (w.tasks.lookup task).all fun t => !t.torn
  | _ => true

theorem Slot.Agrees.of_holding (hs : Slot.Agrees (.holding m r)) :
    ∃ r', r = some r' ∧ Agree m r' := by
  generalize hsl : Slot.holding m r = s at hs
  cases hs with
  | empty | unreadable => cases hsl
  | @holding _ r' ha =>
    simp only [Slot.holding, Slot.mk.injEq, Option.some.injEq, Option.map_some] at hsl
    obtain ⟨rfl, hr, _⟩ := hsl
    obtain ⟨r'', hr'', he⟩ := Option.map_eq_some_iff.1 hr
    cases he
    exact ⟨r', hr'', ha⟩

theorem Task.Mirrored.agrees (hm : Task.Mirrored s t) (ht : t.torn = false) : s.Agrees := by
  cases t with
  | deleteUnmark cmd act error => cases ht
  | _ =>
    rcases hm with htr | hs
    · rw [ht] at htr
      cases htr
    · exact hs

def FlagClear (i : Input) (n : Node) (t : Task) : Prop :=
  ∀ now command active error current, t = .deleteMark now command active →
    i.stored = .error error → n.state.active.lookup command.workloadId = some current →
    current.deleting = false

theorem PollCase.mirrored_next (hc : PollCase h i n t e (.next t'))
    (hg : t.guard = some (wid, .lifecycle)) (hs : (n.slot wid).Sound wid)
    (hh : t.Holds (n.slot wid)) (hq : wid ∈ n.state.quarantined → n.state.reservations = ∅)
    (hm : t.Mirrored (n.slot wid)) (hf : FlagClear i n t) :
    t'.Mirrored ((n.slot wid).after e wid) := by
  have hnx := ((hc.kept hg hs hh hq).next t' rfl).2
  cases hc with
  | guardWait hnn =>
    rw [hnn] at hg
    cases hg
  | deployStarted =>
    rw [hnx.1]
    exact .inr (.self _)
  | deployFailed | deployUnsaved =>
    rw [hnx]
    exact .inr (.self _)
  | failRecorded _ ha =>
    rcases ha with hdn | ⟨tgt, _, hn⟩
    · cases hdn
    · cases hn
      obtain ⟨_, hsl | hsl⟩ := hnx
      · rw [hsl]
        exact .inr (.self _)
      · rw [hsl]
        exact .inr (.holding (.of_cleanup rfl rfl rfl))
  | updateStarted | updateFailed =>
    rw [hnx.2]
    exact .inr (.self _)
  | deleteNeedsCleanup | deleteFound => exact .inr (hm.agrees rfl)
  | deleteUnsaved hl he =>
    cases hg
    obtain ⟨_, _, r, hsl⟩ := hh
    have hd := hf _ _ _ _ _ rfl he hl
    have hs := hm.agrees rfl
    have hcr := memory_of_slot hsl hl
    subst hcr
    rw [hsl] at hs ⊢
    obtain ⟨r', hr', hag⟩ := hs.of_holding
    subst hr'
    refine ⟨hd, r', hag, ?_⟩
    simp [Slot.after, Effect.record, Slot.holding]
  | deleteMarked =>
    rw [hnx.2.2]
    exact .inr (.self _)
  | inspecting | installing | deployGuarded | updateGuarded | deleteRequested | operationStarted
  | deleteGuarded => cases hg
  | _ => exact .inl rfl

theorem agrees_of_insert (hs : n.slot wid = .holding m (some r)) (hk : key = wid) :
    ((n.slot wid).after (.record n (.put key r) .keep pods) wid).Agrees := by
  rw [hs]
  simp only [Slot.after, Effect.record, Slot.holding, Edit.at_put_of_eq hk, Edit.at_keep]
  exact .self r

theorem agrees_of_drop (hs : n.slot wid = .holding m none) :
    ((n.slot wid).after (.record n (.drop wid) .keep pods) wid).Agrees := by
  rw [hs]
  simp only [Slot.after, Effect.record, Slot.holding, Edit.at_drop, Edit.at_keep, Option.map_none]
  exact .empty

theorem Task.torn_of_reader {t : Task} (ht : t.isReader = true) : t.torn = false := by
  cases t with
  | deployGuard | deployLock | updateGuard | updateLock | commandLock | commandRuntime | deleteGuard
  | deleteLookup | listLock => rfl
  | _ => cases ht

theorem Task.torn_of_enrollment {t : Task} (ht : t.isEnrollment = true) : t.torn = false := by
  cases t with
  | enrollLock | enrollInspect | enrollInstall => rfl
  | _ => cases ht

theorem PollCase.mirrored_ends (hc : PollCase h i n t e after) (hen : ∀ t', after ≠ .next t')
    (hg : t.guard = some (wid, .lifecycle)) (hh : t.Holds (n.slot wid))
    (hm : t.Mirrored (n.slot wid)) : ((n.slot wid).after e wid).Agrees := by
  cases hc with
  | ended hrd => exact hm.agrees (Task.torn_of_reader hrd)
  | enrolled he => exact hm.agrees (Task.torn_of_enrollment he)
  | deployRefused | cleanupFailed | updateAbandoned | rollbackFailed | deleteCleanupFailed
  | deleteMarkGone | deleteStopped => exact hm.agrees rfl
  | failRecorded hds =>
    cases hg
    rw [show n.slot _ = _ from hh]
    rcases hds with rfl | rfl
    · simp only [Slot.after, Effect.record, Slot.holding, Edit.at_put, Edit.at_keep]
      exact .holding (.of_cleanup rfl rfl rfl)
    · simp only [Slot.after, Effect.record, Slot.holding, Edit.at_put]
      exact .self _
  | deployRemoved =>
    cases hg
    exact agrees_of_drop hh
  | deployCommitted =>
    cases hg
    exact agrees_of_insert hh.1 rfl
  | rolledBack =>
    cases hg
    exact agrees_of_insert hh.2 hh.1.key
  | updateCommitted =>
    cases hg
    exact agrees_of_insert hh.2.1 rfl
  | deleteUnmarkGone hl =>
    cases hg
    obtain ⟨_, r, _, hs⟩ := hm
    have hmm : n.state.active.lookup _ = some _ := congrArg Slot.memory hs
    rw [hl] at hmm
    cases hmm
  | @deleteUnmarked _ _ active _ _ hl =>
    cases hg
    obtain ⟨hd, r, hr, hs⟩ := hm
    have hcr := memory_of_slot hs hl
    subst hcr
    have hb : { active with deleting := false } = active := by
      rw [← hd]
    rw [hs]
    simp only [Slot.after, Effect.record, Slot.holding, Edit.at_put, Edit.at_keep, hb]
    exact .holding hr
  | deleteRemoved =>
    cases hg
    obtain ⟨m, hs⟩ := hh
    exact agrees_of_drop hs
  | deleteRestored =>
    cases hg
    exact agrees_of_insert hh.2.2 rfl
  | admitted => cases hg
  | _ => exact absurd rfl (hen _)

theorem PollCase.sustains_mirrors (hw : w.Running h) (hl : w.tasks.lookup task = some t)
    (hc : PollCase h i w.node t e after) (hok : flagsSaved w (.poll task i) = true) :
    Sustains Mirrors w.node t e after where
  next wid t' hg hm hn := by
    subst hn
    refine hc.mirrored_next hg (hw.sound wid) (hw.holds task t wid _ hl hg)
      hw.quarantine hm ?_
    rintro now cmd act error cur rfl he hcr
    simp only [flagsSaved, hl, he, Except.isOk, Except.toBool, Bool.false_or, hcr,
      Option.all_some, Bool.not_eq_true'] at hok
    exact hok
  ends wid hg hm hen := hc.mirrored_ends hen hg (hw.holds task t wid _ hl hg) hm
  acquires wid t' hg hn hg' hs := by
    subst hn
    cases hc with
    | deployGuarded | updateGuarded | deleteGuarded => exact .inr hs
    | guardWait hnn =>
      rw [hnn] at hg'
      cases hg'
    | deleteRequested | operationStarted => cases hg'
    | _ => cases hg

theorem World.Restoring.mirrors {w : World} (hw : w.Restoring h [] none act quar) (k : String) :
    Slot.Agrees ⟨act.lookup k, w.node.store.workloads.lookup k, decide (k ∈ quar)⟩ := by
  have hv := hw.views k
  generalize act.lookup k = a at hv
  generalize decide (k ∈ quar) = q at hv
  generalize w.node.store.workloads.lookup k = d at hv
  cases hv with
  | absent => exact .empty
  | unreadable => exact .unreadable
  | rebuilt r => exact .self r

theorem reach_mirrors (hr : Reach (World.step h) (fun w a => flagsSaved w a = true) .fresh w) :
    w.SlotInv Mirrors := by
  refine Reach.invariant (World.SlotInv Mirrors) (by intro hp; cases hp)
    (fun w a w' hw hs hok he => ?_) hr
  have hi := reach_inv hw
  refine hs.step hi (step_cases he) ?_ ?_ ?_
  · intro act quar hp k
    exact (hi.restoring hp).mirrors k
  · rintro task t input e after rfl hl hc
    exact hc.sustains_mirrors (hi.polling hl) hl hok
  · rintro task t wid rfl hl _ hm
    simp only [flagsSaved, hl, Option.all_some, Bool.not_eq_true'] at hok
    exact Task.Mirrored.agrees hm hok

/-- In every run in which no Delete fails to save a flag that was already set, and whenever no
lifecycle operation is in flight, memory and store name the same workloads and agree on them. -/
theorem memory_mirrors_store
    (hr : Reach (World.step h) (fun w a => flagsSaved w a = true) .fresh w) (hq : w.Quiescent) :
    (∀ k, k ∈ w.node.store.workloads ↔ k ∈ w.node.state.active ∨ k ∈ w.node.state.quarantined) ∧
      ∀ k m r, w.node.state.active.lookup k = some m → w.node.store.workloads.lookup k = some r →
        ∃ r', r = some r' ∧ Agree m r' := by
  have ha : ∀ k, (w.node.slot k).Agrees :=
    fun k => (reach_mirrors hr hq.1).free k (hq.unheld (reach_inv hr) k)
  refine ⟨fun k => ?_, fun k m r hm hr => ?_⟩
  · have hs := ha k
    rw [← AList.lookup_isSome, ← AList.lookup_isSome, ← decide_eq_true_iff (p := k ∈ w.node.state.quarantined)]
    show (w.node.slot k).disk.isSome = true ↔ (w.node.slot k).memory.isSome = true ∨
      (w.node.slot k).quarantined = true
    generalize w.node.slot k = s at hs
    cases hs with
    | empty | unreadable => simp
    | holding => simp [Slot.holding]
  · have hs := ha k
    have hmm : (w.node.slot k).memory = some m := hm
    have hd : (w.node.slot k).disk = some r := hr
    generalize w.node.slot k = s at hs hmm hd
    cases hs with
    | empty | unreadable => cases hmm
    | @holding _ r' hag =>
      cases hmm
      cases hd
      exact ⟨r', rfl, hag⟩

namespace Reference

def halfDeleted : List Action :=
  startUp ++ reserve 0 "a" "n1" 2000 1024 1024 ++ deploy 0 "a" "Pod/a\n" "n2" ++
    delete 0 "a" "n3" (input "") unsaved

end Reference

open Reference

theorem half_deleted_mirrors_store :
    ∃ w, Reach (World.step (host .default)) (fun w a => flagsSaved w a = true) .fresh w ∧
      w.Quiescent ∧ Assoc.size w.node.state.active = 1 ∧
      (∀ k, k ∈ w.node.store.workloads ↔
        k ∈ w.node.state.active ∨ k ∈ w.node.state.quarantined) := by
  obtain ⟨w, hr, hi, hs⟩ := exists_reach_of_run (World.step (host .default))
    (flagsSaved · · = true) .fresh halfDeleted
    (fun w => (w.phase.isRunning && w.tasks.entries.isEmpty) ∧ Assoc.size w.node.state.active = 1)
    (by decide +kernel)
  have hq := World.quiescent_of_empty hi
  exact ⟨w, hr, hq, hs, (memory_mirrors_store hr hq).1⟩

/-- A second Delete cannot save the flag that the first one has left set: the flag is cleared in
memory and stays set on disk. -/
theorem unsaved_flag_diverges :
    ∃ w, Reach (World.step (host .default)) always .fresh w ∧ w.Quiescent ∧
      ∃ k m r, w.node.state.active.lookup k = some m ∧
        w.node.store.workloads.lookup k = some (some r) ∧ m.deleting ≠ r.deleting := by
  obtain ⟨w, hr, hi, m, hm, _, hds, r, rfl, hd⟩ := exists_reach_of_run
    (World.step (host .default)) always .fresh (halfDeleted ++ delete 0 "a" "n4" unsaved (input ""))
    (fun w => (w.phase.isRunning && w.tasks.entries.isEmpty) ∧
      ∃ m, w.node.state.active.lookup (workloadId "a") = some m ∧
        ∃ d, w.node.store.workloads.lookup (workloadId "a") = some d ∧
          ∃ r, d = some r ∧ m.deleting ≠ r.deleting) (by decide +kernel)
  exact ⟨w, hr, World.quiescent_of_empty hi, _, m, r, hm, hds, hd⟩

/-- While the agent runs, the records of a workload are changed only by the one operation that holds
the lifecycle guard of the workload. -/
theorem records_change_under_guard (hr : Reach (World.step h) always .fresh w)
    (hs : w.step h a = some w') (hp : w.phase = .running) (ha : a ≠ .crash)
    (hk : w'.node.slot k ≠ w.node.slot k) :
    ∃ task i t, a = .poll task i ∧ w.tasks.lookup task = some t ∧
      t.guard = some (k, .lifecycle) ∧
      ∀ j u o, w.tasks.lookup j = some u → u.guard = some (k, o) → j = task := by
  have hw := (reach_inv hr).up hp
  cases step_cases hs with
  | unstarted hd | restarted hd | corrupted hd | continued hd | quarantined hd | begun hd
  | started hd | refused hd | restoreCalled hd => cases hp.symm.trans hd
  | crashed => exact absurd rfl ha
  | received => exact absurd (World.received_slot ..) hk
  | enrolled | called | attached => exact absurd rfl hk
  | offered _ hst => rcases hst with rfl | rfl <;> exact absurd rfl hk
  | cancelled => exact absurd (by simp [Node.slot, dropGuard_state, dropGuard_store]) hk
  | @polled _ t _ _ _ hl hd hc =>
    by_cases hg : t.guard = some (k, .lifecycle)
    · exact ⟨_, _, t, rfl, hl, hg, fun _ _ _ hj hu => hw.exclusive.unique _ _ _ _ _ _ _ hj hl hu hg⟩
    · exact absurd (World.advance_slot.trans (hw.elsewhere hl hd hc hg)) hk

theorem deployment_recorded_under_guard :
    ∃ w : World, Reach (World.step (host .default)) always .fresh w ∧
      ∃ t, w.tasks.lookup 0 = some t ∧ t.guard = some (workloadId "a", .lifecycle) := by
  obtain ⟨w, hr, hp, w', hs, hn⟩ := exists_reach_of_run (World.step (host .default)) always .fresh
    (deployedRun.take 6) (fun w => w.phase.isRunning ∧
      ∃ w', w.step (host .default) (.poll 0 (input "")) = some w' ∧
        (w'.node.slot (workloadId "a")).memory ≠ (w.node.slot (workloadId "a")).memory)
    (by decide +kernel)
  obtain ⟨_, _, t, ha, hl, hg, _⟩ := records_change_under_guard hr hs (Phase.eq_running hp)
    (by simp) fun he => hn (congrArg Slot.memory he)
  cases ha
  exact ⟨w, hr, t, hl, hg⟩

end Podmesh
