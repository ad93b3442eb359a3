import Podmesh.Agent.Deletable
import Podmesh.Agent.Occupancy

namespace Podmesh

variable {h : Host} {i : Input} {n : Node} {w w' : World} {k : String}

/-- A call that removes a workload from the runtime: the identity it names and its answer. -/
structure Removal where
  workloadId : String
  target : String
  answer : Except RuntimeError Unit

def Task.removal (h : Host) (i : Input) (n : Node) : Task → Option Removal
  | .deployCleanup stored target _ | .deleteCleanup _ _ stored target =>
    some ⟨stored.grant.workloadId, target,
      (runtimeCleanup h i target stored.cleanupUncertain n).2⟩
  | .deleteRuntime _ command active =>
    -- no call is made for a record that names no pod
    if active.runtimeId = "" then none
    else some ⟨command.workloadId, active.runtimeId, (runtimeDelete i active.runtimeId n).2⟩
  | _ => none

def RestoreTask.removal (h : Host) (i : Input) (n : Node) : RestoreTask → Option Removal
  | .cleanup stored target =>
    some ⟨stored.grant.workloadId, target,
      (runtimeCleanup h i target stored.cleanupUncertain n).2⟩
  | .delete stored =>
    some ⟨stored.grant.workloadId, stored.runtimeId, (runtimeDelete i stored.runtimeId n).2⟩
  | _ => none

/-- The call was for the runtime identity of the record and succeeded, and so did the store write
after it, which removes the record. -/
def Removal.confirmed (h : Host) (i : Input) (record : Option StoredWorkload) (r : Removal) : Bool :=
  (record.any fun stored => decide (h.cleanupTarget stored = .ok r.target)) && r.answer.isOk &&
    i.stored.isOk

def World.confirms (h : Host) (w : World) : Action → Option String
  | .poll task i =>
    (((w.tasks.lookup task).bind (Task.removal h i w.node)).filter fun r =>
      r.confirmed h i (w.node.state.active.lookup r.workloadId)).map Removal.workloadId
  | .restore i =>
    match w.phase with
    | .restoring _ (some (_, t)) _ _ =>
      ((t.removal h i w.node).filter fun r =>
        r.confirmed h i (w.node.store.workloads.lookup r.workloadId).join).map Removal.workloadId
    | _ => none
  | _ => none

/-- The agent, with the workloads that came into the active set and whose removal was not confirmed
since. -/
structure Tenure where
  world : World
  held : Finset String

namespace Tenure

def fresh : Tenure := ⟨.fresh, ∅⟩

def entered (w w' : World) : Finset String :=
  w'.node.state.active.keys.toFinset \ w.node.state.active.keys.toFinset

def step (h : Host) (c : Tenure) (a : Action) : Option Tenure :=
  (c.world.step h a).map fun world =>
    ⟨world, (c.held ∪ entered c.world world).filter fun k => c.world.confirms h a ≠ some k⟩

end Tenure

section Disk

/-- A record that is being updated is not marked for deletion. -/
def StoredWorkload.Unmarked (r : StoredWorkload) : Prop := r.isUpdating = true → r.deleting = false

theorem StoredWorkload.Unmarked.of_settled {r : StoredWorkload} (hr : r.isUpdating = false) :
    r.Unmarked := by
  intro hu
  rw [hr] at hu
  cases hu

theorem PollCase.saves_unmarked (hc : PollCase h i n t e after)
    (hh : ∀ wid o, t.guard = some (wid, o) → t.Holds (n.slot wid))
    (hd : e.disk = .put k (some r)) : r.Unmarked := by
  cases hc with
  | deployStarted _ hp =>
    cases hd
    apply StoredWorkload.Unmarked.of_settled
    rw [StoredWorkload.isUpdating, (planDeployment_ok hp).phase]
  | deploySaved | updateSaved =>
    cases hd
    exact .of_settled rfl
  | failRecorded hds =>
    rcases hds with rfl | rfl
    · cases hd
    · cases hd
      exact .of_settled rfl
  | updateStarted _ hp =>
    cases hd
    intro _
    exact (planUpdate_transition hp).deleting
  | rollbackSaved =>
    cases hd
    intro _
    exact (hh _ _ rfl).1.deleting
  | deleteMarked hl =>
    cases hd
    obtain ⟨_, hu, r, hs⟩ := hh _ _ rfl
    have hcr := memory_of_slot hs hl
    subst hcr
    exact .of_settled hu
  | deleteRestoring =>
    cases hd
    exact .of_settled (hh _ _ rfl).2.1
  | _ => cases hd

theorem RestoreCase.saves_unmarked (hc : RestoreCase h i n t disk pods rst)
    (ht : t.stored.Unmarked) (hd : disk = .put k (some r)) : r.Unmarked := by
  cases hc with
  | updateDone =>
    cases hd
    exact .of_settled rfl
  | redeployDone =>
    cases hd
    exact ht
  | _ => cases hd

def Store.Unmarked (s : Store) : Prop :=
  ∀ k r, s.workloads.lookup k = some (some r) → r.Unmarked

theorem Store.Unmarked.step (hu : w.node.store.Unmarked) (hi : w.Inv h)
    (hc : StepCase h w a w') : w'.node.store.Unmarked := by
  apply hc.records hi hu
  · intro task t i e after key r _ hl hcs
    exact hcs.saves_unmarked fun wid o hg => (hi.polling hl).holds _ _ wid o hl hg
  · intro pend k t act quar i disk pods rst key r _ _ hcs
    exact hcs.saves_unmarked

end Disk

section Confirmed

structure Removal.Done (i : Input) (r : Removal) : Prop where
  answer : r.answer = .ok ()
  stored : i.stored = .ok ()

theorem Removal.Done.confirmed {r : Removal} {rcd : StoredWorkload} (hr : r.Done i)
    (ht : h.cleanupTarget rcd = .ok r.target) : r.confirmed h i (some rcd) = true := by
  simp [Removal.confirmed, ht, hr.answer, hr.stored, Except.isOk, Except.toBool]

theorem cleanupPending_done (hc : cleanupPending h i n st target = (n', .ok ())) :
    Removal.Done i ⟨wid, target, (runtimeCleanup h i target st.cleanupUncertain n).2⟩ := by
  unfold cleanupPending at hc
  split at hc
  · cases hc
  · next hr =>
    rw [hr]
    exact ⟨rfl, (write_ok hc).2⟩

theorem deployCleanup_done (hp : (deployCleanup h i n st target error).2 = .next t') :
    Removal.Done i ⟨wid, target, (runtimeCleanup h i target st.cleanupUncertain n).2⟩ := by
  unfold deployCleanup at hp
  split at hp
  · cases hp
  · next hc => exact cleanupPending_done hc

theorem deleteCleanup_done (hp : (deleteCleanup h i n now cmd act target).2 = .next t') :
    Removal.Done i ⟨wid, target, (runtimeCleanup h i target act.cleanupUncertain n).2⟩ := by
  unfold deleteCleanup at hp
  split at hp
  · cases hp
  · next hc => exact cleanupPending_done hc

theorem deleteRuntime_done (hid : act.runtimeId ≠ "")
    (hp : (deleteRuntime i n now cmd act).2 = .next (.deleteRemove now' cmd' act')) :
    Removal.Done i ⟨wid, act.runtimeId, (runtimeDelete i act.runtimeId n).2⟩ := by
  simp only [deleteRuntime, if_neg hid] at hp
  split at hp
  · next hr =>
    split at hp
    · cases hp
    · next hw => exact ⟨hr, (write_ok hw).2⟩
  · split at hp <;> cases hp

theorem cleanupTarget_named (hid : st.runtimeId ≠ "") : h.cleanupTarget st = .ok st.runtimeId := by
  rw [Host.cleanupTarget, if_neg hid]

/-- A section that removes a persisted record got the answer to the call that removes its pod. -/
theorem poll_removes (hc : PollCase h i n t e (poll h i n t).2) (hd : e.disk = .drop k)
    (hp : t.Prepared h) (hs : ∀ key, (n.slot key).Sound key)
    (hh : ∀ key o, t.guard = some (key, o) → t.Holds (n.slot key)) :
    ∃ r rcd, t.removal h i n = some r ∧ r.workloadId = k ∧ r.Done i ∧
      n.state.active.lookup k = some rcd ∧ h.cleanupTarget rcd = .ok r.target := by
  generalize ha : (poll h i n t).2 = after at hc
  cases hc with
  | @cleanupDone stored _ _ =>
    cases hd
    have hm : n.state.active.lookup stored.grant.workloadId = some stored := by
      obtain ⟨_, hsl | hsl⟩ := hh _ _ rfl <;> exact active_of_slot hsl
    exact ⟨_, stored, rfl, rfl, deployCleanup_done ha, hm, hp⟩
  | @deleteCleanupDone _ cmd active _ =>
    cases hd
    obtain ⟨_, r, hsl⟩ := hh _ _ rfl
    have hk := (Slot.Sound.holding_iff.1 (hsl ▸ hs cmd.workloadId)).1.key
    refine ⟨_, active, rfl, rfl, deleteCleanup_done ha, ?_, hp⟩
    rw [hk]
    exact active_of_slot hsl
  | deleteRemoving =>
    cases hd
    obtain ⟨hcl, hu, hsl⟩ := hh _ _ rfl
    have hid := StoredWorkload.named_of_settled hcl hu
    exact ⟨_, _, if_neg hid, rfl, deleteRuntime_done hid ha, active_of_slot hsl,
      cleanupTarget_named hid⟩
  | failRecorded hds =>
    rcases hds with rfl | rfl <;> cases hd
  | _ => cases hd

theorem restoreContinue_removes
    (hc : RestoreCase h i n t (.drop k) pods (restoreContinue h i n t).2) (ht : t.Holds h) :
    ∃ r, t.removal h i n = some r ∧ r.workloadId = k ∧ r.Done i ∧
      h.cleanupTarget t.stored = .ok r.target := by
  generalize hd : Edit.drop k = disk at hc
  generalize hrs : (restoreContinue h i n t).2 = rst at hc
  cases hc with
  | cleanupDone =>
    cases hd
    refine ⟨_, rfl, rfl, ?_, ht.2⟩
    simp only [restoreContinue] at hrs
    split at hrs
    · cases hrs
    · next hc => exact cleanupPending_done hc
  | deleteDone =>
    cases hd
    refine ⟨_, rfl, rfl, ?_, cleanupTarget_named ht⟩
    simp only [restoreContinue] at hrs
    split at hrs
    · cases hrs
    · next hr =>
      split at hrs
      · cases hrs
      · next hw =>
        rw [hr]
        exact ⟨rfl, (write_ok hw).2⟩
  | _ => cases hd

end Confirmed

section Step

theorem Edit.isSome_at (e : Edit V) (hv : v.isSome) : (e.at k v).isSome ∨ e = .drop k := by
  cases e with
  | keep => exact .inl hv
  | put key x =>
    by_cases hk : k = key
    · rw [hk, Edit.at_put]
      exact .inl rfl
    · rw [Edit.at, if_neg hk]
      exact .inl hv
  | drop key =>
    by_cases hk : k = key
    · exact .inr (hk ▸ rfl)
    · rw [Edit.at, if_neg hk]
      exact .inl hv

def World.Keeps (h : Host) (w : World) (a : Action) (w' : World) : Prop :=
  ∀ k, (w.node.store.workloads.lookup k).isSome →
    (w'.node.store.workloads.lookup k).isSome ∨ w.confirms h a = some k

theorem World.keeps_step (hi : w.Inv h) (hu : w.node.store.Unmarked)
    (hs : w.step h a = some w') : w.Keeps h a w' := by
  intro k hk
  cases step_cases hs with
  | @polled task _ _ _ i =>
    obtain ⟨t, hl, hw'⟩ := World.step_poll hs
    have hrn := hi.polling hl
    obtain ⟨e, hd, hc⟩ := poll_explains h i w.node t
    rw [hw', World.advance_store, hd.workloads, Edit.lookup_apply]
    rcases Edit.isSome_at e.disk hk with hsm | hdr
    · exact .inl hsm
    · right
      obtain ⟨r, record, hr, hwd, hdn, hm, ht⟩ := poll_removes hc hdr
        (hrn.prepared task t hl) hrn.sound fun key o hg => hrn.holds task t key o hl hg
      subst hwd
      simp [World.confirms, hl, hr, Option.filter_some, hm, hdn.confirmed ht]
  | @continued _ key t _ _ _ _ _ i _ hp =>
    simp only [World.step, World.restore, hp, Option.some.injEq, World.mk.injEq] at hs
    have hw := hi.restoring hp
    obtain ⟨disk, pods, hn, hc⟩ := restoreContinue_cases h i w.node t
    rw [← hs.1, hn.workloads, Edit.lookup_apply]
    rcases disk.isSome_at hk with hsm | hdr
    · exact .inl hsm
    · right
      subst hdr
      have hds := hw.on_disk.2.2.2
      have hky : k = key :=
        Edit.within_of_settles (hc.settles (hw.planned key t rfl) (hw.bound key _ hds))
      obtain ⟨r, hr, hwd, hdn, ht⟩ := restoreContinue_removes hc (hw.planned key t rfl)
      subst hwd
      rw [← hky] at hds
      simp [World.confirms, hp, hr, Option.filter_some, hds, hdn.confirmed ht]
  | @begun key st _ _ _ _ disk _ _ hp hn hc =>
    have hw := hi.restoring hp
    have hst := hu key st hw.next_on_disk
    rw [hn.workloads, Edit.lookup_apply]
    rcases disk.isSome_at hk with hsm | hdr
    · exact .inl hsm
    · subst hdr
      cases hc with
      | dropped hcl hdl hid =>
        cases hup : st.isUpdating with
        | true =>
          rw [hst hup] at hdl
          cases hdl
        | false => exact absurd hid (st.named_of_settled hcl hup)
  | @corrupted wid =>
    left
    by_cases heq : k = wid
    · rw [heq, AList.lookup_insert]
      rfl
    · rw [AList.lookup_insert_ne heq]
      exact hk
  | received =>
    rw [World.received_store]
    exact .inl hk
  | cancelled =>
    rw [dropGuard_store]
    exact .inl hk
  | _ => exact .inl hk

theorem PollCase.enters (hc : PollCase h i n t e after)
    (hh : ∀ key o, t.guard = some (key, o) → t.Holds (n.slot key))
    (hn : n.state.active.lookup k = none) (hs : (e.memory.apply n.state.active).lookup k = some r)
    (disk : Option (Option StoredWorkload)) : (e.disk.at k disk).isSome := by
  have hk (hm : e.memory = .keep) : False := by
    rw [hm] at hs
    exact Option.some_ne_none _ (hs.symm.trans hn)
  cases hc.accounts hh with
  | settled _ hsb =>
    have ho := hsb k r hs
    rw [hn] at ho
    cases ho
  | admits hm | consumes hm => exact (hk hm).elim
  | deploys _ _ _ hm =>
    cases hc with
    | deployStarted _ hp =>
      rcases Assoc.lookup_insert_cases hs with ⟨rfl, _⟩ | ⟨_, ho⟩
      · rw [(planDeployment_ok hp).record, Edit.at_put]
        rfl
      · rw [hn] at ho
        cases ho
    | guardWait hg => cases hg
    | ended | enrolled | deployRefused => cases hm

theorem RestoreView.of_rebuilt (hv : RestoreView p c (some r) q d) : d = some (some r) := by
  cases hv
  rfl

theorem World.enters_recorded (hi : w.Inv h) (hc : StepCase h w a w')
    (hn : w.node.state.active.lookup k = none) (hs : w'.node.state.active.lookup k = some r) :
    (w'.node.store.workloads.lookup k).isSome := by
  have hsm (hst : w'.node.state = w.node.state) : False := by
    rw [hst, hn] at hs
    cases hs
  cases hc with
  | restarted | crashed | refused => cases hs
  | continued _ hnd | begun _ hnd => exact (hsm hnd.state).elim
  | started hp =>
    have hv := (hi.restoring hp).views k
    rw [hs] at hv
    rw [hv.of_rebuilt]
    rfl
  | received => exact (hsm World.received_state).elim
  | @polled task t _ _ _ hl hd hcs =>
    have hr := hi.polling hl
    rw [World.advance_state, hd.active] at hs
    rw [World.advance_store, hd.workloads, Edit.lookup_apply]
    exact hcs.enters (fun key o hg => hr.holds task t key o hl hg) hn hs _
  | cancelled => exact (hsm (dropGuard_state _ _)).elim
  | offered _ hst =>
    rcases hst with rfl | rfl
    · exact (hsm rfl).elim
    · change w.node.state.active.lookup k = some r at hs
      rw [hn] at hs
      cases hs
  | _ => exact (hsm rfl).elim

end Step

/-- A held workload has a persisted record, whatever was interleaved. -/
structure Tenure.Backed (h : Host) (c : Tenure) : Prop where
  inv : c.world.Inv h
  unmarked : c.world.node.store.Unmarked
  held : ∀ k ∈ c.held, (c.world.node.store.workloads.lookup k).isSome

theorem Tenure.Backed.step {c c' : Tenure} (hb : c.Backed h) (hs : c.step h a = some c') :
    c'.Backed h := by
  obtain ⟨world, hst, rfl⟩ := Option.map_eq_some_iff.1 hs
  have hcs := step_cases hst
  refine ⟨hb.inv.step hst, hb.unmarked.step hb.inv hcs, fun k hk => ?_⟩
  obtain ⟨hm, hn⟩ := Finset.mem_filter.1 hk
  rcases Finset.mem_union.1 hm with hh | he
  · rcases World.keeps_step hb.inv hb.unmarked hst k (hb.held k hh) with hkp | hc
    · exact hkp
    · exact absurd hc hn
  · simp only [Tenure.entered, Finset.mem_sdiff, List.mem_toFinset] at he
    obtain ⟨r, hsm⟩ := Option.isSome_iff_exists.1 (AList.lookup_isSome.2 he.1)
    exact World.enters_recorded hb.inv hcs (AList.lookup_eq_none.2 he.2) hsm

theorem Tenure.reach_backed {c : Tenure} (hr : Reach (Tenure.step h) always .fresh c) :
    c.Backed h := by
  apply Reach.invariant (Tenure.Backed h) _ _ hr
  · refine ⟨World.fresh_inv h, fun k r hk => ?_, fun k hk => ?_⟩ <;> cases hk
  · intro s a s' _ hs _ hst
    exact hs.step hst

theorem World.Running.recorded (hw : w.Running h) (hk : (w.node.store.workloads.lookup k).isSome) :
    (w.node.state.active.lookup k).isSome ↔ k ∉ w.node.state.quarantined := by
  have hs := hw.sound k
  have hd : (w.node.slot k).disk.isSome := hk
  have hm : (w.node.slot k).memory = w.node.state.active.lookup k := rfl
  have ha : (w.node.slot k).quarantined = decide (k ∈ w.node.state.quarantined) := rfl
  rw [← hm, ← decide_eq_false_iff_not, ← ha]
  generalize w.node.slot k = s at hs hd
  cases hs with
  | empty => cases hd
  | unreadable =>
    constructor
    · intro hsm
      cases hsm
    · intro hf
      cases hf
  | holding => exact ⟨fun _ => rfl, fun _ => rfl⟩

/-- In every run, every workload that came into the active set and whose removal was not confirmed
since is still active, exactly if none of them was set aside as unreadable by the last restart. -/
theorem held_workloads_active_iff {c : Tenure} (hr : Reach (Tenure.step h) always .fresh c)
    (hp : c.world.phase = .running) :
    (∀ k ∈ c.held, (c.world.node.state.active.lookup k).isSome) ↔
      ∀ k ∈ c.held, k ∉ c.world.node.state.quarantined := by
  have hb := Tenure.reach_backed hr
  have hrn := hb.inv.up hp
  constructor
  · intro ha k hk
    exact (hrn.recorded (hb.held k hk)).1 (ha k hk)
  · intro has k hk
    exact (hrn.recorded (hb.held k hk)).2 (has k hk)

namespace Reference

def sharedRun : List Action :=
  startUp ++ reserve 0 "a" "n1" 2000 1024 1024 ++ deploy 0 "a" "Pod/a\n" "n2" ++
    reserve 0 "b" "n3" 2000 1024 1024 ++ deploy 0 "b" "Pod/b\n" "n4"

def unreadableRun : List Action :=
  sharedRun ++ [.crash, .corrupt (workloadId "a"), .restart (input "")] ++
    List.replicate 4 (.restore (input "")) ++
    .receive 0 (.update (update "b" "Pod/b\n" "Pod/b\n\n" "n5" 4000 1024 1024)) (input "") ::
    List.replicate 4 (.poll 0 (input ""))

def overgrown (c : Tenure) : Bool :=
  decide (workloadId "a" ∈ c.held) && (c.world.node.state.active.lookup (workloadId "a")).isNone &&
    wasApplied c.world && c.world.phase.isRunning &&
    (c.world.node.state.active.lookup (workloadId "b")).any (·.cpuMilli == 4000) &&
    (Assoc.size c.world.node.pods == 2)

end Reference

open Reference

/-- Deploy `a` and `b` with 2000 millicores each on a default agent (4000), restart with an
unreadable record of `a`, update `b` to 4000: the update is applied. -/
theorem unreadable_record_releases_charge : ∃ c,
    Reach (Tenure.step (host .default)) always .fresh c ∧ overgrown c = true :=
  exists_reach_of_run _ _ _ unreadableRun _ (by decide +kernel)

/-- A Delete whose runtime call fails keeps its workload active. -/
theorem failed_delete_keeps_charge : ∃ c,
    Reach (Tenure.step (host .default)) always .fresh c ∧
      workloadId "a" ∈ c.held ∧
      ∀ k ∈ c.held, (c.world.node.state.active.lookup k).isSome := by
  obtain ⟨c, hr, hh, hrn, ha⟩ := exists_reach_of_run (Tenure.step (host .default)) always
    .fresh (sharedRun ++ delete 0 "a" "n5" (input "") failing)
    (fun c => workloadId "a" ∈ c.held ∧ c.world.phase.isRunning ∧
      ∀ k ∈ c.held, k ∉ c.world.node.state.quarantined) (by decide +kernel)
  exact ⟨c, hr, hh, (held_workloads_active_iff hr (Phase.eq_running hrn)).2 ha⟩

end Podmesh
