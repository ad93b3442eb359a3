import Podmesh.Agent.Guarded

namespace Podmesh

variable {h : Host} {i : Input} {n : Node}

/-- The revision a record stands for; an update in progress keeps the one before it. -/
def StoredWorkload.committed (r : StoredWorkload) : Option String :=
  match r.phase with
  | .active | .updating _ _ _ => some r.grant.revisionId
  | .creating | .cleanupPending _ => none

def Slot.committed (s : Slot) : Option String := s.disk.join.bind StoredWorkload.committed

def Node.committed (n : Node) (workloadId : String) : Option String := (n.slot workloadId).committed

theorem StoredWorkload.committed_active {r : StoredWorkload} (hp : r.phase = .active) :
    r.committed = some r.grant.revisionId := by
  simp [committed, hp]

/-- The request takes the workload from the revision of `active` to the one of its grant. -/
structure UpdateRequest.Swaps (request : UpdateRequest) (active : StoredWorkload) : Prop where
  expected : active.grant.revisionId = request.expectedRevisionId
  requested : request.grant.revisionId = request.requestedRevisionId

/-- A record that is in use has a pod, and an update in progress starts from its revision. -/
structure StoredWorkload.Dated (r : StoredWorkload) : Prop where
  named : r.committed ≠ none → r.runtimeId ≠ ""
  update : ∀ previous id request, r.phase = .updating previous id request → request.Swaps r

def Task.Dated : Task → Prop
  | .updateLock _ request _ _ => request.grant.revisionId = request.requestedRevisionId
  | .updateRuntime _ request _ active _ | .rollbackRuntime request active _ _
  | .rollbackInsert request active _ | .updateCommit _ request active _ => request.Swaps active
  | _ => True

def Task.removing : Task → Bool
  | .deleteRemove _ _ _ => true
  | _ => false

/-- An active record in memory is persisted as an active record of the same revision. -/
def Slot.Backed (s : Slot) : Prop :=
  ∀ m, s.memory = some m → m.phase = .active →
    ∃ r, s.disk = some (some r) ∧ r.phase = .active ∧ r.grant = m.grant

structure Revised (t : Option Task) (workloadId : String) (s : Slot) : Prop where
  task : ∀ u, t = some u → u.Dated
  backed : t.any Task.removing = false → s.Backed

theorem Slot.backed_of_phase {s : Slot} (hs : ∀ m, s.memory = some m → m.phase ≠ .active) :
    s.Backed :=
  fun m hm hp => absurd hp (hs m hm)

theorem Slot.backed_holding (hr : m.phase = .active → r.phase = .active ∧ r.grant = m.grant) :
    (Slot.holding m (some r)).Backed := by
  intro m' hm hp
  cases hm
  exact ⟨r, rfl, hr hp⟩

theorem Slot.backed_inactive {m : StoredWorkload} {r : Option StoredWorkload}
    (hm : m.phase ≠ .active) : (Slot.holding m r).Backed := by
  refine backed_of_phase fun m' hm' => ?_
  cases hm'
  exact hm

theorem Slot.Backed.marked (hs : (n.slot wid).Backed) (hl : n.state.active.lookup wid = some cur)
    (deleting : Bool) :
    ((n.slot wid).after (.record n (.put wid { cur with deleting }) .keep pods) wid).Backed := by
  intro m' hm hp
  simp only [Slot.after, Effect.record, Edit.at_put, Option.some.injEq] at hm
  subst hm
  exact hs cur hl hp

theorem planUpdate_expected (hp : planUpdate h state req exe act = .ok .transition) :
    act.grant.revisionId = req.expectedRevisionId := by
  simp only [planUpdate, unit_bind_ok, pure, Except.pure] at hp
  obtain ⟨_, hr⟩ := hp
  split at hr
  · cases hr
  · simp only [unit_bind_ok] at hr
    obtain ⟨_, hr⟩ := hr
    split at hr
    · cases hr
    · next hc =>
      simp only [Bool.or_eq_true, decide_eq_true_eq, not_or, not_not] at hc
      exact hc.1

theorem updateManifest_requested (hm : updateManifest h now req exe = .ok man) :
    req.grant.revisionId = req.requestedRevisionId := by
  simp only [updateManifest, bind_ok] at hm
  obtain ⟨_, hv, _⟩ := hm
  simp only [UpdateRequest.verify, bind_ok, ensure_ok, Bool.and_eq_true, beq_iff_eq] at hv
  obtain ⟨_, _, _, _, _, _, _, _, _, _, _, _, _, _, _, _, _, _, _, _, _, _, _, hb, _⟩ := hv
  exact hb.2

theorem PollCase.dated (hc : PollCase h i n t e (.next t')) (ht : t.Dated) : t'.Dated := by
  cases hc with
  | guardWait | updateFailed | updateSaved | rollbackSaved => exact ht
  | updateGuarded _ hm => exact updateManifest_requested hm
  | updateStarted _ hp => exact ⟨planUpdate_expected hp, ht⟩
  | failRecorded _ ha =>
    rcases ha with hd | ⟨tgt, _, hn⟩
    · cases hd
    · cases hn
      trivial
  | _ => trivial

theorem phase_of_found {act : StoredWorkload} (hc : act.needsCleanup = false)
    (hu : act.isUpdating = false) : act.phase = .active ∧ act.runtimeId ≠ "" := by
  unfold StoredWorkload.needsCleanup at hc
  unfold StoredWorkload.isUpdating at hu
  split at hc
  · cases hc
  · cases hc
  · next hp => exact ⟨hp, by simpa using hc⟩
  · next hp => simp [hp] at hu

inductive Dates : Edit (Option StoredWorkload) → Prop
  | keep : Dates .keep
  | put : r.Dated → Dates (.put key (some r))
  | drop : Dates (.drop key)

theorem dated_active {r : StoredWorkload} (hp : r.phase = .active) (hid : r.runtimeId ≠ "") :
    r.Dated :=
  ⟨fun _ => hid, fun prev id req hu => by rw [hp] at hu; cases hu⟩

theorem dated_inactive {r : StoredWorkload}
    (hp : r.phase = .creating ∨ ∃ unc, r.phase = .cleanupPending unc) : r.Dated := by
  refine ⟨fun hc => ?_, fun prev id req hu => ?_⟩
  · rcases hp with hp | ⟨unc, hp⟩ <;> simp [StoredWorkload.committed, hp] at hc
  · rcases hp with hp | ⟨unc, hp⟩
    · rw [hp] at hu
      cases hu
    · rw [hp] at hu
      cases hu

def NamesPod (h : Host) (i : Input) (n : Node) (t : Task) : Prop :=
  ∀ now request execution active deployment,
    t = .updateRuntime now request execution active deployment →
    (runtimeDeploy h i deployment n).2 ≠ .ok ""

theorem PollCase.dates (hc : PollCase h i n t e after)
    (hh : ∀ wid, t.guard = some (wid, .lifecycle) → t.Holds (n.slot wid))
    (hp : t.Prepared h) (ht : t.Dated) (hn : NamesPod h i n t) : Dates e.disk := by
  cases hc with
  | deployStarted _ hpl => exact .put (dated_inactive (.inl (planDeployment_ok hpl).phase))
  | deploySaved => exact .put (dated_active rfl hp.2.1)
  | failRecorded hds =>
    rcases hds with rfl | rfl
    · exact .keep
    · exact .put (dated_inactive (.inr ⟨_, rfl⟩))
  | updateStarted _ hpl =>
    refine .put ⟨fun _ => (planUpdate_transition hpl).named, fun prev id req hu => ?_⟩
    cases hu
    have he := planUpdate_expected hpl
    exact ⟨he, ht⟩
  | updateSaved _ hd =>
    refine .put (dated_active rfl ?_)
    rintro rfl
    exact hn _ _ _ _ _ rfl hd
  | rollbackSaved =>
    have ho := (hh _ rfl).1
    exact .put (dated_active ho.phase ho.named)
  | deleteMarked hl =>
    obtain ⟨hcl, hup, r, hs⟩ := hh _ rfl
    have hcr := memory_of_slot hs hl
    subst hcr
    obtain ⟨hph, hid⟩ := phase_of_found hcl hup
    exact .put (dated_active hph hid)
  | deleteRestoring =>
    obtain ⟨hcl, hup, _⟩ := hh _ rfl
    obtain ⟨hph, hid⟩ := phase_of_found hcl hup
    exact .put (dated_active hph hid)
  | cleanupDone | deleteCleanupDone | deleteRemoving => exact .drop
  | _ => exact .keep

theorem PollCase.backed_next (hc : PollCase h i n t e (.next t'))
    (hg : t.guard = some (wid, .lifecycle)) (hs : (n.slot wid).Sound wid)
    (hh : t.Holds (n.slot wid)) (hq : wid ∈ n.state.quarantined → n.state.reservations = ∅)
    (hb : (n.slot wid).Backed) (ht' : t'.removing = false) : ((n.slot wid).after e wid).Backed := by
  have hnx := ((hc.kept hg hs hh hq).next t' rfl).2
  cases hc with
  | deployStarted _ hpl =>
    rw [hnx.1]
    refine Slot.backed_inactive ?_
    rw [hnx.2]
    intro hp
    cases hp
  | deploySaved =>
    rw [hnx.1]
    exact Slot.backed_inactive fun hp => by cases hp
  | failRecorded _ ha =>
    rcases ha with hd | ⟨tgt, _, hn⟩
    · cases hd
    · cases hn
      obtain ⟨_, hsl | hsl⟩ := hnx
      · rw [hsl]
        exact Slot.backed_inactive fun hp => by cases hp
      · rw [hsl]
        exact Slot.backed_inactive fun hp => by cases hp
  | cleanupDone =>
    rw [hnx]
    obtain ⟨⟨unc, hph⟩, _⟩ := hh
    refine Slot.backed_inactive ?_
    rw [hph]
    intro hp
    cases hp
  | updateStarted | rollbackSaved =>
    rw [hnx.2]
    exact Slot.backed_inactive fun hp => by cases hp
  | updateSaved =>
    rw [hnx.2.1]
    exact Slot.backed_inactive fun hp => by cases hp
  | deleteUnsaved hl =>
    cases hg
    exact hb.marked hl true
  | deleteMarked | deleteRestoring =>
    rw [hnx.2.2]
    exact Slot.backed_holding fun hp => ⟨hp, rfl⟩
  | deleteCleanupDone | deleteRemoving => cases ht'
  | _ => exact hb

theorem backed_inserted (hs : n.slot wid = .holding m (some r)) (hk : key = wid) :
    ((n.slot wid).after (.record n (.put key r) .keep pods) wid).Backed := by
  rw [hs]
  simp only [Slot.after, Effect.record, Slot.holding, Edit.at_put_of_eq hk, Edit.at_keep]
  exact Slot.backed_holding fun hp => ⟨hp, rfl⟩

theorem PollCase.backed_ends (hc : PollCase h i n t e after) (he : ∀ t', after ≠ .next t')
    (hg : t.guard = some (wid, .lifecycle)) (hh : t.Holds (n.slot wid))
    (hb : t.removing = false → (n.slot wid).Backed) : ((n.slot wid).after e wid).Backed := by
  cases hc with
  | ended hr | enrolled hr =>
    refine hb ?_
    cases t <;> first | rfl | cases hr
  | failRecorded =>
    cases hg
    rw [hh]
    refine Slot.backed_of_phase fun m hm => ?_
    simp only [Slot.after, Effect.record, Edit.at_put, Option.some.injEq] at hm
    subst hm
    intro hp
    cases hp
  | deployRemoved | deleteRemoved =>
    cases hg
    intro m hm
    simp only [Slot.after, Effect.record, Edit.at_drop] at hm
    cases hm
  | deployCommitted =>
    cases hg
    exact backed_inserted hh.1 rfl
  | rolledBack =>
    cases hg
    exact backed_inserted hh.2 hh.1.key
  | updateCommitted =>
    cases hg
    exact backed_inserted hh.2.1 rfl
  | deleteRestored =>
    cases hg
    exact backed_inserted hh.2.2 rfl
  | deleteUnmarked hl =>
    cases hg
    exact (hb rfl).marked hl false
  | admitted => cases hg
  | deployRefused | cleanupFailed | updateAbandoned | rollbackFailed | deleteCleanupFailed
  | deleteMarkGone | deleteUnmarkGone | deleteStopped => exact hb rfl
  | _ => exact absurd rfl (he _)

inductive Cause where
  | deploy
  | delete
  | update (request : UpdateRequest)
  /-- A restart completes an interrupted update. -/
  | rollForward (request : UpdateRequest)
  /-- A record becomes unreadable while the agent is down. -/
  | damage
  | other

def Task.cause : Task → Cause
  | .deployGuard _ _ | .deployLock _ _ _ | .deployRuntime _ _ _ | .deployFail _ _ _
  | .deployCleanup _ _ _ | .deployRemove _ _ | .deployCommit _ _ => .deploy
  | .updateGuard request _ | .updateLock _ request _ _ | .updateRuntime _ request _ _ _
  | .rollbackRuntime request _ _ _ | .rollbackInsert request _ _ | .updateCommit _ request _ _ =>
    .update request
  | .deleteGuard _ _ | .deleteLookup _ _ | .deleteCleanup _ _ _ _ | .deleteMark _ _ _
  | .deleteUnmark _ _ _ | .deleteRuntime _ _ _ | .deleteRemove _ _ _ | .deleteRestore _ _ _ _ =>
    .delete
  | _ => .other

def RestoreTask.cause : RestoreTask → Cause
  | .delete _ => .delete
  | .update _ request _ _ => .rollForward request
  | _ => .other

def Task.saves : Task → After → Bool
  | .updateRuntime _ _ _ _ _, .next (.updateCommit _ _ _ _) => true
  | _, _ => false

inductive Moves (t : Task) (after : After) : Option String → Option String → Prop
  | same : t.saves after = false → Moves t after c c
  | deployed : t.saves after = false → t.cause = .deploy → Moves t after none (some r)
  | deleted : t.saves after = false → t.cause = .delete → Moves t after c none
  | updated : t.saves after = true → t.cause = .update request →
      Moves t after (some request.expectedRevisionId) (some request.requestedRevisionId)

theorem Moves.of_eq (ht : t.saves after = false) (hc : c' = c) : Moves t after c c' :=
  hc ▸ .same ht

theorem Slot.Sound.committed_absent {s : Slot} (hs : s.Sound wid) (hm : s.memory = none) :
    s.committed = none := by
  cases hs with
  | empty | unreadable => rfl
  | holding => cases hm

theorem Slot.Backed.committed {s : Slot} (hs : s.Backed) (hm : s.memory = some m)
    (hp : m.phase = .active) : s.committed = some m.grant.revisionId := by
  obtain ⟨r, hr, hph, hg⟩ := hs m hm hp
  rw [Slot.committed, hr, ← hg]
  exact r.committed_active hph

theorem PollCase.moves (hc : PollCase h i n t e after) (hg : t.guard = some (wid, .lifecycle))
    (hs : (n.slot wid).Sound wid) (hh : t.Holds (n.slot wid))
    (hq : wid ∈ n.state.quarantined → n.state.reservations = ∅) (ht : t.Dated)
    (hb : t.removing = false → (n.slot wid).Backed) :
    Moves t after (n.slot wid).committed ((n.slot wid).after e wid).committed := by
  have hk := hc.kept hg hs hh hq
  cases hc with
  | deployStarted _ hp =>
    cases hg
    have hp := planDeployment_ok hp
    apply Moves.of_eq rfl
    rw [(hk.next _ rfl).2.1, hs.committed_absent hp.absent]
    simp [Slot.committed, Slot.holding, StoredWorkload.committed, hp.phase]
  | deploySaved =>
    rw [(hk.next _ rfl).2.1, hh.1]
    simp only [Slot.committed, Slot.holding, Option.map_some, Option.join_some,
      Option.bind_some, StoredWorkload.committed, hh.2]
    exact .deployed rfl rfl
  | failRecorded hd =>
    cases hg
    apply Moves.of_eq rfl
    rw [hh]
    rcases hd with rfl | rfl
    · rfl
    · simp [Slot.after, Effect.record, Slot.committed, Slot.holding, StoredWorkload.committed]
  | cleanupDone =>
    apply Moves.of_eq rfl
    rw [(hk.next _ rfl).2]
    obtain ⟨⟨unc, hph⟩, hsl | hsl⟩ := hh
    · rw [hsl]
      simp [Slot.committed, Slot.holding, StoredWorkload.committed, hph]
    · rw [hsl]
      rfl
  | updateStarted hl hp =>
    cases hg
    have hst := planUpdate_transition hp
    apply Moves.of_eq rfl
    rw [(hk.next _ rfl).2.2, (hb rfl).committed (owned_some hl).1 hst.phase]
    rfl
  | @updateSaved _ _ _ _ req _ act =>
    rw [(hk.next _ rfl).2.2.1, hh.2]
    show Moves _ _ (some act.grant.revisionId) (some req.grant.revisionId)
    rw [ht.expected, ht.requested]
    exact .updated rfl rfl
  | rollbackSaved =>
    apply Moves.of_eq rfl
    rw [(hk.next _ rfl).2.2, hh.2]
    exact StoredWorkload.committed_active hh.1.phase
  | deleteMarked hl =>
    cases hg
    obtain ⟨hcl, hu, r, hsl⟩ := hh
    have hph := (phase_of_found hcl hu).1
    have ha := congrArg Slot.memory hsl
    apply Moves.of_eq rfl
    rw [(hk.next _ rfl).2.2.2, (hb rfl).committed ha hph]
    exact StoredWorkload.committed_active hph
  | deleteRestoring =>
    apply Moves.of_eq rfl
    rw [(hk.next _ rfl).2.2.2, hh.2.2]
    rfl
  | deleteCleanupDone | deleteRemoving =>
    obtain ⟨m, hsl⟩ := (hk.next _ rfl).2
    rw [hsl]
    exact .deleted rfl rfl
  | admitted => cases hg
  | guardWait hn =>
    rw [hn] at hg
    cases hg
  | ended | enrolled => exact .same (by cases t <;> rfl)
  | _ => exact .same rfl

end Podmesh
