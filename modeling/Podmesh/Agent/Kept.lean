import Podmesh.Agent.Slot

namespace Podmesh

theorem Slot.Sound.of_single (hm : m.Bound wid) : Slot.Sound wid (.holding m none) :=
  .holding hm fun _ h => by cases h

theorem Slot.Sound.of_pair (hm : m.Bound wid) (hr : r.Bound wid) :
    Slot.Sound wid (.holding m (some r)) :=
  .holding hm fun _ h => by cases h; exact hr

theorem UpdateOrigin.bound (ho : UpdateOrigin req act) : act.Bound req.workloadId :=
  ⟨ho.key, fun prev id req' hp => by rw [ho.phase] at hp; cases hp⟩

theorem StoredWorkload.Bound.marked {r : StoredWorkload} (hr : r.Bound wid)
    (deleting : Bool) : StoredWorkload.Bound wid { r with deleting } :=
  ⟨hr.key, hr.update⟩

theorem StoredWorkload.Bound.active {r : StoredWorkload} (hr : r.Bound wid) :
    StoredWorkload.Bound wid { r with phase := .active } :=
  hr.of_phase fun _ _ _ h => by cases h

theorem StoredWorkload.Bound.cleanup {r : StoredWorkload} (hr : r.Bound wid) :
    StoredWorkload.Bound wid { r with phase := .cleanupPending unc } :=
  hr.of_phase fun _ _ _ h => by cases h

variable {n : Node}

theorem kept_of_call (hs : (n.slot wid).Sound wid)
    (hn : ∀ t', after = .next t' → t'.guard = t.guard ∧ t'.Holds (n.slot wid)) :
    Kept n wid t (.call n pods) after :=
  ⟨trivial, trivial, rfl, hs, hn⟩

theorem kept_of_slot (hm : e.memory.Within wid) (hd : e.disk.Within wid)
    (hmt : e.mutations = n.mutations) (ha : (n.slot wid).after e wid = s) (hs : s.Sound wid)
    (hn : ∀ t', after = .next t' → t'.guard = t.guard ∧ t'.Holds s) : Kept n wid t e after := by
  subst ha
  exact ⟨hm, hd, hmt, hs, hn⟩

theorem with_phase_self {r : StoredWorkload} (hp : r.phase = phase) : { r with phase } = r := by
  subst hp
  rfl

theorem done_next {P : Task → Prop} : ∀ t', After.done r = .next t' → P t' := by
  intro t' h
  cases h

theorem next_next {P : Task → Prop} (h : P t) : ∀ t', After.next t = .next t' → P t' := by
  intro t' heq
  cases heq
  exact h

theorem quit_next {P : Task → Prop} : ∀ t', After.quit r = .next t' → P t' := by
  intro t' h
  cases h

theorem Edit.at_put_of_eq (hk : key = wid) (v : V) (w : Option V) :
    (Edit.put key v).at wid w = some v := if_pos hk.symm

theorem Edit.at_drop_of_eq (hk : key = wid) (w : Option V) :
    (Edit.drop key).at wid w = none := if_pos hk.symm

theorem kept_of_record (hsl : n.slot wid = .holding m r) (hm : memory.Within wid)
    (hd : disk.Within wid) (hmm : memory.at wid (some m) = some c)
    (hds : disk.at wid (r.map some) = d.map some) (hs : Slot.Sound wid (.holding c d))
    (hn : ∀ t', after = .next t' → t'.guard = t.guard ∧ t'.Holds (.holding c d)) :
    Kept n wid t (.record n memory disk pods) after := by
  refine kept_of_slot hm hd rfl ?_ hs hn
  rw [hsl]
  simp [Slot.after, Effect.record, Slot.holding, hmm, hds]

theorem Slot.Sound.bounds (hs : (n.slot workloadId).Sound workloadId)
    (hsl : n.slot workloadId = .holding m r) :
    m.Bound workloadId ∧ ∀ r', r = some r' → r'.Bound workloadId :=
  Slot.Sound.holding_iff.1 (hsl ▸ hs)

theorem kept_of_insert (hs : (n.slot wid).Sound wid) (hsl : n.slot wid = .holding m (some r)) :
    Kept n wid t (.record n (.put wid r) .keep pods) (.done resp) := by
  have hb := (hs.bounds hsl).2 _ rfl
  exact kept_of_record hsl rfl trivial (Edit.at_put_of_eq rfl _ _) rfl (.of_pair hb hb)
    done_next

theorem kept_of_removal (hs : n.slot wid = .holding m none) :
    Kept n wid t (.record n (.drop wid) .keep pods) (.done r) := by
  refine kept_of_slot rfl trivial rfl ?_ .empty done_next
  rw [hs]
  simp [Slot.after, Effect.record, Slot.holding, Edit.at]

theorem deployStarted_kept (hl : n.state.reservations.lookup grant.reservationId = some rsv)
    (hp : DeploymentPlan h (n.state.consume grant.reservationId) grant exe rsv st dep)
    (hq : grant.workloadId ∈ n.state.quarantined → n.state.reservations = ∅) :
    Kept n grant.workloadId (.deployLock now grant exe)
      ⟨.put grant.workloadId st, .put st.grant.workloadId (some st), n.pods,
        n.state.reservations.erase grant.reservationId, n.mutations⟩
      (.next (.deployRuntime now st dep)) := by
  have hf : (n.slot grant.workloadId).quarantined = false := by
    simp only [Node.slot, decide_eq_false_iff_not]
    intro hm
    rw [hq hm] at hl
    cases hl
  have hk : st.grant.workloadId = grant.workloadId := by rw [hp.record]
  have hb : st.Bound grant.workloadId :=
    ⟨hk, fun prev id req hph => by rw [hp.phase] at hph; cases hph⟩
  refine kept_of_slot (s := .holding st (some st)) rfl hk rfl ?_
    (.of_pair hb hb) ?_
  · simp [Slot.after, Edit.at, hk, hf, Slot.holding]
  · intro t' ht
    cases ht
    exact ⟨by rw [Task.guard, Task.guard, hk], rfl, hp.phase⟩

theorem memory_of_slot (hs : n.slot wid = .holding m r)
    (hl : n.state.active.lookup wid = some current) : m = current := by
  have hm : (n.slot wid).memory = some m := by rw [hs]; rfl
  exact Option.some.inj (hm.symm.trans hl)

theorem PollCase.kept (hc : PollCase h i n t e after) (hg : t.guard = some (wid, o))
    (hs : (n.slot wid).Sound wid) (hh : t.Holds (n.slot wid))
    (hq : wid ∈ n.state.quarantined → n.state.reservations = ∅) : Kept n wid t e after := by
  cases hc with
  | admitted | deployGuarded | updateGuarded | deleteRequested | operationStarted
  | deleteGuarded => cases hg
  | guardWait hn =>
    rw [hn] at hg
    cases hg
  | enrolled => exact kept_of_call hs quit_next
  | inspecting hl =>
    cases hg
    obtain ⟨hb, _⟩ := hs.memory_bound hl
    exact kept_of_call hs (next_next ⟨by rw [Task.guard, Task.guard, hb.key], trivial⟩)
  | installing =>
    exact kept_of_call hs (next_next ⟨rfl, trivial⟩)
  | deployRefused => exact ⟨trivial, trivial, rfl, hs, done_next⟩
  | deployStarted hl hp =>
    cases hg
    exact deployStarted_kept hl (planDeployment_ok hp) hq
  | deployFailed =>
    cases hg
    refine kept_of_call hs fun t' h => ?_
    cases h
    obtain ⟨hsl, hph⟩ := hh
    refine ⟨rfl, ?_⟩
    rw [Task.Holds, with_phase_self hph]
    exact hsl
  | deployUnsaved =>
    cases hg
    refine kept_of_call hs fun t' h => ?_
    cases h
    obtain ⟨hsl, hph⟩ := hh
    refine ⟨rfl, ?_⟩
    exact hsl.trans (by rw [← with_phase_self hph])
  | deploySaved =>
    cases hg
    obtain ⟨hsl, hph⟩ := hh
    have hb := (hs.bounds hsl).1
    exact kept_of_record hsl trivial rfl rfl (Edit.at_put_of_eq rfl _ _) (.of_pair hb
      hb.active) (next_next ⟨rfl, by rw [← hph], rfl⟩)
  | failRecorded hd ha =>
    cases hg
    have hb := (hs.bounds hh).1
    rcases hd with rfl | rfl
    · refine kept_of_record hh rfl trivial (Edit.at_put_of_eq rfl _ _) rfl
        (.of_pair hb.cleanup hb) fun t' ht => ?_
      rcases ha with rfl | ⟨tgt, _, rfl⟩
      · cases ht
      · cases ht
        exact ⟨rfl, ⟨_, rfl⟩, .inr rfl⟩
    · refine kept_of_record hh rfl rfl (Edit.at_put_of_eq rfl _ _) (Edit.at_put_of_eq rfl _ _)
        (.of_pair hb.cleanup hb.cleanup) fun t' ht => ?_
      rcases ha with rfl | ⟨tgt, _, rfl⟩
      · cases ht
      · cases ht
        exact ⟨rfl, ⟨_, rfl⟩, .inl rfl⟩
  | cleanupDone =>
    cases hg
    obtain ⟨r, hsl⟩ : ∃ r, n.slot _ = .holding _ r := by
      rcases hh.2 with hsl | hsl <;> exact ⟨_, hsl⟩
    exact kept_of_record hsl trivial rfl rfl (Edit.at_drop_of_eq rfl _)
      (.of_single (hs.bounds hsl).1) (next_next ⟨rfl, rfl⟩)
  | deployRemoved =>
    cases hg
    exact kept_of_removal hh
  | deployCommitted =>
    cases hg
    exact kept_of_insert hs hh.1
  | updateStarted hl hp =>
    cases hg
    obtain ⟨hl, _⟩ := owned_some hl
    have hu := planUpdate_transition hp
    obtain ⟨hb, r, hsl⟩ := hs.memory_bound hl
    have ho : UpdateOrigin _ _ := ⟨hh.1, hh.2, hb.key, hu.phase, hu.deleting, hu.named⟩
    have hpt := bound_transitioning ho
    exact kept_of_record hsl rfl hb.key (Edit.at_put_of_eq rfl _ _) (Edit.at_put_of_eq
      hb.key _ _) (.of_pair hpt hpt) (next_next ⟨rfl, ho, rfl⟩)
  | updateFailed =>
    cases hg
    exact kept_of_call hs (next_next ⟨rfl, hh⟩)
  | updateSaved =>
    cases hg
    obtain ⟨ho, hsl⟩ := hh
    have hb := (hs.bounds hsl).1
    refine kept_of_record hsl trivial ho.grantKey rfl (Edit.at_put_of_eq ho.grantKey _ _)
      (.of_pair hb ⟨ho.grantKey, ?_⟩) fun t' h => ?_
    · intro _ _ _ h
      cases h
    cases h
    exact ⟨rfl, ho, rfl, rfl, rfl, by funext d; cases d <;> rfl⟩
  | rollbackSaved =>
    cases hg
    obtain ⟨ho, hsl⟩ := hh
    have hb := (hs.bounds hsl).1
    exact kept_of_record hsl trivial ho.key rfl (Edit.at_put_of_eq ho.key _ _) (.of_pair hb
      ho.bound) (next_next ⟨rfl, ho, rfl⟩)
  | rolledBack =>
    cases hg
    obtain ⟨ho, hsl⟩ := hh
    exact kept_of_record hsl ho.key trivial (Edit.at_put_of_eq ho.key _ _) rfl
      (.of_pair ho.bound ho.bound) done_next
  | updateCommitted =>
    cases hg
    exact kept_of_insert hs hh.2.1
  | deleteNeedsCleanup hl hc =>
    cases hg
    obtain ⟨_, hr⟩ := hs.memory_bound (owned_some hl).1
    exact kept_of_call hs (next_next ⟨rfl, hc, hr⟩)
  | deleteFound hl hc hu =>
    cases hg
    obtain ⟨_, hr⟩ := hs.memory_bound (owned_some hl).1
    exact kept_of_call hs (next_next ⟨rfl, hc, hu, hr⟩)
  | deleteCleanupDone =>
    cases hg
    obtain ⟨_, r, hsl⟩ := hh
    have hb := (hs.bounds hsl).1
    exact kept_of_record (d := none) hsl trivial hb.key rfl (Edit.at_drop_of_eq hb.key _)
      (.of_single hb) (next_next ⟨rfl, _, rfl⟩)
  | deleteUnsaved hl =>
    cases hg
    obtain ⟨hc, hu, r, hsl⟩ := hh
    have hcr := memory_of_slot hsl hl
    subst hcr
    obtain ⟨hm, hr⟩ := hs.bounds hsl
    exact kept_of_record hsl rfl trivial (Edit.at_put_of_eq rfl _ _) rfl (.holding (hm.marked
      true) hr) (next_next ⟨rfl, hc, hu, r, rfl⟩)
  | deleteMarked hl =>
    cases hg
    obtain ⟨hc, hu, r, hsl⟩ := hh
    have hcr := memory_of_slot hsl hl
    subst hcr
    have hm := (hs.bounds hsl).1
    exact kept_of_record hsl rfl hm.key (Edit.at_put_of_eq rfl _ _) (Edit.at_put_of_eq hm.key _
      _) (.of_pair (hm.marked true) (hm.marked true)) (next_next ⟨rfl, hc, hu, rfl⟩)
  | deleteUnmarked hl =>
    cases hg
    obtain ⟨_, _, r, hsl⟩ := hh
    have hcr := memory_of_slot hsl hl
    subst hcr
    obtain ⟨hm, hr⟩ := hs.bounds hsl
    exact kept_of_record hsl rfl trivial (Edit.at_put_of_eq rfl _ _) rfl
      (.holding (hm.marked false) hr) done_next
  | deleteRemoving =>
    cases hg
    obtain ⟨_, _, hsl⟩ := hh
    have hm := (hs.bounds hsl).1
    exact kept_of_record (d := none) hsl trivial rfl rfl (Edit.at_drop_of_eq rfl _) (.of_single
      hm) (next_next ⟨rfl, _, rfl⟩)
  | deleteRestoring =>
    cases hg
    obtain ⟨hc, hu, hsl⟩ := hh
    have hm := (hs.bounds hsl).1
    exact kept_of_record (d := some _) hsl trivial hm.key rfl (Edit.at_put_of_eq hm.key _ _)
      (.of_pair hm ⟨hm.key, hm.update⟩) (next_next ⟨rfl, hc, hu, rfl⟩)
  | deleteRemoved =>
    cases hg
    obtain ⟨m, hsl⟩ := hh
    exact kept_of_removal hsl
  | deleteRestored =>
    cases hg
    exact kept_of_insert hs hh.2.2
  | _ => exact kept_of_call hs done_next

inductive Unguarded (n : Node) (e : Effect) (after : After) : Prop
  | still : e.memory = .keep → e.disk = .keep → e.mutations = n.mutations →
      (∀ t', after = .next t' → t'.guard = none) → Unguarded n e after
  | acquired : e.memory = .keep → e.disk = .keep → n.mutations.lookup workloadId = none →
      e.mutations = n.mutations.insert workloadId .lifecycle → after = .next t' →
      t'.guard = some (workloadId, .lifecycle) → (∀ s, t'.Holds s) → Unguarded n e after

theorem PollCase.unguarded (hc : PollCase h i n t e after) (hg : t.guard = none) :
    Unguarded n e after := by
  have hq {after} (hn : ∀ t', after = .next t' → t'.guard = none) :
      Unguarded n (.quiet n) after := .still rfl rfl rfl hn
  cases hc with
  | admitted => exact .still rfl rfl rfl done_next
  | guardWait =>
    refine hq fun t' h => ?_
    cases h
    exact hg
  | ended => exact hq done_next
  | enrolled => exact hq quit_next
  | deployGuarded hf | deleteGuarded hf =>
    exact .acquired rfl rfl hf rfl rfl rfl fun _ => trivial
  | updateGuarded hf hm =>
    obtain ⟨hw, hns, _⟩ := updateManifest_ok hm
    exact .acquired rfl rfl hf rfl rfl rfl fun _ => ⟨hw, hns⟩
  | deleteRequested | operationStarted =>
    refine hq fun t' h => ?_
    cases h
    rfl
  | _ => cases hg

end Podmesh
