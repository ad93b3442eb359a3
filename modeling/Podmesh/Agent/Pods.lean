import Podmesh.Agent.Guarded
import Podmesh.Agent.Reference

namespace Podmesh

variable {h : Host} {i : Input} {n : Node}

/-- The runtime identity of a record is the pod name that its grant's manifest determines. -/
structure StoredWorkload.Named (h : Host) (r : StoredWorkload) : Prop where
  nonempty : r.runtimeId ≠ ""
  target : ∀ execution manifest measured,
    h.grantManifest r.grant = .ok (execution, manifest, measured) →
    h.runtime.targetId ⟨r.grant.workloadId, r.grant.namespaceId, manifest⟩ = .ok r.runtimeId

structure SamePod (c m : StoredWorkload) : Prop where
  grant : c.grant = m.grant
  runtimeId : c.runtimeId = m.runtimeId

theorem SamePod.refl (m : StoredWorkload) : SamePod m m := ⟨rfl, rfl⟩

theorem SamePod.named (hc : SamePod c m) (hm : m.Named h) : c.Named h where
  nonempty := by
    rw [hc.runtimeId]
    exact hm.nonempty
  target := by
    rw [hc.grant, hc.runtimeId]
    exact hm.target

/-- The records of a workload are named, and memory and disk name the same pod. -/
structure Slot.Named (h : Host) (s : Slot) : Prop where
  memory : ∀ m, s.memory = some m → m.Named h
  disk : ∀ r, s.disk = some (some r) → r.Named h
  same : ∀ m r, s.memory = some m → s.disk = some (some r) → r.runtimeId = m.runtimeId

inductive PodStep (pods pods' : PodMap) (d d' : Option (Option StoredWorkload)) : Prop
  | kept : (∀ name pod, pods'.lookup name = some pod → (pods.lookup name).isSome) →
      (∀ r, d = some (some r) → ∃ r', d' = some (some r') ∧ r'.runtimeId = r.runtimeId) →
      PodStep pods pods' d d'
  | deployed : pods' = pods.insert name pod → d' = some (some r') → r'.runtimeId = name →
      (∀ r, d = some (some r) → r.runtimeId = name) → PodStep pods pods' d d'
  | deleted : pods' = pods.erase name → (∀ r, d = some (some r) → r.runtimeId = name) →
      PodStep pods pods' d d'

def Covered (pods : PodMap) (workloads : AList fun _ : String => Option StoredWorkload) : Prop :=
  ∀ name pod, pods.lookup name = some pod →
    ∃ k r, workloads.lookup k = some (some r) ∧ r.runtimeId = name

theorem PodStep.covered (hc : Covered pods workloads)
    (hs : PodStep pods pods' (workloads.lookup wid) (workloads'.lookup wid))
    (ho : ∀ k, k ≠ wid → workloads'.lookup k = workloads.lookup k) : Covered pods' workloads' := by
  intro name pod hpd
  cases hs with
  | kept hsb hd =>
    obtain ⟨pod', hp'⟩ := Option.isSome_iff_exists.1 (hsb name pod hpd)
    obtain ⟨k, r, hk, hr⟩ := hc name pod' hp'
    by_cases hne : k = wid
    · subst hne
      obtain ⟨r', hr', hid⟩ := hd r hk
      exact ⟨k, r', hr', hid.trans hr⟩
    · exact ⟨k, r, (ho k hne).trans hk, hr⟩
  | @deployed _ _ r' hp hd hid hol =>
    subst hp
    rcases Assoc.lookup_insert_cases hpd with ⟨hn, _⟩ | ⟨hne, hpd⟩
    · exact ⟨wid, r', hd, hid.trans hn.symm⟩
    · obtain ⟨k, r, hk, hr⟩ := hc name pod hpd
      refine ⟨k, r, (ho k ?_).trans hk, hr⟩
      rintro rfl
      exact hne (hr.symm.trans (hol r hk))
  | deleted hp hol =>
    subst hp
    obtain ⟨hne, hpd⟩ := Assoc.lookup_of_erase hpd
    obtain ⟨k, r, hk, hr⟩ := hc name pod hpd
    refine ⟨k, r, (ho k ?_).trans hk, hr⟩
    rintro rfl
    exact hne (hr.symm.trans (hol r hk))

theorem pods_sub_refl (pods : PodMap) (name : String) (pod : Pod)
    (hp : pods.lookup name = some pod) : (pods.lookup name).isSome :=
  Option.isSome_iff_exists.2 ⟨pod, hp⟩

theorem Deleted.sub (hd : Deleted tgt pods pods') (name : String) (pod : Pod)
    (hp : pods'.lookup name = some pod) : (pods.lookup name).isSome := by
  rcases hd with rfl | rfl
  · exact pods_sub_refl _ name pod hp
  · exact Option.isSome_iff_exists.2 ⟨pod, (Assoc.lookup_of_erase hp).2⟩

structure PodsKept (h : Host) (pods pods' : PodMap) (s s' : Slot) : Prop where
  named : s'.Named h
  step : PodStep pods pods' s.disk s'.disk

theorem named_edit {s s' : Slot} (hs : s.Named h) (hm : s.memory = some m)
    (hmm : ∀ c, s'.memory = some c → SamePod c m)
    (hd : ∀ r, s'.disk = some (some r) → s.disk = some (some r) ∨ SamePod r m) : s'.Named h where
  memory c hc := (hmm c hc).named (hs.memory m hm)
  disk r hr := by
    rcases hd r hr with ho | hsm
    · exact hs.disk r ho
    · exact hsm.named (hs.memory m hm)
  same c r hc hr := by
    rw [(hmm c hc).runtimeId]
    rcases hd r hr with ho | hsm
    · exact hs.same m r hm ho
    · exact hsm.runtimeId

theorem named_holding (hm : m.Named h) (hr : r.Named h) (hs : r.runtimeId = m.runtimeId) :
    (Slot.holding m (some r)).Named h where
  memory c hc := by
    cases hc
    exact hm
  disk d hd := by
    cases hd
    exact hr
  same c d hc hd := by
    cases hc
    cases hd
    exact hs

theorem podsKept_same (hs : s.Named h)
    (hsb : ∀ name pod, pods'.lookup name = some pod → (pods.lookup name).isSome) :
    PodsKept h pods pods' s s :=
  ⟨hs, .kept hsb fun r hr => ⟨r, hr, rfl⟩⟩

/-- A deployment that goes through is a pod of the given name. -/
def Host.Keeps (h : Host) (d : WorkloadDeployment) (name : String) : Prop :=
  ∀ target, h.runtime.targetId d = .ok target → target = name

theorem Host.keeps_of_target (ht : h.runtime.targetId d = .ok name) : h.Keeps d name := by
  intro tgt htr
  rw [ht] at htr
  cases htr
  rfl

theorem podStep_deployed (hds : d = some (some r)) (hd' : d' = some (some r'))
    (hid : r'.runtimeId = r.runtimeId) (hd : Deployed h i dep pods pods')
    (ht : i.effective = true → h.Keeps dep r.runtimeId) : PodStep pods pods' d d' := by
  rcases hd with rfl | ⟨he, target, pod, htr, rfl⟩
  · refine .kept (pods_sub_refl _) fun r₀ hr₀ => ⟨r', hd', ?_⟩
    rw [hds] at hr₀
    cases hr₀
    exact hid
  · have hn := ht he target htr
    subst hn
    refine .deployed rfl hd' hid fun r₀ hr₀ => ?_
    rw [hds] at hr₀
    cases hr₀
    rfl

theorem podsKept_deployed (hds : s.disk = some (some r)) (hs' : s'.Named h)
    (hd' : s'.disk = some (some r')) (hid : r'.runtimeId = r.runtimeId)
    (hd : Deployed h i dep pods pods')
    (ht : i.effective = true → h.Keeps dep r.runtimeId) : PodsKept h pods pods' s s' :=
  ⟨hs', podStep_deployed hds hd' hid hd ht⟩

variable {n : Node}

theorem podsKept_edit (hsl : n.slot wid = .holding m r)
    (hs : (n.slot wid).Named h)
    (hm : ∀ c, memory.at wid (some m) = some c → SamePod c m)
    (hds : disk.at wid (r.map some) = r.map some ∨
      ∃ d, disk.at wid (r.map some) = some (some d) ∧ SamePod d m)
    (hsb : ∀ name pod, pods'.lookup name = some pod → (n.pods.lookup name).isSome) :
    PodsKept h n.pods pods' (n.slot wid)
      ((n.slot wid).after (.record n memory disk pods') wid) := by
  rw [hsl] at hs ⊢
  refine ⟨named_edit hs (m := m) rfl hm fun d hd => ?_, .kept hsb fun d hd => ?_⟩
  · rcases hds with hk | ⟨d', hd', hsm⟩
    · exact .inl (hk.symm.trans hd)
    · have heq : some (some d') = some (some d) := hd'.symm.trans hd
      cases heq
      exact .inr hsm
  · rcases hds with hk | ⟨d', hd', hsm⟩
    · exact ⟨d, hk.trans hd, rfl⟩
    · exact ⟨d', hd', hsm.runtimeId.trans (hs.same m d rfl hd).symm⟩

theorem podsKept_removed (hsl : n.slot wid = .holding m r)
    (hs : (n.slot wid).Named h) (hk : key = wid) (ht : tgt = m.runtimeId) :
    PodsKept h n.pods (n.pods.erase tgt) (n.slot wid)
      ((n.slot wid).after (.record n .keep (.drop key) (n.pods.erase tgt))
        wid) := by
  rw [hsl] at hs ⊢
  have hg : ((Slot.holding m r).after (.record n .keep (.drop key) (n.pods.erase tgt))
      wid).disk = none := Edit.at_drop_of_eq hk _
  refine ⟨named_edit hs (m := m) rfl ?_ fun d hd => ?_, .deleted rfl fun d hd => ?_⟩
  · intro c hc
    cases hc
    exact .refl _
  · rw [hg] at hd
    cases hd
  · rw [ht]
    exact hs.same m d rfl hd

theorem podsKept_forgotten (hs : n.slot wid = .holding m none) :
    PodsKept h n.pods n.pods (n.slot wid)
      ((n.slot wid).after (.record n (.drop wid) .keep n.pods) wid) := by
  have ha : (n.slot wid).after (.record n (.drop wid) .keep n.pods) wid =
      ⟨none, none, false⟩ := by
    rw [hs]
    simp [Slot.after, Effect.record, Slot.holding]
  rw [ha]
  refine ⟨⟨?_, ?_, ?_⟩, .kept (pods_sub_refl _) ?_⟩
  · intro m hm
    cases hm
  · intro r hr
    cases hr
  · intro m r hm
    cases hm
  · intro r hr
    rw [hs] at hr
    cases hr

theorem podsKept_inserted (hsl : n.slot wid = .holding m (some r))
    (hs : (n.slot wid).Named h) (hk : key = wid) :
    PodsKept h n.pods n.pods (n.slot wid)
      ((n.slot wid).after (.record n (.put key r) .keep n.pods) wid) := by
  have ha : (n.slot wid).after (.record n (.put key r) .keep n.pods) wid =
      .holding r (some r) := by
    rw [hsl]
    simp [Slot.after, Effect.record, Slot.holding, Edit.at_put_of_eq hk]
  rw [hsl] at hs
  have hr : r.Named h := hs.disk r rfl
  rw [ha, hsl]
  exact ⟨named_holding hr hr rfl, .kept (pods_sub_refl _) fun r' hr' => ⟨r', hr', rfl⟩⟩

theorem runtimeDeploy_ok (hd : (runtimeDeploy h i d n).2 = .ok rid)
    (hi : ∀ other, i.reply ≠ .other other) :
    h.runtime.targetId d = .ok rid ∧ i.effective = true := by
  unfold runtimeDeploy at hd
  split at hd
  · cases hd
  · next tgt ht =>
    simp only [runtimeCall] at hd
    unfold Input.effective
    cases hr : i.reply with
    | ok =>
      rw [hr] at hd
      cases hd
      exact ⟨ht, rfl⟩
    | other other => exact absurd hr (hi other)
    | failed m | unknown m =>
      rw [hr] at hd
      cases hd

theorem cleanupTarget_eq (hr : r.Named h) (ht : h.cleanupTarget r = .ok tgt) :
    tgt = r.runtimeId := by
  rw [Host.cleanupTarget, if_neg hr.nonempty] at ht
  cases ht
  rfl

theorem rollbackDeployment_keeps (hr : r.Named h) (hd : rollbackDeployment h r = .ok dep) :
    h.Keeps dep r.runtimeId := by
  simp only [rollbackDeployment, bind_ok, pure, Except.pure, Except.ok.injEq] at hd
  obtain ⟨⟨exe, manifest, ms⟩, hg, rfl⟩ := hd
  exact Host.keeps_of_target (hr.target exe manifest ms hg)

theorem named_of_prepared (hp : (Task.deployRuntime now st dep).Prepared h) : st.Named h := by
  obtain ⟨ht, hn, execution, measured, hg, hd⟩ := hp
  refine ⟨hn, fun execution' man' measured' hg' => ?_⟩
  rw [hg] at hg'
  cases hg'
  rw [← hd]
  exact ht

theorem podsKept_updated (ho : UpdateOrigin req act)
    (hsl : n.slot req.workloadId = .holding (transitioning req act) (some (transitioning req act)))
    (hs : (n.slot req.workloadId).Named h)
    (hp : (Task.updateRuntime now req exe act dep).Prepared h)
    (hd : Deployed h i dep n.pods pods)
    (hdp : (runtimeDeploy h i dep n).2 = .ok rid)
    (hi : ∀ oth, i.reply ≠ .other oth)
    (ht : i.effective = true → h.Keeps dep act.runtimeId) :
    PodsKept h n.pods pods (n.slot req.workloadId)
      ((n.slot req.workloadId).after (.record n .keep (.put req.grant.workloadId
        (some (updatedWorkload req exe rid))) pods) req.workloadId) := by
  obtain ⟨htr, he⟩ := runtimeDeploy_ok hdp hi
  have hsm : rid = act.runtimeId := ht he rid htr
  have ha : (n.slot req.workloadId).after (.record n .keep (.put req.grant.workloadId
      (some (updatedWorkload req exe rid))) pods) req.workloadId =
      .holding (transitioning req act)
        (some (updatedWorkload req exe rid)) := by
    rw [hsl]
    simp [Slot.after, Effect.record, Slot.holding, Edit.at_put_of_eq ho.grantKey]
  rw [hsl] at hs
  have hol := hs.memory _ rfl
  have hn : (updatedWorkload req exe rid).Named h := by
    refine ⟨?_, fun exe' man' measured' hg' => ?_⟩
    · rw [updatedWorkload, hsm]
      exact ho.named
    · obtain ⟨hdc, hsb, measured, hm⟩ := hp
      rw [← ho.grantKey, ← ho.grantNamespace] at hm
      have hg := grantManifest_of_decode hdc hm
      have hg'' : h.grantManifest req.grant = .ok (exe', man', measured') := hg'
      rw [hg] at hg''
      cases hg''
      rw [hsb, ← ho.grantKey, ← ho.grantNamespace] at htr
      exact htr
  rw [ha, hsl]
  exact podsKept_deployed (r := transitioning req act) rfl
    (named_holding hol hn hsm) rfl hsm hd ht

theorem podsKept_saved (hsl : n.slot wid = .holding m (some r))
    (hs : (n.slot wid).Named h) (hk : key = wid) (hc : SamePod c m)
    (hd : Deployed h i dep n.pods pods) (ht : h.Keeps dep m.runtimeId) :
    PodsKept h n.pods pods (n.slot wid)
      ((n.slot wid).after (.record n .keep (.put key (some c)) pods) wid) := by
  have ha : (n.slot wid).after (.record n .keep (.put key (some c)) pods) wid =
      .holding m (some c) := by
    rw [hsl]
    simp [Slot.after, Effect.record, Slot.holding, Edit.at_put_of_eq hk]
  rw [hsl] at hs
  have hm := hs.memory m rfl
  have hr : r.runtimeId = m.runtimeId := hs.same m r rfl rfl
  rw [ha, hsl]
  refine podsKept_deployed (r := r) rfl (named_holding hm (hc.named hm) hc.runtimeId) rfl
    (hc.runtimeId.trans hr.symm) hd fun _ => ?_
  rw [hr]
  exact ht

theorem podsKept_called (hsl : n.slot wid = .holding m (some r)) (hs : (n.slot wid).Named h)
    (hd : Deployed h i dep n.pods pods) (ht : i.effective = true → h.Keeps dep m.runtimeId) :
    PodsKept h n.pods pods (n.slot wid) (n.slot wid) := by
  rw [hsl] at hs ⊢
  have hr : r.runtimeId = m.runtimeId := hs.same m r rfl rfl
  refine podsKept_deployed (r := r) rfl hs rfl rfl hd fun he => ?_
  rw [hr]
  exact ht he

def KeepsName (h : Host) (i : Input) (t : Task) : Prop :=
  ∀ now request execution active deployment,
    t = .updateRuntime now request execution active deployment → i.effective = true →
    h.Keeps deployment active.runtimeId

theorem PollCase.podsKept (hc : PollCase h i n t e after) (hg : t.guard = some (wid, o))
    (hs : (n.slot wid).Sound wid) (hh : t.Holds (n.slot wid)) (hp : t.Prepared h)
    (hq : wid ∈ n.state.quarantined → n.state.reservations = ∅) (hn : (n.slot wid).Named h)
    (hi : ∀ oth, i.reply ≠ .other oth) (ht : KeepsName h i t) :
    PodsKept h n.pods e.pods (n.slot wid) ((n.slot wid).after e wid) := by
  have hk := hc.kept hg hs hh hq
  have hpr : ∀ t', after = .next t' → t'.Prepared h := by
    rintro t' rfl
    exact hc.prepared hp
  cases hc with
  | deployStarted _ hpl =>
    have hnx := (hk.next _ rfl).2
    cases hg
    have hnm := named_of_prepared (hpr _ rfl)
    have hm : (n.slot _).memory = none := (planDeployment_ok hpl).absent
    rw [hnx.1]
    refine ⟨named_holding hnm hnm rfl, .kept (pods_sub_refl _) fun r hr => ?_⟩
    generalize n.slot _ = s at hs hm hr
    cases hs with
    | empty | unreadable => cases hr
    | holding => cases hm
  | deployFailed hd | deployUnsaved hd =>
    cases hg
    exact podsKept_called hh.1 hn hd fun _ => Host.keeps_of_target hp.1
  | deploySaved hd =>
    cases hg
    exact podsKept_saved hh.1 hn rfl ⟨rfl, rfl⟩ hd (Host.keeps_of_target hp.1)
  | failRecorded hds =>
    cases hg
    refine podsKept_edit hh hn (fun c hc => ?_) ?_ (pods_sub_refl _)
    · rw [Edit.at_put] at hc
      cases hc
      exact ⟨rfl, rfl⟩
    · rcases hds with rfl | rfl
      · exact .inl rfl
      · exact .inr ⟨_, Edit.at_put, rfl, rfl⟩
  | cleanupFailed hd | deleteCleanupFailed hd | deleteStopped hd => exact podsKept_same hn hd.sub
  | cleanupDone =>
    cases hg
    obtain ⟨_, hsl | hsl⟩ := hh <;>
      exact podsKept_removed hsl hn rfl (cleanupTarget_eq (hn.memory _ (by rw [hsl]; rfl)) hp)
  | deployRemoved =>
    cases hg
    exact podsKept_forgotten hh
  | deployCommitted =>
    cases hg
    exact podsKept_inserted hh.1 hn rfl
  | updateStarted hl =>
    cases hg
    obtain ⟨hb, r, hsl⟩ := hs.memory_bound (owned_some hl).1
    refine podsKept_edit hsl hn (fun c hc => ?_) ?_ (pods_sub_refl _)
    · rw [Edit.at_put] at hc
      cases hc
      exact ⟨rfl, rfl⟩
    · exact .inr ⟨_, Edit.at_put_of_eq hb.key _ _, rfl, rfl⟩
  | updateAbandoned hd | updateFailed hd =>
    cases hg
    have hna := ht _ _ _ _ _ rfl
    exact podsKept_called hh.2 hn hd hna
  | updateSaved hd hdp =>
    cases hg
    exact podsKept_updated hh.1 hh.2 hn hp hd hdp hi (ht _ _ _ _ _ rfl)
  | rollbackFailed hd =>
    cases hg
    have ha := SamePod.named ⟨rfl, rfl⟩ (hn.memory _ (by rw [hh.2]; rfl))
    exact podsKept_called hh.2 hn hd fun _ => rollbackDeployment_keeps ha hp
  | rollbackSaved hd =>
    cases hg
    have ha := SamePod.named ⟨rfl, rfl⟩ (hn.memory _ (by rw [hh.2]; rfl))
    exact podsKept_saved hh.2 hn hh.1.key ⟨rfl, rfl⟩ hd (rollbackDeployment_keeps ha hp)
  | rolledBack =>
    cases hg
    exact podsKept_inserted hh.2 hn hh.1.key
  | updateCommitted =>
    cases hg
    exact podsKept_inserted hh.2.1 hn rfl
  | deleteCleanupDone =>
    cases hg
    obtain ⟨_, r, hsl⟩ := hh
    rw [hsl] at hs
    exact podsKept_removed hsl hn (Slot.Sound.holding_iff.1 hs).1.key
      (cleanupTarget_eq (hn.memory _ (by rw [hsl]; rfl)) hp)
  | deleteUnsaved hl | deleteUnmarked hl =>
    cases hg
    obtain ⟨_, r, hsl⟩ := hs.memory_bound hl
    refine podsKept_edit hsl hn (fun c hc => ?_) (.inl rfl) (pods_sub_refl _)
    rw [Edit.at_put] at hc
    cases hc
    exact ⟨rfl, rfl⟩
  | deleteMarked hl =>
    cases hg
    obtain ⟨hb, r, hsl⟩ := hs.memory_bound hl
    refine podsKept_edit hsl hn (fun c hc => ?_) ?_ (pods_sub_refl _)
    · rw [Edit.at_put] at hc
      cases hc
      exact ⟨rfl, rfl⟩
    · exact .inr ⟨_, Edit.at_put_of_eq hb.key _ _, rfl, rfl⟩
  | deleteRemoving he =>
    cases hg
    have ha := SamePod.named ⟨rfl, rfl⟩ (hn.memory _ (by rw [hh.2.2]; rfl))
    have hpd := he ha.nonempty
    subst hpd
    exact podsKept_removed hh.2.2 hn rfl rfl
  | deleteRestoring hd =>
    cases hg
    rw [hh.2.2] at hs
    refine podsKept_edit hh.2.2 hn (fun c hc => ?_) ?_ hd.sub
    · cases hc
      exact ⟨rfl, rfl⟩
    · exact .inr ⟨_, Edit.at_put_of_eq (Slot.Sound.holding_iff.1 hs).1.key _ _, rfl, rfl⟩
  | deleteRemoved =>
    cases hg
    obtain ⟨m, hsl⟩ := hh
    exact podsKept_forgotten hsl
  | deleteRestored =>
    cases hg
    exact podsKept_inserted hh.2.2 hn rfl
  | _ =>
    exact podsKept_same hn (pods_sub_refl _)

end Podmesh
