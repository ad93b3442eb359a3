import Podmesh.Agent.Manifests
import Podmesh.Agent.Orphans
import Podmesh.Agent.Provenance

namespace Podmesh

variable {h : Host} {i : Input} {n : Node} {w w' : World} {a : Action}

/-- The pod of a record in use, if it exists, runs the manifest of the record's grant. -/
def StoredWorkload.Faithful (h : Host) (pods : PodMap) (r : StoredWorkload) : Prop :=
  r.phase = .active → ∀ pod execution manifest measured, pods.lookup r.runtimeId = some pod →
    h.grantManifest r.grant = .ok (execution, manifest, measured) → pod.manifest = manifest

structure Slot.Faithful (h : Host) (pods : PodMap) (s : Slot) : Prop where
  memory : ∀ m, s.memory = some m → m.Faithful h pods
  disk : ∀ r, s.disk = some (some r) → r.Faithful h pods

def Slot.Uses (s : Slot) (name : String) : Prop :=
  (∃ m, s.memory = some m ∧ m.runtimeId = name) ∨ ∃ r, s.disk = some (some r) ∧ r.runtimeId = name

def World.Separate (w : World) : Prop :=
  ∀ k k' name, (w.node.slot k).Uses name → (w.node.slot k').Uses name → k = k'

theorem StoredWorkload.faithful_of_phase (hp : r.phase ≠ .active) :
    StoredWorkload.Faithful h pods r := fun ha => absurd ha hp

variable {s : Slot}

theorem Slot.Faithful.frame (hs : s.Faithful h pods)
    (hp : ∀ name pod, s.Uses name → pods'.lookup name = some pod → pods.lookup name = some pod) :
    s.Faithful h pods' where
  memory m hm ha pod exe man ms hpd :=
    hs.memory m hm ha pod exe man ms
      (hp m.runtimeId pod (.inl ⟨m, hm, rfl⟩) hpd)
  disk r hr ha pod exe man ms hpd :=
    hs.disk r hr ha pod exe man ms
      (hp r.runtimeId pod (.inr ⟨r, hr, rfl⟩) hpd)

/-- A record that is not in use, or that repeats one of the slot up to its deleting flag. -/
inductive Derives (s : Slot) (c : StoredWorkload) : Prop
  | idle : c.phase ≠ .active → Derives s c
  | memory : s.memory = some m → c.grant = m.grant → c.runtimeId = m.runtimeId →
      c.phase = m.phase → Derives s c
  | disk : s.disk = some (some r) → c.grant = r.grant → c.runtimeId = r.runtimeId →
      c.phase = r.phase → Derives s c

theorem Derives.faithful (hd : Derives s c) (hs : s.Faithful h pods)
    (hp : ∀ name pod, pods'.lookup name = some pod → pods.lookup name = some pod) :
    c.Faithful h pods' := by
  intro ha pod exe man ms hpd hgr
  cases hd with
  | idle hph => exact absurd ha hph
  | memory hm hg hid hph =>
    rw [hid] at hpd
    rw [hg] at hgr
    exact hs.memory _ hm (hph.symm.trans ha) pod exe man ms (hp _ _ hpd) hgr
  | disk hr hg hid hph =>
    rw [hid] at hpd
    rw [hg] at hgr
    exact hs.disk _ hr (hph.symm.trans ha) pod exe man ms (hp _ _ hpd) hgr

structure Repeats (s : Slot) (e : Effect) : Prop where
  memory : ∀ key v, e.memory = .put key v → Derives s v
  disk : ∀ key v, e.disk = .put key (some v) → Derives s v

theorem Repeats.faithful (hr : Repeats s e) (hs : s.Faithful h pods)
    (hp : ∀ name pod, pods'.lookup name = some pod → pods.lookup name = some pod) (k : String) :
    (s.after e k).Faithful h pods' where
  memory m hm := by
    obtain ⟨key, hpt⟩ | ho := Edit.at_cases hm
    · exact (hr.memory key m hpt).faithful hs hp
    · exact Derives.faithful (.memory ho rfl rfl rfl) hs hp
  disk r hd := by
    obtain ⟨key, hpt⟩ | ho := Edit.at_cases hd
    · exact (hr.disk key r hpt).faithful hs hp
    · exact Derives.faithful (.disk ho rfl rfl rfl) hs hp

theorem repeats_memory (hv : Derives s v) : Repeats s (.record n (.put key v) .keep pods) where
  memory key' v' he := by
    cases he
    exact hv
  disk key' v' he := by cases he

theorem repeats_drop : Repeats s (.record n (.drop key) .keep pods) :=
  ⟨fun _ _ he => (by cases he), fun _ _ he => (by cases he)⟩

theorem repeats_remove : Repeats s (.record n .keep (.drop key) pods) :=
  ⟨fun _ _ he => (by cases he), fun _ _ he => (by cases he)⟩

theorem repeats_both (hm : Derives s v) (hv : Derives s v') :
    Repeats s (.record n (.put key v) (.put key' (some v')) pods) where
  memory key' v' he := by
    cases he
    exact hm
  disk key' v' he := by
    cases he
    exact hv

theorem PollCase.repeats (hc : PollCase h i n t e after) (hg : t.guard = some (wid, o))
    (hh : t.Holds (n.slot wid)) (hd : t.deploys = none) : Repeats (n.slot wid) e := by
  cases hc with
  | deployFailed | deployUnsaved | deploySaved | updateAbandoned | updateFailed | updateSaved
  | rollbackFailed | rollbackSaved => cases hd
  | deployStarted _ hpl =>
    have hph := (planDeployment_ok hpl).phase
    have hi : ∀ s, Derives s _ := fun s => .idle (by rw [hph]; intro he; cases he)
    exact ⟨fun _ _ he => (by cases he; exact hi _), fun _ _ he => (by cases he; exact hi _)⟩
  | failRecorded hds =>
    refine ⟨fun _ _ he => ?_, fun _ _ he => ?_⟩
    · cases he
      exact .idle fun hp => by cases hp
    · rcases hds with rfl | rfl
      · cases he
      · cases he
        exact .idle fun hp => by cases hp
  | cleanupDone | deleteCleanupDone | deleteRemoving => exact repeats_remove
  | deployRemoved | deleteRemoved => exact repeats_drop
  | deployCommitted =>
    cases hg
    exact repeats_memory (.disk (congrArg Slot.disk hh.1) rfl rfl rfl)
  | updateStarted =>
    exact repeats_both (.idle fun hp => by cases hp) (.idle fun hp => by cases hp)
  | rolledBack =>
    cases hg
    exact repeats_memory (.disk (congrArg Slot.disk hh.2) rfl rfl rfl)
  | updateCommitted =>
    cases hg
    exact repeats_memory (.disk (congrArg Slot.disk hh.2.1) rfl rfl rfl)
  | deleteUnsaved hl | deleteUnmarked hl =>
    cases hg
    exact repeats_memory (.memory hl rfl rfl rfl)
  | deleteMarked hl =>
    cases hg
    exact repeats_both (.memory hl rfl rfl rfl) (.memory hl rfl rfl rfl)
  | deleteRestoring =>
    cases hg
    refine ⟨fun _ _ he => (by cases he), fun _ _ he => ?_⟩
    cases he
    exact .memory (congrArg Slot.memory hh.2.2) rfl rfl rfl
  | deleteRestored =>
    cases hg
    exact repeats_memory (.disk (congrArg Slot.disk hh.2.2) rfl rfl rfl)
  | _ => exact ⟨fun _ _ he => (by cases he), fun _ _ he => (by cases he)⟩

theorem Task.Holds.idle (hh : Task.Holds s t) (hd : t.deploys = some d) :
    (∀ m, s.memory = some m → m.phase ≠ .active) ∧
      ∀ r, s.disk = some (some r) → r.phase ≠ .active := by
  have hhl {m : StoredWorkload} (hs : s = .holding m (some m)) (hm : m.phase ≠ .active) :
      (∀ m, s.memory = some m → m.phase ≠ .active) ∧
        ∀ r, s.disk = some (some r) → r.phase ≠ .active := by
    subst hs
    refine ⟨fun c hc => ?_, fun r hr => ?_⟩
    · cases hc
      exact hm
    · cases hr
      exact hm
  cases t with
  | deployRuntime now st dep =>
    obtain ⟨hs, hp⟩ := hh
    exact hhl hs (by rw [hp]; intro he; cases he)
  | updateRuntime now req exe act dep
  | rollbackRuntime req act dep error =>
    exact hhl hh.2 fun he => by cases he
  | _ => cases hd

variable {r : StoredWorkload}

theorem faithful_of_deployed {pods : PodMap} {pod : Pod} (hid : r.runtimeId = tgt)
    (hm : pod.manifest = manifest)
    (hg : ∃ exe measured, h.grantManifest r.grant = .ok (exe, manifest, measured)) :
    r.Faithful h (pods.insert tgt pod) := by
  intro _ pod' exe' manifest' measured' hp hg'
  obtain ⟨exe, measured, hg⟩ := hg
  rw [hg] at hg'
  cases hg'
  rw [hid, AList.lookup_insert] at hp
  cases hp
  exact hm

theorem PollCase.deployed_faithful {pods : PodMap} (hc : PollCase h i n t e (.next t'))
    (hg : t.guard = some (wid, o)) (hh : t.Holds (n.slot wid)) (hp : t.Prepared h)
    (hi : ∀ oth, i.reply ≠ .other oth) (hn : (n.slot wid).Named h) (hd : t.deploys = some d)
    (ht : h.runtime.targetId d = .ok tgt) (hpd : pod.manifest = d.manifest)
    (hv : e.disk = .put key (some v)) : v.Faithful h (pods.insert tgt pod) := by
  cases hc with
  | deploySaved =>
    cases hd
    cases hv
    obtain ⟨htr, _, execution, measured, hgr, _⟩ := hp
    rw [ht] at htr
    cases htr
    exact faithful_of_deployed rfl hpd ⟨execution, measured, hgr⟩
  | updateSaved _ hok =>
    cases hd
    cases hv
    cases hg
    obtain ⟨hdc, hs, measured, hm⟩ := hp
    obtain ⟨htr, _⟩ := runtimeDeploy_ok hok hi
    rw [ht] at htr
    cases htr
    rw [← hh.1.grantKey, ← hh.1.grantNamespace] at hm
    exact faithful_of_deployed rfl hpd ⟨_, measured, grantManifest_of_decode hdc hm⟩
  | rollbackSaved =>
    cases hd
    cases hv
    cases hg
    have ha := SamePod.named ⟨rfl, rfl⟩ (hn.memory _ (by rw [hh.2]; rfl))
    have hnm := rollbackDeployment_keeps ha hp tgt ht
    have hpl : rollbackDeployment h _ = .ok _ := hp
    simp only [rollbackDeployment, bind_ok, pure, Except.pure, Except.ok.injEq] at hpl
    obtain ⟨⟨execution, manifest, measured⟩, hgr, rfl⟩ := hpl
    exact faithful_of_deployed hnm.symm hpd ⟨execution, measured, hgr⟩
  | deployFailed | deployUnsaved | updateFailed => cases hv
  | guardWait hnn =>
    rw [hg] at hnn
    cases hnn
  | _ => cases hd

theorem PollCase.deploys_writes (hc : PollCase h i n t e after) (hd : t.deploys = some d) :
    e.memory = .keep ∧ (e.disk = .keep ∨ ∃ t', after = .next t' ∧ t'.commits = true) := by
  cases hc with
  | deployFailed | deployUnsaved | updateAbandoned | updateFailed | rollbackFailed
  | guardWait | ended | enrolled =>
    exact ⟨rfl, .inl rfl⟩
  | deploySaved | updateSaved | rollbackSaved => exact ⟨rfl, .inr ⟨_, rfl, rfl⟩⟩
  | _ => cases hd

theorem poll_faithful (hg : t.guard = some (wid, o))
    (hh : t.Holds (n.slot wid)) (hp : t.Prepared h) (hn : (n.slot wid).Named h)
    (hi : ∀ oth, i.reply ≠ .other oth) (hf : (n.slot wid).Faithful h n.pods) :
    ((poll h i n t).1.slot wid).Faithful h (poll h i n t).1.pods := by
  obtain ⟨e, hdo, hc⟩ := poll_explains h i n t
  have hch := poll_change h i n t
  rw [hdo.slot]
  cases hd : t.deploys with
  | none =>
    exact (hc.repeats hg hh hd).faithful hf (hch.shrinks_of_none hd) wid
  | some d =>
    obtain ⟨hmm, hds⟩ := hh.idle hd
    obtain ⟨hk, hw⟩ := hc.deploys_writes hd
    refine ⟨fun m hm => ?_, fun r hr => ?_⟩
    · rw [Slot.after, hk] at hm
      exact StoredWorkload.faithful_of_phase (hmm m hm)
    · obtain ⟨key, hpt⟩ | ho := Edit.at_cases hr
      · obtain hnn | ⟨t', hnx, hcm⟩ := hw
        · rw [hnn] at hpt
          cases hpt
        · obtain ⟨tgt, pod, ht, hpo, hpd⟩ := poll_runs hd hnx hcm
          rw [hnx] at hc
          rw [hpd]
          exact hc.deployed_faithful hg hh hp hi hn hd ht hpo hpt
      · exact StoredWorkload.faithful_of_phase (hds r ho)

theorem World.Running.uses_deployed (hw : w.Running h) (hn : ∀ k, (w.node.slot k).Named h)
    (hl : w.tasks.lookup task = some t) (hg : t.guard = some (wid, o))
    (hd : t.deploys = some d) (ht : h.runtime.targetId d = .ok target)
    (hk : ∀ now req exe act dep, t = .updateRuntime now req exe act dep →
      h.Keeps dep act.runtimeId) : (w.node.slot wid).Uses target := by
  have hh := hw.holds task t wid o hl hg
  have hp := hw.prepared task t hl
  cases t with
  | deployRuntime now st dep =>
    cases hd
    have hnm := hp.1
    rw [ht] at hnm
    cases hnm
    exact .inl ⟨st, congrArg Slot.memory hh.1, rfl⟩
  | updateRuntime now req exe act dep =>
    cases hd
    have hnm := hk _ _ _ _ _ rfl target ht
    exact .inl ⟨_, congrArg Slot.memory hh.2, hnm.symm⟩
  | rollbackRuntime req act dep error =>
    cases hd
    have ha := SamePod.named ⟨rfl, rfl⟩
      ((hn wid).memory _ (congrArg Slot.memory hh.2))
    have hnm := rollbackDeployment_keeps ha hp target ht
    exact .inl ⟨_, congrArg Slot.memory hh.2, hnm.symm⟩
  | _ => cases hd

theorem Task.guard_of_calls {t : Task} (hg : t.guard = none) :
    t.deploys = none ∧ t.deletes = none := by
  cases t with
  | deployRuntime | updateRuntime | rollbackRuntime | deployCleanup
  | deleteCleanup | deleteRuntime => cases hg
  | _ => exact ⟨rfl, rfl⟩

theorem Task.guard_of_deploys {t : Task} (hd : t.deploys = some d) :
    ∃ wid o, t.guard = some (wid, o) := by
  cases t with
  | deployRuntime | updateRuntime | rollbackRuntime => exact ⟨_, _, rfl⟩
  | _ => cases hd

def World.Faithful (h : Host) (w : World) : Prop :=
  ∀ k, (w.node.slot k).Faithful h w.node.pods

theorem World.Faithful.of_node (hf : w.Faithful h) (hs : ∀ k, w'.node.slot k = w.node.slot k)
    (hp : w'.node.pods = w.node.pods) : w'.Faithful h := by
  intro k
  rw [hs k, hp]
  exact hf k

theorem World.Idle.memory (hw : w.Idle) : (w.node.slot k).memory ≠ some m := by
  intro hm
  have hl : w.node.state.active.lookup k = some m := hm
  rw [hw.state] at hl
  cases hl

theorem World.Faithful.of_idle (hf : w.Faithful h) (hi : w'.Idle)
    (hs : w'.node.store.workloads = w.node.store.workloads)
    (hp : w'.node.pods = w.node.pods) : w'.Faithful h := by
  intro k
  refine ⟨fun m hm => absurd hm hi.memory, fun r hr => ?_⟩
  rw [hp]
  have hd : w'.node.store.workloads.lookup k = some (some r) := hr
  rw [hs] at hd
  exact (hf k).disk r hd

theorem World.Separate.of_uses (hs : w.Separate)
    (hu : ∀ k name, (w'.node.slot k).Uses name → (w.node.slot k).Uses name) : w'.Separate :=
  fun k k' name hk hk' => hs k k' name (hu k name hk) (hu k' name hk')

theorem World.Separate.frame (hs : w.Separate) (hf : w.Faithful h)
    (hc : PodChange h deploys deletes effective w.node.pods pods)
    (hd : ∀ d tgt, deploys = some d → effective = true → h.runtime.targetId d = .ok tgt →
      (w.node.slot wid).Uses tgt)
    (hne : k ≠ wid) : (w.node.slot k).Faithful h pods := by
  apply (hf k).frame
  intro name pod hu
  apply hc.shrinks
  intro d hdp he ht
  exact hne (hs k wid name hu (hd d name hdp he ht))

theorem World.Faithful.polled (hf : w.Faithful h) (hi : w.Inv h) (hh : w.Housed h)
    (hsp : w.Separate) (hok : podNamesKept h w (.poll task i) = true)
    (hl : w.tasks.lookup task = some t) :
    (w.advance task (some t) (poll h i w.node t)).Faithful h := by
  have hr := hi.running hl
  have hw := hi.up hr
  obtain ⟨e, hds, hc⟩ := poll_explains h i w.node t
  have hch := poll_change h i w.node t
  have hn := hh.slots hr
  intro k
  rw [World.advance_slot, World.advance_pods]
  cases hg : t.guard with
  | none =>
    obtain ⟨hd, hx⟩ := Task.guard_of_calls hg
    have hs := hw.elsewhere (k := k) hl hds hc (by rw [hg]; intro he; cases he)
    rw [hd, hx] at hch
    rw [hs, hch.idle]
    exact hf k
  | some g =>
    obtain ⟨wid, o⟩ := g
    simp only [podNamesKept, hl, Bool.and_eq_true] at hok
    obtain ⟨hp, hnm⟩ := hok
    by_cases hne : k = wid
    · subst hne
      exact poll_faithful hg (hw.holds task t k o hl hg) (hw.prepared task t hl) (hn k)
        (Input.plain_reply hp) (hf k)
    · have hs := hw.elsewhere (k := k) hl hds hc (by
        rw [hg]
        intro he
        cases he
        exact hne rfl)
      rw [hs]
      apply hsp.frame hf hch _ hne
      intro d tgt hd hef ht
      apply hw.uses_deployed hn hl hg hd ht
      rintro now req exe act dep rfl
      simp only [hef, Bool.not_true, Bool.false_or] at hnm
      exact Host.keeps_of_keepsName hnm

theorem World.Faithful.called (hf : w.Faithful h) (hi : w.Inv h) (hh : w.Housed h) (hs : w.Separate)
    (hok : podNamesKept h w (.effect task i) = true) (hl : w.tasks.lookup task = some t)
    (hc : PodChange h t.deploys t.deletes true w.node.pods pods) :
    World.Faithful h { w with node := { w.node with pods } } := by
  have hrn := hi.running hl
  have hw := hi.up hrn
  have hn := hh.slots hrn
  intro k
  cases hd : t.deploys with
  | none =>
    exact (hf k).frame fun name pod _ => hc.shrinks_of_none hd name pod
  | some d =>
    obtain ⟨wid, o, hg⟩ := Task.guard_of_deploys hd
    by_cases hne : k = wid
    · subst hne
      obtain ⟨hmm, hds⟩ := (hw.holds task t k o hl hg).idle hd
      exact ⟨fun m hm => StoredWorkload.faithful_of_phase (hmm m hm),
        fun r hr => StoredWorkload.faithful_of_phase (hds r hr)⟩
    · apply hs.frame hf hc _ hne
      intro d tgt hd _ ht
      apply hw.uses_deployed hn hl hg hd ht
      rintro now req exe act dep rfl
      simp only [podNamesKept, hl] at hok
      exact Host.keeps_of_keepsName hok

variable {t : RestoreTask}

theorem RestoreTask.stored_faithful (hf : t.stored.Faithful h pods)
    (ht : t.Holds h) (hn : t.stored.Named h)
    (hc : PodChange h t.deploys t.deletes effective pods pods') : t.stored.Faithful h pods' := by
  have hk (hd : t.deploys = none) : t.stored.Faithful h pods' :=
    fun ha pod exe man measured hpd =>
      hf ha pod exe man measured (hc.shrinks_of_none hd _ pod hpd)
  cases t with
  | update st req exe dep =>
    obtain ⟨⟨prev, rid, hp⟩, _⟩ := ht
    exact StoredWorkload.faithful_of_phase fun ha => by cases hp.symm.trans ha
  | redeploy st dep =>
    cases hc with
    | none => exact hf
    | deployed hd _ htr hpd =>
      cases hd
      obtain ⟨exe, measured, hg, _, _⟩ := planRedeploy_ok ht
      have hnm := planRedeploy_keeps hn ht _ htr
      exact faithful_of_deployed hnm.symm hpd ⟨exe, measured, hg⟩
    | deleted hx => cases hx
  | _ => exact hk rfl

theorem restoreContinue_faithful (hf : t.stored.Faithful h n.pods) (ht : t.Holds h)
    (hb : t.stored.Bound k) (hn : t.stored.Named h) (hi : ∀ oth, i.reply ≠ .other oth)
    (hnd : n.Restores (restoreContinue h i n t).1 disk pods)
    (hc : RestoreCase h i n t disk pods rst)
    (hv : disk.at k (some (some t.stored)) = some (some v)) :
    v.Faithful h (restoreContinue h i n t).1.pods := by
  have hd := (restoreContinue_result h i n t).deploys
  obtain ⟨key, hpt⟩ | ho := Edit.at_cases hv
  · cases hc with
    | updateDone _ hok =>
      cases hpt
      obtain ⟨⟨prev, rid, hph⟩, hpl⟩ := ht
      obtain ⟨hdc, measured, hm, _, _⟩ := planInterruptedUpdate_ok hpl
      obtain ⟨hk, hns, _⟩ := hb.update prev rid _ hph
      simp only [RestoreTask.stored] at hb
      rw [hb.key, ← hk, ← hns] at hm
      obtain ⟨tgt, pod, htr, hpd, hp⟩ := runtimeDeploy_runs hok
      rw [hd _ rfl, hp]
      have hnm := (runtimeDeploy_ok hok hi).1
      rw [htr] at hnm
      cases hnm
      exact faithful_of_deployed rfl hpd ⟨_, measured, grantManifest_of_decode hdc hm⟩
    | redeployDone _ hok =>
      cases hpt
      obtain ⟨exe, measured, hg, _, _⟩ := planRedeploy_ok ht
      obtain ⟨tgt, pod, htr, hpd, hp⟩ := runtimeDeploy_runs hok
      rw [hd _ rfl, hp]
      have hnm := (runtimeDeploy_ok hok hi).1
      rw [htr] at hnm
      cases hnm
      exact faithful_of_deployed rfl hpd ⟨exe, measured, hg⟩
    | _ => cases hpt
  · cases ho
    exact RestoreTask.stored_faithful hf ht hn (restore_change h i n t)

theorem RestoreTask.deploys_name (ht : t.Holds h) (hn : t.stored.Named h)
    (hd : t.deploys = some d) (htr : h.runtime.targetId d = .ok tgt)
    (hk : ∀ st req exe dep, t = .update st req exe dep → h.Keeps dep st.runtimeId) :
    tgt = t.stored.runtimeId := by
  cases t with
  | update st req exe dep =>
    cases hd
    exact hk _ _ _ _ rfl tgt htr
  | redeploy st dep =>
    cases hd
    exact planRedeploy_keeps hn ht tgt htr
  | _ => cases hd

theorem World.Faithful.restored (hf : w.Faithful h) (hi : w'.Idle)
    (hs : w.Separate) (hds : w.node.store.workloads.lookup k = some (some st))
    (hc : PodChange h deploys deletes effective w.node.pods w'.node.pods)
    (hd : ∀ d tgt, deploys = some d → effective = true → h.runtime.targetId d = .ok tgt →
      tgt = st.runtimeId)
    (how : ∀ v, w'.node.store.workloads.lookup k = some (some v) → v.Faithful h w'.node.pods)
    (ho : ∀ k', k' ≠ k → w'.node.store.workloads.lookup k' = w.node.store.workloads.lookup k')
      :
    w'.Faithful h := by
  intro k'
  refine ⟨fun m hm => absurd hm hi.memory, fun r hr => ?_⟩
  by_cases hne : k' = k
  · subst hne
    exact how r hr
  · have hr' : w'.node.store.workloads.lookup k' = some (some r) := hr
    rw [ho k' hne] at hr'
    refine (hs.frame hf hc (fun d tgt hdp he ht => ?_) hne).disk r hr'
    exact .inr ⟨st, hds, (hd d tgt hdp he ht).symm⟩

theorem World.Faithful.restore (hf : w.Faithful h) (hi : w.Inv h) (hh : w.Housed h)
    (hsp : w.Separate) (hok : podNamesKept h w (.restore i) = true)
    (hs : w.step h (.restore i) = some w') : w'.Faithful h := by
  have hi' := hi.step hs
  simp only [World.step, World.restore] at hs
  split at hs
  · next pend k t act quar hp =>
    cases hs
    have hr := hi.restoring hp
    obtain ⟨_, _, _, hds⟩ := hr.on_disk
    have hnm := hh.disk k _ hds
    have hpl := hr.planned k t rfl
    have hb := hr.bound k _ hds
    obtain ⟨disk, pods, hn, hc⟩ := restoreContinue_cases h i w.node t
    simp only [podNamesKept, hp, Bool.and_eq_true] at hok
    obtain ⟨hpn, hna⟩ := hok
    refine hf.restored (hi'.idle (Restored.phase_ne_running _)) hsp hds
      (restore_change h i w.node t) ?_ ?_ ?_
    · intro d tgt hd he ht
      apply RestoreTask.deploys_name hpl hnm hd ht
      rintro st req exe dep rfl
      simp only [he, Bool.not_true, Bool.false_or] at hna
      exact Host.keeps_of_keepsName hna
    · intro v hv
      apply restoreContinue_faithful ((hf k).disk _ hds) hpl hb hnm
        (Input.plain_reply hpn) hn hc
      rw [hn.workloads, Edit.lookup_apply, hds] at hv
      exact hv
    · intro k' hne
      rw [hn.workloads, Edit.lookup_apply]
      exact (Edit.within_of_settles (hc.settles hpl hb)).elsewhere hne _
  · next k pend act quar hp =>
    cases hs
    exact hf.of_node (fun _ => rfl) rfl
  · next k st pend act quar hp =>
    cases hs
    have hr := hi.restoring hp
    have hds := hr.next_on_disk
    obtain ⟨disk, hn, hc, _⟩ := restoreBegin_cases h i w.node st
    have hpd := hn.pods
    have hsm : PodChange h none none true w.node.pods (restoreBegin h i w.node st).1.pods := by
      rw [hpd]
      exact .none
    refine hf.restored (hi'.idle (Restored.phase_ne_running _)) hsp hds hsm
      (fun d tgt hd => by cases hd) ?_ ?_
    · intro v hv
      rw [hpd]
      rw [hn.workloads, Edit.lookup_apply, hds] at hv
      generalize (restoreBegin h i w.node st).2 = rst at hc
      cases hc with
      | retained | waits =>
        cases hv
        exact (hf k).disk _ hds
      | dropped _ _ hem => exact absurd hem (hh.disk k _ hds).nonempty
    · intro k' hne
      rw [hn.workloads, Edit.lookup_apply]
      exact (Edit.within_of_settles (hc.settles (hr.bound k _ hds))).elsewhere hne _
  · next act quar hp =>
    have hr := hi.restoring hp
    split at hs
    · cases hs
      intro k
      refine ⟨fun m hm => ?_, fun r hr' => (hf k).disk r hr'⟩
      exact (hf k).disk m (hr.memory_on_disk hm)
    · cases hs
      exact hf.of_idle (hi'.idle fun hrn => by cases hrn) rfl rfl
  · cases hs

theorem World.Faithful.step (hf : w.Faithful h) (hi : w.Inv h) (hh : w.Housed h) (hsp : w.Separate)
    (hok : podNamesKept h w a = true) (hs : w.step h a = some w') : w'.Faithful h := by
  have hi' := hi.step hs
  cases step_cases hs with
  | polled hl =>
    simp only [World.step, hl, Option.some.injEq] at hs
    rw [← hs]
    exact hf.polled hi hh hsp hok hl
  | called hl =>
    simp only [World.step, hl, Option.bind_some, Option.map_eq_some_iff] at hs
    obtain ⟨node, he, hn⟩ := hs
    obtain ⟨⟨pods, rfl⟩, hc⟩ := Task.effect_change he
    rw [← hn]
    exact hf.called hi hh hsp hok hl hc
  | continued | quarantined | begun | started | refused => exact hf.restore hi hh hsp hok hs
  | @restoreCalled _ k t _ _ _ i hp =>
    have hw : w.step h (.restoreEffect i) = some { w with node := t.effect h i w.node } := by
      simp [World.step, hp]
    rw [← Option.some.inj (hw.symm.trans hs)] at hi' ⊢
    have hr := hi.restoring hp
    obtain ⟨_, _, _, hds⟩ := hr.on_disk
    have hnm := hh.disk k _ hds
    have hpl := hr.planned k t rfl
    obtain ⟨⟨pods, hn⟩, hc⟩ := RestoreTask.effect_change h i w.node t
    have hst : (t.effect h i w.node).store = w.node.store := by rw [hn]
    have hsl : w.phase ≠ .running := fun hrn => by
      rw [hp] at hrn
      cases hrn
    refine hf.restored (hi'.idle hsl) hsp hds hc ?_ ?_ ?_
    · intro d tgt hd _ ht
      apply RestoreTask.deploys_name hpl hnm hd ht
      rintro st req exe dep rfl
      simp only [podNamesKept, hp] at hok
      exact Host.keeps_of_keepsName hok
    · intro v hv
      rw [hst, hds] at hv
      cases hv
      exact RestoreTask.stored_faithful ((hf k).disk _ hds) hpl hnm hc
    · intro k' _
      rw [hst]
  | unstarted => exact hf
  | restarted | crashed => exact hf.of_idle (hi'.idle fun hrn => by cases hrn) rfl rfl
  | corrupted => cases hok
  | received => exact hf.of_node (World.received_slot _ _ _ _) World.received_pods
  | enrolled | attached => exact hf.of_node (fun _ => rfl) rfl
  | cancelled =>
    refine hf.of_node (fun k => ?_) (dropGuard_pods _ _)
    simp [Node.slot, dropGuard_state, dropGuard_store]
  | offered _ hstt =>
    rcases hstt with rfl | rfl
    · exact hf
    · exact hf.of_node (fun _ => rfl) rfl

end Podmesh
