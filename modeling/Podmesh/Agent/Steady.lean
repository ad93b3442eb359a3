import Podmesh.Agent.Capacity
import Podmesh.Agent.Faithful

namespace Podmesh

variable {h : Host} {i : Input} {n : Node} {w w' : World} {a : Action}

def Node.names (n : Node) : List (String × String) :=
  (n.state.active.entries.map fun e => (e.1, e.2.runtimeId)) ++
    n.store.workloads.entries.filterMap fun e => e.2.map fun r => (e.1, r.runtimeId)

def World.separate (w : World) : Bool :=
  w.node.names.all fun p => w.node.names.all fun q => p.2 != q.2 || p.1 == q.1

/-- The step condition: updates keep the names of their pods, nothing damages a record, the amounts
charged fit the host, and different workloads name different pods. -/
def steady (h : Host) (w : World) (a : Action) : Bool :=
  podNamesKept h w a && chargesFit h w a && (w.step h a).all World.separate

theorem Slot.Uses.mem_names (hu : (n.slot k).Uses name) : (k, name) ∈ n.names := by
  apply List.mem_append.2
  obtain ⟨m, hm, rfl⟩ | ⟨r, hr, rfl⟩ := hu
  · exact .inl (List.mem_map.2 ⟨⟨k, m⟩, AList.mem_lookup_iff.1 hm, rfl⟩)
  · exact .inr (List.mem_filterMap.2 ⟨⟨k, some r⟩, AList.mem_lookup_iff.1 hr, rfl⟩)

theorem Node.uses_of_mem (hm : (k, name) ∈ n.names) : (n.slot k).Uses name := by
  obtain hm | hm := List.mem_append.1 hm
  · obtain ⟨⟨k', m⟩, hen, he⟩ := List.mem_map.1 hm
    cases he
    exact .inl ⟨m, AList.mem_lookup_iff.2 hen, rfl⟩
  · obtain ⟨⟨k', b⟩, hen, he⟩ := List.mem_filterMap.1 hm
    obtain ⟨r, hr, he⟩ := Option.map_eq_some_iff.1 he
    cases he
    subst hr
    exact .inr ⟨r, AList.mem_lookup_iff.2 hen, rfl⟩

theorem World.check_of_separate (hs : w.Separate) : w.separate = true := by
  apply List.all_eq_true.2
  intro p hp
  apply List.all_eq_true.2
  intro q hq
  by_cases hn : p.2 = q.2
  · have hu : (w.node.slot p.1).Uses q.2 := by
      rw [← hn]
      exact Node.uses_of_mem hp
    have hk := hs p.1 q.1 q.2 hu (Node.uses_of_mem hq)
    simp [hk]
  · simp [hn]

theorem World.separate_of_check (hs : w.separate = true) : w.Separate := by
  intro k k' name hk hk'
  have hp := List.all_eq_true.1 (List.all_eq_true.1 hs _ hk.mem_names) _ hk'.mem_names
  simpa using hp

theorem steady_of_separate (hk : podNamesKept h w a = true) (hs : w.step h a = some w')
    (hf : chargesFit h w a = true) (hsp : w'.Separate) : steady h w a = true := by
  simp [steady, hk, hf, hs, World.check_of_separate hsp]

/-- The store of an agent whose records nobody damages: every record is readable, and there are no
more of them than the agent may have. -/
structure World.Stocked (config : Config) (w : World) : Prop where
  readable : ∀ k, w.node.store.workloads.lookup k ≠ some none
  count : Assoc.size w.node.store.workloads ≤ config.maxWorkloads

theorem PollCase.readable (hc : PollCase h i n t e after) : e.disk ≠ .put key none := by
  intro he
  cases hc with
  | failRecorded hd =>
    rcases hd with rfl | rfl <;> cases he
  | _ => cases he

theorem Edit.at_readable {e : Edit (Option StoredWorkload)} (he : ∀ key, e ≠ .put key none)
    (ho : old ≠ some none) : e.at k old ≠ some none := by
  intro hn
  obtain ⟨key, hp⟩ | hol := Edit.at_cases hn
  · exact he key hp
  · exact ho hol

theorem World.Running.stocked (hw : w.Running h) (ho : w.node.state.Occupied h.config)
    (hrd : ∀ k, w.node.store.workloads.lookup k ≠ some none) : w.Stocked h.config where
  readable := hrd
  count := by
    have hm : Assoc.size w.node.store.workloads ≤ Assoc.size w.node.state.active := by
      apply Assoc.size_le_of_lookup
      intro k v hk
      have hs := hw.sound k
      have hr := hrd k
      change (w.node.slot k).disk = some v at hk
      change (w.node.slot k).disk ≠ some none at hr
      show (w.node.slot k).memory.isSome = true
      generalize w.node.slot k = s at hs hk hr
      cases hs with
      | empty => cases hk
      | unreadable => exact absurd rfl hr
      | holding => rfl
    have hsl := ho.slots
    unfold WorkloadState.slots at hsl
    omega

theorem Settles.size_le (hs : Settles k st disk r) (hk : workloads.lookup k = some (some st)) :
    Assoc.size (disk.apply workloads) ≤ Assoc.size workloads := by
  apply Assoc.size_le_of_lookup
  intro k' v hv
  rw [Edit.lookup_apply] at hv
  cases hs with
  | waits | retained => exact Option.isSome_iff_exists.2 ⟨v, hv⟩
  | rewritten =>
    by_cases hne : k' = k
    · subst hne
      exact Option.isSome_iff_exists.2 ⟨_, hk⟩
    · rw [Edit.at, if_neg hne] at hv
      exact Option.isSome_iff_exists.2 ⟨v, hv⟩
  | gone =>
    obtain ⟨_, hp⟩ | ho := Edit.at_cases hv
    · cases hp
    · exact Option.isSome_iff_exists.2 ⟨v, ho⟩

theorem World.Stocked.settled {node : Node} {next : Phase} (hst : w.Stocked cfg)
    (hn : w.node.Restores node disk pods) (hs : Settles k st disk rst)
    (hk : w.node.store.workloads.lookup k = some (some st)) :
    World.Stocked cfg { w with node, phase := next } where
  readable k' := by
    rw [hn.workloads, Edit.lookup_apply]
    refine Edit.at_readable (fun key he => ?_) (hst.readable k')
    cases hs with
    | _ => cases he
  count := by
    rw [hn.workloads]
    exact (hs.size_le hk).trans hst.count

theorem World.Stocked.step (hst : w.Stocked h.config) (hi : w.Inv h)
    (hok : podNamesKept h w a = true) (hs : w.step h a = some w')
    (ho : w'.node.state.Occupied h.config) : w'.Stocked h.config := by
  have hi' := hi.step hs
  have hrn (hp : w'.phase = .running)
      (hrd : ∀ k, w'.node.store.workloads.lookup k ≠ some none) : w'.Stocked h.config :=
    (hi'.up hp).stocked ho hrd
  cases step_cases hs with
  | unstarted => exact hst
  | corrupted => cases hok
  | continued hp hn hc =>
    have hr := hi.restoring hp
    obtain ⟨_, _, _, hds⟩ := hr.on_disk
    exact hst.settled hn (hc.settles (hr.planned _ _ rfl) (hr.bound _ _ hds)) hds
  | begun hp hn hc =>
    have hr := hi.restoring hp
    have hds := hr.next_on_disk
    exact hst.settled hn (hc.settles (hr.bound _ _ hds)) hds
  | received hp =>
    refine hrn (World.advance_phase.trans hp) fun k => ?_
    rw [World.received_store]
    exact hst.readable k
  | polled hl hd hc =>
    refine hrn (World.advance_phase.trans (hi.running hl)) fun k => ?_
    rw [World.advance_store, hd.workloads, Edit.lookup_apply]
    exact Edit.at_readable (fun _ => hc.readable) (hst.readable k)
  | cancelled =>
    refine ⟨fun k => ?_, ?_⟩
    · rw [dropGuard_store]
      exact hst.readable k
    · rw [dropGuard_store]
      exact hst.count
  | _ => exact ⟨hst.readable, hst.count⟩

structure World.Steady (h : Host) (w : World) : Prop where
  inv : w.Inv h
  housed : w.Housed h
  fits : w.Fits h.config
  recorded : w.Recorded h True
  separate : w.Separate
  faithful : w.Faithful h
  stocked : w.Stocked h.config

theorem podNamesKept_plain (hok : podNamesKept h w a = true) : a.plain = true := by
  cases a with
  | poll | restore =>
    simp only [podNamesKept, Bool.and_eq_true] at hok
    exact hok.1
  | _ => rfl

theorem reach_steady (hr : Reach (World.step h) (fun w a => steady h w a = true) .fresh w) :
    w.Steady h := by
  have hp : ∀ w a, steady h w a = true → podNamesKept h w a = true ∧
      chargesFit h w a = true ∧ (w.step h a).all World.separate = true := by
    intro w a hok
    simp only [steady, Bool.and_eq_true, and_assoc] at hok
    exact hok
  have hn := hr.mono fun w a hok => (hp w a hok).1
  have hrs : w.Separate ∧ w.Faithful h ∧ w.Stocked h.config := by
    refine Reach.invariant (fun w => w.Separate ∧ w.Faithful h ∧ w.Stocked h.config) ?_ ?_ hr
    · refine ⟨fun k k' name hk => ?_, fun k => ⟨fun m hm => (by cases hm), fun r hr => (by cases hr)⟩,
        fun k hk => (by cases hk), Nat.zero_le _⟩
      obtain ⟨m, hm, _⟩ | ⟨r, hr, _⟩ := hk
      · cases hm
      · cases hr
    · rintro s a s' hrc ⟨hse, hf, hst⟩ hok hs
      obtain ⟨hkp, _, hsp⟩ := hp s a hok
      have hi := reach_inv hrc
      have hh := reach_housed (hrc.mono fun w a hok => (hp w a hok).1)
      rw [hs, Option.all_some] at hsp
      have ho := reach_occupied (hrc.next hok hs)
      exact ⟨World.separate_of_check hsp, hf.step hi hh hse hkp hs, hst.step hi hkp hs ho⟩
  exact ⟨reach_inv hr, reach_housed hn, reach_fits (hr.mono fun w a hok => (hp w a hok).2.1),
    reach_recorded hn fun w a hok _ => podNamesKept_plain hok, hrs.1, hrs.2.1, hrs.2.2⟩

/-- The charges of a running agent fit its host, and every pod belongs to a workload. If the workload
is active, the pod runs the manifest that its owner's grant opens to, and the limits measured there
are within its charge. -/
theorem running_pods_granted
    (hr : Reach (World.step h) (fun w a => steady h w a = true) .fresh w) (hp : w.phase = .running) :
    (∀ d, w.node.state.activeTotal d ≤ h.config.capacity d) ∧
      ∀ name pod, w.node.pods.lookup name = some pod →
        ∃ k m, w.node.state.active.lookup k = some m ∧ m.runtimeId = name ∧
          (m.phase = .active → ∃ execution measured,
            h.grantManifest m.grant = .ok (execution, pod.manifest, measured) ∧
              measured.charged m) := by
  have hs := reach_steady hr
  refine ⟨fun d => ?_, fun name pod hl => ?_⟩
  · have ha := activeTotal_le_charged w.node d
    have hc := hs.fits.charged hp d
    omega
  · obtain ⟨k, r, hk, rfl⟩ := hs.housed.covered name pod hl
    obtain ⟨m, hm, hid⟩ := hs.housed.in_memory (hs.inv.up hp) hp hk
    refine ⟨k, m, hm, hid, fun ha => ?_⟩
    obtain ⟨man, _, ⟨⟨exe, ms, hg, hc⟩, _⟩, _⟩ := (hs.recorded.memory k m hm).plan
    rw [(hs.faithful k).memory m hm ha pod exe man ms (hid ▸ hl) hg]
    exact ⟨exe, ms, hg, hc (by rw [StoredWorkload.isUpdating, ha])⟩

open Reference in
theorem deployed_pod_granted :
    ∃ (w : World) (pod : Pod) (m : StoredWorkload), w.node.pods.lookup "a" = some pod ∧
      m.phase = .active ∧ ∃ execution measured,
        (host .default).grantManifest m.grant = .ok (execution, pod.manifest, measured) := by
  obtain ⟨w, hr, hp, pod, hl, ha⟩ := exists_reach_of_run (World.step (host .default))
    (steady (host .default) · · = true) .fresh deployedRun
    (fun w => w.phase.isRunning ∧ ∃ pod, w.node.pods.lookup "a" = some pod ∧
      ∀ e ∈ w.node.state.active.entries, e.2.phase = .active) (by decide +kernel)
  obtain ⟨_, m, hm, _, hg⟩ := (running_pods_granted hr (Phase.eq_running hp)).2 "a" pod hl
  have hp := Assoc.forall_lookup (P := (·.phase = .active)) |>.2 ha _ m hm
  obtain ⟨execution, measured, h, _⟩ := hg hp
  exact ⟨w, pod, m, hl, hp, execution, measured, h⟩

end Podmesh
