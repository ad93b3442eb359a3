import Podmesh.Agent.Step

namespace Podmesh

variable {h : Host} {i : Input}

def DiskBound (workloads : AList fun _ : String => Option StoredWorkload) : Prop :=
  ∀ k r, workloads.lookup k = some (some r) → r.Bound k

def currentAt (current : Option (String × RestoreTask)) (k : String) : Option StoredWorkload :=
  current.bind fun c => if k = c.1 then some c.2.stored else none

/-- Where the record of one key is while the process rebuilds its state: still to come, being
reconciled, rebuilt, or set aside. In each case the disk has exactly that record. -/
inductive RestoreView : (pending : Option (Option StoredWorkload)) →
    (current active : Option StoredWorkload) → (quarantined : Bool) →
    (disk : Option (Option StoredWorkload)) → Prop
  | absent : RestoreView none none none false none
  | pending (b : Option StoredWorkload) : RestoreView (some b) none none false (some b)
  | current (r : StoredWorkload) : RestoreView none (some r) none false (some (some r))
  | rebuilt (r : StoredWorkload) : RestoreView none none (some r) false (some (some r))
  | unreadable : RestoreView none none none true (some none)

inductive Settles (k : String) (stored : StoredWorkload) :
    Edit (Option StoredWorkload) → Restored → Prop
  | waits : t.stored = stored → Settles k stored .keep (.wait t)
  | retained : Settles k stored .keep (.keep stored)
  | rewritten : w.Bound k → Settles k stored (.put k (some w)) (.keep w)
  | gone : Settles k stored (.drop k) .gone

theorem BeginCase.settles (hc : BeginCase h st disk r) (hb : st.Bound k) : Settles k st disk r := by
  cases hc with
  | retained => exact .retained
  | waits ht => exact .waits ht
  | dropped =>
    rw [hb.key]
    exact .gone

theorem RestoreCase.settles (hc : RestoreCase h i n t disk pods r) (ht : t.Holds h)
    (hb : t.stored.Bound k) : Settles k t.stored disk r := by
  have hk : t.stored.grant.workloadId = k := hb.key
  cases hc with
  | cleanupDone | deleteDone => exact hk ▸ .gone
  | updateDone =>
    obtain ⟨⟨prev, id, hp⟩, _⟩ := ht
    have hr := (hb.update prev id _ hp).1
    rw [hr]
    exact .rewritten ⟨hr, fun _ _ _ h => by cases h⟩
  | statusGone | redeployUnsaved => exact .waits rfl
  | redeployDone =>
    subst hk
    exact .rewritten ⟨rfl, hb.update⟩
  | _ =>
    exact .retained

theorem Edit.within_of_settles (hs : Settles k st disk r) : disk.Within k := by
  cases hs with
  | waits | retained => trivial
  | rewritten | gone => rfl

def RestoreViews (pending : List (String × Option StoredWorkload))
    (current : Option (String × RestoreTask)) (active : ActiveMap) (quarantined : Finset String)
    (workloads : AList fun _ : String => Option StoredWorkload) : Prop :=
  ∀ k, RestoreView (pending.lookup k) (currentAt current k) (active.lookup k)
    (decide (k ∈ quarantined)) (workloads.lookup k)

def Phase.Views (workloads : AList fun _ : String => Option StoredWorkload) : Phase → Prop
  | .restoring pending current active quarantined =>
    RestoreViews pending current active quarantined workloads
  | _ => True

theorem Settles.views (hs : Settles k st disk r) (hp : pend.lookup k = none)
    (ha : act.lookup k = none) (hq : k ∉ quar)
    (hw : wls.lookup k = some (some st))
    (ho : ∀ k', k' ≠ k → RestoreView (pend.lookup k') none (act.lookup k')
      (decide (k' ∈ quar)) (wls.lookup k')) :
    (r.phase pend act quar k).Views (disk.apply wls) := by
  cases hs with
  | waits ht =>
    intro k'
    by_cases hk : k' = k
    · subst hk
      simp only [currentAt, Option.bind_some, if_pos, hp, ha, hq, decide_false, Edit.apply, hw, ht]
      exact .current st
    · simp only [currentAt, Option.bind_some, if_neg hk, Edit.apply]
      exact ho k' hk
  | retained =>
    intro k'
    by_cases hk : k' = k
    · subst hk
      simp only [currentAt, Option.bind_none, AList.lookup_insert, hp, hq, decide_false,
        Edit.apply, hw]
      exact .rebuilt st
    · simp only [currentAt, Option.bind_none, AList.lookup_insert_ne hk, Edit.apply]
      exact ho k' hk
  | rewritten =>
    intro k'
    by_cases hk : k' = k
    · subst hk
      simp only [currentAt, Option.bind_none, AList.lookup_insert, hp, hq, decide_false, Edit.apply]
      exact .rebuilt _
    · simp only [currentAt, Option.bind_none, AList.lookup_insert_ne hk, Edit.apply]
      exact ho k' hk
  | gone =>
    intro k'
    by_cases hk : k' = k
    · subst hk
      simp only [currentAt, Option.bind_none, AList.lookup_erase, hp, ha, hq, decide_false,
        Edit.apply]
      exact .absent
    · simp only [currentAt, Option.bind_none, AList.lookup_erase_ne hk, Edit.apply]
      exact ho k' hk

structure World.Idle (w : World) : Prop where
  tasks : w.tasks = ∅
  mutations : w.node.mutations = ∅
  state : w.node.state = .empty

structure World.Restoring (h : Host) (w : World) (pending : List (String × Option StoredWorkload))
    (current : Option (String × RestoreTask)) (active : ActiveMap) (quarantined : Finset String) :
    Prop where
  idle : w.Idle
  nodup : (pending.map Prod.fst).Nodup
  views : RestoreViews pending current active quarantined w.node.store.workloads
  bound : DiskBound w.node.store.workloads
  planned : ∀ k t, current = some (k, t) → t.Holds h
  count : Assoc.size active + quarantined.card + pending.length + current.toList.length ≤
    h.config.maxWorkloads

def World.Inv (h : Host) (w : World) : Prop :=
  match w.phase with
  | .down => w.Idle ∧ DiskBound w.node.store.workloads
  | .restoring pending current active quarantined =>
    w.Restoring h pending current active quarantined
  | .running => w.Running h

theorem World.fresh_inv (h : Host) : World.fresh.Inv h := by
  refine ⟨⟨rfl, rfl, rfl⟩, ?_⟩
  intro k r hr
  cases hr

variable {w : World}

theorem World.Running.diskBound (hw : w.Running h) : DiskBound w.node.store.workloads := by
  intro k r hr
  have hs := hw.sound k
  have hd : (w.node.slot k).disk = some (some r) := hr
  generalize w.node.slot k = s at hs hd
  cases hs with
  | empty | unreadable => cases hd
  | @holding _ _ _ hr' =>
    obtain ⟨r'', hr'', he⟩ := Option.map_eq_some_iff.1 hd
    cases he
    exact hr' r hr''

theorem World.Inv.diskBound (hw : w.Inv h) : DiskBound w.node.store.workloads := by
  unfold World.Inv at hw
  split at hw
  · exact hw.2
  · exact hw.bound
  · exact hw.diskBound

theorem lookup_loadAll (s : Store) (k : String) : s.loadAll.lookup k = s.workloads.lookup k := by
  obtain ⟨⟨entries, hn⟩, enrollments⟩ := s
  simp only [Store.loadAll, AList.lookup]
  induction entries with
  | nil => rfl
  | cons e entries ih =>
    obtain ⟨k', b⟩ := e
    by_cases hk : k = k'
    · subst hk
      simp
    · have hr := ih (List.nodupKeys_cons.1 hn).2
      have hne : (k == k') = false := by simpa using hk
      rw [List.map_cons, List.lookup_cons, hne, List.dlookup_cons_ne _ _ hk]
      exact hr

theorem World.restart_inv (hd : DiskBound w.node.store.workloads)
    (hc : w.node.store.loadAll.length ≤ h.config.maxWorkloads) :
    World.Inv h { w with node := w.node.reboot, tasks := ∅
                         phase := .restoring w.node.store.loadAll none ∅ ∅ } := by
  refine ⟨⟨rfl, rfl, rfl⟩, ?_, fun k => ?_, hd, ?_, ?_⟩
  · have hky := w.node.store.workloads.nodupKeys
    simpa [Store.loadAll, List.NodupKeys, List.keys, Function.comp_def] using hky
  · show RestoreView (w.node.store.loadAll.lookup k) none none false
      (w.node.store.workloads.lookup k)
    rw [lookup_loadAll]
    cases w.node.store.workloads.lookup k with
    | none => exact .absent
    | some b => exact .pending b
  · intro k t hk
    cases hk
  · simpa using hc

theorem Settles.diskBound (hs : Settles k st disk r) (hd : DiskBound wls) :
    DiskBound (disk.apply wls) := by
  intro k' r' hr'
  cases hs with
  | waits | retained => exact hd k' r' hr'
  | rewritten hb =>
    rcases Assoc.lookup_insert_cases hr' with ⟨rfl, he⟩ | ⟨_, hr'⟩
    · cases he
      exact hb
    · exact hd k' r' hr'
  | gone => exact hd k' r' (Assoc.lookup_of_erase hr').2

theorem World.settle_inv {node : Node} (hs : Settles k st disk r)
    (hi : w.Idle) (hnd : w.node.Restores node disk pods)
    (hp : pend.lookup k = none) (ha : active.lookup k = none) (hq : k ∉ quar)
    (hd : w.node.store.workloads.lookup k = some (some st))
    (ho : ∀ k', k' ≠ k → RestoreView (pend.lookup k') none (active.lookup k')
      (decide (k' ∈ quar)) (w.node.store.workloads.lookup k'))
    (hn : (pend.map Prod.fst).Nodup) (hb : DiskBound w.node.store.workloads)
    (hw : ∀ t, r = .wait t → t.Holds h)
    (hc : Assoc.size active + quar.card + pend.length + 1 ≤ h.config.maxWorkloads) :
    World.Inv h { w with node, phase := r.phase pend active quar k } := by
  have hv := hs.views hp ha hq hd ho
  have hdb := hs.diskBound hb
  have hi' (phase : Phase) : World.Idle { w with node, phase } :=
    ⟨hi.tasks, hnd.mutations.trans hi.mutations, hnd.state.trans hi.state⟩
  rw [← hnd.workloads] at hv hdb
  cases r with
  | wait t =>
    refine ⟨hi' _, hn, hv, hdb, ?_, hc⟩
    intro k' t' hk'
    cases hk'
    exact hw t rfl
  | keep v =>
    refine ⟨hi' _, hn, hv, hdb, ?_, ?_⟩
    · intro k' t' hk'
      cases hk'
    · have hsz : Assoc.size (active.insert k v) = 1 + Assoc.size active := by
        simp [Assoc.size_eq_total, Assoc.total_insert_new _ _ ha]
      simp only [Option.toList_none, List.length_nil]
      omega
  | gone =>
    refine ⟨hi' _, hn, hv, hdb, ?_, ?_⟩
    · intro k' t' hk'
      cases hk'
    · simp only [Option.toList_none, List.length_nil]
      omega

theorem RestoreView.of_current (hv : RestoreView p (some r) a q d) :
    p = none ∧ a = none ∧ q = false ∧ d = some (some r) := by
  cases hv
  exact ⟨rfl, rfl, rfl, rfl⟩

theorem RestoreView.of_pending (hv : RestoreView (some b) c a q d) :
    c = none ∧ a = none ∧ q = false ∧ d = some b := by
  cases hv
  exact ⟨rfl, rfl, rfl, rfl⟩

theorem World.Restoring.on_disk (hw : w.Restoring h pend (some (k, t)) act quar) :
    pend.lookup k = none ∧ act.lookup k = none ∧ decide (k ∈ quar) = false ∧
      w.node.store.workloads.lookup k = some (some t.stored) := by
  have hv := hw.views k
  simp only [currentAt, Option.bind_some, if_pos] at hv
  exact hv.of_current

theorem World.Restoring.next_on_disk (hw : w.Restoring h ((k, b) :: pend) none act quar) :
    w.node.store.workloads.lookup k = some b := by
  have hv := hw.views k
  simp only [List.lookup_cons_self] at hv
  exact hv.of_pending.2.2.2

theorem World.Restoring.continue {t : RestoreTask} {node : Node} {rst : Restored}
    (hw : w.Restoring h pend (some (k, t)) act quar)
    (hn : w.node.Restores node disk pods) (hc : RestoreCase h i w.node t disk pods rst) :
    World.Inv h { w with node, phase := rst.phase pend act quar k } := by
  obtain ⟨hp, ha, hq, hd⟩ := hw.on_disk
  refine World.settle_inv (hc.settles (hw.planned k t rfl) (hw.bound k _ hd)) hw.idle hn hp
    ha (of_decide_eq_false hq) hd ?_ hw.nodup hw.bound ?_ hw.count
  · intro k' hk'
    have hv' := hw.views k'
    simpa [currentAt, if_neg hk'] using hv'
  · rintro t' rfl
    cases hc with
    | statusGone hpl => exact hpl
    | redeployUnsaved => trivial

theorem lookup_tail_of_nodup {pend : List (String × V)}
    (hn : (((k, b) :: pend).map Prod.fst).Nodup) : pend.lookup k = none := by
  rw [List.lookup_eq_none_iff]
  intro e he
  have hne : k ≠ e.1 := by
    intro hk
    subst hk
    exact (List.nodup_cons.1 hn).1 (List.mem_map.2 ⟨e, he, rfl⟩)
  simpa using hne

theorem World.Restoring.begin {node : Node} {rst : Restored}
    (hw : w.Restoring h ((k, some st) :: pend) none act quar)
    (hn : w.node.Restores node disk pods) (hc : BeginCase h st disk rst) :
    World.Inv h { w with node, phase := rst.phase pend act quar k } := by
  have hv := hw.views k
  simp only [List.lookup_cons_self] at hv
  obtain ⟨_, ha, hq, hd⟩ := hv.of_pending
  refine World.settle_inv (hc.settles (hw.bound k _ hd)) hw.idle hn
    (lookup_tail_of_nodup hw.nodup) ha (of_decide_eq_false hq) hd ?_
    (List.nodup_cons.1 hw.nodup).2 hw.bound ?_ ?_
  · intro k' hk'
    have hv' := hw.views k'
    have hne : (k' == k) = false := by simpa using hk'
    simpa [List.lookup_cons, hne, currentAt] using hv'
  · rintro t' rfl
    cases hc with
    | waits _ ht => exact ht
  · have hcn := hw.count
    simp only [List.length_cons, Option.toList_none, List.length_nil] at hcn
    omega

theorem World.Restoring.quarantine (hw : w.Restoring h ((k, none) :: pend) none act quar) :
    World.Inv h { w with phase := .restoring pend none act (insert k quar) } := by
  refine ⟨⟨hw.idle.tasks, hw.idle.mutations, hw.idle.state⟩, (List.nodup_cons.1 hw.nodup).2,
    fun k' => ?_, hw.bound, ?_, ?_⟩
  · have hv := hw.views k'
    by_cases hk : k' = k
    · subst hk
      simp only [List.lookup_cons_self] at hv
      obtain ⟨_, ha, _, hd⟩ := hv.of_pending
      simp only [lookup_tail_of_nodup hw.nodup, currentAt, Option.bind_none, ha, hd,
        Finset.mem_insert_self, decide_true]
      exact .unreadable
    · have hne : (k' == k) = false := by simpa using hk
      simpa [List.lookup_cons, hne, hk] using hv
  · intro k' t hk'
    cases hk'
  · have hc := hw.count
    have hcr := Finset.card_insert_le k quar
    simp only [List.length_cons, Option.toList_none, List.length_nil] at hc ⊢
    omega

theorem World.Restoring.memory_on_disk (hw : w.Restoring h [] none act quar)
    (hm : act.lookup k = some m) : w.node.store.workloads.lookup k = some (some m) := by
  have hv := hw.views k
  simp only [List.lookup_nil, currentAt, Option.bind_none, hm] at hv
  generalize w.node.store.workloads.lookup k = d at hv ⊢
  generalize decide (k ∈ quar) = q at hv
  cases hv with
  | rebuilt => rfl

theorem World.Restoring.start (hw : w.Restoring h [] none act quar) :
    World.Running h { w with node := { w.node with state := ⟨act, ∅, quar⟩ }
                             phase := .running } where
  exclusive := by
    have hex := Exclusive.empty (ι := Nat) Task.guard
    rw [← hw.idle.mutations, ← hw.idle.tasks] at hex
    exact hex
  prepared k t hk := by
    rw [hw.idle.tasks] at hk
    cases hk
  sound k := by
    have hv := hw.views k
    have hs : Node.slot { w.node with state := ⟨act, ∅, quar⟩ } k =
        ⟨act.lookup k, w.node.store.workloads.lookup k, decide (k ∈ quar)⟩ := rfl
    rw [hs]
    have hb := hw.bound k
    generalize act.lookup k = a at hv
    generalize decide (k ∈ quar) = q at hv
    generalize w.node.store.workloads.lookup k = d at hv hb
    cases hv with
    | absent => exact .empty
    | rebuilt r => exact .of_pair (hb r rfl) (hb r rfl)
    | unreadable => exact .unreadable
  holds k t wid o hk := by
    rw [hw.idle.tasks] at hk
    cases hk
  repair _ := rfl

theorem World.Idle.no_task (hw : w.Idle) : w.tasks.lookup task ≠ some t := by
  rw [hw.tasks]
  intro ht
  cases ht

theorem World.Inv.running (hw : w.Inv h) (ht : w.tasks.lookup task = some t) :
    w.phase = .running := by
  unfold World.Inv at hw
  split at hw
  · exact absurd ht hw.1.no_task
  · exact absurd ht hw.idle.no_task
  · assumption

theorem World.Inv.idle (hw : w.Inv h) (hp : w.phase ≠ .running) : w.Idle := by
  unfold World.Inv at hw
  split at hw
  · exact hw.1
  · exact World.Restoring.idle hw
  · exact absurd ‹_› hp

theorem Restored.phase_ne_running (r : Restored) : r.phase pend act quar k ≠ .running := by
  cases r <;> (intro hr; cases hr)

theorem World.inv_of_running (hp : w.phase = .running) : w.Inv h ↔ w.Running h := by
  rw [World.Inv, hp]

theorem World.inv_of_restoring (hp : w.phase = .restoring pend cur act quarantined) :
    w.Inv h ↔ w.Restoring h pend cur act quarantined := by
  rw [World.Inv, hp]

theorem World.inv_of_down (hp : w.phase = .down) :
    w.Inv h ↔ w.Idle ∧ DiskBound w.node.store.workloads := by
  rw [World.Inv, hp]

theorem World.Inv.up (hw : w.Inv h) (hp : w.phase = .running) : w.Running h :=
  (World.inv_of_running hp).1 hw

theorem World.Inv.polling (hw : w.Inv h) (ht : w.tasks.lookup task = some t) :
    w.Running h := hw.up (hw.running ht)

theorem World.Inv.restoring (hw : w.Inv h) (hp : w.phase = .restoring pend cur act quarantined) :
    w.Restoring h pend cur act quarantined := (World.inv_of_restoring hp).1 hw

theorem World.Running.inv (hr : w.Running h) (hp : w.phase = .running) : w.Inv h :=
  (World.inv_of_running hp).2 hr

theorem dropGuard_state (n : Node) (t : Task) : (n.dropGuard t).state = n.state := by
  unfold Node.dropGuard
  split <;> rfl

theorem dropGuard_store (n : Node) (t : Task) : (n.dropGuard t).store = n.store := by
  unfold Node.dropGuard
  split <;> rfl

theorem dropGuard_pods (n : Node) (t : Task) : (n.dropGuard t).pods = n.pods := by
  unfold Node.dropGuard
  split <;> rfl

theorem World.advance_node (w : World) (task : Nat) (bef : Option Task) (p : Polled) :
    (w.advance task bef p).node.state = p.1.state ∧ (w.advance task bef p).node.store = p.1.store ∧
      (w.advance task bef p).node.pods = p.1.pods := by
  have he : (bef.elim p.1 p.1.dropGuard).state = p.1.state ∧
      (bef.elim p.1 p.1.dropGuard).store = p.1.store ∧
      (bef.elim p.1 p.1.dropGuard).pods = p.1.pods := by
    cases bef with
    | none => exact ⟨rfl, rfl, rfl⟩
    | some t => exact ⟨dropGuard_state _ t, dropGuard_store _ t, dropGuard_pods _ t⟩
  unfold World.advance
  split
  · exact ⟨rfl, rfl, rfl⟩
  · exact he
  · exact he

theorem World.advance_state (w : World) (task : Nat) (bef : Option Task) (p : Polled) :
    (w.advance task bef p).node.state = p.1.state := (w.advance_node task bef p).1

theorem World.advance_store (w : World) (task : Nat) (bef : Option Task) (p : Polled) :
    (w.advance task bef p).node.store = p.1.store := (w.advance_node task bef p).2.1

theorem World.advance_pods (w : World) (task : Nat) (bef : Option Task) (p : Polled) :
    (w.advance task bef p).node.pods = p.1.pods := (w.advance_node task bef p).2.2

theorem World.advance_slot : (w.advance task bef p).node.slot k = p.1.slot k := by
  rw [Node.slot, w.advance_state, w.advance_store, Node.slot]

theorem World.advance_phase : (w.advance task bef p).phase = w.phase := by
  unfold World.advance
  split <;> rfl

theorem World.received_store :
    (w.advance task none (receive h i w.node m)).node.store = w.node.store := by
  obtain ⟨⟨replay, hn⟩, _⟩ := receive_received h i w.node m
  rw [World.advance_store, hn]

theorem World.received_state :
    (w.advance task none (receive h i w.node m)).node.state = w.node.state := by
  obtain ⟨⟨replay, hn⟩, _⟩ := receive_received h i w.node m
  rw [World.advance_state, hn]

theorem World.received_pods :
    (w.advance task none (receive h i w.node m)).node.pods = w.node.pods := by
  obtain ⟨⟨replay, hn⟩, _⟩ := receive_received h i w.node m
  rw [World.advance_pods, hn]

theorem World.received_slot (w : World) (task : Nat) (i : Input) (m : OwnerMessage) (k : String) :
    (w.advance task none (receive h i w.node m)).node.slot k = w.node.slot k := by
  rw [Node.slot, World.received_state, World.received_store, Node.slot]

theorem World.Inv.step (hw : w.Inv h) (hs : w.step h a = some w') : w'.Inv h := by
  cases step_cases hs with
  | unstarted => exact hw
  | restarted _ _ hcn => exact World.restart_inv hw.diskBound hcn
  | crashed | refused hp => exact ⟨⟨rfl, rfl, rfl⟩, hw.diskBound⟩
  | corrupted hp hl =>
    obtain ⟨hi, hdb⟩ := (World.inv_of_down hp).1 hw
    refine (World.inv_of_down (by exact hp)).2 ⟨⟨hi.tasks, hi.mutations, hi.state⟩, ?_⟩
    intro k r hr
    rcases Assoc.lookup_insert_cases hr with ⟨_, he⟩ | ⟨_, hr⟩
    · cases he
    · exact hdb k r hr
  | continued hp hn hc => exact (hw.restoring hp).continue hn hc
  | quarantined hp => exact (hw.restoring hp).quarantine
  | begun hp hn hc => exact (hw.restoring hp).begin hn hc
  | started hp => exact (hw.restoring hp).start
  | restoreCalled hp =>
    have hr := hw.restoring hp
    exact (World.inv_of_restoring (by exact hp)).2 ⟨⟨hr.idle.tasks, hr.idle.mutations, hr.idle.state⟩,
      hr.nodup, hr.views, hr.bound, hr.planned, hr.count⟩
  | received hp hl =>
    have hr := hw.up hp
    exact (hr.receive hl _).inv (World.advance_phase.trans hp)
  | enrolled hp hl hf =>
    have hr := hw.up hp
    exact (hr.enroll hl hf).inv hp
  | polled hl hd hc =>
    have hp := hw.running hl
    have hr := hw.up hp
    exact (hr.advance hl hd hc).inv (World.advance_phase.trans hp)
  | called hl =>
    have hp := hw.running hl
    have hr := hw.up hp
    exact World.Running.inv (hr.of_node (fun _ => rfl) rfl (by exact hr.repair)) hp
  | cancelled hl =>
    have hp := hw.running hl
    exact ((hw.up hp).cancel hl).inv hp
  | offered hp hst =>
    have hr := hw.up hp
    rcases hst with rfl | rfl
    · exact hw
    · refine World.Running.inv (hr.of_node (fun _ => rfl) rfl fun hq => ?_) hp
      exact retainReservations_empty (hr.repair hq) _
  | attached hp =>
    have hr := hw.up hp
    exact World.Running.inv (hr.of_node (fun _ => rfl) rfl (by exact hr.repair)) hp

/-- The induction rule for a property of the persisted records: those that a section writes have
it. -/
theorem StepCase.records {P : StoredWorkload → Prop} {w' : World} (hc : StepCase h w a w')
    (hi : w.Inv h) (ho : ∀ k r, w.node.store.workloads.lookup k = some (some r) → P r)
    (hpl : ∀ task t i e after key r, a = .poll task i → w.tasks.lookup task = some t →
      PollCase h i w.node t e after → e.disk = .put key (some r) → P r)
    (hrs : ∀ pend k t act quar i disk pods rst key r, a = .restore i →
      w.phase = .restoring pend (some (k, t)) act quar →
      RestoreCase h i w.node t disk pods rst → P t.stored → disk = .put key (some r) → P r)
    (k : String) (r : StoredWorkload) (hr : w'.node.store.workloads.lookup k = some (some r)) :
    P r := by
  cases hc with
  | corrupted =>
    rcases Assoc.lookup_insert_cases hr with ⟨_, hnn⟩ | ⟨_, hr⟩
    · cases hnn
    · exact ho k r hr
  | continued hp hn hcs =>
    rw [hn.workloads, Edit.lookup_apply] at hr
    obtain ⟨key, hpt⟩ | hr := Edit.at_cases hr
    · have hs := ho _ _ (hi.restoring hp).on_disk.2.2.2
      exact hrs _ _ _ _ _ _ _ _ _ key r rfl hp hcs hs hpt
    · exact ho k r hr
  | begun hp hn hcs =>
    rw [hn.workloads, Edit.lookup_apply] at hr
    obtain ⟨key, hpt⟩ | hr := Edit.at_cases hr
    · cases hcs with
      | retained | waits | dropped => cases hpt
    · exact ho k r hr
  | received =>
    rw [World.received_store] at hr
    exact ho k r hr
  | polled hl hd hcs =>
    rw [World.advance_store, hd.workloads, Edit.lookup_apply] at hr
    obtain ⟨key, hpt⟩ | hr := Edit.at_cases hr
    · exact hpl _ _ _ _ _ key r rfl hl hcs hpt
    · exact ho k r hr
  | cancelled =>
    rw [dropGuard_store] at hr
    exact ho k r hr
  | _ => exact ho k r hr

/-- The invariant holds in every state an agent reaches, whatever the interleaving, the failures,
the crashes and the records damaged while it is down. -/
theorem reach_inv (hr : Reach (World.step h) ok .fresh w) : w.Inv h := by
  refine Reach.invariant (World.Inv h) (World.fresh_inv h) (fun s a s' _ hs _ he => ?_) hr
  exact hs.step he

end Podmesh
