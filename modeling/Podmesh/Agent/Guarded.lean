import Podmesh.Agent.Invariant

namespace Podmesh

variable {h : Host} {i : Input} {P : Option Task → String → Slot → Prop}

/-- A property of the records of every workload, given the lifecycle operation that holds its
guard. -/
structure World.Slots (P : Option Task → String → Slot → Prop) (w : World) : Prop where
  held : ∀ k t workloadId, w.tasks.lookup k = some t → t.guard = some (workloadId, .lifecycle) →
    P (some t) workloadId (w.node.slot workloadId)
  free : ∀ workloadId, w.node.mutations.lookup workloadId ≠ some .lifecycle →
    P none workloadId (w.node.slot workloadId)

/-- What a section owes to the property: at its own workload, and where it takes a guard. -/
structure Sustains (P : Option Task → String → Slot → Prop) (n : Node) (t : Task) (e : Effect)
    (after : After) : Prop where
  next : ∀ workloadId t', t.guard = some (workloadId, .lifecycle) →
    P (some t) workloadId (n.slot workloadId) → after = .next t' →
    P (some t') workloadId ((n.slot workloadId).after e workloadId)
  ends : ∀ workloadId, t.guard = some (workloadId, .lifecycle) →
    P (some t) workloadId (n.slot workloadId) → (∀ t', after ≠ .next t') →
    P none workloadId ((n.slot workloadId).after e workloadId)
  acquires : ∀ workloadId t', t.guard = none → after = .next t' →
    t'.guard = some (workloadId, .lifecycle) → P none workloadId (n.slot workloadId) →
    P (some t') workloadId (n.slot workloadId)

theorem PollCase.enrollment (hc : PollCase h i n t e after)
    (hg : t.guard = some (wid, .enrollment)) : e.memory = .keep ∧ e.disk = .keep := by
  cases hc with
  | enrolled | inspecting | installing | ended => exact ⟨rfl, rfl⟩
  | guardWait hn =>
    rw [hn] at hg
    cases hg
  | _ => cases hg

variable {w : World}

theorem World.advance_tasks (hl : (w.advance task bef p).tasks.lookup j = some u) :
    j = task ∧ p.2 = .next u ∨ j ≠ task ∧ w.tasks.lookup j = some u := by
  unfold World.advance at hl
  split at hl
  · next t hn =>
    rcases Assoc.lookup_insert_cases hl with ⟨hj, ht⟩ | ⟨hne, hl⟩
    · exact .inl ⟨hj, ht ▸ hn⟩
    · exact .inr ⟨hne, hl⟩
  · exact .inr (Assoc.lookup_of_erase hl)
  · exact .inr (Assoc.lookup_of_erase hl)

theorem World.advance_next
    (hl : (w.advance task bef p).tasks.lookup task = some u) : p.2 = .next u := by
  rcases World.advance_tasks hl with ⟨_, hn⟩ | ⟨hne, _⟩
  · exact hn
  · exact absurd rfl hne

theorem World.advance_lookup_ne (hne : j ≠ task) :
    (w.advance task bef p).tasks.lookup j = w.tasks.lookup j := by
  unfold World.advance
  split
  · exact AList.lookup_insert_ne hne
  · exact AList.lookup_erase_ne hne
  · exact AList.lookup_erase_ne hne

/-- A section changes only the records of the workload whose lifecycle guard it holds. -/
theorem World.Running.elsewhere (hw : w.Running h) (hl : w.tasks.lookup task = some t)
    (hd : w.node.Does n' e) (hc : PollCase h i w.node t e after)
    (hk : t.guard ≠ some (k, .lifecycle)) : n'.slot k = w.node.slot k := by
  cases hg : t.guard with
  | none =>
    cases hc.unguarded hg with
    | still hm hds => exact slot_unchanged hd hm hds k
    | acquired hm hds => exact slot_unchanged hd hm hds k
  | some g =>
    obtain ⟨wid, o⟩ := g
    cases o with
    | enrollment =>
      obtain ⟨hm, hds⟩ := hc.enrollment hg
      exact slot_unchanged hd hm hds k
    | lifecycle =>
      have hkp := hc.kept hg (hw.sound wid) (hw.holds task t wid _ hl hg)
        hw.quarantine
      refine hkp.slot_other hd ?_
      rintro rfl
      exact hk hg

theorem PollCase.guard_of_next (hc : PollCase h i w.node t e after) (hw : w.Running h)
    (ht : w.tasks.lookup task = some t) (hg : t.guard = some (k, o)) (hn : after = .next u) :
    u.guard = some (k, o) := by
  have hk := hc.kept hg (hw.sound k) (hw.holds task t k o ht hg) hw.quarantine
  exact (hk.next u hn).1.trans hg

theorem PollCase.guard_of_taken (hc : PollCase h i w.node t e after)
    (hw : w.Running h) (ht : w.tasks.lookup task = some t) (hn : after = .next u)
    (hg : u.guard = some (k, o)) (hnt : t.guard ≠ some (k, o)) : t.guard = none := by
  cases ht' : t.guard with
  | none => rfl
  | some g =>
    have hsm := hc.guard_of_next (o := g.2) hw ht ht' hn
    rw [hg] at hsm
    exact absurd (ht'.trans hsm.symm) hnt

namespace World.Slots
variable {w w' : World}

section
variable (hs : w.Slots P)
include hs

theorem of_node {node : Node} (hsl : ∀ wid, node.slot wid = w.node.slot wid)
    (hm : node.mutations = w.node.mutations) : World.Slots P { w with node } where
  held k t wid hk hg := by
    rw [hsl wid]
    exact hs.held k t wid hk hg
  free wid hf := by
    rw [hm] at hf
    rw [hsl wid]
    exact hs.free wid hf

section
variable (hw : w.Running h)
include hw

theorem free_before (ho : ∀ j, j ≠ task → w'.tasks.lookup j = w.tasks.lookup j)
    (hsl : ∀ t, w.tasks.lookup task = some t → t.guard ≠ some (k, .lifecycle))
    (hf : ∀ j u, j ≠ task → w'.tasks.lookup j = some u → u.guard ≠ some (k, .lifecycle)) :
    P none k (w.node.slot k) := by
  apply hs.free
  intro hh
  obtain ⟨j, u, hj, hu⟩ := hw.exclusive.owned k _ hh
  by_cases hne : j = task
  · subst hne
    exact hsl u hj hu
  · exact hf j u hne ((ho j hne).trans hj) hu

/-- One task moves: it keeps its guard, takes one or gives it back. Which operations hold a guard
afterwards is what the invariant of the guards says. -/
theorem move (hw' : w'.Running h)
    (ho : ∀ j, j ≠ task → w'.tasks.lookup j = w.tasks.lookup j)
    (hst : ∀ k, (∀ t, w.tasks.lookup task = some t → t.guard ≠ some (k, .lifecycle)) →
      w'.node.slot k = w.node.slot k)
    (hsy : ∀ k t u, w.tasks.lookup task = some t → t.guard = some (k, .lifecycle) →
      w'.tasks.lookup task = some u → u.guard = some (k, .lifecycle) →
      P (some t) k (w.node.slot k) → P (some u) k (w'.node.slot k))
    (htk : ∀ k u, (∀ t, w.tasks.lookup task = some t → t.guard ≠ some (k, .lifecycle)) →
      w'.tasks.lookup task = some u → u.guard = some (k, .lifecycle) →
      P none k (w.node.slot k) → P (some u) k (w.node.slot k))
    (he : ∀ k t, w.tasks.lookup task = some t → t.guard = some (k, .lifecycle) →
      (∀ u, w'.tasks.lookup task = some u → u.guard ≠ some (k, .lifecycle)) →
      P (some t) k (w.node.slot k) → P none k (w'.node.slot k)) : w'.Slots P where
  held j u k hj hu := by
    by_cases hsl : ∃ t, w.tasks.lookup task = some t ∧ t.guard = some (k, .lifecycle)
    · obtain ⟨t, ht, hg⟩ := hsl
      by_cases hne : j = task
      · subst hne
        exact hsy k t u ht hg hj hu (hs.held j t k ht hg)
      · have hol := (ho j hne).symm.trans hj
        exact absurd (hw.exclusive.unique j task u t k _ _ hol ht hu hg) hne
    · have hnt : ∀ t, w.tasks.lookup task = some t → t.guard ≠ some (k, .lifecycle) :=
        fun t ht hg => hsl ⟨t, ht, hg⟩
      rw [hst k hnt]
      by_cases hne : j = task
      · subst hne
        refine htk k u hnt hj hu (hs.free_before hw ho hnt ?_)
        intro j' u' hne hj' hu'
        exact hne (hw'.exclusive.unique j' j u' u k _ _ hj' hj hu' hu)
      · exact hs.held j u k ((ho j hne).symm.trans hj) hu
  free k hf := by
    have hn : ∀ j u, w'.tasks.lookup j = some u → u.guard ≠ some (k, .lifecycle) :=
      fun j u hj hu => hf (hw'.exclusive.held j u k _ hj hu)
    by_cases hsl : ∃ t, w.tasks.lookup task = some t ∧ t.guard = some (k, .lifecycle)
    · obtain ⟨t, ht, hg⟩ := hsl
      exact he k t ht hg (hn task) (hs.held task t k ht hg)
    · have hnt : ∀ t, w.tasks.lookup task = some t → t.guard ≠ some (k, .lifecycle) :=
        fun t ht hg => hsl ⟨t, ht, hg⟩
      rw [hst k hnt]
      exact hs.free_before hw ho hnt fun j u _ => hn j u

theorem advance (ht : w.tasks.lookup task = some t)
    (hd : w.node.Does p.1 e) (hc : PollCase h i w.node t e p.2) (hp : Sustains P w.node t e p.2) :
    (w.advance task (some t) p).Slots P := by
  have hsm : ∀ u, w.tasks.lookup task = some u → t = u :=
    fun u hu => Option.some_inj.1 (ht.symm.trans hu)
  have ha : ∀ k, (w.advance task (some t) p).node.slot k = (w.node.slot k).after e k := by
    intro k
    rw [World.advance_slot, hd.slot]
  apply hs.move hw (hw.advance ht hd hc) (fun j hne => World.advance_lookup_ne hne)
  · intro k hnt
    rw [World.advance_slot]
    exact hw.elsewhere ht hd hc (hnt t ht)
  · intro k u v hu hg hv _ hP
    cases hsm u hu
    rw [ha]
    exact hp.next k v hg hP (World.advance_next hv)
  · intro k v hnt hv hg hP
    have hn := World.advance_next hv
    have hnn : t.guard = none := hc.guard_of_taken hw ht hn hg (hnt t ht)
    exact hp.acquires k v hnn hn hg hP
  · intro k u hu hg he hP
    cases hsm u hu
    rw [ha]
    refine hp.ends k hg hP fun v hn => ?_
    exact he v (by simp [World.advance, hn]) (hc.guard_of_next hw ht hg hn)

theorem receive (ht : w.tasks.lookup task = none)
    (msg : OwnerMessage) : (w.advance task none (receive h i w.node msg)).Slots P := by
  have hno : ∀ u, w.tasks.lookup task ≠ some u := fun u hu => by cases ht.symm.trans hu
  have hn := (receive_received h i w.node msg).next
  apply hs.move hw (hw.receive ht msg) (fun j hne => World.advance_lookup_ne hne)
  · exact fun k _ => World.received_slot _ _ _ _ k
  · exact fun k t u hu => absurd hu (hno t)
  · intro k u _ hu hg
    cases (hn u (World.advance_next hu)).1.symm.trans hg
  · exact fun k t hu => absurd hu (hno t)

theorem enroll (ht : w.tasks.lookup task = none) (hn : w.node.mutations.lookup wid = none) :
    World.Slots P
      { w with node := { w.node with mutations := w.node.mutations.insert wid .enrollment }
               tasks := w.tasks.insert task (.enrollLock wid) } := by
  have hno : ∀ u, w.tasks.lookup task ≠ some u := fun u hu => by cases ht.symm.trans hu
  apply hs.move hw (hw.enroll ht hn) (fun j hne => AList.lookup_insert_ne hne)
  · exact fun k _ => rfl
  · exact fun k t u hu => absurd hu (hno t)
  · intro k u _ hu hg
    cases (AList.lookup_insert _).symm.trans hu
    cases hg
  · exact fun k t hu => absurd hu (hno t)

theorem cancel (ht : w.tasks.lookup task = some t)
    (hse : ∀ wid, t.guard = some (wid, .lifecycle) →
      P (some t) wid (w.node.slot wid) → P none wid (w.node.slot wid)) :
    World.Slots P { w with node := w.node.dropGuard t, tasks := w.tasks.erase task } := by
  have hsl : ∀ k, (w.node.dropGuard t).slot k = w.node.slot k := by
    intro k
    rw [Node.slot, dropGuard_store, dropGuard_state]
    rfl
  have hgn : ∀ u, (w.tasks.erase task).lookup task ≠ some u := by
    intro u hu
    rw [AList.lookup_erase] at hu
    cases hu
  apply hs.move hw (hw.cancel ht) (fun j hne => AList.lookup_erase_ne hne) (fun k _ => hsl k)
  · exact fun k t u _ _ hu => absurd hu (hgn u)
  · exact fun k u _ hu => absurd hu (hgn u)
  · intro k u hu hg _ hP
    cases Option.some_inj.1 (ht.symm.trans hu)
    rw [hsl]
    exact hse k hg hP

end

end

end World.Slots

def World.SlotInv (P : Option Task → String → Slot → Prop) (w : World) : Prop :=
  w.phase = .running → w.Slots P

/-- The induction rule for a property of guarded workloads: it holds of every rebuilt record, the
sections sustain it, and an operation is dropped only where the property survives that. -/
theorem World.SlotInv.step (hs : w.SlotInv P) (hin : w.Inv h) (hc : StepCase h w a w')
    (hst : ∀ act quarantined, w.phase = .restoring [] none act quarantined → ∀ k, P none k
      ⟨act.lookup k, w.node.store.workloads.lookup k, decide (k ∈ quarantined)⟩)
    (hpl : ∀ task t input e after, a = .poll task input → w.tasks.lookup task = some t → PollCase
      h input w.node t e after → Sustains P w.node t e after)
    (hcn : ∀ task t wid, a = .cancel task → w.tasks.lookup task = some t → t.guard = some
      (wid, .lifecycle) → P (some t) wid (w.node.slot wid) → P none wid (w.node.slot wid)) :
    w'.SlotInv P := by
  intro hp
  have hi (hw : w.phase ≠ .running) : w.tasks = ∅ := (hin.idle hw).tasks
  cases hc with
  | unstarted hd =>
    rw [hd] at hp
    cases hp
  | restarted | crashed | quarantined | refused => cases hp
  | corrupted hd | restoreCalled hd =>
    have hrn : w.phase = .running := hp
    rw [hd] at hrn
    cases hrn
  | continued | begun => exact absurd hp (Restored.phase_ne_running _)
  | @started act quarantined _ hr =>
    have ht := hi (by rw [hr]; intro hrn; cases hrn)
    refine ⟨fun k t wid hk => ?_, fun wid _ => ?_⟩
    · rw [ht] at hk
      cases hk
    · exact hst act quarantined hr wid
  | received hrn hl => exact (hs hrn).receive (hin.up hrn) hl _
  | enrolled hrn hl hn => exact (hs hrn).enroll (hin.up hrn) hl hn
  | polled hl hd hc =>
    have hrn := hin.running hl
    exact (hs hrn).advance (hin.up hrn) hl hd hc
      (hpl _ _ _ _ _ rfl hl hc)
  | called hl => exact (hs (hin.running hl)).of_node (fun _ => rfl) rfl
  | cancelled hl =>
    have hrn := hin.running hl
    exact (hs hrn).cancel (hin.up hrn) hl
      fun wid hg => hcn _ _ wid rfl hl hg
  | offered hrn hstt =>
    rcases hstt with rfl | rfl
    · exact hs hrn
    · exact (hs hrn).of_node (fun _ => rfl) rfl
  | attached hrn => exact (hs hrn).of_node (fun _ => rfl) rfl

def World.Quiescent (w : World) : Prop :=
  w.phase = .running ∧ ∀ k t workloadId, w.tasks.lookup k = some t →
    t.guard ≠ some (workloadId, .lifecycle)

def Phase.isRunning : Phase → Bool
  | .running => true
  | _ => false

theorem Phase.eq_running {p : Phase} (hp : p.isRunning = true) : p = .running := by
  cases p with
  | running => rfl
  | _ => cases hp

theorem World.quiescent_of_empty
    (hq : (w.phase.isRunning && w.tasks.entries.isEmpty) = true) : w.Quiescent := by
  obtain ⟨hp, ht⟩ := Bool.and_eq_true_iff.1 hq
  have hts : w.tasks = ∅ := AList.ext (List.isEmpty_iff.1 ht)
  refine ⟨Phase.eq_running hp, fun k t wid hk => ?_⟩
  rw [hts] at hk
  cases hk

theorem World.Quiescent.unheld (hq : w.Quiescent) (hi : w.Inv h) (k : String) :
    w.node.mutations.lookup k ≠ some .lifecycle := by
  intro hh
  obtain ⟨task, t, hl, hg⟩ := (hi.up hq.1).exclusive.owned k _ hh
  exact hq.2 task t k hl hg

end Podmesh
