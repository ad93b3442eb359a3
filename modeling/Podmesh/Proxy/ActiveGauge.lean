import Podmesh.Lib.Assoc

/-!
Creating and dropping an `ActiveGauge` first changes the counter of the gauge and then publishes
the value it changed it to. Operations of other threads may come in between.
-/

namespace Podmesh

/-- An operation that has changed the counter and not published yet; `rank` is the number of
changes up to its own. -/
structure Publication where
  creates : Bool
  value : Nat
  rank : Nat

/-- `guards` are alive: their creation has returned and their drop has not begun. `shown` is the
rank of the value published last. -/
structure GaugeState where
  active : Nat
  gauge : Nat
  guards : Nat
  pending : AList fun _ : Nat => Publication
  changes : Nat
  shown : Nat

inductive GaugeAction where
  | create (id : Nat)
  | drop (id : Nat)
  | publish (id : Nat)

namespace GaugeState

def new : GaugeState := ⟨0, 0, 0, ∅, 0, 0⟩

def change (s : GaugeState) (id : Nat) (creates : Bool) (active value : Nat) : GaugeState :=
  { s with
    active
    pending := s.pending.insert id ⟨creates, value, s.changes + 1⟩
    changes := s.changes + 1 }

/-- `fetch_add` and `fetch_sub` wrap around, what is published saturates. -/
def step (s : GaugeState) : GaugeAction → Option GaugeState
  | .create id =>
    if s.pending.lookup id = none then
      some (s.change id true ((s.active + 1) % 2 ^ 64) (min (s.active + 1) (2 ^ 64 - 1)))
    else none
  | .drop id =>
    if s.pending.lookup id = none ∧ 0 < s.guards then
      some { s.change id false ((s.active + (2 ^ 64 - 1)) % 2 ^ 64) (s.active - 1) with
        guards := s.guards - 1 }
    else none
  | .publish id =>
    (s.pending.lookup id).map fun p => { s with
      gauge := p.value
      guards := s.guards + p.creates.toNat
      pending := s.pending.erase id
      shown := p.rank }

/-- The step condition: the counter does not wrap around. -/
def roomy (s : GaugeState) : GaugeAction → Bool
  | .create _ => s.active + 1 < 2 ^ 64
  | _ => true

/-- A value that was read before the last change of the counter, or by it. -/
def Timely (s : GaugeState) (value rank : Nat) : Prop :=
  rank < s.changes ∨ rank = s.changes ∧ value = s.active

structure Counted (s : GaugeState) : Prop where
  active : s.active = s.guards + Assoc.total (fun _ p => p.creates.toNat) s.pending
  small : s.active < 2 ^ 64
  pending : ∀ id p, s.pending.lookup id = some p → s.Timely p.value p.rank
  gauge : s.Timely s.gauge s.shown

variable {s s' : GaugeState} {id : Nat} {p : Publication}

theorem Counted.change (h : s.Counted) (hn : s.pending.lookup id = none) (creates : Bool)
    (hv : value = live + creates.toNat + Assoc.total (fun _ p => p.creates.toNat) s.pending)
    (hs : value < 2 ^ 64) : Counted { s.change id creates value value with guards := live } := by
  have hps {v rank} (ht : s.Timely v rank) : rank < s.changes + 1 := by
    obtain hr | ⟨rfl, _⟩ := ht
    · exact Nat.lt_succ_of_lt hr
    · exact Nat.lt_succ_self _
  refine ⟨?_, hs, fun id' p' hp => ?_, .inl (hps h.gauge)⟩
  · rw [GaugeState.change, Assoc.total_insert_new _ _ hn, hv, Nat.add_assoc]
  · rcases Assoc.lookup_insert_cases hp with ⟨_, rfl⟩ | ⟨_, ho⟩
    · exact .inr ⟨rfl, rfl⟩
    · exact .inl (hps (h.pending id' p' ho))

theorem Counted.step (h : s.Counted) (hrm : s.roomy a = true) (hs : s.step a = some s') :
    s'.Counted := by
  have ha := h.active
  have hsm := h.small
  cases a with
  | create id =>
    obtain ⟨hn, hs⟩ := Option.ite_none_right_eq_some.1 hs
    rw [← Option.some.inj hs]
    have hr : s.active + 1 < 2 ^ 64 := of_decide_eq_true hrm
    have hm : min (s.active + 1) (2 ^ 64 - 1) = s.active + 1 := min_eq_left (by omega)
    rw [Nat.mod_eq_of_lt hr, hm]
    exact h.change hn true (by rw [ha, Nat.add_right_comm]; rfl) hr
  | drop id =>
    obtain ⟨⟨hn, hg⟩, hs⟩ := Option.ite_none_right_eq_some.1 hs
    have hw : (s.active + (2 ^ 64 - 1)) % 2 ^ 64 = s.active - 1 := by omega
    rw [← Option.some.inj hs, hw]
    refine h.change hn false ?_ (by omega)
    rw [ha, Bool.toNat_false]
    omega
  | publish id =>
    obtain ⟨p, hp, rfl⟩ := Option.map_eq_some_iff.1 hs
    refine ⟨?_, hsm, fun id' q hq => h.pending id' q (Assoc.lookup_of_erase hq).2,
      h.pending id p hp⟩
    rw [ha, Assoc.total_of_lookup _ hp, Nat.add_assoc]

end GaugeState

/-- Whenever no operation is in progress, the gauge is the number of guards, if the operation that
changed the counter last also published last and the counter does not wrap around. -/
theorem gauge_exact_at_rest {s : GaugeState}
    (hr : Reach GaugeState.step (fun s a => s.roomy a = true) .new s) (hrest : Assoc.size s.pending = 0)
    (hlast : s.shown = s.changes) : s.gauge = s.guards := by
  have h : s.Counted := by
    apply Reach.invariant GaugeState.Counted _ _ hr
    · exact ⟨rfl, by decide, fun _ _ hp => (by cases hp), .inr ⟨rfl, rfl⟩⟩
    · intro s a s' _ h hrm hs
      exact h.step hrm hs
  obtain hlt | ⟨_, hg⟩ := h.gauge
  · exact absurd hlast (Nat.ne_of_lt hlt)
  · rw [hg, h.active, Assoc.total, List.eq_nil_of_length_eq_zero hrest]
    rfl

/-- Two guards are created at once, and one of them is dropped. -/
theorem gauge_exact_at_rest_dropped :
    ∃ s, Reach GaugeState.step (fun s a => s.roomy a = true) .new s ∧ s.guards = 1 ∧
      s.gauge = s.guards := by
  obtain ⟨s, hr, hrs, hl, hg⟩ := exists_reach_of_run GaugeState.step
    (fun s a => s.roomy a = true) .new
    [.create 0, .create 1, .publish 1, .publish 0, .drop 0, .publish 0]
    (fun s => Assoc.size s.pending = 0 ∧ s.shown = s.changes ∧ s.guards = 1) (by decide +kernel)
  exact ⟨s, hr, hg, gauge_exact_at_rest hr hrs hl⟩

/-- The thread that creates the first of two guards publishes last. -/
theorem gauge_published_late :
    ∃ s, Reach GaugeState.step always .new s ∧ Assoc.size s.pending = 0 ∧ s.guards = 2 ∧ s.gauge = 1 :=
  exists_reach_of_run GaugeState.step always .new [.create 0, .create 1, .publish 1, .publish 0]
    (fun s => Assoc.size s.pending = 0 ∧ s.guards = 2 ∧ s.gauge = 1) (by decide +kernel)

end Podmesh
