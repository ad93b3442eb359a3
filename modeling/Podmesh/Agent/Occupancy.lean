import Podmesh.Agent.Invariant
import Podmesh.Agent.Reference
import Podmesh.Agent.Usage

namespace Podmesh

variable {h : Host} {i : Input} {n : Node}

inductive Accounts (h : Host) (i : Input) (n : Node) : Task → Effect → Prop
  | settled : e.reservations = n.state.reservations →
      (∀ k v, (e.memory.apply n.state.active).lookup k = some v →
        (n.state.active.lookup k).isSome) → Accounts h i n t e
  | admits {now : UInt64} {request : AdmissionRequest} : e.memory = .keep →
      e.reservations = (admitLocked h now i.freshId request n.state).1.reservations →
      Accounts h i n (.admitLock now request) e
  | consumes : e.memory = .keep →
      e.reservations = n.state.reservations.erase grant.reservationId →
      Accounts h i n (.deployLock now grant execution) e
  | deploys : n.state.reservations.lookup grant.reservationId = some r →
      r.workloadId = grant.workloadId → n.state.active.lookup grant.workloadId = none →
      e.memory = .put grant.workloadId stored → stored.amount = r.amount →
      e.reservations = n.state.reservations.erase grant.reservationId →
      Accounts h i n (.deployLock now grant execution) e

theorem active_of_slot (hs : n.slot wid = .holding m r) : n.state.active.lookup wid = some m :=
  congrArg Slot.memory hs

theorem settles_put (hm : act.lookup wid = some m) (k : String) (v : StoredWorkload)
    (hv : ((Edit.put wid w).apply act).lookup k = some v) : (act.lookup k).isSome := by
  rcases Assoc.lookup_insert_cases hv with ⟨rfl, _⟩ | ⟨_, hv⟩
  · rw [hm]
    rfl
  · rw [hv]
    rfl

theorem PollCase.accounts (hc : PollCase h i n t e after)
    (hh : ∀ wid o, t.guard = some (wid, o) → t.Holds (n.slot wid)) : Accounts h i n t e := by
  cases hc with
  | admitted => exact .admits rfl rfl
  | deployRefused => exact .consumes rfl rfl
  | deployStarted hl hp =>
    have hpl := planDeployment_ok hp
    exact .deploys hl hpl.workloadId hpl.absent rfl hpl.amount rfl
  | failRecorded => exact .settled rfl (settles_put (active_of_slot (hh _ _ rfl)))
  | deployRemoved | deleteRemoved =>
    exact .settled rfl fun k v hv => Option.isSome_iff_exists.2 ⟨v, (Assoc.lookup_of_erase hv).2⟩
  | deployCommitted => exact .settled rfl (settles_put (active_of_slot (hh _ _ rfl).1))
  | updateStarted hl => exact .settled rfl (settles_put (owned_some hl).1)
  | rolledBack =>
    obtain ⟨ho, hs⟩ := hh _ _ rfl
    exact .settled rfl (settles_put (ho.key ▸ active_of_slot hs))
  | updateCommitted => exact .settled rfl (settles_put (active_of_slot (hh _ _ rfl).2.1))
  | deleteUnsaved hl | deleteMarked hl | deleteUnmarked hl => exact .settled rfl (settles_put hl)
  | deleteRestored => exact .settled rfl (settles_put (active_of_slot (hh _ _ rfl).2.2))
  | _ => exact .settled rfl fun k v hv => Option.isSome_iff_exists.2 ⟨v, hv⟩

structure WorkloadState.Occupied (config : Config) (s : WorkloadState) : Prop where
  activeReserved : ∀ k w id r, s.active.lookup k = some w → s.reservations.lookup id = some r →
    r.workloadId ≠ k
  reservedOnce : ∀ id id' r r', s.reservations.lookup id = some r →
    s.reservations.lookup id' = some r' → r.workloadId = r'.workloadId → id = id'
  slots : s.slots ≤ config.maxWorkloads
  count : Assoc.size s.reservations ≤ maxReservations
  perNamespace : ∀ namespaceId, s.reservationsFor namespaceId ≤ maxReservationsPerNamespace

def inNamespace (namespaceId : String) (_ : String) (r : Reservation) : Nat :=
  if r.namespaceId = namespaceId then 1 else 0

theorem reservationsFor_eq_total (s : WorkloadState) (nsid : String) :
    s.reservationsFor nsid = Assoc.total (inNamespace nsid) s.reservations := by
  unfold WorkloadState.reservationsFor Assoc.total
  induction s.reservations.entries with
  | nil => rfl
  | cons e entries ih =>
    by_cases hn : e.2.namespaceId = nsid
    · simp only [List.filter_cons, beq_iff_eq, hn, if_true, List.length_cons, ih, List.map_cons,
        List.sum_cons, inNamespace]
      omega
    · simp [hn, ih, inNamespace]

namespace WorkloadState.Occupied
variable {config : Config} {s s' : WorkloadState}

theorem empty (config : Config) : WorkloadState.empty.Occupied config where
  activeReserved _ _ _ _ hk := by cases hk
  reservedOnce _ _ _ _ hr := by cases hr
  slots := Nat.zero_le _
  count := Nat.zero_le _
  perNamespace _ := Nat.zero_le _

theorem mono (ho : s.Occupied config)
    (ha : ∀ k v, s'.active.lookup k = some v → (s.active.lookup k).isSome)
    (hr : ∀ id r, s'.reservations.lookup id = some r → s.reservations.lookup id = some r)
    (hq : s'.quarantined = s.quarantined) : s'.Occupied config where
  activeReserved k v id r hk hid := by
    obtain ⟨w, hw⟩ := Option.isSome_iff_exists.1 (ha k v hk)
    exact ho.activeReserved k w id r hw (hr id r hid)
  reservedOnce id id' r r' hid hi' := ho.reservedOnce id id' r r' (hr id r hid) (hr id' r' hi')
  slots := by
    have hac := Assoc.size_le_of_lookup ha
    have hrs : Assoc.size s'.reservations ≤ Assoc.size s.reservations :=
      Assoc.size_le_of_lookup fun id r hid => Option.isSome_iff_exists.2 ⟨r, hr id r hid⟩
    have hs := ho.slots
    simp only [WorkloadState.slots, hq] at hs ⊢
    omega
  count := by
    have hrs : Assoc.size s'.reservations ≤ Assoc.size s.reservations :=
      Assoc.size_le_of_lookup fun id r hid => Option.isSome_iff_exists.2 ⟨r, hr id r hid⟩
    exact hrs.trans ho.count
  perNamespace namespaceId := by
    refine Nat.le_trans ?_ (ho.perNamespace namespaceId)
    rw [reservationsFor_eq_total, reservationsFor_eq_total]
    exact Assoc.total_le_of_lookup _ _ fun id r hid => ⟨r, hr id r hid, Nat.le_refl _⟩

theorem retain (ho : s.Occupied config) (now : UInt64) :
    (s.retainReservations now).Occupied config :=
  ho.mono (fun _ v hk => Option.isSome_iff_exists.2 ⟨v, hk⟩)
    (fun _ _ hid => (Assoc.lookup_of_retain hid).1) rfl

theorem consume (ho : s.Occupied config) (id : String) : (s.consume id).Occupied config :=
  ho.mono (fun _ v hk => Option.isSome_iff_exists.2 ⟨v, hk⟩)
    (fun _ _ hid => (Assoc.lookup_of_erase hid).2) rfl

end WorkloadState.Occupied

structure AdmissionChecks.Accepted (config : Config) (s : WorkloadState)
    (request : AdmissionRequest) : Prop where
  reliable : s.quarantined = ∅
  notActive : s.active.lookup request.workloadId = none
  notReserved : ∀ id r, s.reservations.lookup id = some r → r.workloadId ≠ request.workloadId
  slots : s.slots < config.maxWorkloads
  count : Assoc.size s.reservations < maxReservations
  perNamespace : s.reservationsFor request.namespaceId < maxReservationsPerNamespace
  capacity : config.fits (s.usage.plus request.cpuMilli.toNat request.memoryBytes.toNat
    request.storageBytes.toNat) = true
  ceiling : (s.reservedUsage.plus request.cpuMilli.toNat request.memoryBytes.toNat
    request.storageBytes.toNat).fitsWithin config.reservedCapacityCeiling.cpuMilli
      config.reservedCapacityCeiling.memoryBytes config.reservedCapacityCeiling.storageBytes = true

theorem admissionChecks_accepted (hac : (admissionChecks config s request).accepted = true) :
    AdmissionChecks.Accepted config s request := by
  simp only [AdmissionChecks.accepted, admissionChecks, Bool.and_eq_true, beq_iff_eq,
    Finset.card_eq_zero, Bool.not_eq_true', decide_eq_true_eq, WorkloadState.containsWorkload,
    Bool.or_eq_false_iff, Option.isSome_eq_false_iff, Option.isNone_iff_eq_none,
    List.any_eq_false] at hac
  obtain ⟨⟨⟨⟨⟨hq, ⟨ha, _⟩, hr⟩, hs⟩, hcn, hns⟩, hc⟩, hcl⟩ := hac
  refine ⟨hq, ha, fun id r hid heq => ?_, hs, hcn, hns, hc, hcl⟩
  exact hr ⟨id, r⟩ (AList.mem_lookup_iff.1 hid) heq

namespace WorkloadState.Occupied
variable {config : Config} {s : WorkloadState}

theorem reserve {id : String} (ho : s.Occupied config) (ha : AdmissionChecks.Accepted config s req)
    (hr : Admits req id r) :
    WorkloadState.Occupied config { s with reservations := s.reservations.insert id r } where
  activeReserved k w id' r' hk hi' := by
    rcases Assoc.lookup_insert_cases hi' with ⟨_, rfl⟩ | ⟨_, hi'⟩
    · rw [hr.workloadId]
      rintro rfl
      rw [ha.notActive] at hk
      cases hk
    · exact ho.activeReserved k w id' r' hk hi'
  reservedOnce id₁ id₂ r₁ r₂ h₁ h₂ hs := by
    rcases Assoc.lookup_insert_cases h₁ with ⟨hi₁, rfl⟩ | ⟨_, old₁⟩ <;>
      rcases Assoc.lookup_insert_cases h₂ with ⟨hi₂, rfl⟩ | ⟨_, old₂⟩
    · rw [hi₁, hi₂]
    · exact absurd (hs.symm.trans hr.workloadId) (ha.notReserved id₂ r₂ old₂)
    · exact absurd (hs.trans hr.workloadId) (ha.notReserved id₁ r₁ old₁)
    · exact ho.reservedOnce id₁ id₂ r₁ r₂ old₁ old₂ hs
  slots := by
    have hsz := Assoc.size_insert_le s.reservations id r
    have hsl := ha.slots
    simp only [WorkloadState.slots] at hsl ⊢
    omega
  count := by
    have hsz := Assoc.size_insert_le s.reservations id r
    have hc := ha.count
    dsimp only
    omega
  perNamespace namespaceId := by
    have hol := ho.perNamespace namespaceId
    have hi := Assoc.total_insert (inNamespace namespaceId) s.reservations id r
    have he := Assoc.total_erase_le (inNamespace namespaceId) s.reservations id
    rw [reservationsFor_eq_total] at hol ⊢
    by_cases hns : r.namespaceId = namespaceId
    · have hrm := ha.perNamespace
      rw [reservationsFor_eq_total, ← hr.namespaceId, hns] at hrm
      simp only [inNamespace, hns, if_true] at hi he hrm ⊢
      omega
    · rw [hi]
      simp only [inNamespace, hns, if_false] at he hol ⊢
      omega

theorem deploy {id : String} {r : Reservation} (ho : s.Occupied config) (hl : s.reservations.lookup id = some r)
    (hw : r.workloadId = wid) (ha : s.active.lookup wid = none) :
    WorkloadState.Occupied config
      { s.consume id with active := s.active.insert wid st } where
  activeReserved k w id' r' hk hi' := by
    obtain ⟨hne, hol⟩ := Assoc.lookup_of_erase hi'
    rcases Assoc.lookup_insert_cases hk with ⟨rfl, _⟩ | ⟨_, hk⟩
    · exact fun hsm => hne (ho.reservedOnce id' id r' r hol hl (hsm.trans hw.symm))
    · exact ho.activeReserved k w id' r' hk hol
  reservedOnce := (ho.consume id).reservedOnce
  slots := by
    have hac := Assoc.size_insert_le s.active wid st
    have hr := Assoc.size_erase_of_lookup hl
    have hs := ho.slots
    simp only [WorkloadState.slots, WorkloadState.consume] at hs ⊢
    omega
  count := (ho.consume id).count
  perNamespace := (ho.consume id).perNamespace

end WorkloadState.Occupied

theorem Accounts.occupied {n' : Node} (ha : Accounts h i n t e) (hd : n.Does n' e)
    (ho : n.state.Occupied h.config) : n'.state.Occupied h.config := by
  have hst : n'.state = ⟨e.memory.apply n.state.active, e.reservations, n.state.quarantined⟩ := by
    rw [← hd.active, ← hd.reservations, ← hd.quarantined]
  rw [hst]
  cases ha with
  | settled hr hk => exact ho.mono hk (fun id r hid => hr ▸ hid) rfl
  | @admits _ now req hm hr =>
    rw [hm, hr]
    obtain hs | ⟨hac, r, had, hs⟩ := admitLocked_cases h now i.freshId req n.state
    · rw [hs]
      exact ho.retain now
    · rw [hs]
      exact (ho.retain now).reserve (admissionChecks_accepted hac) had
  | consumes hm hr =>
    rw [hm, hr]
    exact ho.consume _
  | deploys hl hw hf hm _ hr =>
    rw [hm, hr]
    exact ho.deploy hl hw hf

inductive StateChange (h : Host) (w : World) : Action → WorkloadState → Prop
  | same : StateChange h w a w.node.state
  | reset : StateChange h w a .empty
  | restored : w.phase = .restoring [] none active quarantined →
      StateChange h w a ⟨active, ∅, quarantined⟩
  | ran {input : Input} : w.tasks.lookup task = some t → Accounts h input w.node t e →
      w.node.Does n' e → StateChange h w (.poll task input) n'.state
  | pruned : StateChange h w a (w.node.state.retainReservations now)

theorem StepCase.stateChange (hw : w.Inv h) (hc : StepCase h w a w') :
    StateChange h w a w'.node.state := by
  cases hc with
  | restarted | crashed | refused => exact .reset
  | continued _ hn | begun _ hn =>
    rw [hn.state]
    exact .same
  | started hp => exact .restored hp
  | received =>
    rw [World.received_state]
    exact .same
  | polled hl hd hc =>
    rw [World.advance_state]
    have hr := hw.polling hl
    exact .ran hl (hc.accounts fun wid o hg => hr.holds _ _ wid o hl hg) hd
  | cancelled =>
    rw [dropGuard_state]
    exact .same
  | offered _ hs =>
    rcases hs with rfl | rfl
    · exact .same
    · exact .pruned
  | _ =>
    exact .same

theorem World.Restoring.occupied {w : World} (hw : w.Restoring h [] none act quar) :
    WorkloadState.Occupied h.config ⟨act, ∅, quar⟩ where
  activeReserved _ _ _ _ _ hid := by cases hid
  reservedOnce _ _ _ _ hid := by cases hid
  slots := by
    have hc := hw.count
    simp only [WorkloadState.slots, Assoc.size_empty, List.length_nil, Option.toList_none] at hc ⊢
    omega
  count := Nat.zero_le _
  perNamespace _ := Nat.zero_le _

theorem reach_occupied (hr : Reach (World.step h) ok .fresh w) : w.node.state.Occupied h.config := by
  refine Reach.invariant (fun w => w.node.state.Occupied h.config) (.empty h.config)
    (fun w a w' hw ho _ hs => ?_) hr
  have hi := reach_inv hw
  generalize hst : w'.node.state = state
  have hc := (step_cases hs).stateChange hi
  rw [hst] at hc
  cases hc with
  | same => exact ho
  | reset => exact .empty h.config
  | restored hp => exact (hi.restoring hp).occupied
  | ran _ ha hd => exact ha.occupied hd ho
  | pruned => exact ho.retain _

/-- The step condition on admissions: where the ceiling is the largest `u64`, the exact sum of the
unexpired reservations and the request does not exceed it either. -/
def reservedSumsFit (h : Host) (w : World) : Action → Bool
  | .poll task _ =>
    match w.tasks.lookup task with
    | some (.admitLock now request) => Dim.all fun d =>
        decide (h.config.reservedCapacityCeiling.get d < u64Max) ||
          decide ((w.node.state.retainReservations now).reservedTotal d + request.amount d ≤ u64Max)
    | _ => true
  | _ => true

def WorkloadState.WithinCeiling (config : Config) (s : WorkloadState) : Prop :=
  ∀ d, s.reservedTotal d ≤ config.reservedCapacityCeiling.get d

theorem retain_reservedTotal (s : WorkloadState) (now : UInt64) (d : Dim) :
    (s.retainReservations now).reservedTotal d ≤ s.reservedTotal d :=
  Assoc.total_le_of_lookup _ _ fun _ r hid => ⟨r, (Assoc.lookup_of_retain hid).1, Nat.le_refl _⟩

theorem AdmissionChecks.Accepted.withinCeiling {s : WorkloadState} {id : String}
    (hac : AdmissionChecks.Accepted config s req) (hr : Admits req id r)
    (hf : config.reservedCapacityCeiling.get d < u64Max ∨
      s.reservedTotal d + req.amount d ≤ u64Max) :
    WorkloadState.reservedTotal { s with reservations := s.reservations.insert id r } d ≤
      config.reservedCapacityCeiling.get d := by
  have hc := (ResourceUsage.fitsWithin_iff _ _ _ _).1 hac.ceiling d
  rw [ResourceUsage.plus_get, WorkloadState.reservedUsage_get, saturatingAdd] at hc
  have ha : (⟨req.cpuMilli.toNat, req.memoryBytes.toNat,
      req.storageBytes.toNat⟩ : ResourceUsage).get d = req.amount d := by cases d <;> rfl
  have hcl : (⟨config.reservedCapacityCeiling.cpuMilli,
      config.reservedCapacityCeiling.memoryBytes,
      config.reservedCapacityCeiling.storageBytes⟩ : ResourceUsage).get d =
        config.reservedCapacityCeiling.get d := by cases d <;> rfl
  rw [ha, hcl] at hc
  have hi : WorkloadState.reservedTotal
      { s with reservations := s.reservations.insert id r } d ≤
        r.amount d + s.reservedTotal d := by
    simp only [WorkloadState.reservedTotal, Assoc.total_insert]
    have he := Assoc.total_erase_le (fun _ (r : Reservation) => r.amount d) s.reservations id
    omega
  rw [hr.amount] at hi
  rcases hf with hf | hf <;> omega

theorem Accounts.withinCeiling (ha : Accounts h i n t e) (hd : n.Does n' e)
    (hw : n.state.WithinCeiling h.config)
    (hf : ∀ now req, t = .admitLock now req → ∀ d, h.config.reservedCapacityCeiling.get d
      < u64Max ∨ (n.state.retainReservations now).reservedTotal d + req.amount d ≤ u64Max) :
    n'.state.WithinCeiling h.config := by
  intro d
  have ht : n'.state.reservedTotal d = Assoc.total (fun _ r => r.amount d) e.reservations := by
    rw [WorkloadState.reservedTotal, hd.reservations]
  rw [ht]
  cases ha with
  | settled hr =>
    rw [hr]
    exact hw d
  | @admits _ now req _ hr =>
    rw [hr]
    obtain hs | ⟨hac, r, had, hs⟩ := admitLocked_cases h now i.freshId req n.state
    · rw [hs]
      exact Assoc.total_retain_le.trans (hw d)
    · rw [hs]
      exact (admissionChecks_accepted hac).withinCeiling had (hf now req rfl d)
  | consumes _ hr | deploys _ _ _ _ _ hr =>
    rw [hr]
    exact (Assoc.total_erase_le _ _ _).trans (hw d)

theorem reach_withinCeiling
    (hr : Reach (World.step h) (fun w a => reservedSumsFit h w a = true) .fresh w) :
    w.node.state.WithinCeiling h.config := by
  have he : WorkloadState.empty.WithinCeiling h.config := fun _ => Nat.zero_le _
  refine Reach.invariant (fun w => w.node.state.WithinCeiling h.config) he
    (fun w a w' hw ho hok hs => ?_) hr
  have hi := reach_inv hw
  generalize hst : w'.node.state = state
  have hc := (step_cases hs).stateChange hi
  rw [hst] at hc
  cases hc with
  | same => exact ho
  | reset => exact he
  | restored hp => exact fun _ => Nat.zero_le _
  | ran hl ha hd =>
    refine ha.withinCeiling hd ho fun now req ht d => ?_
    subst ht
    simp only [reservedSumsFit, hl, Dim.all_iff, Bool.or_eq_true, decide_eq_true_eq] at hok
    exact hok d
  | pruned => exact fun d => Assoc.total_retain_le.trans (ho d)

/-- Slots and identities of an agent state: no workload is in two places, and every limit on
workloads and reservations holds with exact sums. -/
structure WorkloadState.Consistent (config : Config) (s : WorkloadState) : Prop where
  activeQuarantined : ∀ k w, s.active.lookup k = some w → k ∉ s.quarantined
  activeReserved : ∀ k w id r, s.active.lookup k = some w → s.reservations.lookup id = some r →
    r.workloadId ≠ k
  reservedQuarantined : ∀ id r, s.reservations.lookup id = some r → r.workloadId ∉ s.quarantined
  reservedOnce : ∀ id id' r r', s.reservations.lookup id = some r →
    s.reservations.lookup id' = some r' → r.workloadId = r'.workloadId → id = id'
  slots : Assoc.size s.active + Assoc.size s.reservations + s.quarantined.card ≤
    config.maxWorkloads
  reservations : Assoc.size s.reservations ≤ maxReservations
  perNamespace : ∀ namespaceId, s.reservationsFor namespaceId ≤ maxReservationsPerNamespace
  ceiling : ∀ d, s.reservedTotal d ≤ config.reservedCapacityCeiling.get d

/-- In every run whose admissions keep the reserved sums within `u64`, every state reached is
consistent. -/
theorem reachable_states_consistent
    (hr : Reach (World.step h) (fun w a => reservedSumsFit h w a = true) .fresh w) :
    w.node.state.Consistent h.config := by
  have hi := reach_inv hr
  have ho := reach_occupied hr
  refine ⟨fun k v hk => ?_, ho.activeReserved, fun id r hid hq => ?_, ho.reservedOnce, ho.slots,
    ho.count, ho.perNamespace, reach_withinCeiling hr⟩
  · unfold World.Inv at hi
    split at hi
    · rw [hi.1.state] at hk
      cases hk
    · rw [hi.idle.state] at hk
      cases hk
    · obtain ⟨_, r, hs⟩ := (hi.sound k).memory_bound hk
      have hf : (w.node.slot k).quarantined = false := by rw [hs]; rfl
      simpa [Node.slot] using hf
  · unfold World.Inv at hi
    split at hi
    · rw [hi.1.state] at hid
      cases hid
    · rw [hi.idle.state] at hid
      cases hid
    · rw [hi.quarantine hq] at hid
      cases hid

namespace Reference

def twoReservations (memory : UInt64) : List Action :=
  startUp ++ reserve 0 "a" "n1" 1000 memory 1024 ++ reserve 1 "b" "n2" 1000 memory 1024

def wideConfig : Config :=
  { Config.default with capacityMemoryBytes := 18446744073709551615
                        maxReservedCapacityPercent := 100 }

end Reference

open Reference

theorem two_reservations_consistent :
    ∃ w, Reach (World.step (host .default))
        (fun w a => reservedSumsFit (host .default) w a = true) .fresh w ∧
      w.node.state.Consistent .default ∧ Assoc.size w.node.state.reservations = 2 := by
  obtain ⟨w, hr, hs⟩ := exists_reach_of_run (World.step (host .default))
    (reservedSumsFit (host .default) · · = true) .fresh (twoReservations 1024)
    (Assoc.size ·.node.state.reservations = 2) (by decide +kernel)
  exact ⟨w, hr, reachable_states_consistent hr, hs⟩

/-- Two admissions of the whole memory are both accepted: the saturated sum hides the second. -/
theorem reserved_sum_exceeds_ceiling : wideConfig.validate = .ok () ∧
    ∃ w, Reach (World.step (host wideConfig)) always .fresh w ∧
      wideConfig.reservedCapacityCeiling.get .memory < w.node.state.reservedTotal .memory :=
  ⟨by decide, exists_reach_of_run _ _ _ (twoReservations 18446744073709551615) _ (by decide +kernel)⟩

end Podmesh
