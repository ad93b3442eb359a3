import Podmesh.Agent.Occupancy

namespace Podmesh

variable {h : Host} {i : Input} {n : Node}

/-- The amount a record on disk stands for; one that cannot be read stands for nothing. -/
def persistedAmount (r : Option StoredWorkload) (d : Dim) : Nat := r.elim 0 fun w => w.amount d

/-- What a workload may come to hold: its record in memory or the one a crash would bring back,
whichever is larger. -/
def Node.charge (n : Node) (d : Dim) (workloadId : String) (w : StoredWorkload) : Nat :=
  max (w.amount d) ((n.store.workloads.lookup workloadId).elim 0 fun r => persistedAmount r d)

def Node.chargedOthers (n : Node) (workloadId : String) (d : Dim) : Nat :=
  Assoc.total (n.charge d) (n.state.active.erase workloadId)

def Node.charged (n : Node) (d : Dim) : Nat := Assoc.total (n.charge d) n.state.active

def Store.persistedTotal (s : Store) (d : Dim) : Nat :=
  Assoc.total (fun _ r => persistedAmount r d) s.workloads

def Slot.charge (s : Slot) (d : Dim) : Nat :=
  s.memory.elim 0 fun m => max (m.amount d) (s.disk.elim 0 fun r => persistedAmount r d)

theorem charged_split (n : Node) (workloadId : String) (d : Dim) :
    n.charged d = (n.slot workloadId).charge d + n.chargedOthers workloadId d :=
  Assoc.total_split (n.charge d) n.state.active workloadId

theorem activeTotal_le_charged (n : Node) (d : Dim) : n.state.activeTotal d ≤ n.charged d :=
  Assoc.total_le fun _ _ _ => Nat.le_max_left _ _

theorem persistedTotal_le_charged (hs : ∀ k, (n.slot k).Sound k) (d : Dim) :
    n.store.persistedTotal d ≤ n.charged d := by
  refine Assoc.total_mono _ _ fun k => ?_
  show ((n.slot k).disk.elim 0 fun r => persistedAmount r d) ≤ (n.slot k).charge d
  have hslot := hs k
  generalize n.slot k = s at hslot ⊢
  cases hslot with
  | empty | unreadable => exact Nat.zero_le _
  | holding => exact Nat.le_max_right _ _

variable {n : Node} {n' : Node}

theorem chargedOthers_eq (hslot : ∀ k, k ≠ workloadId → n'.slot k = n.slot k) (d : Dim) :
    n'.chargedOthers workloadId d = n.chargedOthers workloadId d := by
  have hle (a b : Node) (hab : ∀ k, k ≠ workloadId → a.slot k = b.slot k) :
      a.chargedOthers workloadId d ≤ b.chargedOthers workloadId d := by
    refine Assoc.total_le_of_lookup _ _ fun k v hv => ?_
    obtain ⟨hne, hv⟩ := Assoc.lookup_of_erase hv
    have hm : a.state.active.lookup k = b.state.active.lookup k :=
      congrArg Slot.memory (hab k hne)
    have hd : a.store.workloads.lookup k = b.store.workloads.lookup k :=
      congrArg Slot.disk (hab k hne)
    refine ⟨v, ?_, ?_⟩
    · rw [AList.lookup_erase_ne hne, ← hm, hv]
    · rw [Node.charge, Node.charge, hd]
  exact Nat.le_antisymm (hle n' n hslot) (hle n n' fun k hk => (hslot k hk).symm)

inductive Charges (h : Host) (i : Input) (n : Node) (workloadId : String) : Task → Effect → Prop
  | within : (∀ d, Assoc.total (fun _ r => r.amount d) e.reservations +
        ((n.slot workloadId).after e workloadId).charge d ≤
      n.state.reservedTotal d + (n.slot workloadId).charge d) → Charges h i n workloadId t e
  | updates {request : UpdateRequest} : request.workloadId = workloadId →
      UpdateStart h n.state request active → e.reservations = n.state.reservations →
      (∀ d, ((n.slot workloadId).after e workloadId).charge d = request.amount d) →
      Charges h i n workloadId (.updateLock now request execution manifest) e
  /-- The record an update started from is persisted again, in place of the smaller one. -/
  | rollsBack {request : UpdateRequest} {active : StoredWorkload}
      {deployment : WorkloadDeployment} {error runtimeId : String} : request.workloadId = workloadId →
      (runtimeDeploy h i deployment n).2 = .ok runtimeId → i.stored = .ok () →
      e.reservations = n.state.reservations →
      (∀ d, ((n.slot workloadId).after e workloadId).charge d =
        max ((n.slot workloadId).charge d) (active.amount d)) →
      Charges h i n workloadId (.rollbackRuntime request active deployment error) e

theorem charges_memory (hslot : n.slot workloadId = .holding m r)
    (hm : ∀ c, memory.at workloadId (some m) = some c → c.amount = m.amount) :
    Charges h i n workloadId t (.record n memory .keep pods) := by
  refine .within fun d => Nat.add_le_add_left ?_ _
  rw [hslot]
  simp only [Slot.charge, Slot.after, Slot.holding, Effect.record, Edit.at_keep, Option.elim_some]
  cases hc : memory.at workloadId (some m) with
  | none => exact Nat.zero_le _
  | some c => rw [Option.elim_some, hm c hc]

theorem charges_disk (hslot : n.slot workloadId = .holding m r)
    (hm : memory.at workloadId (some m) = some c) (hc : c.amount = m.amount)
    (hd : ∀ v, disk.at workloadId (r.map some) = some (some v) → v.amount = m.amount) :
    Charges h i n workloadId t (.record n memory disk pods) := by
  refine .within fun d => Nat.add_le_add_left ?_ _
  rw [hslot]
  simp only [Slot.charge, Slot.after, Slot.holding, Effect.record, hm, Option.elim_some, hc]
  have hds : ((disk.at workloadId (r.map some)).elim 0 fun r => persistedAmount r d) ≤ m.amount d := by
    cases hv : disk.at workloadId (r.map some) with
    | none => exact Nat.zero_le _
    | some v =>
      cases v with
      | none => exact Nat.zero_le _
      | some v => exact (congrFun (hd v hv) d).le
  omega

theorem charges_deploy (hl : n.state.reservations.lookup grant.reservationId = some rsv)
    (hp : DeploymentPlan h (n.state.consume grant.reservationId) grant exe rsv st dep) :
    Charges h i n grant.workloadId t
      ⟨.put grant.workloadId st, .put st.grant.workloadId (some st), n.pods,
        n.state.reservations.erase grant.reservationId, n.mutations⟩ := by
  refine .within fun d => ?_
  have hf : n.state.active.lookup grant.workloadId = none := hp.absent
  have hr := Assoc.total_of_lookup (fun _ (r : Reservation) => r.amount d) hl
  have ha : ((n.slot grant.workloadId).after
      ⟨.put grant.workloadId st, .put st.grant.workloadId (some st), n.pods,
        n.state.reservations.erase grant.reservationId, n.mutations⟩ grant.workloadId).charge d =
      rsv.amount d := by
    simp [Slot.charge, Slot.after, Edit.at, hp.record, hp.amount, persistedAmount]
  rw [ha]
  simp only [Slot.charge, Node.slot, hf, Option.elim_none, WorkloadState.reservedTotal]
  omega

theorem transitioning_amount : (transitioning req act).amount = req.amount := rfl

section
variable (hslot : n.slot workloadId = .holding m r)
include hslot

theorem charges_put (hk : key = workloadId) (hc : c.amount = m.amount) :
    Charges h i n workloadId t (.record n (.put key c) .keep pods) := by
  refine charges_memory hslot fun _ hv => ?_
  rw [Edit.at_put_of_eq hk] at hv
  exact Option.some.inj hv ▸ hc

theorem charges_drop : Charges h i n workloadId t (.record n (.drop workloadId) .keep pods) := by
  refine charges_memory hslot fun c hc => ?_
  rw [Edit.at_drop] at hc
  cases hc

theorem charges_save (hk : key = workloadId) (hc : c.amount = m.amount) :
    Charges h i n workloadId t (.record n .keep (.put key (some c)) pods) := by
  refine charges_disk hslot rfl rfl fun v hv => ?_
  rw [Edit.at_put_of_eq hk] at hv
  cases hv
  exact hc

theorem charges_remove (hk : key = workloadId) :
    Charges h i n workloadId t (.record n .keep (.drop key) pods) := by
  refine charges_disk hslot rfl rfl fun v hv => ?_
  rw [Edit.at_drop_of_eq hk] at hv
  cases hv

theorem charges_both (hk : key = workloadId) (hk' : key' = workloadId) (hc : c.amount = m.amount) :
    Charges h i n workloadId t (.record n (.put key c) (.put key' (some c)) pods) := by
  refine charges_disk hslot (Edit.at_put_of_eq hk _ _) hc fun v hv => ?_
  rw [Edit.at_put_of_eq hk'] at hv
  cases hv
  exact hc

end

theorem PollCase.charges (hc : PollCase h i n t e after) (hg : t.guard = some (workloadId, o))
    (hs : (n.slot workloadId).Sound workloadId) (hh : t.Holds (n.slot workloadId)) :
    Charges h i n workloadId t e := by
  cases hc with
  | admitted => cases hg
  | guardWait hn => rw [hn] at hg; cases hg
  | deployRefused =>
    exact .within fun _ => Nat.add_le_add_right (Assoc.total_erase_le _ _ _) _
  | deployStarted hl hp =>
    cases hg
    exact charges_deploy hl (planDeployment_ok hp)
  | deploySaved =>
    cases hg
    exact charges_save hh.1 rfl rfl
  | failRecorded hds =>
    cases hg
    rcases hds with rfl | rfl
    · exact charges_put hh rfl rfl
    · exact charges_both hh rfl rfl rfl
  | cleanupDone =>
    cases hg
    obtain ⟨_, hslot | hslot⟩ := hh <;> exact charges_remove hslot rfl
  | deployRemoved =>
    cases hg
    exact charges_drop hh
  | deployCommitted =>
    cases hg
    exact charges_put hh.1 rfl rfl
  | updateStarted hl hp =>
    cases hg
    obtain ⟨hb, r, _⟩ := hs.memory_bound (owned_some hl).1
    refine .updates rfl (planUpdate_transition hp) rfl fun d => ?_
    simp [Slot.charge, Slot.after, Effect.record, hb.key, persistedAmount, transitioning_amount]
  | updateSaved =>
    cases hg
    exact charges_save hh.2 hh.1.grantKey rfl
  | rollbackSaved _ hd hst =>
    cases hg
    refine .rollsBack rfl hd hst rfl fun d => ?_
    rw [hh.2]
    simp [Slot.charge, Slot.after, Slot.holding, Effect.record, hh.1.key, persistedAmount,
      transitioning_amount]
  | rolledBack =>
    cases hg
    refine .within fun d => Nat.add_le_add_left ?_ _
    rw [hh.2]
    simp only [Slot.charge, Slot.after, Slot.holding, Effect.record, hh.1.key, Edit.at_put,
      Edit.at_keep, Option.elim_some, Option.map_some, persistedAmount, Nat.max_self]
    exact Nat.le_max_right _ _
  | updateCommitted =>
    cases hg
    exact charges_put hh.2.1 rfl hh.2.2.2.2
  | deleteCleanupDone =>
    cases hg
    obtain ⟨_, r, hslot⟩ := hh
    rw [hslot] at hs
    exact charges_remove hslot (Slot.Sound.holding_iff.1 hs).1.key
  | deleteUnsaved hl | deleteUnmarked hl =>
    cases hg
    obtain ⟨_, r, hslot⟩ := hs.memory_bound hl
    exact charges_put hslot rfl rfl
  | deleteMarked hl =>
    cases hg
    obtain ⟨hb, r, hslot⟩ := hs.memory_bound hl
    exact charges_both hslot rfl hb.key rfl
  | deleteRemoving =>
    cases hg
    exact charges_remove hh.2.2 rfl
  | deleteRestoring =>
    cases hg
    rw [hh.2.2] at hs
    exact charges_save hh.2.2 (Slot.Sound.holding_iff.1 hs).1.key rfl
  | deleteRemoved =>
    cases hg
    obtain ⟨m, hslot⟩ := hh
    exact charges_drop hslot
  | deleteRestored =>
    cases hg
    exact charges_put hh.2.2 rfl rfl
  | _ =>
    exact .within fun _ => Nat.le_refl _

def Node.settled (n : Node) (d : Dim) : Bool :=
  n.state.active.entries.all fun e => decide (n.charge d e.1 e.2 ≤ e.2.amount d)

theorem settled_charge (hs : n.settled d = true) (hl : n.state.active.lookup k = some w) :
    n.charge d k w ≤ w.amount d := by
  have ha := List.all_eq_true.1 hs ⟨k, w⟩ (AList.mem_lookup_iff.1 hl)
  exact of_decide_eq_true ha

theorem settled_charged (hs : n.settled d = true) : n.charged d = n.state.activeTotal d :=
  Nat.le_antisymm (Assoc.total_le fun _ _ hl => settled_charge hs hl) (activeTotal_le_charged n d)

def Node.Fits (config : Config) (n : Node) : Prop :=
  ∀ d, n.charged d + n.state.reservedTotal d ≤ config.capacity d

theorem Config.capacity_cpu (cfg : Config) : cfg.capacity .cpu ≤ u32Max :=
  Nat.le_of_lt_succ cfg.capacityCpuMilli.toNat_lt

theorem AdmissionChecks.Accepted.room (hac : AdmissionChecks.Accepted cfg s req)
    (hcp : s.reservedTotal .cpu ≤ u32Max) (hm : cfg.capacity d < u64Max) :
    s.activeTotal d + s.reservedTotal d + req.amount d ≤ cfg.capacity d := by
  have hc := (Config.fits_iff _ _).1 hac.capacity d
  rw [ResourceUsage.plus_get, WorkloadState.usage_get s d hcp, saturatingAdd] at hc
  have ha : (⟨req.cpuMilli.toNat, req.memoryBytes.toNat,
      req.storageBytes.toNat⟩ : ResourceUsage).get d = req.amount d := by cases d <;> rfl
  rw [ha] at hc
  omega

theorem UpdateStart.room (hu : UpdateStart h s req act) (hm : h.config.capacity d < u64Max) :
    Assoc.total (fun _ w => w.amount d) (s.active.erase req.workloadId) + s.reservedTotal d +
      req.amount d ≤ h.config.capacity d := by
  have hc := (Config.fits_iff _ _).1 hu.fits d
  rw [ResourceUsage.plus_get, WorkloadState.usageWithout_get, saturatingAdd] at hc
  have ha : (⟨req.cpuMilli.toNat, req.memoryBytes.toNat,
      req.storageBytes.toNat⟩ : ResourceUsage).get d = req.amount d := by cases d <;> rfl
  rw [ha] at hc
  omega

/-- The step condition. A rollback that is persisted finds room for the amounts it returns to. An
admission or an update finds room beside what the workloads may come to hold, where that is more
than the records in memory say or where the capacity is the largest `u64`. -/
def chargesFit (h : Host) (w : World) : Action → Bool
  | .poll task i =>
    match w.tasks.lookup task with
    | some (.admitLock now request) => Dim.all fun d =>
        w.node.settled d && decide (h.config.capacity d < u64Max) ||
          decide (w.node.charged d + (w.node.state.retainReservations now).reservedTotal d +
            request.amount d ≤ h.config.capacity d)
    | some (.updateLock _ request _ _) => Dim.all fun d =>
        w.node.settled d && decide (h.config.capacity d < u64Max) ||
          decide (w.node.chargedOthers request.workloadId d + w.node.state.reservedTotal d +
            request.amount d ≤ h.config.capacity d)
    | some (.rollbackRuntime request active deployment _) =>
      !((runtimeDeploy h i deployment w.node).2.isOk && i.stored.isOk) || Dim.all fun d =>
        decide (w.node.chargedOthers request.workloadId d + w.node.state.reservedTotal d +
          active.amount d ≤ h.config.capacity d)
    | _ => true
  | _ => true

theorem Node.Does.reservedTotal (hd : n.Does n' e) (d : Dim) :
    n'.state.reservedTotal d = Assoc.total (fun _ r => r.amount d) e.reservations := by
  rw [WorkloadState.reservedTotal, hd.reservations]

theorem Charges.fits (hch : Charges h i n workloadId t e) (hd : n.Does n' e)
    (hk : Kept n workloadId t e after) (hf : n.Fits h.config)
    (hu : ∀ now req exe man d, t = .updateLock now req exe man →
      n.settled d = true ∧ h.config.capacity d < u64Max ∨
        n.chargedOthers req.workloadId d + n.state.reservedTotal d + req.amount d ≤
          h.config.capacity d)
    (hrl : ∀ req act dep error d rid, t = .rollbackRuntime req act dep error →
      (runtimeDeploy h i dep n).2 = .ok rid → i.stored = .ok () →
        n.chargedOthers req.workloadId d + n.state.reservedTotal d + act.amount d ≤
          h.config.capacity d) :
    n'.Fits h.config := by
  intro d
  have ho := chargedOthers_eq (fun k hne => hk.slot_other hd hne) d
  have hslot : (n'.slot workloadId).charge d = ((n.slot workloadId).after e workloadId).charge d := by
    rw [hd.slot]
  have hol := hf d
  rw [charged_split n workloadId] at hol
  rw [charged_split n' workloadId, ho, hslot, hd.reservedTotal]
  cases hch with
  | within hle =>
    have hsp := hle d
    omega
  | @updates _ _ now exe man req hw hsr hr hc =>
    subst hw
    rw [hc, hr]
    have hrm := hu now req exe man d rfl
    rcases hrm with ⟨hs, hm⟩ | hrm
    · have he := hsr.room hm
      have hle : n.chargedOthers req.workloadId d ≤ Assoc.total _ _ :=
        Assoc.total_le fun _ _ hl => settled_charge hs (Assoc.lookup_of_erase hl).2
      rw [WorkloadState.reservedTotal] at he
      omega
    · rw [WorkloadState.reservedTotal] at hrm
      omega
  | @rollsBack _ req act dep error rid hw hdp hst hr hc =>
    subst hw
    rw [hc, hr]
    have hrm := hrl req act dep error d rid rfl hdp hst
    rw [WorkloadState.reservedTotal] at hrm hol
    omega

theorem Accounts.fits (ha : Accounts h i n t e) (hg : t.guard = none)
    (hd : n.Does n' e) (hslot : ∀ k, n'.slot k = n.slot k) (hf : n.Fits h.config)
    (had : ∀ now req d, t = .admitLock now req → n.settled d = true ∧ h.config.capacity d < u64Max ∨
        n.charged d + (n.state.retainReservations now).reservedTotal d + req.amount d ≤
          h.config.capacity d) :
    n'.Fits h.config := by
  intro d
  have hc : n'.charged d = n.charged d := by
    rw [charged_split n' "" d, charged_split n "" d, hslot, chargedOthers_eq fun k _ => hslot k]
  rw [hc, hd.reservedTotal]
  cases ha with
  | settled hr =>
    rw [hr]
    exact hf d
  | consumes | deploys => cases hg
  | @admits _ now req _ hr =>
    rw [hr]
    have hrt := retain_reservedTotal n.state now
    obtain hs | ⟨hacc, r, ham, hs⟩ := admitLocked_cases h now i.freshId req n.state
    · rw [hs]
      have hle := hrt d
      have ho := hf d
      rw [WorkloadState.reservedTotal] at hle
      omega
    · rw [hs, Assoc.total_insert, ham.amount]
      have her := Assoc.total_erase_le (fun _ (r : Reservation) => r.amount d)
        (n.state.retainReservations now).reservations i.freshId
      have hcp : (n.state.retainReservations now).reservedTotal .cpu ≤ u32Max := by
        have hle := hrt .cpu
        have ho := hf .cpu
        have hm := h.config.capacity_cpu
        omega
      rcases had now req d rfl with ⟨hst, hm⟩ | hrm
      · have he := (admissionChecks_accepted hacc).room hcp hm
        have hac : (n.state.retainReservations now).activeTotal d = n.charged d :=
          (settled_charged hst).symm
        rw [hac, WorkloadState.reservedTotal] at he
        omega
      · rw [WorkloadState.reservedTotal] at hrm
        omega

variable {workloads : AList fun _ : String => Option StoredWorkload}

theorem persisted_put (hl : workloads.lookup k = some (some r)) (hk : key = k)
    (hw : w.amount = r.amount) (d : Dim) :
    Assoc.total (fun _ r => persistedAmount r d) ((Edit.put key (some w)).apply workloads) ≤
      Assoc.total (fun _ r => persistedAmount r d) workloads := by
  subst hk
  have hr := Assoc.total_insert_replace (fun _ r => persistedAmount r d) (some w) hl
  simp only [persistedAmount, Option.elim_some, hw] at hr
  exact (Nat.add_right_cancel hr).le

theorem RestoreCase.persisted (hc : RestoreCase h i n t disk pods r) (ht : t.Holds h)
    (hb : t.stored.Bound k) (hl : workloads.lookup k = some (some t.stored)) (d : Dim) :
    Assoc.total (fun _ r => persistedAmount r d) (disk.apply workloads) ≤
      Assoc.total (fun _ r => persistedAmount r d) workloads := by
  cases hc with
  | cleanupDone | deleteDone => exact Assoc.total_erase_le _ _ _
  | updateDone =>
    obtain ⟨⟨prev, id, hp⟩, _⟩ := ht
    obtain ⟨hk, _, ha⟩ := hb.update prev id _ hp
    exact persisted_put hl hk (by exact ha.symm) d
  | redeployDone =>
    refine persisted_put hl hb.key ?_ d
    funext d
    cases d <;> rfl
  | _ => exact Nat.le_refl _

theorem BeginCase.persisted (hc : BeginCase h st disk r) (d : Dim) :
    Assoc.total (fun _ r => persistedAmount r d) (disk.apply workloads) ≤
      Assoc.total (fun _ r => persistedAmount r d) workloads := by
  cases hc with
  | retained | waits => exact Nat.le_refl _
  | dropped => exact Assoc.total_erase_le _ _ _

variable {w : World}

theorem World.Restoring.charged (hw : w.Restoring h [] none act quar) (d : Dim) :
    Node.charged { w.node with state := ⟨act, ∅, quar⟩ } d ≤
      w.node.store.persistedTotal d := by
  refine Assoc.total_mono _ _ fun k => ?_
  have hv := hw.views k
  show (act.lookup k).elim 0 (fun v => max (v.amount d)
    ((w.node.store.workloads.lookup k).elim 0 fun r => persistedAmount r d)) ≤
      (w.node.store.workloads.lookup k).elim 0 fun r => persistedAmount r d
  generalize act.lookup k = a at hv ⊢
  generalize decide (k ∈ quar) = q at hv
  generalize w.node.store.workloads.lookup k = r at hv ⊢
  cases hv with
  | absent | unreadable => exact Nat.zero_le _
  | rebuilt r => exact (Nat.max_self _).le

/-- The invariant of a run: a running agent charges no more than the host has, and at any time the
persisted records stand for no more. -/
structure World.Fits (config : Config) (w : World) : Prop where
  charged : w.phase = .running → w.node.Fits config
  persisted : ∀ d, w.node.store.persistedTotal d ≤ config.capacity d

theorem World.Fits.of_running (hw : w.Running h) (hf : w.node.Fits h.config) : w.Fits h.config where
  charged _ := hf
  persisted d := by
    have hle := persistedTotal_le_charged hw.sound d
    have hc := hf d
    omega

theorem World.Fits.of_stopped {w' : World} (hf : w.Fits config) (hp : w'.phase ≠ .running)
    (hs : ∀ d, w'.node.store.persistedTotal d ≤ w.node.store.persistedTotal d) : w'.Fits config :=
  ⟨fun hr => absurd hr hp, fun d => (hs d).trans (hf.persisted d)⟩

theorem Node.Fits.of_state (hf : n.Fits config) (hs : n'.state = n.state)
    (hst : n'.store = n.store) : n'.Fits config := by
  intro d
  have hc : n'.charge d = n.charge d := by
    funext k v
    rw [Node.charge, Node.charge, hst]
  have hft := hf d
  rw [Node.charged] at hft ⊢
  rwa [hc, hs]

theorem World.Running.fits_polled (hw : w.Running h) (hf : w.node.Fits h.config)
    (hl : w.tasks.lookup task = some t) (hd : w.node.Does n' e) (hc : PollCase h i w.node t e after)
    (hok : chargesFit h w (.poll task i) = true) : n'.Fits h.config := by
  have hh (workloadId : String) (o : MutationOwner) (hg : t.guard = some (workloadId, o)) :=
    hw.holds task t workloadId o hl hg
  cases hg : t.guard with
  | none =>
    have hslot : ∀ k, n'.slot k = w.node.slot k := by
      cases hc.unguarded hg with
      | still hm hds => exact slot_unchanged hd hm hds
      | acquired hm hds => exact slot_unchanged hd hm hds
    refine (hc.accounts hh).fits hg hd hslot hf fun now req d ht => ?_
    subst ht
    simp only [chargesFit, hl, Dim.all_iff, Bool.or_eq_true, Bool.and_eq_true,
      decide_eq_true_eq] at hok
    exact hok d
  | some g =>
    obtain ⟨workloadId, o⟩ := g
    have hk := hc.kept hg (hw.sound workloadId) (hh workloadId o hg) hw.quarantine
    have hch := hc.charges hg (hw.sound workloadId) (hh workloadId o hg)
    refine hch.fits hd hk hf ?_ ?_
    · rintro now req exe man d rfl
      simp only [chargesFit, hl, Dim.all_iff, Bool.or_eq_true, Bool.and_eq_true,
        decide_eq_true_eq] at hok
      exact hok d
    · rintro req act dep error d rid rfl hdp hs
      simp only [chargesFit, hl, hdp, hs, Except.isOk, Except.toBool, Bool.and_self,
        Bool.not_true, Bool.false_or, Dim.all_iff, decide_eq_true_eq] at hok
      exact hok d

theorem World.Fits.step {w' : World} (hf : w.Fits h.config) (hin : w.Inv h) (hi' : w'.Inv h)
    (hok : chargesFit h w a = true) (hc : StepCase h w a w') : w'.Fits h.config := by
  cases hc with
  | unstarted => exact hf
  | restarted | crashed | refused =>
    exact hf.of_stopped (by intro hp; cases hp) fun _ => Nat.le_refl _
  | corrupted hp =>
    refine hf.of_stopped (fun hrn => by rw [hp] at hrn; cases hrn) fun d => ?_
    have hi := Assoc.total_insert (fun _ r => persistedAmount r d) w.node.store.workloads
    exact (hi _ none).le.trans
      ((Nat.zero_add _).le.trans (Assoc.total_erase_le _ _ _))
  | continued hp hn hc =>
    have hr := hin.restoring hp
    obtain ⟨_, _, _, hds⟩ := hr.on_disk
    refine hf.of_stopped (Restored.phase_ne_running _) fun d => ?_
    rw [Store.persistedTotal, hn.workloads]
    exact hc.persisted (hr.planned _ _ rfl) (hr.bound _ _ hds) hds d
  | quarantined hp => exact hf.of_stopped (by intro hrn; cases hrn) fun _ => Nat.le_refl _
  | begun hp hn hc =>
    refine hf.of_stopped (Restored.phase_ne_running _) fun d => ?_
    rw [Store.persistedTotal, hn.workloads]
    exact hc.persisted d
  | started hp =>
    have hr := hin.restoring hp
    refine .of_running (hi'.up rfl) fun d => ?_
    have hle := hr.charged d
    have hpr := hf.persisted d
    exact (Nat.add_zero _).le.trans (hle.trans hpr)
  | restoreCalled hp =>
    exact hf.of_stopped (fun hrn => by rw [hp] at hrn; cases hrn) fun _ => Nat.le_refl _
  | received hp =>
    refine .of_running (hi'.up (World.advance_phase.trans hp)) ?_
    exact (hf.charged hp).of_state World.received_state World.received_store
  | enrolled hp | attached hp =>
    exact .of_running (hi'.up (by exact hp)) ((hf.charged hp).of_state rfl rfl)
  | polled hl hd hc =>
    have hp := hin.running hl
    have hr := hin.up hp
    refine .of_running (hi'.up (World.advance_phase.trans hp)) ?_
    exact (hr.fits_polled (hf.charged hp) hl hd hc hok).of_state (World.advance_state _ _ _ _)
      (World.advance_store _ _ _ _)
  | called hl =>
    have hp := hin.running hl
    exact .of_running (hi'.up (by exact hp)) ((hf.charged hp).of_state rfl rfl)
  | cancelled hl =>
    have hp := hin.running hl
    exact .of_running (hi'.up (by exact hp))
      ((hf.charged hp).of_state (dropGuard_state _ _) (dropGuard_store _ _))
  | offered hp hs =>
    refine .of_running (hi'.up (by exact hp)) ?_
    rcases hs with rfl | rfl
    · exact hf.charged hp
    · exact fun d => (Nat.add_le_add_left (retain_reservedTotal _ _ d) _).trans (hf.charged hp d)

theorem reach_fits (hr : Reach (World.step h) (fun w a => chargesFit h w a = true) .fresh w) :
    w.Fits h.config := by
  refine Reach.invariant (World.Fits h.config) ⟨(by intro hp; cases hp), fun _ => Nat.zero_le _⟩
    (fun w a w' hw hf hok hs => ?_) hr
  have hi := reach_inv hw
  exact hf.step hi (hi.step hs) hok (step_cases hs)

def World.restoreFits (config : Config) (w : World) : Bool :=
  match w.phase with
  | .restoring [] none active quarantined =>
    config.fits (WorkloadState.usage ⟨active, ∅, quarantined⟩)
  | _ => true

theorem World.Restoring.fits (hw : w.Restoring h [] none act quar) (hf : w.Fits h.config) :
    h.config.fits (WorkloadState.usage ⟨act, ∅, quar⟩) = true := by
  refine (Config.fits_iff _ _).2 fun d => ?_
  rw [WorkloadState.usage_get _ _ (Nat.zero_le _)]
  have ha : WorkloadState.activeTotal ⟨act, ∅, quar⟩ d ≤
      w.node.store.persistedTotal d := (activeTotal_le_charged _ d).trans (hw.charged d)
  have hp := hf.persisted d
  have hr : WorkloadState.reservedTotal ⟨act, ∅, quar⟩ d = 0 := rfl
  omega

/-- In every run whose steps meet the condition, the workloads and reservations of every state
reached fit the host, and so do the persisted records, so that a restore never refuses them. -/
theorem reachable_sums_fit_capacity
    (hr : Reach (World.step h) (fun w a => chargesFit h w a = true) .fresh w) :
    (∀ d, w.node.state.activeTotal d + w.node.state.reservedTotal d ≤ h.config.capacity d) ∧
      (∀ d, w.node.store.persistedTotal d ≤ h.config.capacity d) ∧
      w.restoreFits h.config = true := by
  have hf := reach_fits hr
  have hin := reach_inv hr
  refine ⟨fun d => ?_, hf.persisted, ?_⟩
  · by_cases hp : w.phase = .running
    · have ha := activeTotal_le_charged w.node d
      have hc := hf.charged hp d
      omega
    · have hi := hin.idle hp
      rw [hi.state]
      exact Nat.zero_le _
  · unfold World.restoreFits
    split
    · next hp => exact (hin.restoring hp).fits hf
    · rfl

namespace Reference

def failedUpdate (task : Nat) (name nonce : String) (cpu : UInt32) (during : List Action) :
    List Action :=
  let request := update name ("Pod/" ++ name ++ "\n") ("Pod/" ++ name ++ "\n# 2") nonce cpu 1024 1024
  [.receive task (.update request) (input ""), .poll task (input ""), .poll task (input "")] ++
    during ++ [.poll task failing, .poll task (input ""), .poll task (input "")]

def rollbackRun (during : List Action) : List Action :=
  startUp ++ reserve 0 "a" "n1" 2000 1024 1024 ++ deploy 0 "a" "Pod/a\n" "n2" ++
    reserve 0 "b" "n3" 2000 1024 1024 ++ deploy 0 "b" "Pod/b\n" "n4" ++
    failedUpdate 0 "a" "n5" 1000 during

def thirdWorkload : List Action :=
  reserve 1 "c" "n6" 1000 1024 1024 ++ deploy 1 "c" "Pod/c\n" "n7"

def restartThree : List Action :=
  [.crash, .restart (input "")] ++ List.replicate 6 (.restore (input ""))

end Reference

open Reference

theorem rolled_back_sums_fit :
    ∃ w, Reach (World.step (host .default))
        (fun w a => chargesFit (host .default) w a = true) .fresh w ∧
      (∀ d, w.node.state.activeTotal d + w.node.state.reservedTotal d ≤ Config.default.capacity d) ∧
      w.node.state.activeTotal .cpu = 4000 := by
  obtain ⟨w, hr, hc⟩ := exists_reach_of_run (World.step (host .default))
    (chargesFit (host .default) · · = true) .fresh (rollbackRun [])
    (·.node.state.activeTotal .cpu = 4000) (by decide +kernel)
  exact ⟨w, hr, (reachable_sums_fit_capacity hr).1, hc⟩

/-- The capacity freed by an update in progress is taken by another workload, and the update is
rolled back: the workloads exceed the capacity, and after a crash the records are refused. -/
theorem rollback_exceeds_capacity : Config.default.validate = .ok () ∧
    ∃ w, Reach (World.step (host .default)) always .fresh w ∧
      Config.default.capacity .cpu <
        w.node.state.activeTotal .cpu + w.node.state.reservedTotal .cpu ∧
      ∃ w', Reach (World.step (host .default)) always w w' ∧
        w'.restoreFits .default = false := by
  obtain ⟨w, hr, hs, w', hrn, hrf⟩ := exists_reach_of_run (World.step (host .default))
    always .fresh (rollbackRun thirdWorkload)
    (fun w => Config.default.capacity .cpu <
        w.node.state.activeTotal .cpu + w.node.state.reservedTotal .cpu ∧
      ∃ w', runWhile (World.step (host .default)) (fun _ _ => true) w restartThree = some w' ∧
        w'.restoreFits .default = false) (by decide +kernel)
  exact ⟨by decide, w, hr, hs, w', (reach_of_runWhile hrn).toAlways, hrf⟩

end Podmesh
