import Podmesh.Agent.Occupancy

namespace Podmesh

variable {h : Host} {A : String} {n n' : Node}

def Host.Derives (h : Host) (namespaceId workloadId : String) : Prop :=
  ∃ owner name index, h.platform.b64Decode namespaceId = .ok owner ∧ owner.length = 32 ∧
    h.platform.workloadId owner name index = workloadId

def Reservation.Issued (h : Host) (r : Reservation) : Prop :=
  r.verify h.platform.toPlatform r.expiresAtSecs = .ok ()

/-- Two reservations that can only differ in the workload they are for, and only if they belong to
another namespace than `A`. -/
structure Reservation.Alike (A : String) (r r' : Reservation) : Prop where
  rest : r' = { r with workloadId := r'.workloadId, signature := r'.signature }
  own : r.namespaceId = A → r' = r

/-- A record of the namespace `A` stands under an id that `A` derives. -/
def Node.OwnsDerived (h : Host) (A : String) (n : Node) : Prop :=
  ∀ k w, n.state.active.lookup k = some w → w.grant.namespaceId = A →
    h.Derives A k ∧ w.grant.workloadId = k

structure Coupled (h : Host) (A : String) (n n' : Node) : Prop where
  active : ∀ k, h.Derives A k → n.state.active.lookup k = n'.state.active.lookup k
  left : n.OwnsDerived h A
  right : n'.OwnsDerived h A
  reservations : ∀ id, Option.Rel (Reservation.Alike A) (n.state.reservations.lookup id)
    (n'.state.reservations.lookup id)
  issuedLeft : ∀ id r, n.state.reservations.lookup id = some r → r.Issued h
  issuedRight : ∀ id r, n'.state.reservations.lookup id = some r → r.Issued h
  activeTotal : ∀ d, n.state.activeTotal d = n'.state.activeTotal d
  activeCount : Assoc.size n.state.active = Assoc.size n'.state.active
  quarantined : n.state.quarantined = n'.state.quarantined
  guards : ∀ k, h.Derives A k → n.mutations.lookup k = n'.mutations.lookup k
  guardCount : Assoc.size n.mutations = Assoc.size n'.mutations
  replay : n.replay = n'.replay
  endpointAddress : n.endpointAddress = n'.endpointAddress

namespace Node.OwnsDerived

theorem of_active (hn : n.OwnsDerived h A)
    (ha : ∀ k w, n'.state.active.lookup k = some w → n.state.active.lookup k = some w) :
    n'.OwnsDerived h A := fun k w hk hw => hn k w (ha k w hk) hw

theorem insertActive (hn : n.OwnsDerived h A) (hk : h.Derives A k)
    (hw : w.grant.namespaceId = A → w.grant.workloadId = k) :
    (n.insertActive k w).OwnsDerived h A := by
  intro k' w' hl hns
  rcases Assoc.lookup_insert_cases hl with ⟨rfl, rfl⟩ | ⟨_, hl⟩
  · exact ⟨hk, hw hns⟩
  · exact hn k' w' hl hns

end Node.OwnsDerived

theorem lookup_insert_congr {m m' : AList fun _ : String => V} (v : V)
    (hl : m.lookup k = m'.lookup k) (j : String) : (m.insert j v).lookup k = (m'.insert j v).lookup
      k := by
  by_cases hk : k = j
  · subst hk
    rw [AList.lookup_insert, AList.lookup_insert]
  · rw [AList.lookup_insert_ne hk, AList.lookup_insert_ne hk, hl]

theorem lookup_erase_congr {m m' : AList fun _ : String => V}
    (hl : m.lookup k = m'.lookup k) (j : String) : (m.erase j).lookup k = (m'.erase j).lookup k :=
      by
  by_cases hk : k = j
  · subst hk
    rw [AList.lookup_erase, AList.lookup_erase]
  · rw [AList.lookup_erase_ne hk, AList.lookup_erase_ne hk, hl]

namespace Coupled
variable (hc : Coupled h A n n')
include hc

theorem owned (k : String) : n.state.owned k A = n'.state.owned k A := by
  by_cases hk : h.Derives A k
  · rw [WorkloadState.owned, WorkloadState.owned, hc.active k hk]
  · -- a record of `A` would make the id one of its own
    have hn {m : Node} (hm : m.OwnsDerived h A) : m.state.owned k A = none := by
      cases ho : m.state.owned k A with
      | none => rfl
      | some w =>
        obtain ⟨hl, hns⟩ := owned_some ho
        exact absurd (hm k w hl hns).1 hk
    rw [hn hc.left, hn hc.right]

theorem owned_derives (ho : n.state.owned k A = some w) :
    h.Derives A k ∧ w.grant.namespaceId = A ∧ w.grant.workloadId = k := by
  obtain ⟨hl, hns⟩ := owned_some ho
  obtain ⟨hk, hid⟩ := hc.left k w hl hns
  exact ⟨hk, hns, hid⟩

theorem insertActive (hk : h.Derives A k) (hw : w.grant.namespaceId = A → w.grant.workloadId = k) :
    Coupled h A (n.insertActive k w) (n'.insertActive k w) := by
  refine { hc with active := ?_, left := ?_, right := ?_, activeTotal := ?_, activeCount := ?_ }
  · exact fun k' hk' => lookup_insert_congr w (hc.active k' hk') k
  · exact hc.left.insertActive hk hw
  · exact hc.right.insertActive hk hw
  · exact fun d => Assoc.total_insert_congr w (hc.activeTotal d) (hc.active k hk)
  · exact Assoc.size_insert_congr w hc.activeCount (hc.active k hk)

theorem eraseActive (hk : h.Derives A k) : Coupled h A (n.eraseActive k) (n'.eraseActive k) := by
  refine { hc with active := ?_, left := ?_, right := ?_, activeTotal := ?_, activeCount := ?_ }
  · exact fun k' hk' => lookup_erase_congr (hc.active k' hk') k
  · exact hc.left.of_active fun _ _ hl => (Assoc.lookup_of_erase hl).2
  · exact hc.right.of_active fun _ _ hl => (Assoc.lookup_of_erase hl).2
  · exact fun d => Assoc.total_erase_congr (hc.activeTotal d) (hc.active k hk)
  · have hcn := hc.activeCount
    rw [Assoc.size_eq_total, Assoc.size_eq_total] at hcn ⊢
    exact Assoc.total_erase_congr hcn (hc.active k hk)

theorem outside (s s' : Store) (p p' : PodMap) :
    Coupled h A { n with store := s, pods := p } { n' with store := s', pods := p' } :=
  { hc with }

theorem recorded (replay : ReplayCache) : Coupled h A { n with replay } { n' with replay } :=
  { hc with replay := rfl }

theorem consume (id : String) : Coupled h A { n with state := n.state.consume id }
      { n' with state := n'.state.consume id } := by
  refine { hc with reservations := fun id' => ?_, issuedLeft := ?_, issuedRight := ?_ }
  · by_cases hid : id' = id
    · subst hid
      simp only [WorkloadState.consume, AList.lookup_erase]
      exact .none
    · simp only [WorkloadState.consume, AList.lookup_erase_ne hid]
      exact hc.reservations id'
  · exact fun _ _ hl => hc.issuedLeft _ _ (Assoc.lookup_of_erase hl).2
  · exact fun _ _ hl => hc.issuedRight _ _ (Assoc.lookup_of_erase hl).2

theorem write (i : Input) (f : Store → Store) :
    ∃ m m' r, n.write i f = (m, r) ∧ n'.write i f = (m', r) ∧ Coupled h A m m' := by
  unfold Node.write
  cases i.stored with
  | ok u => exact ⟨_, _, _, rfl, rfl, hc.outside _ _ _ _⟩
  | error e => exact ⟨_, _, _, rfl, rfl, hc⟩

theorem runtimeDeploy (i : Input) (d : WorkloadDeployment) :
    ∃ m m' r, runtimeDeploy h i d n = (m, r) ∧ runtimeDeploy h i d n' = (m', r) ∧
      Coupled h A m m' := by
  unfold Podmesh.runtimeDeploy runtimeCall
  cases h.runtime.targetId d with
  | error e => exact ⟨_, _, _, rfl, rfl, hc⟩
  | ok id => cases i.reply <;> exact ⟨_, _, _, rfl, rfl, hc.outside _ _ _ _⟩

theorem runtimeDelete (i : Input) (id : String) :
    ∃ m m' r, runtimeDelete i id n = (m, r) ∧ runtimeDelete i id n' = (m', r) ∧
      Coupled h A m m' := by
  unfold Podmesh.runtimeDelete runtimeCall
  cases i.reply <;> exact ⟨_, _, _, rfl, rfl, hc.outside _ _ _ _⟩

theorem runtimeCleanup (i : Input) (id : String) (unc : Bool) :
    ∃ m m' r, runtimeCleanup h i id unc n = (m, r) ∧
      runtimeCleanup h i id unc n' = (m', r) ∧ Coupled h A m m' := by
  unfold Podmesh.runtimeCleanup
  by_cases hr : (unc && h.runtime.refusesUncertainCleanup) = true
  · rw [if_pos hr, if_pos hr]
    exact ⟨_, _, _, rfl, rfl, hc⟩
  · rw [if_neg hr, if_neg hr]
    exact hc.runtimeDelete i id

theorem cleanupPending (i : Input) (st : StoredWorkload) (tgt : String) :
    ∃ m m' r, cleanupPending h i n st tgt = (m, r) ∧
      cleanupPending h i n' st tgt = (m', r) ∧ Coupled h A m m' := by
  unfold Podmesh.cleanupPending
  obtain ⟨m, m', r, hn, hn', hm⟩ := hc.runtimeCleanup i tgt st.cleanupUncertain
  rw [hn, hn']
  cases r with
  | error e => exact ⟨_, _, _, rfl, rfl, hm⟩
  | ok u => exact hm.write i _

theorem mutationWithOwner (hk : h.Derives A k) (o : MutationOwner) :
    (∃ m m', n.mutationWithOwner k o = .ok m ∧ n'.mutationWithOwner k o = .ok m' ∧
        Coupled h A m m') ∨
      ∃ e, n.mutationWithOwner k o = .error e ∧ n'.mutationWithOwner k o = .error e := by
  unfold Node.mutationWithOwner
  rw [hc.guardCount, hc.guards k hk]
  split
  · exact .inr ⟨_, rfl, rfl⟩
  · cases n'.mutations.lookup k with
    | some oth => exact .inr ⟨_, rfl, rfl⟩
    | none =>
      exact .inl ⟨_, _, rfl, rfl, { hc with
        guards := fun k' hk' => lookup_insert_congr o (hc.guards k' hk') k
        guardCount := Assoc.size_insert_congr o hc.guardCount (hc.guards k hk) }⟩

end Coupled

/-- An operation of the namespace `A`, on a workload that `A` derives once that is established. -/
def Task.Of (h : Host) (A : String) : Task → Prop
  | .admitLock _ request => request.namespaceId = A
  | .deployGuard grant _ | .deployLock _ grant _ =>
    grant.namespaceId = A ∧ h.Derives A grant.workloadId
  | .deployRuntime _ stored _ | .deployFail stored _ _ | .deployCleanup stored _ _
  | .deployRemove stored _ | .deployCommit _ stored => h.Derives A stored.grant.workloadId
  | .updateGuard request _ => request.namespaceId = A ∧ h.Derives A request.workloadId
  | .updateLock _ request _ _ => request.namespaceId = A ∧ h.Derives A request.workloadId ∧
    request.grant.workloadId = request.workloadId
  | .updateRuntime _ request _ active _ => h.Derives A request.workloadId ∧
    request.grant.workloadId = request.workloadId ∧ active.grant.workloadId = request.workloadId
  | .rollbackRuntime request active _ _ | .rollbackInsert request active _ =>
    h.Derives A request.workloadId ∧ active.grant.workloadId = request.workloadId
  | .updateCommit _ request _ updated =>
    h.Derives A request.workloadId ∧ updated.grant.workloadId = request.workloadId
  | .commandLock _ command | .commandRuntime _ command _ => command.namespaceId = A
  | .deleteGuard _ command | .deleteLookup _ command | .deleteUnmark command _ _
  | .deleteRemove _ command _ => command.namespaceId = A ∧ h.Derives A command.workloadId
  | .deleteCleanup _ command active _ | .deleteMark _ command active
  | .deleteRuntime _ command active | .deleteRestore _ command active _ =>
    command.namespaceId = A ∧ h.Derives A command.workloadId ∧
      active.grant.workloadId = command.workloadId
  | .listLock _ request => request.namespaceId = A
  | .enrollLock _ | .enrollInspect _ _ | .enrollInstall _ => False

structure Matched (h : Host) (A : String) (p p' : Polled) : Prop where
  node : Coupled h A p.1 p'.1
  after : p.2 = p'.2
  next : ∀ t, p.2 = .next t → t.Of h A

namespace Matched
variable (hc : Coupled h A n n')
include hc

theorem done (r : Except String Response) : Matched h A (n, .done r) (n', .done r) :=
  ⟨hc, rfl, fun _ ht => by cases ht⟩

theorem waits (ht : t.Of h A) : Matched h A (n, .next t) (n', .next t) :=
  ⟨hc, rfl, fun _ he => by cases he; exact ht⟩

theorem respond (cmd : WorkloadCommand) (now : UInt64) (res : Except String String) :
    Matched h A (respond h n cmd now res) (respond h n' cmd now res) := by
  cases res with
  | ok pay | error e => exact done hc _

theorem ownerMutation (hk : h.Derives A k) (ht : t.Of h A)
    (ha : ∀ m m', Coupled h A m m' → Matched h A (acquired m) (acquired' m')) :
    Matched h A (ownerMutation n i k t acquired) (ownerMutation n' i k t acquired') := by
  unfold Podmesh.ownerMutation
  split
  · exact done hc _
  · obtain ⟨m, m', hn, hn', hm⟩ | ⟨e, hn, hn'⟩ := hc.mutationWithOwner hk .lifecycle
    · rw [hn, hn']
      exact ha m m' hm
    · rw [hn, hn']
      cases e with
      | none => exact done hc _
      | some o =>
        cases o with
        | enrollment => exact waits hc ht
        | lifecycle => exact done hc _

theorem deployRuntime (hk : h.Derives A st.grant.workloadId) :
    Matched h A (deployRuntime h i n now st dep) (deployRuntime h i n' now st dep) := by
  unfold Podmesh.deployRuntime
  obtain ⟨m, m', r, hn, hn', hm⟩ := hc.runtimeDeploy i dep
  rw [hn, hn']
  cases r with
  | error e => exact waits hm hk
  | ok rid =>
    dsimp only
    split
    · exact waits hm hk
    · obtain ⟨_, _, r, hw, hw', hs⟩ := hm.write i (·.save { st with phase := .active })
      rw [hw, hw']
      cases r with
      | error e => exact waits hs hk
      | ok u => exact waits hs hk

theorem updateRuntime (hk : h.Derives A req.workloadId) (hg : req.grant.workloadId = req.workloadId)
    (ha : act.grant.workloadId = req.workloadId) :
    Matched h A (updateRuntime h i n now req exe act dep)
      (updateRuntime h i n' now req exe act dep) := by
  unfold Podmesh.updateRuntime
  obtain ⟨m, m', r, hn, hn', hm⟩ := hc.runtimeDeploy i dep
  rw [hn, hn']
  cases r with
  | error e =>
    dsimp only
    split
    · exact done hm _
    · exact waits hm ⟨hk, ha⟩
  | ok rid =>
    obtain ⟨_, _, r, hw, hw', hs⟩ :=
      hm.write i (·.save (updatedWorkload req exe rid))
    dsimp only
    rw [hw, hw']
    cases r with
    | error e => exact done hs _
    | ok u => exact waits hs ⟨hk, hg⟩

theorem rollbackRuntime (hk : h.Derives A req.workloadId)
    (ha : act.grant.workloadId = req.workloadId) :
    Matched h A (rollbackRuntime h i n req act dep error)
      (rollbackRuntime h i n' req act dep error) := by
  unfold Podmesh.rollbackRuntime
  obtain ⟨m, m', r, hn, hn', hm⟩ := hc.runtimeDeploy i dep
  rw [hn, hn']
  cases r with
  | error e => exact done hm _
  | ok rid =>
    obtain ⟨_, _, r, hw, hw', hs⟩ := hm.write i (·.save act)
    dsimp only
    rw [hw, hw']
    cases r with
    | error e => exact done hs _
    | ok u => exact waits hs ⟨hk, ha⟩

theorem commandLock (hns : cmd.namespaceId = A) :
    Matched h A (commandLock h n now cmd) (commandLock h n' now cmd) := by
  unfold Podmesh.commandLock
  rw [hns, ← hc.owned cmd.workloadId]
  cases ho : n.state.owned cmd.workloadId A with
  | none => exact done hc _
  | some act =>
    obtain ⟨hk, _, _⟩ := hc.owned_derives ho
    dsimp only
    split
    · exact waits hc ⟨hns, hk⟩
    · split
      · exact respond hc cmd now _
      · exact waits hc hns

theorem deleteLookup (hns : cmd.namespaceId = A) :
    Matched h A (deleteLookup h n now cmd) (deleteLookup h n' now cmd) := by
  unfold Podmesh.deleteLookup
  rw [hns, ← hc.owned cmd.workloadId]
  cases ho : n.state.owned cmd.workloadId A with
  | none => exact done hc _
  | some act =>
    obtain ⟨hk, _, hid⟩ := hc.owned_derives ho
    dsimp only
    split <;> split
    · exact respond hc cmd now _
    · exact waits hc ⟨hns, hk, hid⟩
    · exact respond hc cmd now _
    · exact waits hc ⟨hns, hk, hid⟩

theorem deleteMark (hns : cmd.namespaceId = A)
    (hk : h.Derives A cmd.workloadId) (hid : act.grant.workloadId = cmd.workloadId) :
    Matched h A (deleteMark i n now cmd act) (deleteMark i n' now cmd act) := by
  unfold Podmesh.deleteMark
  rw [← hc.active cmd.workloadId hk]
  cases hl : n.state.active.lookup cmd.workloadId with
  | none => exact done hc _
  | some cur =>
    have hm := hc.insertActive (w := { cur with deleting := true }) hk fun hcr =>
      (hc.left cmd.workloadId cur hl hcr).2
    obtain ⟨_, _, r, hw, hw', hs⟩ := hm.write i (·.save { cur with deleting := true })
    dsimp only
    rw [hw, hw']
    cases r with
    | error e => exact waits hs ⟨hns, hk⟩
    | ok u => exact waits hs ⟨hns, hk, hid⟩

theorem deleteRuntime (hns : cmd.namespaceId = A)
    (hk : h.Derives A cmd.workloadId) (hid : act.grant.workloadId = cmd.workloadId) :
    Matched h A (deleteRuntime i n now cmd act) (deleteRuntime i n' now cmd act) := by
  have hcl : ∃ m m' r,
      (if act.runtimeId = "" then (n, .ok ()) else runtimeDelete i act.runtimeId n) = (m, r) ∧
      (if act.runtimeId = "" then (n', .ok ()) else runtimeDelete i act.runtimeId n') =
        (m', r) ∧ Coupled h A m m' := by
    split
    · exact ⟨_, _, _, rfl, rfl, hc⟩
    · exact hc.runtimeDelete i act.runtimeId
  obtain ⟨m, m', r, hn, hn', hm⟩ := hcl
  simp only [Podmesh.deleteRuntime, hn, hn']
  cases r with
  | ok u =>
    obtain ⟨_, _, r, hw, hw', hs⟩ := hm.write i (·.remove cmd.workloadId)
    rw [hw, hw']
    cases r with
    | error e => exact done hs _
    | ok u => exact waits hs ⟨hns, hk⟩
  | error e =>
    obtain ⟨_, _, r, hw, hw', hs⟩ := hm.write i (·.save act)
    rw [hw, hw']
    cases r with
    | error e => exact done hs _
    | ok u => exact waits hs ⟨hns, hk, hid⟩

end Matched

theorem Reservation.Issued.verify {r : Reservation} (hr : r.Issued h) (now : UInt64) :
    r.verify h.platform.toPlatform now =
      ensure (r.expiresAtSecs.toNat ≥ now.toNat) "reservation expired" := by
  unfold Reservation.Issued Reservation.verify at hr
  simp only [bind_ok, ensure_ok] at hr
  obtain ⟨_, hv, agent, ha, owner, ho, _, hid, _, _, _, hrs, signature, hs, hvr⟩ := hr
  cases he : decide (r.expiresAtSecs.toNat ≥ now.toNat) with
  | true =>
    simp only [Reservation.verify, hv, ha, ho, hid, hrs, hs, hvr, he,
      ensure, bind, Except.bind, if_true]
  | false =>
    simp only [Reservation.verify, hv, ha, ho, hid, he, ensure, bind,
      Except.bind, if_true, Bool.false_eq_true, if_false]

theorem Reservation.Alike.namespaceId {r r' : Reservation} (ha : r.Alike A r') :
    r'.namespaceId = r.namespaceId := by
  rw [ha.rest]

theorem Reservation.Alike.expiresAtSecs {r r' : Reservation} (ha : r.Alike A r') :
    r'.expiresAtSecs = r.expiresAtSecs := by
  rw [ha.rest]

theorem planDeployment_alike {r r' : Reservation} (ha : r.Alike A r') (hr : r.Issued h)
    (hr' : r'.Issued h) (hns : grant.namespaceId = A) {s s' : WorkloadState}
    (hac : s.active.lookup grant.workloadId = s'.active.lookup grant.workloadId) :
    planDeployment h now s grant exe r = planDeployment h now s' grant exe r' := by
  by_cases how : r.namespaceId = A
  · rw [ha.own how]
    simp [planDeployment, hac]
  · -- a reservation of another namespace never gets past the binding check
    have ho : (r.namespaceId == grant.namespaceId) = false := by
      rw [hns]
      exact beq_false_of_ne how
    have ho' : (r'.namespaceId == grant.namespaceId) = false := by
      rw [ha.namespaceId]
      exact ho
    simp only [planDeployment, hr.verify, hr'.verify, ha.expiresAtSecs, ho, ho',
      Bool.and_false, Bool.false_and]
    rfl

theorem Matched.deployLock (hc : Coupled h A n n') (hns : grant.namespaceId = A)
    (hk : h.Derives A grant.workloadId) :
    Matched h A (deployLock h i n now grant exe) (deployLock h i n' now grant exe) := by
  unfold Podmesh.deployLock
  have hr := hc.reservations grant.reservationId
  have hl := hc.issuedLeft grant.reservationId
  have hrg := hc.issuedRight grant.reservationId
  have hcn := hc.consume grant.reservationId
  generalize n.state.reservations.lookup grant.reservationId = o at hr hl ⊢
  generalize n'.state.reservations.lookup grant.reservationId = o' at hr hrg ⊢
  cases hr with
  | none => exact done hc _
  | @some r r' ha =>
    have hpl : planDeployment h now (n.state.consume grant.reservationId) grant exe r =
        planDeployment h now (n'.state.consume grant.reservationId) grant exe r' :=
      planDeployment_alike ha (hl r rfl) (hrg r' rfl) hns (hc.active grant.workloadId hk)
    dsimp only
    rw [← hpl]
    cases hp : planDeployment h now (n.state.consume grant.reservationId) grant exe r with
    | error e => exact done hcn _
    | ok plan =>
      obtain ⟨st, dep⟩ := plan
      have hrc := (planDeployment_ok hp).record
      obtain ⟨_, _, r, hw, hw', hs⟩ := hcn.write i (·.save st)
      dsimp only
      rw [hw, hw']
      cases r with
      | error e => exact done hs _
      | ok u =>
        have hid : st.grant.workloadId = grant.workloadId := by rw [hrc]
        have hst : h.Derives A st.grant.workloadId := by
          rw [hid]
          exact hk
        exact waits (hs.insertActive hk fun _ => hid) hst

theorem ResourceUsage.ext_get {u v : ResourceUsage} (hg : ∀ d, u.get d = v.get d) : u = v := by
  have hcp := hg .cpu
  have hm := hg .memory
  have hs := hg .storage
  cases u
  cases v
  simp only [ResourceUsage.get] at hcp hm hs
  rw [hcp, hm, hs]

namespace Coupled

theorem reservationSum (hc : Coupled h A n n') (f : String → Reservation → Nat)
    (hf : ∀ id r r', r.Alike A r' → f id r = f id r') :
    Assoc.total f n.state.reservations = Assoc.total f n'.state.reservations := by
  refine Assoc.total_eq _ _ fun id => ?_
  have hr := hc.reservations id
  generalize n.state.reservations.lookup id = o at hr ⊢
  generalize n'.state.reservations.lookup id = o' at hr ⊢
  cases hr with
  | none => rfl
  | @some r r' ha => exact hf id r r' ha

theorem reservedTotal (hc : Coupled h A n n') (d : Dim) :
    n.state.reservedTotal d = n'.state.reservedTotal d :=
  hc.reservationSum _ fun _ _ _ ha => by rw [ha.rest]; rfl

theorem usageWithout (hc : Coupled h A n n') (hk : h.Derives A k) :
    n.state.usageWithout k = n'.state.usageWithout k := by
  have hg (d : Dim) : (n.state.usageWithout k).get d = (n'.state.usageWithout k).get d := by
    rw [WorkloadState.usageWithout_get, WorkloadState.usageWithout_get, hc.reservedTotal d,
      Assoc.total_erase_congr (hc.activeTotal d) (hc.active k hk)]
  exact ResourceUsage.ext_get hg

end Coupled

theorem Matched.updateLock (hc : Coupled h A n n') (hns : req.namespaceId = A)
    (hk : h.Derives A req.workloadId) (hg : req.grant.workloadId = req.workloadId) :
    Matched h A (updateLock h i n now req exe man) (updateLock h i n' now req exe man) := by
  unfold Podmesh.updateLock
  rw [hns, ← hc.owned req.workloadId]
  cases ho : n.state.owned req.workloadId A with
  | none => exact done hc _
  | some active =>
    obtain ⟨_, _, hid⟩ := hc.owned_derives ho
    have hp : planUpdate h n.state req exe active =
        planUpdate h n'.state req exe active := by
      simp [planUpdate, hc.usageWithout hk]
    dsimp only
    rw [← hp]
    cases planUpdate h n.state req exe active with
    | error e => exact done hc _
    | ok plan =>
      cases plan with
      | respond outcome reason => exact done hc _
      | transition =>
        obtain ⟨_, _, r, hw, hw', hs⟩ := hc.write i (·.save (transitioning req active))
        rw [hw, hw']
        cases r with
        | error e => exact done hs _
        | ok u =>
          have hm := hs.insertActive (w := transitioning req active) hk fun _ => hid
          exact waits hm ⟨hk, hg, hid⟩

/-- Each section of an operation of `A`, but for the decision of an admission and the answer to a
list request, does the same on both agents. -/
theorem poll_matched (hc : Coupled h A n n') (ht : t.Of h A)
    (hnd : ∀ now req, t ≠ .admitLock now req) (hls : ∀ now req, t ≠ .listLock now req) :
    Matched h A (poll h i n t) (poll h i n' t) := by
  cases t with
  | admitLock now req => exact absurd rfl (hnd now req)
  | listLock now req => exact absurd rfl (hls now req)
  | deployGuard grant exe =>
    refine .ownerMutation hc ht.2 ht fun m m' hm => ?_
    cases grant.verify h.platform.toPlatform i.now with
    | error e => exact .done hc _
    | ok u => exact .waits hm ht
  | deployLock now grant exe => exact .deployLock hc ht.1 ht.2
  | deployRuntime now st dep => exact .deployRuntime hc ht
  | deployFail st unc error =>
    have hmm := hc.insertActive (w := { st with phase := .cleanupPending unc }) ht
      fun _ => rfl
    obtain ⟨m, m', r, hw, hw', hm⟩ :=
      hmm.write i (·.save { st with phase := .cleanupPending unc })
    simp only [poll, deployFail, beginCleanup, hw, hw']
    split
    · exact .done hm _
    · exact .waits hm ht
  | deployCleanup st tgt error =>
    obtain ⟨m, m', r, hn, hn', hm⟩ := hc.cleanupPending i st tgt
    rw [poll, poll, deployCleanup, deployCleanup, hn, hn']
    cases r with
    | error e => exact .done hm _
    | ok u => exact .waits hm ht
  | deployRemove st error => exact .done (hc.eraseActive ht) _
  | deployCommit now st => exact .done (hc.insertActive ht fun _ => rfl) _
  | updateGuard req exe =>
    refine .ownerMutation hc ht.2 ht fun m m' hm => ?_
    split
    · exact .done hc _
    · next man hmn =>
      exact .waits hm ⟨ht.1, ht.2, (updateManifest_ok hmn).1⟩
  | updateLock now req exe man => exact .updateLock hc ht.1 ht.2.1 ht.2.2
  | updateRuntime now req exe act dep =>
    exact .updateRuntime hc ht.1 ht.2.1 ht.2.2
  | rollbackRuntime req act dep error => exact .rollbackRuntime hc ht.1 ht.2
  | rollbackInsert req act error =>
    exact .done (hc.insertActive (by rw [ht.2]; exact ht.1) fun _ => rfl) _
  | updateCommit now req act upd => exact .done (hc.insertActive ht.1 fun _ => ht.2) _
  | commandLock now cmd => exact .commandLock hc ht
  | commandRuntime now cmd act => exact .respond hc cmd now _
  | deleteGuard now cmd =>
    refine .ownerMutation hc ht.2 ht fun m m' hm => ?_
    split
    · exact .done hc _
    · exact .waits hm ht
  | deleteLookup now cmd => exact .deleteLookup hc ht.1
  | deleteCleanup now cmd act tgt =>
    obtain ⟨m, m', r, hn, hn', hm⟩ := hc.cleanupPending i act tgt
    rw [poll, poll, deleteCleanup, deleteCleanup, hn, hn']
    cases r with
    | error e => exact .respond hm cmd now _
    | ok u => exact .waits hm ⟨ht.1, ht.2.1⟩
  | deleteMark now cmd act => exact .deleteMark hc ht.1 ht.2.1 ht.2.2
  | deleteUnmark cmd act error =>
    rw [poll, poll, deleteUnmark, deleteUnmark, ← hc.active cmd.workloadId ht.2]
    cases hl : n.state.active.lookup cmd.workloadId with
    | none => exact .done hc _
    | some cur =>
      exact .done (hc.insertActive (w := { cur with deleting := false }) ht.2 fun hcr =>
        (hc.left cmd.workloadId cur hl hcr).2) _
  | deleteRuntime now cmd act => exact .deleteRuntime hc ht.1 ht.2.1 ht.2.2
  | deleteRemove now cmd act => exact .respond (hc.eraseActive ht.2) cmd now (.ok "deleted")
  | deleteRestore now cmd act error =>
    exact .respond (hc.insertActive ht.2.1 fun _ => ht.2.2) cmd now (.error error)
  | enrollLock wid | enrollInspect st del | enrollInstall st => exact ht.elim

def OwnerMessage.namespaceId : OwnerMessage → String
  | .admission request => request.namespaceId
  | .deploy grant => grant.namespaceId
  | .update request => request.namespaceId
  | .command request => request.namespaceId
  | .list request => request.namespaceId

theorem decodeFixed_ok {p : Platform} (hd : p.decodeFixed value expected field = .ok bytes) :
    p.b64Decode value = .ok bytes ∧ bytes.length = expected := by
  simp only [Platform.decodeFixed, bind_ok, ensure_ok, pure, Except.pure, Except.ok.injEq,
    beq_iff_eq] at hd
  obtain ⟨decoded, hdc, _, hl, rfl⟩ := hd
  exact ⟨hdc, hl⟩

theorem derives_of_decode (hv : grant.verify h.platform.toPlatform now = .ok ())
    (hd : h.decodeExecution grant = .ok exe) : h.Derives grant.namespaceId grant.workloadId := by
  simp only [DeploymentGrant.verify, bind_ok] at hv
  obtain ⟨_, _, owner, ho, _⟩ := hv
  obtain ⟨hdc, hl⟩ := decodeFixed_ok ho
  simp only [Host.decodeExecution, bind_ok, ensure_ok, beq_iff_eq] at hd
  obtain ⟨spec, _, _, _, owner', ho', _, hid, _⟩ := hd
  rw [hdc] at ho'
  cases ho'
  exact ⟨owner, spec.workloadName, spec.replicaIndex, hdc, hl, hid⟩

theorem UpdateRequest.verify_grant {p : Platform} {req : UpdateRequest}
    (hv : req.verify p now = .ok ()) : req.grant.verify p now = .ok () := by
  simp only [UpdateRequest.verify, bind_ok, ensure_ok, Bool.and_eq_true, beq_iff_eq] at hv
  obtain ⟨_, _, _, _, _, _, _, _, _, _, _, _, _, _, _, _, _, _, _, _, _, hg, _⟩ := hv
  exact hg

theorem Matched.recorded (hc : Coupled h A n n') (key : String) (expiry now : UInt64)
    {k k' : ReplayCache → Polled} (hk : ∀ replay, Matched h A (k replay) (k' replay)) :
    Matched h A
      (match (motive := ReplayCache × Except String Unit → Polled)
          n.replay.record key expiry now with
        | (replay, .error e) => failWith { n with replay } e
        | (replay, .ok ()) => k replay)
      (match (motive := ReplayCache × Except String Unit → Polled)
          n'.replay.record key expiry now with
        | (replay, .error e) => failWith { n' with replay } e
        | (replay, .ok ()) => k' replay) := by
  rw [← hc.replay]
  split
  · next replay e _ => exact .done (hc.recorded replay) _
  · next replay _ => exact hk replay

theorem receive_matched (hc : Coupled h A n n') (hm : m.namespaceId = A) :
    Matched h A (receive h i n m) (receive h i n' m) := by
  cases m with
  | admission req =>
    simp only [receive, admitReceive]
    split
    · exact .done hc _
    · split
      · exact .done hc _
      · exact .recorded hc _ _ _ fun replay => .waits (hc.recorded replay) hm
  | deploy grant =>
    simp only [receive, deployReceive]
    split
    · exact .done hc _
    · next hv =>
      split
      · exact .done hc _
      · refine .recorded hc _ _ _ fun replay => ?_
        split
        · exact .done (hc.recorded replay) _
        · next exe hch =>
          simp only [bind_ok, pure, Except.pure, Except.ok.injEq] at hch
          obtain ⟨spec, hs, _⟩ := hch
          have hk := derives_of_decode hv hs
          rw [show grant.namespaceId = A from hm] at hk
          exact .waits (hc.recorded replay) ⟨hm, hk⟩
  | update req =>
    simp only [receive, updateReceive]
    split
    · exact .done hc _
    · next hv =>
      split
      · exact .done hc _
      · refine .recorded hc _ _ _ fun replay => ?_
        split
        · exact .done (hc.recorded replay) _
        · next exe hd =>
          obtain ⟨hid, hns⟩ := UpdateRequest.verify_binding hv
          have hk := derives_of_decode (UpdateRequest.verify_grant hv) hd
          rw [hid, hns, show req.namespaceId = A from hm] at hk
          exact .waits (hc.recorded replay) ⟨hm, hk⟩
  | command req =>
    simp only [receive, commandReceive]
    split
    · exact .done hc _
    · split
      · exact .done hc _
      · exact .recorded hc _ _ _ fun replay => .waits (hc.recorded replay) hm
  | list req =>
    simp only [receive, listReceive]
    split
    · exact .done hc _
    · exact .recorded hc _ _ _ fun replay => .waits (hc.recorded replay) hm

end Podmesh
