import Podmesh.Agent.Restore

namespace Podmesh

variable {h : Host}

structure DeploymentPlan (h : Host) (state : WorkloadState) (grant : DeploymentGrant)
    (execution : ExecutionSpec) (reservation : Reservation) (stored : StoredWorkload)
    (deployment : WorkloadDeployment) : Prop where
  namespaceId : reservation.namespaceId = grant.namespaceId
  workloadId : reservation.workloadId = grant.workloadId
  absent : state.active.lookup grant.workloadId = none
  manifest : ∃ measured, h.runtimeManifest grant.workloadId grant.namespaceId execution =
    .ok (deployment.manifest, measured)
  subject : deployment = ⟨grant.workloadId, grant.namespaceId, deployment.manifest⟩
  target : h.runtime.targetId deployment = .ok stored.runtimeId
  named : stored.runtimeId ≠ ""
  record : stored.grant = grant
  phase : stored.phase = .creating
  deleting : stored.deleting = false
  amount : stored.amount = reservation.amount

variable {state : WorkloadState}

theorem planDeployment_ok (hp : planDeployment h now state grant exe rsv = .ok (st, deployment)) :
    DeploymentPlan h state grant exe rsv st deployment := by
  simp only [planDeployment, bind_ok, ensure_ok, Bool.and_eq_true, beq_iff_eq,
    Option.isNone_iff_eq_none, bne_iff_ne, pure, Except.pure, Except.ok.injEq, Prod.mk.injEq] at hp
  obtain ⟨_, _, _, ⟨⟨_, hns⟩, hw⟩, _, ha, ⟨man, ms⟩, hm, _, _, id, ht, _, hid, hs, hd⟩ := hp
  subst hs hd
  exact ⟨hns, hw, ha, ⟨ms, hm⟩, rfl, ht, hid, rfl, rfl, rfl, by
    funext d
    cases d <;> rfl⟩

def UpdateRequest.amount (r : UpdateRequest) : Dim → Nat
  | .cpu => r.cpuMilli.toNat
  | .memory => r.memoryBytes.toNat
  | .storage => r.storageBytes.toNat

structure UpdateStart (h : Host) (state : WorkloadState) (request : UpdateRequest)
    (active : StoredWorkload) : Prop where
  deleting : active.deleting = false
  phase : active.phase = .active
  named : active.runtimeId ≠ ""
  fits : h.config.fits ((state.usageWithout request.workloadId).plus request.cpuMilli.toNat
    request.memoryBytes.toNat request.storageBytes.toNat) = true

theorem planUpdate_transition (hp : planUpdate h state req exe active = .ok .transition) :
    UpdateStart h state req active := by
  simp only [planUpdate, unit_bind_ok, ensure_ok, Bool.and_eq_true, Bool.not_eq_true', beq_iff_eq,
    bne_iff_ne, pure, Except.pure] at hp
  obtain ⟨⟨⟨hd, hph⟩, hn⟩, hr⟩ := hp
  split at hr
  · cases hr
  · simp only [unit_bind_ok, ensure_ok] at hr
    obtain ⟨_, hr⟩ := hr
    split at hr
    · cases hr
    · simp only [unit_bind_ok, ensure_ok] at hr
      exact ⟨hd, hph, hn, hr.1⟩

theorem UpdateRequest.verify_binding {p : Platform} {req : UpdateRequest}
    (hv : req.verify p now = .ok ()) :
    req.grant.workloadId = req.workloadId ∧ req.grant.namespaceId = req.namespaceId := by
  simp only [UpdateRequest.verify, bind_ok, ensure_ok, Bool.and_eq_true, beq_iff_eq] at hv
  obtain ⟨_, _, _, _, _, _, _, _, _, _, _, _, _, _, _, _, _, _, _, _, _, _, _,
    ⟨⟨⟨⟨hns, hw⟩, _⟩, _⟩, _⟩, _⟩ := hv
  exact ⟨hw, hns⟩

theorem updateManifest_ok (hm : updateManifest h now req exe = .ok man) :
    req.grant.workloadId = req.workloadId ∧ req.grant.namespaceId = req.namespaceId ∧ ∃ measured,
      h.runtimeManifest req.workloadId req.namespaceId exe = .ok (man, measured) := by
  simp only [updateManifest, bind_ok, ensure_ok, pure, Except.pure, Except.ok.injEq] at hm
  obtain ⟨_, hv, _, _, ⟨runtime, measured⟩, hr, _, _, rfl⟩ := hm
  obtain ⟨hw, hns⟩ := UpdateRequest.verify_binding hv
  exact ⟨hw, hns, measured, hr⟩

theorem owned_some (ho : state.owned wid namespaceId = some act) :
    state.active.lookup wid = some act ∧ act.grant.namespaceId = namespaceId := by
  obtain ⟨hl, hn⟩ := Option.filter_eq_some_iff.1 ho
  exact ⟨hl, by simpa using hn⟩

def AdmissionRequest.amount (r : AdmissionRequest) : Dim → Nat
  | .cpu => r.cpuMilli.toNat
  | .memory => r.memoryBytes.toNat
  | .storage => r.storageBytes.toNat

structure Admits (request : AdmissionRequest) (id : String) (r : Reservation) : Prop where
  id : r.reservationId = id
  namespaceId : r.namespaceId = request.namespaceId
  workloadId : r.workloadId = request.workloadId
  amount : r.amount = request.amount

theorem Reservation.sign_ok {p : Platform} {self r : Reservation}
    (hs : self.sign p signingPublic signingPrivate = .ok r) :
    ∃ agentNodeId signature, r = { self with agentNodeId, signature } := by
  simp only [Reservation.sign, bind_ok, pure, Except.pure, Except.ok.injEq] at hs
  obtain ⟨signature, _, rfl⟩ := hs
  exact ⟨_, signature, rfl⟩

theorem admitLocked_cases (h : Host) (now : UInt64) (id : String) (req : AdmissionRequest)
    (s : WorkloadState) :
    (admitLocked h now id req s).1 = s.retainReservations now ∨
      (admissionChecks h.config (s.retainReservations now) req).accepted = true ∧
        ∃ r, Admits req id r ∧ (admitLocked h now id req s).1 =
          { s.retainReservations now with
            reservations := (s.retainReservations now).reservations.insert id r } := by
  unfold admitLocked
  dsimp only
  split
  · exact .inl rfl
  · next r hs =>
    split
    · next ha =>
      refine .inr ⟨ha, r, ?_, ?_⟩
      · obtain ⟨_, _, rfl⟩ := Reservation.sign_ok hs
        exact ⟨rfl, rfl, rfl, by funext d; cases d <;> rfl⟩
      · obtain ⟨_, _, rfl⟩ := Reservation.sign_ok hs
        rfl
    · exact .inl rfl

theorem capacityOffer_cases (h : Host) (query : CapacityQuery) (address : EndpointAddr)
    (now : UInt64) (s : WorkloadState) :
    (capacityOffer h query address now s).1 = s ∨
      (capacityOffer h query address now s).1 = s.retainReservations now := by
  unfold capacityOffer
  split
  · exact .inl rfl
  · split
    · exact .inl rfl
    · split
      · exact .inl rfl
      · dsimp only
        split <;> exact .inr rfl

end Podmesh
