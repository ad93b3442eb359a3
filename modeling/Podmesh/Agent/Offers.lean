import Podmesh.Agent.Reference
import Podmesh.Agent.Usage

namespace Podmesh

variable {h : Host} {state : WorkloadState} {query : CapacityQuery} {request : AdmissionRequest}

theorem WorkloadState.unknown_retain {s : WorkloadState} (hu : s.containsWorkload wid = false)
    (now : UInt64) : (s.retainReservations now).containsWorkload wid = false := by
  simp only [containsWorkload, Bool.or_eq_false_iff] at hu ⊢
  obtain ⟨ha, hr⟩ := hu
  refine ⟨ha, ?_⟩
  rw [List.any_eq_false] at hr ⊢
  intro e he
  exact hr e (List.mem_of_mem_filter he)

def CapacityQuery.amount (q : CapacityQuery) : Dim → Nat
  | .cpu => q.cpuMilli.toNat
  | .memory => q.memoryBytes.toNat
  | .storage => q.storageBytes.toNat

structure Satisfies (config : Config) (state : WorkloadState) (query : CapacityQuery) : Prop where
  reliable : state.quarantined.card = 0
  slot : state.slots < config.maxWorkloads
  room : ∀ d, state.usage.get d + query.amount d ≤ config.capacity d

theorem CapacityQuery.verify_amount (hv : query.verify p now = .ok ()) (d : Dim) :
    0 < query.amount d := by
  obtain ⟨hvl, _⟩ := unit_bind_ok.1 hv
  obtain ⟨_, hvl⟩ := unit_bind_ok.1 hvl
  obtain ⟨_, hvl⟩ := unit_bind_ok.1 hvl
  obtain ⟨ha, _⟩ := unit_bind_ok.1 hvl
  rw [ensure_ok, Bool.and_eq_true, Bool.and_eq_true, decide_eq_true_eq, decide_eq_true_eq,
    decide_eq_true_eq] at ha
  obtain ⟨⟨hc, hm⟩, hs⟩ := ha
  cases d with
  | cpu => exact UInt32.lt_iff_toNat_lt.1 hc
  | memory => exact UInt64.lt_iff_toNat_lt.1 hm
  | storage => exact UInt64.lt_iff_toNat_lt.1 hs

theorem canSatisfy_satisfies (ha : ∀ d, 0 < query.amount d)
    (hs : canSatisfy cfg state query = true) : Satisfies cfg state query := by
  simp only [canSatisfy, Bool.and_eq_true, beq_iff_eq, decide_eq_true_eq] at hs
  obtain ⟨⟨⟨⟨hr, hsl⟩, hc⟩, hm⟩, hst⟩ := hs
  refine ⟨hr, ?_, fun d => ?_⟩
  · rw [WorkloadState.slots, hr]
    exact hsl
  · have hg : (cfg.available state.usage).get d = cfg.capacity d - state.usage.get d := by
      cases d with
      | _ => rfl
    have hrm : query.amount d ≤ (cfg.available state.usage).get d := by
      cases d with
      | cpu => exact hc
      | memory => exact hm
      | storage => exact hst
    -- a positive amount is left only below the capacity
    have hp := ha d
    omega

theorem satisfies_of_offer (ho : (capacityOffer h query address now state).2 = .ok (some offer)) :
    Satisfies h.config (state.retainReservations now) query := by
  unfold capacityOffer at ho
  split at ho
  · cases ho
  · next hv =>
    split at ho
    · cases ho
    · split at ho
      · cases ho
      · dsimp only at ho
        split at ho
        · next hs => exact canSatisfy_satisfies (CapacityQuery.verify_amount hv) hs
        · cases ho

theorem Satisfies.capacityOk (hs : Satisfies h.config state query)
    (ha : ∀ d, request.amount d = query.amount d) :
    (admissionChecks h.config state request).capacityOk = true := by
  refine (Config.fits_iff _ _).2 fun d => ?_
  have hr := hs.room d
  rw [← ha d] at hr
  rw [ResourceUsage.plus_get]
  have hg : (⟨request.cpuMilli.toNat, request.memoryBytes.toNat,
      request.storageBytes.toNat⟩ : ResourceUsage).get d = request.amount d := by
    cases d with
    | _ => rfl
  rw [hg, saturatingAdd]
  omega

theorem admitLocked_accepted (hs : (admitLocked h now reservationId request state).2 = .ok rsv) :
    rsv.accepted = (admissionChecks h.config (state.retainReservations now) request).accepted := by
  unfold admitLocked at hs
  dsimp only at hs
  split at hs
  · cases hs
  · next signed hsg =>
    obtain ⟨_, _, rfl⟩ := Reservation.sign_ok hsg
    split at hs
    · cases hs
      rfl
    · cases hs
      rfl

/-- An agent that made an offer accepts the matching admission of a new namespace and workload
exactly if the number and the share of the capacity that pending reservations may have allow it:
the offer looks at neither. -/
theorem offer_honoured_iff (hoffer : (capacityOffer h query address now state).2 = .ok (some offer))
    (hamount : request.cpuMilli = query.cpuMilli ∧ request.memoryBytes = query.memoryBytes ∧
      request.storageBytes = query.storageBytes)
    (hnamespace : state.reservationsFor request.namespaceId = 0)
    (hunknown : state.containsWorkload request.workloadId = false)
    (hsigned : (admitLocked h now reservationId request state).2 = .ok reservation) :
    reservation.accepted = true ↔
      Assoc.size (state.retainReservations now).reservations < maxReservations ∧
        ∀ d, saturatingAdd u64Max ((state.retainReservations now).reservedUsage.get d)
          (request.amount d) ≤ h.config.reservedCapacityCeiling.get d := by
  have hs := satisfies_of_offer hoffer
  have ha : ∀ d, request.amount d = query.amount d := by
    obtain ⟨hc, hm, hst⟩ := hamount
    intro d
    cases d with
    | cpu => exact congrArg UInt32.toNat hc
    | memory => exact congrArg UInt64.toNat hm
    | storage => exact congrArg UInt64.toNat hst
  have hp : (admissionChecks h.config (state.retainReservations now)
      request).reservationCapacityOk = true ↔
      ∀ d, saturatingAdd u64Max ((state.retainReservations now).reservedUsage.get d)
        (request.amount d) ≤ h.config.reservedCapacityCeiling.get d := by
    refine (ResourceUsage.fitsWithin_iff _ _ _ _).trans (forall_congr' fun d => ?_)
    rw [ResourceUsage.plus_get]
    cases d with
    | _ => rfl
  have hf : (state.retainReservations now).reservationsFor request.namespaceId ≤
      state.reservationsFor request.namespaceId := (List.filter_sublist.filter _).length_le
  have hn : (state.retainReservations now).reservationsFor request.namespaceId <
      maxReservationsPerNamespace := by
    rw [hnamespace] at hf
    exact Nat.lt_of_le_of_lt hf (by decide)
  rw [admitLocked_accepted hsigned, AdmissionChecks.accepted, hs.capacityOk ha, ← hp]
  simp [admissionChecks, hs.reliable, WorkloadState.unknown_retain hunknown, hs.slot, hn]

namespace Reference

def capacityQuery (cpu : UInt32) (memory storage : UInt64) : CapacityQuery where
  version := capacityProtocolVersion
  queryId := "query"
  nonce := "nonce"
  cpuMilli := cpu
  memoryBytes := memory
  storageBytes := storage
  requiredCapabilities := []
  excludedEndpointIds := []
  replyEndpoint := { proxyEndpoint with issuedAtSecs := 1000, expiresAtSecs := 1010 }
  issuedAtSecs := 1000
  expiresAtSecs := 1010
  signingPubkey := owner 7
  signature := signedBy 7

def agentAddress : EndpointAddr := ⟨key 8, none, ["127.0.0.1:7000"]⟩

def offerFor (cpu : UInt32) (memory storage : UInt64) : Except String (Option CapacityOffer) :=
  (capacityOffer (host .default) (capacityQuery cpu memory storage) agentAddress 1000 .empty).2

end Reference

theorem exists_offer {x : Except String (Option CapacityOffer)}
    (hx : (x.toOption.bind id).isSome = true) : ∃ offer, x = .ok (some offer) := by
  match x with
  | .ok (some offer) => exact ⟨offer, rfl⟩

open Reference

/-- A default agent without workloads offers 3000 of its 4000 millicores, and refuses an admission
for them: half of the capacity is more than pending reservations may have. -/
theorem offer_beyond_pending_share :
    ∃ offer reservation,
      (capacityOffer (host .default) (capacityQuery 3000 1024 1024)
        agentAddress 1000 .empty).2 = .ok (some offer) ∧
      (admission "a" "n1" 3000 1024 1024).verify platform 1000 = .ok () ∧
      (admitLocked (host .default) 1000 "id"
        (admission "a" "n1" 3000 1024 1024) .empty).2 = .ok reservation ∧
      reservation.accepted = false ∧
      reservation.reason = AdmissionRefusal.pendingCapacityLimit.asStr := by
  obtain ⟨offer, ho⟩ := exists_offer
    (show ((offerFor 3000 1024 1024).toOption.bind id).isSome = true by decide +kernel)
  exact ⟨offer, _, ho, rfl, rfl, by decide +kernel, by decide +kernel⟩

/-- Half of the capacity is offered and admitted. -/
theorem offer_honoured_half :
    ∃ offer reservation,
      (capacityOffer (host .default) (capacityQuery 2000 1024 1024)
        agentAddress 1000 .empty).2 = .ok (some offer) ∧
      (admitLocked (host .default) 1000 "id"
        (admission "a" "n1" 2000 1024 1024) .empty).2 = .ok reservation ∧
      reservation.accepted = true := by
  obtain ⟨offer, ho⟩ := exists_offer
    (show ((offerFor 2000 1024 1024).toOption.bind id).isSome = true by decide +kernel)
  have ha : (admitLocked (host .default) 1000 "id"
      (admission "a" "n1" 2000 1024 1024) .empty).2 = .ok _ := rfl
  refine ⟨offer, _, ho, ha, ?_⟩
  apply (offer_honoured_iff ho ⟨rfl, rfl, rfl⟩ (by decide +kernel) (by decide +kernel)
    ha).2
  refine ⟨by decide +kernel, fun d => ?_⟩
  cases d with
  | _ => decide +kernel

end Podmesh
