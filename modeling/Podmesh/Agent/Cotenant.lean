import Podmesh.Agent.AtMostOnce
import Podmesh.Agent.Tenancy

namespace Podmesh

variable {h : Host} {A : String} {n n' : Node}

def DeploymentReceipt.unsigned (r : DeploymentReceipt) : DeploymentReceipt :=
  { r with signature := "" }

def WorkloadSummary.unsigned (s : WorkloadSummary) : WorkloadSummary :=
  { s with receipt := s.receipt.unsigned }

/-- An answer without the id drawn at random, the signatures and the listed workloads. -/
def Response.unsigned : Response → Response
  | .reservation r => .reservation { r with reservationId := "", signature := "" }
  | .receipt r => .receipt r.unsigned
  | .update r => .update { r with receipt := r.receipt.unsigned, signature := "" }
  | .command r => .command { r with signature := "" }
  | .list r => .list { r with agentEndpoint := { r.agentEndpoint with signature := "" }
                              workloads := [], signature := "" }

def Response.listed : Response → Multiset WorkloadSummary
  | .list r => Multiset.ofList (r.workloads.map WorkloadSummary.unsigned)
  | _ => 0

def outcome (r : Except String Response) : Except String (Response × Multiset WorkloadSummary) :=
  r.map fun response => (response.unsigned, response.listed)

def carryOn (h : Host) : List Input → Node → Task → Option (Except String Response)
  | [], _, _ => none
  | i :: rest, n, t =>
    match poll h i n t with
    | (n, .next t) => carryOn h rest n t
    | (_, .done r) => some r
    | (_, .quit _) => none

def handle (h : Host) (n : Node) (m : OwnerMessage) (i : Input) (rest : List Input) :
    Option (Except String Response) :=
  match receive h i n m with
  | (n, .next t) => carryOn h rest n t
  | (_, .done r) => some r
  | (_, .quit _) => none

/-- The postcard encoding of a message and a signature with the agent's key always succeed. -/
def Host.Signs (h : Host) : Prop :=
  ∀ domain body, ∃ signature, h.platform.signBody h.signingPrivate domain body = .ok signature

/-- No workload id is derived from the keys of two namespaces. -/
def Host.Separates (h : Host) : Prop :=
  ∀ A B k, h.Derives A k → h.Derives B k → A = B

structure Node.Lawful (h : Host) (n : Node) : Prop where
  derived : ∀ k w, n.state.active.lookup k = some w →
    h.Derives w.grant.namespaceId k ∧ w.grant.workloadId = k
  issued : ∀ id r, n.state.reservations.lookup id = some r → r.Issued h

/-- Two agents that agree on everything of the namespace `A` and, of the others, on what they use
and how many there are; the reservations of the others may be for other workloads, and so may their
records. -/
structure Node.Alike (h : Host) (A : String) (n n' : Node) : Prop where
  records : ∀ k, n.state.owned k A = n'.state.owned k A
  reservations : ∀ id, Option.Rel (Reservation.Alike A) (n.state.reservations.lookup id)
    (n'.state.reservations.lookup id)
  activeTotal : ∀ d, n.state.activeTotal d = n'.state.activeTotal d
  activeCount : Assoc.size n.state.active = Assoc.size n'.state.active
  quarantined : n.state.quarantined = n'.state.quarantined
  guards : ∀ k, h.Derives A k → n.mutations.lookup k = n'.mutations.lookup k
  guardCount : Assoc.size n.mutations = Assoc.size n'.mutations
  replay : n.replay = n'.replay
  endpointAddress : n.endpointAddress = n'.endpointAddress

theorem Node.Lawful.lookup_derived (hn : n.Lawful h) (hs : h.Separates) (hk : h.Derives A k) :
    n.state.active.lookup k = n.state.owned k A := by
  rw [WorkloadState.owned]
  cases hl : n.state.active.lookup k with
  | none => rfl
  | some w =>
    have hns : w.grant.namespaceId = A := hs _ _ k (hn.derived k w hl).1 hk
    rw [Option.filter_some, hns, beq_self_eq_true, if_pos rfl]

theorem Node.Lawful.ownsDerived (hn : n.Lawful h) : n.OwnsDerived h A := by
  rintro k w hl rfl
  exact hn.derived k w hl

theorem Node.Alike.coupled (ha : n.Alike h A n') (hn : n.Lawful h) (hn' : n'.Lawful h)
    (hs : h.Separates) : Coupled h A n n' where
  active k hk := by
    rw [hn.lookup_derived hs hk, hn'.lookup_derived hs hk, ha.records k]
  left := hn.ownsDerived
  right := hn'.ownsDerived
  reservations := ha.reservations
  issuedLeft := hn.issued
  issuedRight := hn'.issued
  activeTotal := ha.activeTotal
  activeCount := ha.activeCount
  quarantined := ha.quarantined
  guards := ha.guards
  guardCount := ha.guardCount
  replay := ha.replay
  endpointAddress := ha.endpointAddress

def Node.recordsOf (n : Node) (A : String) : List StoredWorkload :=
  (n.state.active.entries.map (·.2)).filter fun w => w.grant.namespaceId == A

theorem Coupled.recordsOf (hc : Coupled h A n n') : (n.recordsOf A).Perm (n'.recordsOf A) := by
  have he : (n.state.active.entries.filter fun e => e.2.grant.namespaceId == A).Perm
      (n'.state.active.entries.filter fun e => e.2.grant.namespaceId == A) := by
    rw [List.perm_ext_iff_of_nodup (n.state.active.nodupKeys.nodup.filter _)
      (n'.state.active.nodupKeys.nodup.filter _)]
    rintro ⟨k, w⟩
    have ho : n.state.owned k A = some w ↔ n'.state.owned k A = some w := by
      rw [hc.owned k]
    simp only [WorkloadState.owned, Option.filter_eq_some_iff] at ho
    simp only [List.mem_filter, ← AList.mem_lookup_iff]
    exact ho
  unfold Node.recordsOf
  rw [List.filter_map, List.filter_map]
  exact he.map _

theorem Host.Signs.summary (hs : h.Signs) (now : UInt64) (st : StoredWorkload) :
    ∃ s, h.summary now st = .ok s := by
  obtain ⟨signature, hsg⟩ := hs .deploymentReceipt (.deploymentReceipt
    { version := agentProtocolVersion
      namespaceId := st.grant.namespaceId
      workloadId := st.grant.workloadId
      revisionId := st.grant.revisionId
      agentNodeId := h.signingPubkeyB64
      runtimeId := st.runtimeId
      acceptedAtSecs := now
      signature := "" })
  simp only [Host.summary, Host.receipt, Host.signReceipt, hsg, bind, Except.bind, pure,
    Except.pure]
  exact ⟨_, rfl⟩

theorem Coupled.summaries (hc : Coupled h A n n') (hs : h.Signs) (now : UInt64) :
    ∃ l l', h.summaries now A (n.state.active.entries.map (·.2)) = .ok l ∧
      h.summaries now A (n'.state.active.entries.map (·.2)) = .ok l' ∧ l.Perm l' := by
  choose f hf using hs.summary now
  have ha (records : List StoredWorkload) : h.summaries now A records =
      .ok ((records.filter fun w => w.grant.namespaceId == A).map f) := by
    induction records with
    | nil => rfl
    | cons w rest ih =>
      rw [Host.summaries, ih, hf]
      by_cases hns : w.grant.namespaceId = A
      · rw [if_pos hns, List.filter_cons_of_pos (by simp [hns])]
        rfl
      · rw [if_neg hns, List.filter_cons_of_neg (by simp [hns])]
  exact ⟨_, _, ha _, ha _, hc.recordsOf.map f⟩

theorem Coupled.listLock (hc : Coupled h A n n') (hs : h.Signs) (hns : req.namespaceId = A)
    (now : UInt64) :
    ∃ r r', (listLock h n now req).2 = .done r ∧ (listLock h n' now req).2 = .done r' ∧
      outcome r = outcome r' := by
  obtain ⟨l, l', hl, hl', hp⟩ := hc.summaries hs now
  refine ⟨_, _, rfl, rfl, ?_⟩
  simp only [Host.listResponse, hns, hl, hl', hc.endpointAddress, bind, Except.bind]
  cases orError n'.endpointAddress "agent has no active scheduler attachment record" with
  | error e => rfl
  | ok address =>
    dsimp only
    cases h.signedEndpointRecord address now (now + 60) with
    | error e => rfl
    | ok ep =>
      dsimp only
      obtain ⟨sig, hsg⟩ := hs .workloadListResponse (.workloadListResponse
        { version := agentProtocolVersion, requestId := req.requestId
          agentNodeId := h.signingPubkeyB64, agentEndpoint := ep
          agentKemPubkey := h.platform.b64Encode h.kemPublic, workloads := l
          respondedAtSecs := now, signature := "" })
      obtain ⟨sig', hs'⟩ := hs .workloadListResponse (.workloadListResponse
        { version := agentProtocolVersion, requestId := req.requestId
          agentNodeId := h.signingPubkeyB64, agentEndpoint := ep
          agentKemPubkey := h.platform.b64Encode h.kemPublic, workloads := l'
          respondedAtSecs := now, signature := "" })
      rw [hsg, hs']
      have hls : (Multiset.ofList (l.map WorkloadSummary.unsigned)) =
          Multiset.ofList (l'.map WorkloadSummary.unsigned) :=
        Multiset.coe_eq_coe.2 (hp.map _)
      simp only [outcome, Except.map, pure, Except.pure, Response.unsigned, Response.listed, hls]

namespace Coupled

section
variable (hc : Coupled h A n n')
include hc

theorem retain (now : UInt64) : Coupled h A { n with state := n.state.retainReservations now }
      { n' with state := n'.state.retainReservations now } where
  active := hc.active
  left := hc.left
  right := hc.right
  reservations id := by
    simp only [WorkloadState.retainReservations, Assoc.lookup_retain]
    have hr := hc.reservations id
    generalize n.state.reservations.lookup id = o at hr ⊢
    generalize n'.state.reservations.lookup id = o' at hr ⊢
    cases hr with
    | none => exact .none
    | some ha =>
      rw [Option.filter_some, Option.filter_some, ha.expiresAtSecs]
      split
      · exact .some ha
      · exact .none
  issuedLeft _ _ hl := hc.issuedLeft _ _ (Assoc.lookup_of_retain hl).1
  issuedRight _ _ hl := hc.issuedRight _ _ (Assoc.lookup_of_retain hl).1
  activeTotal := hc.activeTotal
  activeCount := hc.activeCount
  quarantined := hc.quarantined
  guards := hc.guards
  guardCount := hc.guardCount
  replay := hc.replay
  endpointAddress := hc.endpointAddress

theorem reservationCount : Assoc.size n.state.reservations = Assoc.size n'.state.reservations := by
  rw [Assoc.size_eq_total, Assoc.size_eq_total]
  exact hc.reservationSum _ fun _ _ _ _ => rfl

theorem reservationsFor : n.state.reservationsFor A = n'.state.reservationsFor A := by
  rw [reservationsFor_eq_total, reservationsFor_eq_total]
  refine hc.reservationSum _ fun _ r r' ha => ?_
  rw [inNamespace, inNamespace, ha.namespaceId]

theorem reservedUsage : n.state.reservedUsage = n'.state.reservedUsage := by
  refine ResourceUsage.ext_get fun d => ?_
  rw [WorkloadState.reservedUsage_get, WorkloadState.reservedUsage_get, hc.reservedTotal d]

theorem usage : n.state.usage = n'.state.usage := by
  have ha : n.state.activeUsage = n'.state.activeUsage := by
    refine ResourceUsage.ext_get fun d => ?_
    rw [WorkloadState.activeUsage_get, WorkloadState.activeUsage_get, hc.activeTotal d]
  simp [WorkloadState.usage, ha, hc.reservedUsage]

theorem checks (cfg : Config) (hns : req.namespaceId = A) :
    admissionChecks cfg n'.state req = { admissionChecks cfg n.state req with
      duplicate := n'.state.containsWorkload req.workloadId } := by
  simp only [admissionChecks, WorkloadState.slots, hns, hc.quarantined, hc.activeCount,
    hc.reservationCount, hc.reservationsFor, hc.usage, hc.reservedUsage]
  rfl

end

end Coupled

theorem Coupled.admitLock (hc : Coupled h A n n') (hns : req.namespaceId = A)
    (hd : n.state.quarantined = ∅ →
      (n.state.retainReservations now).containsWorkload req.workloadId =
        (n'.state.retainReservations now).containsWorkload req.workloadId) :
    (admitLock h i n now req).2 = (admitLock h i n' now req).2 := by
  have hch := (hc.retain now).checks h.config hns
  have hs : (admissionChecks h.config (n.state.retainReservations now) req).accepted =
        (admissionChecks h.config (n'.state.retainReservations now) req).accepted ∧
      (admissionChecks h.config (n.state.retainReservations now) req).refusal =
        (admissionChecks h.config (n'.state.retainReservations now) req).refusal := by
    rw [hch]
    by_cases hq : n.state.quarantined = ∅
    · rw [← hd hq]
      exact ⟨rfl, rfl⟩
    · -- a record that needs repair refuses every admission before anything else is looked at
      have hu :
          (admissionChecks h.config (n.state.retainReservations now) req).stateReliable =
            false := by
        simpa [admissionChecks, WorkloadState.retainReservations] using hq
      simp [AdmissionChecks.accepted, AdmissionChecks.refusal, hu]
  simp only [Podmesh.admitLock, admitLocked, hs.1, hs.2]
  split
  · rfl
  · split <;> rfl

theorem poll_next_ne_admitLock (he : (poll h i n t).2 = .next t') (now : UInt64)
    (request : AdmissionRequest) : t' ≠ .admitLock now request := by
  rintro rfl
  obtain ⟨e, _, hcs⟩ := poll_explains h i n t
  rw [he] at hcs
  cases hcs with
  | guardWait => cases he
  | failRecorded _ ha =>
    rcases ha with hd | ⟨tgt, _, hn⟩
    · cases hd
    · cases hn

theorem carryOn_outcome (hc : Coupled h A n n') (hs : h.Signs) (ht : t.Of h A)
    (hn : ∀ now request, t ≠ .admitLock now request) (inputs : List Input) :
    (carryOn h inputs n t).map outcome = (carryOn h inputs n' t).map outcome := by
  induction inputs generalizing n n' t with
  | nil => rfl
  | cons i rest ih =>
    by_cases hl : ∃ now request, t = .listLock now request
    · obtain ⟨now, request, rfl⟩ := hl
      obtain ⟨r, r', hr, hr', hsm⟩ := hc.listLock hs ht now
      cases hr
      cases hr'
      exact congrArg some hsm
    · have hm := poll_matched (i := i) hc ht hn fun now request he => hl ⟨now, request, he⟩
      have ha := hm.after
      have hnx := hm.next
      have hnd := hm.node
      have hne (t' : Task) (he : (poll h i n t).2 = .next t') := poll_next_ne_admitLock he
      simp only [carryOn]
      generalize poll h i n t = p at ha hnx hnd hne ⊢
      generalize poll h i n' t = p' at ha hnd ⊢
      obtain ⟨m, after⟩ := p
      obtain ⟨m', after'⟩ := p'
      cases ha
      cases after with
      | done r => rfl
      | quit r => rfl
      | next t' => exact ih hnd (hnx t' rfl) (hne t' rfl)

theorem handle_outcome (hc : Coupled h A n n') (hs : h.Signs) (hm : m.namespaceId = A)
    (hn : ∀ now req, (receive h i n m).2 ≠ .next (.admitLock now req)) (rest : List Input) :
    (handle h n m i rest).map outcome = (handle h n' m i rest).map outcome := by
  have hmt := receive_matched (i := i) hc hm
  have ha := hmt.after
  have hnx := hmt.next
  have hnd := hmt.node
  simp only [handle]
  generalize receive h i n m = p at ha hnx hnd hn ⊢
  generalize receive h i n' m = p' at ha hnd ⊢
  obtain ⟨k, after⟩ := p
  obtain ⟨k', after'⟩ := p'
  cases ha
  cases after with
  | done r => rfl
  | quit r => rfl
  | next t =>
    exact carryOn_outcome hnd hs (hnx t rfl) (fun now req he => hn now req (by rw [he]))
      rest

structure Decides (h : Host) (i : Input) (n : Node) (m : OwnerMessage)
    (request : AdmissionRequest) : Prop where
  message : m = .admission request
  verified : request.verify h.platform.toPlatform i.now = .ok ()
  target : request.targetNodeId = h.signingPubkeyB64
  fresh : (n.replay.present (m.presentedAt i.replayNow)).2 = .ok ()

theorem Decides.receive (hd : Decides h i n m req) :
    receive h i n m = ({ n with replay := (n.replay.present (m.presentedAt i.replayNow)).1 },
      .next (.admitLock i.now req)) := by
  obtain ⟨rfl, hv, ht, hf⟩ := hd
  simp only [Podmesh.receive, admitReceive, hv, ht, ne_eq, not_true, if_false]
  unfold ReplayCache.present OwnerMessage.presentedAt OwnerMessage.key at hf ⊢
  dsimp only [OwnerMessage.expiresAtSecs] at hf ⊢
  split
  · next replay e hr =>
    rw [hr] at hf
    cases hf
  · next replay hr => rw [hr]

theorem decides_of_receive (he : (receive h i n m).2 = .next (.admitLock now request)) :
    Decides h i n m request := by
  cases m with
  | admission request' =>
    simp only [receive, admitReceive] at he
    split at he
    · cases he
    · next hv =>
      split at he
      · cases he
      · next ht =>
        split at he
        · cases he
        · next replay hr =>
          cases he
          exact ⟨rfl, hv, not_not.1 ht, congrArg Prod.snd hr⟩
  | _ =>
    -- the other messages end here or go on with sections of their own
    simp only [receive, deployReceive, updateReceive, commandReceive, listReceive] at he
    repeat' split at he
    all_goals cases he

theorem Decides.handle (hd : Decides h i n m req) (i' : Input) (rest : List Input) :
    handle h n m i (i' :: rest) =
      some ((admitLocked h i.now i'.freshId req n.state).2.map .reservation) := by
  simp only [Podmesh.handle, hd.receive]
  rfl

theorem admitLocked_answer (hs : h.Signs) (now : UInt64) (id : String) (req : AdmissionRequest)
    (state : WorkloadState) : ∃ r, (admitLocked h now id req state).2 = .ok r ∧
      r.reason = (admissionChecks h.config (state.retainReservations now) req).refusal.elim ""
        AdmissionRefusal.asStr := by
  unfold admitLocked
  dsimp only
  split
  · next e hsg =>
    simp only [Reservation.sign] at hsg
    obtain ⟨signature, hsi⟩ := hs .reservation (.reservation
      { version := agentProtocolVersion, reservationId := id, requestId := req.requestId
        namespaceId := req.namespaceId, workloadId := req.workloadId
        agentNodeId := h.platform.b64Encode h.signingPublic, cpuMilli := req.cpuMilli
        memoryBytes := req.memoryBytes, storageBytes := req.storageBytes
        accepted := (admissionChecks h.config (state.retainReservations now) req).accepted
        reason := (admissionChecks h.config (state.retainReservations now) req).refusal.elim ""
          AdmissionRefusal.asStr
        expiresAtSecs := now + 30, signature := "" })
    rw [hsi] at hsg
    cases hsg
  · next r hsg =>
    have hr := hsg
    simp only [Reservation.sign, bind_ok, pure, Except.pure, Except.ok.injEq] at hr
    obtain ⟨signature, _, rfl⟩ := hr
    split <;> exact ⟨_, rfl, rfl⟩

theorem AdmissionChecks.reason_duplicate {c : AdmissionChecks} (hr : c.stateReliable = true) :
    c.refusal.elim "" AdmissionRefusal.asStr = AdmissionRefusal.alreadyActive.asStr ↔
      c.duplicate = true := by
  obtain ⟨a, b, d, e, f, g⟩ := c
  cases hr
  cases b <;> cases d <;> cases e <;> cases f <;> cases g <;> decide

/-- Two agents that only differ in the workloads of other namespaces give an owner the same outcome,
unless an admission is decided and its id is known to one of them only. -/
theorem cotenant_outcomes_agree_iff (ha : n.Alike h A n') (hn : n.Lawful h) (hn' : n'.Lawful h)
    (hsep : h.Separates) (hs : h.Signs) (hm : m.namespaceId = A) (i : Input) :
    (∀ rest, (handle h n m i rest).map outcome = (handle h n' m i rest).map outcome) ↔
      ∀ request, Decides h i n m request → n.state.quarantined = ∅ →
        (n.state.retainReservations i.now).containsWorkload request.workloadId =
          (n'.state.retainReservations i.now).containsWorkload request.workloadId := by
  have hc := ha.coupled hn hn' hsep
  constructor
  · intro hsm request hd hq
    have hd' : Decides h i n' m request := ⟨hd.message, hd.verified, hd.target, ha.replay ▸ hd.fresh⟩
    have ho := hsm [i]
    rw [hd.handle, hd'.handle] at ho
    obtain ⟨r, hr, hrs⟩ := admitLocked_answer hs i.now i.freshId request n.state
    obtain ⟨r', hr', hrs'⟩ := admitLocked_answer hs i.now i.freshId request n'.state
    rw [hr, hr'] at ho
    have heq : r.reason = r'.reason := by
      simp only [outcome, Except.map, Response.unsigned, Option.map_some, Option.some.injEq,
        Except.ok.injEq, Prod.mk.injEq, Response.reservation.injEq, Reservation.mk.injEq] at ho
      exact ho.1.2.2.2.2.2.2.2.2.2.2.1
    -- the reason names a duplicate exactly if there is one
    have hrl {s : WorkloadState} (hem : s.quarantined = ∅) :
        (admissionChecks h.config (s.retainReservations i.now) request).stateReliable = true := by
      simp [admissionChecks, WorkloadState.retainReservations, hem]
    have hdp := AdmissionChecks.reason_duplicate (hrl hq)
    have hdp' := AdmissionChecks.reason_duplicate (hrl (ha.quarantined ▸ hq))
    rw [← hrs, heq, hrs'] at hdp
    exact Bool.eq_iff_iff.2 (hdp.symm.trans hdp')
  · intro hag rest
    by_cases hd : ∃ request, Decides h i n m request
    · obtain ⟨request, hd⟩ := hd
      have hd' : Decides h i n' m request :=
        ⟨hd.message, hd.verified, hd.target, ha.replay ▸ hd.fresh⟩
      have hns : request.namespaceId = A := by
        rw [← hm, hd.message]
        rfl
      cases rest with
      | nil =>
        simp only [handle, hd.receive, hd'.receive]
        rfl
      | cons i' rest =>
        have hl := hc.admitLock (i := i') hns (hag request hd)
        rw [hd.handle, hd'.handle]
        exact congrArg (fun r => some (outcome r)) (After.done.inj hl)
    · exact handle_outcome hc hs hm (fun now request he => hd ⟨request, decides_of_receive he⟩) rest

theorem utf8Bytes_injective (hb : utf8Bytes s = utf8Bytes t) : s = t := by
  have hd : s.toByteArray.data = t.toByteArray.data := Array.toList_inj.1 hb
  exact String.toByteArray_inj.1 (ByteArray.ext hd)

namespace Reference

def hexBytes (bytes : Bytes) : List Char :=
  bytes.flatMap fun b => [hexDigit (b.toNat / 16), hexDigit (b.toNat % 16)]

def ownerHex (parts : List Bytes) : String :=
  String.ofList (hexBytes ((parts.flatten.drop 20).take 32))

def separating : Host :=
  { host .default with platform := { identityPlatform with blake3Hex := ownerHex } }

theorem hexDigit_injective (ha : a < 16) (hb : b < 16) (he : hexDigit a = hexDigit b) : a = b := by
  have hal : ∀ a b : Fin 16, hexDigit a = hexDigit b → a = b := by decide
  exact Fin.val_eq_of_eq (hal ⟨a, ha⟩ ⟨b, hb⟩ he)

theorem hexBytes_injective (he : hexBytes x = hexBytes y) : x = y := by
  induction x generalizing y with
  | nil =>
    cases y with
    | nil => rfl
    | cons b y => cases he
  | cons a x ih =>
    cases y with
    | nil => cases he
    | cons b y =>
      simp only [hexBytes, List.flatMap_cons, List.cons_append, List.nil_append,
        List.cons.injEq] at he
      obtain ⟨hh, hl, hr⟩ := he
      have ha := a.toNat_lt
      have hb := b.toNat_lt
      have hh := hexDigit_injective (by omega) (by omega) hh
      have hl := hexDigit_injective (by omega) (by omega) hl
      have hby : a = b := UInt8.toNat_inj.1 (by omega)
      rw [hby, ih hr]

theorem separating_workloadId (owner : Bytes) (name : String) (index : UInt32)
    (hl : owner.length = 32) :
    separating.platform.workloadId owner name index = String.ofList (hexBytes owner) := by
  have hd : (utf8Bytes "podmesh/workload/v1\x00").length = 20 := by decide
  have hk (rest : Bytes) :
      ((utf8Bytes "podmesh/workload/v1\x00" ++ (owner ++ rest)).drop 20).take 32 = owner := by
    rw [← hd, List.drop_left, ← hl, List.take_left]
  exact congrArg (fun bytes => String.ofList (hexBytes bytes)) (hk _)

theorem separating_separates : separating.Separates := by
  rintro A B k ⟨x, name, index, hA, hx, rfl⟩ ⟨y, name', index', hB, hy, he⟩
  rw [separating_workloadId x name index hx, separating_workloadId y name' index' hy] at he
  have hk : y = x := hexBytes_injective (String.ofList_injective he)
  subst hk
  have hd {text : String} (hok : b64Decode text = .ok y) : utf8Bytes text = y := by
    unfold b64Decode at hok
    split at hok
    · exact Except.ok.inj hok
    · cases hok
  exact utf8Bytes_injective ((hd hA).trans (hd hB).symm)

theorem separating_signs : separating.Signs := fun _ _ => ⟨_, rfl⟩

def admissionFor (n : UInt8) (workloadId : String) : AdmissionRequest :=
  { admission "a" "1" 1 1 1 with
    namespaceId := owner n, workloadId, ownerSignature := signedBy n }

def ownId (n : UInt8) : String := String.ofList (hexBytes (key n))

def reservedAgent (workloadId : String) : Node :=
  { Node.fresh with
    state := (admitLocked separating 1000 "r" (admissionFor 2 workloadId) .empty).1 }

def reservationOf (workloadId : String) : Reservation where
  version := agentProtocolVersion
  reservationId := "r"
  requestId := "1"
  namespaceId := owner 2
  workloadId := workloadId
  agentNodeId := b64Encode agentKey
  cpuMilli := 1
  memoryBytes := 1
  storageBytes := 1
  accepted := true
  reason := ""
  expiresAtSecs := 1030
  signature := b64Encode (signature agentKey)

theorem reservedAgent_eq (wid : String) : reservedAgent wid =
    { Node.fresh with state := ⟨∅, (∅ : ReservationMap).insert "r" (reservationOf wid), ∅⟩ } := by
  rfl

theorem reservedAgent_lookup (wid id : String) :
    (reservedAgent wid).state.reservations.lookup id =
      if id = "r" then some (reservationOf wid) else none := by
  rw [reservedAgent_eq]
  by_cases hid : id = "r"
  · subst hid
    rfl
  · rw [if_neg hid]
    exact (AList.lookup_insert_ne hid).trans rfl

theorem reservedAgent_lawful {wid : String} (hid : validateHexId wid "workload_id" = .ok ()) :
    (reservedAgent wid).Lawful separating where
  derived k w hl := by
    rw [reservedAgent_eq] at hl
    cases hl
  issued id r hl := by
    rw [reservedAgent_lookup] at hl
    split at hl
    · cases hl
      have hw : validateHexId (reservationOf wid).workloadId "workload_id" = .ok () := hid
      simp only [Reservation.Issued, Reservation.verify, hw]
      rfl
    · cases hl

theorem reservedAgent_alike (x y : String) :
    (reservedAgent x).Alike separating (owner 1) (reservedAgent y) where
  records _ := rfl
  reservations id := by
    rw [reservedAgent_lookup, reservedAgent_lookup]
    split
    · have ho : (reservationOf x).namespaceId ≠ owner 1 := by
        change owner 2 ≠ owner 1
        decide
      exact .some ⟨rfl, fun how => absurd how ho⟩
    · exact .none
  activeTotal _ := rfl
  activeCount := rfl
  quarantined := rfl
  guards _ _ := rfl
  guardCount := rfl
  replay := rfl
  endpointAddress := rfl

end Reference

open Reference in
/-- An owner whose workload nobody else has asked for is served alike. -/
theorem unclaimed_admission_agrees :
    (handle separating (reservedAgent (ownId 2)) (.admission (admissionFor 1 (ownId 1))) (input "r'")
        [input "r'"]).map outcome =
      (handle separating (reservedAgent (ownId 3)) (.admission (admissionFor 1 (ownId 1)))
        (input "r'") [input "r'"]).map outcome := by
  refine (cotenant_outcomes_agree_iff (reservedAgent_alike (ownId 2) (ownId 3))
    (reservedAgent_lawful (by decide)) (reservedAgent_lawful (by decide)) separating_separates
    separating_signs rfl (input "r'")).2 (fun req hd _ => ?_) _
  cases hd.message
  decide

open Reference in
/-- The other owner reserved the workload id of the first one, or it did not: the first owner's
admission is refused by one agent and accepted by the other. -/
theorem claimed_admission_refused :
    (reservedAgent (ownId 1)).Alike separating (owner 1) (reservedAgent (ownId 2)) ∧
      (reservedAgent (ownId 1)).Lawful separating ∧ (reservedAgent (ownId 2)).Lawful separating ∧
      separating.Separates ∧ separating.Signs ∧
      (∃ r, handle separating (reservedAgent (ownId 1)) (.admission (admissionFor 1 (ownId 1)))
          (input "r'") [input "r'"] = some (.ok (.reservation r)) ∧
        r.accepted = false ∧ r.reason = "workload is already active or reserved") ∧
      ∃ r, handle separating (reservedAgent (ownId 2)) (.admission (admissionFor 1 (ownId 1)))
          (input "r'") [input "r'"] = some (.ok (.reservation r)) ∧
        r.accepted = true ∧ r.reason = "" := by
  refine ⟨reservedAgent_alike _ _, reservedAgent_lawful (by decide),
    reservedAgent_lawful (by decide), separating_separates, separating_signs, ?_, ?_⟩
  · exact ⟨_, rfl, rfl, rfl⟩
  · exact ⟨_, rfl, rfl, rfl⟩

end Podmesh
