import Podmesh.Agent.Enrollment

namespace Podmesh

variable {h : Host} {i : Input} {n : Node}

theorem enrollInspect_eq (hr : i.report = .ok report)
    (he : h.platform.encodeDelegation del = .ok enc) (hl : i.loaded = .ok ()) :
    enrollInspect h i n st del =
      if (n.store.enrollments.lookup st.grant.workloadId).any fun e =>
          e.delegationDigest == h.platform.blake3Hex [enc] &&
            e != h.binding st enc report then
        (n, .quit (.error "enrolled workload keys changed; owner generation update required"))
      else
        let saved := if n.store.enrollments.lookup st.grant.workloadId =
            some (h.binding st enc report) then (n, .ok ())
          else n.write i (·.saveEnrollment (h.binding st enc report))
        match saved.2 with
        | .error e => (saved.1, .quit (.error e))
        | .ok () =>
          if report.credentialFresh then (saved.1, .quit (.ok ()))
          else (saved.1, .next (.enrollInstall st)) := by
  simp only [enrollInspect, hr, he, hl, bind, Except.bind, pure, Except.pure]
  rfl

theorem enrollInspect_accepts (hr : i.report = .ok report)
    (he : h.platform.encodeDelegation del = .ok enc)
    (hld : i.loaded = .ok ()) (hs : i.stored = .ok ())
    (hbn : ∀ b, n.store.enrollments.lookup st.grant.workloadId = some b →
      b.delegationDigest = h.platform.blake3Hex [enc] → b = h.binding st enc report) :
    (enrollInspect h i n st del).2 =
      if report.credentialFresh then .quit (.ok ()) else .next (.enrollInstall st) := by
  have hp : ((n.store.enrollments.lookup st.grant.workloadId).any fun e =>
      e.delegationDigest == h.platform.blake3Hex [enc] &&
        e != h.binding st enc report) = false := by
    cases hl : n.store.enrollments.lookup st.grant.workloadId with
    | none => rfl
    | some b =>
      by_cases hd : b.delegationDigest = h.platform.blake3Hex [enc]
      · have hb := hbn b hl hd
        subst hb
        simp
      · simp [hd]
  have hsv : (if n.store.enrollments.lookup st.grant.workloadId =
        some (h.binding st enc report) then (n, .ok ())
      else n.write i (·.saveEnrollment (h.binding st enc report))).2 = .ok () := by
    split
    · rfl
    · rw [Node.write, hs]
  rw [enrollInspect_eq hr he hld, hp]
  simp only [Bool.false_eq_true, ↓reduceIte, hsv]
  split <;> rfl

theorem EnrollmentReady.digest (hr : EnrollmentReady h n wid st del)
    (hen : h.platform.encodeDelegation del = .ok enc) :
    h.delegationDigest st.grant = .ok (h.platform.blake3Hex [enc]) := by
  obtain ⟨exe, he, hd⟩ := hr.decoded
  simp only [Host.delegationDigest, he, hd, hen, bind, Except.bind, pure, Except.pure]

namespace Tracked
variable {s : Tracked}

theorem Enrolled.current (hs : s.Enrolled h) (hm : s.world.Slots Mirrors)
    (hw : s.world.Running h) (hf : s.world.node.mutations.lookup k ≠ some .lifecycle)
    (hr : EnrollmentReady h s.world.node k st del)
    (hb : s.world.node.store.enrollments.lookup k = some b)
    (hd : h.delegationDigest st.grant = .ok b.delegationDigest) :
    b.workloadId = k ∧ (s.connectors k).head? = some b.keys := by
  have hbn := hs.bound k b hb
  obtain ⟨r, hds, ht⟩ := hbn.record
  obtain ⟨_, r', hsl⟩ := (hw.sound k).memory_bound hr.record
  have ha : (s.world.node.slot k).Agrees := hm.free k hf
  rw [hsl] at ha
  obtain ⟨r'', rfl, hag⟩ := ha.of_holding
  have hd' : s.world.node.store.workloads.lookup k = some (some r'') :=
    congrArg Slot.disk hsl
  rw [hds] at hd'
  cases hd'
  obtain ⟨hg, hp, _⟩ := hag.settled hr.needsCleanup
  refine ⟨hbn.key, ?_⟩
  rcases ht with hu | ⟨_, hk⟩
  · rw [StoredWorkload.isUpdating, ← hp, hr.phase] at hu
    cases hu
  · exact hk (hg ▸ hd)

end Tracked

theorem runtimeDeploy_creates (hd : (runtimeDeploy h i d n).2 = .ok rid) :
    h.creates i d = true := by
  unfold runtimeDeploy at hd
  unfold Host.creates Input.effective
  cases ht : h.runtime.targetId d with
  | error e =>
    rw [ht] at hd
    cases hd
  | ok id =>
    rw [ht] at hd
    cases hr : i.reply with
    | ok | other => rfl
    | failed | unknown =>
      simp only [runtimeCall, hr] at hd
      cases hd

theorem Task.settles_guard {t : Task} (ht : t.settles = some (dep, grant)) :
    ∃ k, t.guard = some (k, .lifecycle) := by
  cases t with
  | updateRuntime | rollbackRuntime => exact ⟨_, rfl⟩
  | _ => cases ht

theorem Task.recreates_of_settles {t : Task} (ht : t.settles = some (deployment, grant))
    (hg : t.guard = some (k, .lifecycle)) (hc : h.creates i deployment = true) :
    t.recreates h i = some k := by
  have hd : t.deploys = some deployment := by
    cases t with
    | updateRuntime | rollbackRuntime =>
      cases ht
      rfl
    | _ => cases ht
  rw [Task.recreates, hd, Option.filter_some, if_pos hc, hg]
  rfl

theorem poll_settles (hh : t.Holds slot) (ht : t.settles = some (dep, grant))
    (hd : (runtimeDeploy h i dep n).2 = .ok rid) (hs : i.stored = .ok ()) :
    ∃ r, (poll h i n t).1.store = n.store.save r ∧ r.phase = .active ∧ r.grant = grant := by
  generalize hc : runtimeDeploy h i dep n = called at hd
  obtain ⟨node, result⟩ := called
  cases hd
  have hst : node.store = n.store := by
    obtain ⟨pods, result, hr, _⟩ := runtimeDeploy_cases h i dep n
    cases hc.symm.trans hr
    rfl
  cases t with
  | updateRuntime now req exe act =>
    cases ht
    refine ⟨updatedWorkload req exe rid, ?_, rfl, rfl⟩
    simp [poll, updateRuntime, hc, Node.write, hs, hst]
  | rollbackRuntime req act =>
    cases ht
    refine ⟨act, ?_, hh.1.phase, rfl⟩
    simp [poll, rollbackRuntime, hc, Node.write, hs, hst]
  | _ => cases ht

namespace Tracked
variable {s : Tracked}

theorem Enrolled.outdated (hs : s.Enrolled h) (hw : s.world.Running h)
    (hl : s.world.tasks.lookup task = some t) (ht : t.settles = some (dep, grant))
    (hlw : s.lawful h (.poll task i) = true) (hbn : s.world.renews h (.poll task i) = false) :
    (∃ rid, (runtimeDeploy h i dep s.world.node).2 = .ok rid) ∧
      (∃ b, s.world.node.store.enrollments.lookup grant.workloadId = some b ∧
        h.delegationDigest grant = .ok b.delegationDigest ∧ b.keys ≠ i.podKeys) ∧
      (grow s.connectors (s.world.recreates h (.poll task i)) grant.workloadId).head? =
        some i.podKeys := by
  rw [World.renews, hl, Option.bind_some, ht, Option.all_some] at hbn
  dsimp only at hbn
  rw [Node.unbound, Bool.or_eq_false_iff, Bool.not_eq_false'] at hbn
  obtain ⟨hc, hbn⟩ := hbn
  obtain ⟨rid, hd⟩ := exists_of_isOk hc
  obtain ⟨b, hb, hdg⟩ : ∃ b, s.world.node.store.enrollments.lookup grant.workloadId = some b ∧
      h.delegationDigest grant = .ok b.delegationDigest := by
    cases hb : s.world.node.store.enrollments.lookup grant.workloadId with
    | none =>
      rw [hb] at hbn
      cases hbn
    | some b =>
      rw [hb, Option.all_some, decide_eq_false_iff_not, not_not] at hbn
      exact ⟨b, rfl, hbn⟩
  have hr : s.world.recreates h (.poll task i) = some (grant.workloadId, i.podKeys) := by
    obtain ⟨k, hg⟩ := Task.settles_guard ht
    have hke := Task.settles_key (hw.holds task t k _ hl hg) hg ht
    rw [World.recreates, hl, Option.bind_some,
      Task.recreates_of_settles ht hg (runtimeDeploy_creates hd), hke]
    rfl
  have hk := (hs.bound _ b hb).known
  refine ⟨⟨rid, hd⟩, ⟨b, hb, hdg, ?_⟩, ?_⟩
  · rintro hky
    simp only [lawful, Bool.and_eq_true, freshKeys, hr, Option.all_some] at hlw
    rw [hky] at hk
    simp [hk] at hlw
  · rw [hr, grow, Function.update_self]
    rfl

end Tracked

/-- Enrollment follows the pod where the delegation does: in every run in which an update, a
rollback and a completed interrupted update end with a delegation that is not bound yet, the
connector of a pod of an active workload is accepted. Conversely, from each state of such a run, a
saved update or rollback that keeps a bound delegation leaves an active record whose connector is
refused. -/
theorem enrollment_follows_incarnation (h : Host) :
    (∀ s, Reach (Tracked.step h) (fun s a => s.lawful h a = true ∧ s.world.renews h a = true)
        .fresh s → s.world.Quiescent → ∀ k i j stored delegation encoded report,
        (enrollLock h i s.world.node k).2 = .next (.enrollInspect stored delegation) →
        h.platform.encodeDelegation delegation = .ok encoded → s.reports k report = true →
        j.report = .ok report → j.loaded = .ok () → j.stored = .ok () →
        (enrollInspect h j s.world.node stored delegation).2 =
          if report.credentialFresh then .quit (.ok ()) else .next (.enrollInstall stored)) ∧
    ∀ s s', Reach (Tracked.step h) (fun s a => s.lawful h a = true ∧ s.world.renews h a = true)
        .fresh s →
      ∀ task t i deployment grant, s.world.tasks.lookup task = some t →
        t.settles = some (deployment, grant) → s.lawful h (.poll task i) = true →
        s.world.renews h (.poll task i) = false → i.stored = .ok () →
        s.step h (.poll task i) = some s' →
        ∃ r, s'.world.node.store.workloads.lookup grant.workloadId = some (some r) ∧
          r.phase = .active ∧ r.grant = grant ∧
          ∀ j execution delegation encoded report, h.decodeExecution grant = .ok execution →
            h.platform.decodeDelegation execution.workloadCredentialB64 = .ok delegation →
            h.platform.encodeDelegation delegation = .ok encoded →
            s'.reports grant.workloadId report = true → j.report = .ok report →
            j.loaded = .ok () → (enrollInspect h j s'.world.node r delegation).2 =
              .quit (.error "enrolled workload keys changed; owner generation update required") := by
  refine ⟨fun s hr hq k i j stored delegation encoded report hlc hen hrp hre hld
    hs => ?_, fun s s' hr task t i deployment grant hl ht hlw hbn hs he => ?_⟩
  · have hwr := Tracked.reach_world hr
    have hi := reach_inv hwr
    have hw := hi.up hq.1
    obtain ⟨_, _, heq, hrd⟩ := enrollLock_next hlc
    cases heq
    have hky := ((hw.sound k).memory_bound hrd.record).1.key
    have hh : (s.connectors k).head? = some report.keys := by
      simpa [Tracked.reports] using hrp
    refine enrollInspect_accepts hre hen hld hs fun b hb hd => ?_
    rw [hky] at hb
    obtain ⟨hwd, hk⟩ := (Tracked.reach_enrolled hr).current (reach_mirrors hwr hq.1) hw
      (hq.unheld hi k) hrd hb (hd ▸ hrd.digest hen)
    rw [hh, Option.some.injEq] at hk
    obtain ⟨wid, digest, endpointId, sk⟩ := b
    cases hwd.trans hky.symm
    cases hd
    cases hk
    rfl
  · have hwr := Tracked.reach_world hr
    have hi := reach_inv hwr
    have hw := hi.polling hl
    obtain ⟨⟨rid, hd⟩, ⟨b, hb, hdg, hk⟩, hh⟩ :=
      (Tracked.reach_enrolled hr).outdated hw hl ht hlw hbn
    obtain ⟨k, hg⟩ := Task.settles_guard ht
    obtain ⟨r, hst, hp, hgr⟩ :=
      poll_settles (hw.holds task t k _ hl hg) ht hd hs
    obtain ⟨w, hsp, rfl⟩ := Option.map_eq_some_iff.1 he
    simp only [World.step, hl, Option.some.injEq] at hsp
    subst hsp
    refine ⟨r, ?_, hp, hgr, fun j execution delegation encoded report hex hdl hen hrp hre hld => ?_⟩
    · rw [World.advance_store, hst, Store.save, hgr, AList.lookup_insert]
    · have hrr : i.podKeys = report.keys := by
        simpa [Tracked.reports, hh] using hrp
      have hc : b.delegationDigest = h.platform.blake3Hex [encoded] := by
        simpa [Host.delegationDigest, hex, hdl, hen, bind, Except.bind, pure,
          Except.pure] using hdg.symm
      have ho : b ≠ h.binding r encoded report := by
        rintro rfl
        exact hk hrr.symm
      rw [enrollInspect_eq hre hen hld, World.advance_store, hst, hgr]
      simp [Store.save, hb, hc, ho]

namespace Reference

def meshHost : Host :=
  { host .default with
    platform := { identityPlatform with
      encodeDelegation := fun delegation => .ok ((utf8Bytes delegation.scope.revisionId).take 32) }
    serviceMeshRequired := true }

def report (generation : String) : ConnectorReport :=
  ⟨"endpoint-" ++ generation, "key-" ++ generation, true⟩

def keyed (generation : String) : Input :=
  { input "" with
    podEndpointId := (report generation).endpointId
    podSigningKey := (report generation).signingPublicKeyB64
    report := .ok (report generation) }

def enrolled : List Action :=
  startUp ++ reserve 0 "a" "n1" 2000 1073741824 1073741824 ++
    .receive 0 (.deploy (grant "a" "Pod/a\n" "a" "n2")) (input "") ::
      List.replicate 4 (.poll 0 (keyed "1")) ++
    [.enroll 0 (workloadId "a"), .poll 0 (keyed "1"), .poll 0 (keyed "1")]

def updated (inputs : List Input) : List Action :=
  .receive 0 (.update (update "a" "Pod/a\n" "Pod/b\n" "n3" 100 1048576 1048576)) (input "") ::
    .poll 0 (input "") :: .poll 0 (input "") :: inputs.map (.poll 0)

def asked : After → Option (StoredWorkload × EnrollmentDelegation)
  | .next (.enrollInspect stored delegation) => some (stored, delegation)
  | _ => none

theorem next_of_asked {del : EnrollmentDelegation} (ha : asked after = some (st, del)) :
    after = .next (.enrollInspect st del) := by
  unfold asked at ha
  split at ha
  · cases ha
    rfl
  · cases ha

def refused : After → Bool
  | .quit (.error e) => e == "enrolled workload keys changed; owner generation update required"
  | _ => false

theorem quit_of_refused (hr : refused after = true) :
    after = .quit (.error "enrolled workload keys changed; owner generation update required") := by
  unfold refused at hr
  split at hr
  · rw [beq_iff_eq.1 hr]
  · cases hr

end Reference

open Reference

/-- An update fails and its rollback succeeds: the pod has new keys, the record has its old
delegation, and the binding of the old keys is still there. -/
theorem rolled_back_pod_is_refused :
    ∃ s, Reach (Tracked.step meshHost)
        (fun s a => s.lawful meshHost a = true) .fresh s ∧ s.world.Quiescent ∧
      ∃ stored delegation,
        (enrollLock meshHost (input "") s.world.node
          (workloadId "a")).2 = .next (.enrollInspect stored delegation) ∧
        s.reports (workloadId "a") (report "2") = true ∧
        (enrollInspect meshHost (keyed "2") s.world.node stored delegation).2 =
          .quit (.error "enrolled workload keys changed; owner generation update required") := by
  obtain ⟨s, hr, hi, hrp, ⟨stored, delegation⟩, ha, hrf⟩ := exists_reach_of_run
    (Tracked.step meshHost) (·.lawful meshHost · = true) .fresh
    (enrolled ++ updated [failing, keyed "2", input ""])
    (fun s => (s.world.phase.isRunning && s.world.tasks.entries.isEmpty) ∧
      s.reports (workloadId "a") (report "2") ∧
      ∃ x, asked (enrollLock meshHost (input "") s.world.node (workloadId "a")).2 = some x ∧
        refused (enrollInspect meshHost (keyed "2") s.world.node x.1 x.2).2) (by decide +kernel)
  exact ⟨s, hr, World.quiescent_of_empty hi, stored, delegation, next_of_asked ha, hrp,
    quit_of_refused hrf⟩

/-- An update brings a new delegation along, and the connector of the new pod is accepted. -/
theorem updated_pod_is_enrolled :
    ∃ s, Reach (Tracked.step meshHost) (fun s a =>
        s.lawful meshHost a = true ∧ s.world.renews meshHost a = true) .fresh s ∧
      s.world.Quiescent ∧ s.world.node.store.enrollments.entries.length = 1 ∧
      ∃ stored delegation,
        (enrollLock meshHost (input "") s.world.node
          (workloadId "a")).2 = .next (.enrollInspect stored delegation) ∧
        (enrollInspect meshHost (keyed "2") s.world.node stored delegation).2 =
          .quit (.ok ()) := by
  obtain ⟨s, hr, hi, hb, hrp, ha⟩ := exists_reach_of_run (Tracked.step meshHost)
    (fun s a => s.lawful meshHost a = true ∧ s.world.renews meshHost a = true) .fresh
    (enrolled ++ updated [keyed "2", input ""])
    (fun s => (s.world.phase.isRunning && s.world.tasks.entries.isEmpty) ∧
      s.world.node.store.enrollments.entries.length = 1 ∧ s.reports (workloadId "a") (report "2") ∧
      (asked (enrollLock meshHost (input "") s.world.node (workloadId "a")).2).isSome)
    (by decide +kernel)
  obtain ⟨⟨stored, delegation⟩, ha⟩ := Option.isSome_iff_exists.1 ha
  have hl := next_of_asked ha
  have hq := World.quiescent_of_empty hi
  refine ⟨s, hr, hq, hb, stored, delegation, hl, ?_⟩
  exact (enrollment_follows_incarnation meshHost).1 s hr hq _ _ _ stored delegation _ _
    hl rfl hrp rfl rfl rfl

end Podmesh
