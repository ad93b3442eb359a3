import Podmesh.Agent.Plan
import Podmesh.Agent.Section

namespace Podmesh

variable {h : Host} {i : Input} {n : Node}

theorem admitLocked_keeps (h : Host) (now : UInt64) (id : String) (req : AdmissionRequest)
    (s : WorkloadState) : (admitLocked h now id req s).1.active = s.active ∧
      (admitLocked h now id req s).1.quarantined = s.quarantined := by
  obtain hs | ⟨_, r, _, hs⟩ := admitLocked_cases h now id req s
  · rw [hs]
    exact ⟨rfl, rfl⟩
  · rw [hs]
    exact ⟨rfl, rfl⟩

theorem deployLock_outcome :
    PollOutcome h i n (.deployLock now grant exe) (deployLock h i n now grant exe) := by
  unfold deployLock
  split
  · exact .ended rfl rfl
  · next rsv hrs =>
    have hr (r : Except String Response) : PollOutcome h i n (.deployLock now grant exe)
        ({ n with state := n.state.consume grant.reservationId }, .done r) :=
      .ofCase rfl (.deployRefused hrs) ⟨rfl, rfl, rfl, rfl, rfl, rfl, rfl⟩ .same
    dsimp only
    split
    · exact hr _
    · next st dep hp =>
      split
      · next hw =>
        rw [(write_error hw).1]
        exact hr _
      · next hw =>
        rw [(write_ok hw).1]
        exact .ofCase rfl (.deployStarted hrs hp) ⟨rfl, rfl, rfl, rfl, rfl, rfl, rfl⟩ (.saved _)

theorem deployRuntime_outcome : PollOutcome h i n (.deployRuntime now st dep)
    (deployRuntime h i n now st dep) := by
  obtain ⟨pods, result, hr, hd⟩ := runtimeDeploy_cases h i dep n
  unfold deployRuntime
  rw [hr]
  cases result with
  | error e => exact .deployed rfl hr (.deployFailed hd) (does_call n pods) .same
  | ok rid =>
    dsimp only
    split
    · exact .deployed rfl hr (.deployFailed hd) (does_call n pods) .same
    · split
      · next hw =>
        rw [(write_error hw).1]
        exact .deployed rfl hr (.deployUnsaved hd) (does_call n pods) .same
      · next hw =>
        rw [(write_ok hw).1]
        exact .deployed rfl hr (.deploySaved hd) ⟨rfl, rfl, rfl, rfl, rfl, rfl, rfl⟩ (.saved _)

theorem beginCleanup_cases (h : Host) (n : Node) (st : StoredWorkload) (error : String) :
    ∃ after, beginCleanup h n st error = (n, after) ∧ (after = .done (.error error) ∨
      ∃ tgt, h.cleanupTarget st = .ok tgt ∧ after = .next (.deployCleanup st tgt error)) := by
  unfold beginCleanup
  cases h.cleanupTarget st with
  | error e => exact ⟨_, rfl, .inl rfl⟩
  | ok tgt => exact ⟨_, rfl, .inr ⟨tgt, rfl, rfl⟩⟩

theorem deployFail_outcome : PollOutcome h i n (.deployFail st unc error)
    (deployFail h i n st unc error) := by
  unfold deployFail
  dsimp only
  generalize hw : (n.insertActive st.grant.workloadId
    { st with phase := .cleanupPending unc }).write i
      (·.save { st with phase := .cleanupPending unc }) = written
  obtain ⟨node, res⟩ := written
  obtain ⟨after, hb, ha⟩ := beginCleanup_cases h node
    { st with phase := .cleanupPending unc } error
  rw [hb]
  cases res with
  | error e =>
    rw [(write_error hw).1]
    exact .ofCase rfl (.failRecorded (.inl rfl) ha) ⟨rfl, rfl, rfl, rfl, rfl, rfl, rfl⟩ .same
  | ok u =>
    rw [(write_ok hw).1]
    exact .ofCase rfl (.failRecorded (.inr rfl) ha) ⟨rfl, rfl, rfl, rfl, rfl, rfl, rfl⟩
      (.saved _)

theorem cleanupPending_cases (h : Host) (i : Input) (n : Node) (st : StoredWorkload)
    (tgt : String) :
    (∃ pods e, cleanupPending h i n st tgt = ({ n with pods }, .error e) ∧
      Deleted tgt n.pods pods) ∨
    cleanupPending h i n st tgt = ({ n with
      pods := n.pods.erase tgt
      store := n.store.remove st.grant.workloadId }, .ok ()) := by
  obtain ⟨pods, result, hr, hd, hok⟩ := runtimeCleanup_cases h i tgt st.cleanupUncertain n
  unfold cleanupPending
  rw [hr]
  cases result with
  | error e => exact .inl ⟨pods, _, rfl, hd⟩
  | ok u =>
    cases hs : i.stored with
    | error e => exact .inl ⟨pods, e, by simp [Node.write, hs], hd⟩
    | ok u =>
      refine .inr ?_
      simp [Node.write, hs, hok]

theorem updateLock_outcome : PollOutcome h i n (.updateLock now req exe man)
    (updateLock h i n now req exe man) := by
  unfold updateLock
  split
  · exact .ended rfl rfl
  · next act ha =>
    split
    · exact .ended rfl rfl
    · exact .ended rfl rfl
    · next hp =>
      dsimp only
      split
      · next hw =>
        rw [(write_error hw).1]
        exact .ended rfl rfl
      · next hw =>
        rw [(write_ok hw).1]
        exact .ofCase rfl (.updateStarted ha hp) ⟨rfl, rfl, rfl, rfl, rfl, rfl, rfl⟩
          (.saved _)

theorem updateRuntime_outcome :
    PollOutcome h i n (.updateRuntime now req exe act dep)
      (updateRuntime h i n now req exe act dep) := by
  obtain ⟨pods, result, hr, hd⟩ := runtimeDeploy_cases h i dep n
  unfold updateRuntime
  rw [hr]
  cases result with
  | error e =>
    dsimp only
    split
    · exact .deployed rfl hr (.updateAbandoned hd) (does_call n pods) .same
    · next hp => exact .deployed rfl hr (.updateFailed hd hp) (does_call n pods) .same
  | ok rid =>
    dsimp only
    split
    · next hw =>
      rw [(write_error hw).1]
      exact .deployed rfl hr (.updateAbandoned hd) (does_call n pods) .same
    · next hw =>
      rw [(write_ok hw).1]
      exact .deployed rfl hr (.updateSaved hd (congrArg Prod.snd hr))
        ⟨rfl, rfl, rfl, rfl, rfl, rfl, rfl⟩ (.saved _)

theorem rollbackRuntime_outcome :
    PollOutcome h i n (.rollbackRuntime req act dep error)
      (rollbackRuntime h i n req act dep error) := by
  obtain ⟨pods, result, hr, hd⟩ := runtimeDeploy_cases h i dep n
  unfold rollbackRuntime
  rw [hr]
  cases result with
  | error e => exact .deployed rfl hr (.rollbackFailed hd) (does_call n pods) .same
  | ok rid =>
    dsimp only
    split
    · next hw =>
      rw [(write_error hw).1]
      exact .deployed rfl hr (.rollbackFailed hd) (does_call n pods) .same
    · next hw =>
      obtain ⟨hn, hs⟩ := write_ok hw
      rw [hn]
      exact .deployed rfl hr (.rollbackSaved hd (congrArg Prod.snd hr) hs)
        ⟨rfl, rfl, rfl, rfl, rfl, rfl, rfl⟩ (.saved _)

theorem respond_eq (h : Host) (n : Node) (cmd : WorkloadCommand) (now : UInt64)
    (res : Except String String) : ∃ r, respond h n cmd now res = (n, .done r) := by
  cases res with
  | ok pay | error e => exact ⟨_, rfl⟩

theorem PollOutcome.respond (hd : t.deploys = none) (ht : t.isReader = true)
    (res : Except String String) : PollOutcome h i n t (respond h n cmd now res) := by
  obtain ⟨r, hr⟩ := respond_eq h n cmd now res
  rw [hr]
  exact .ended hd ht

theorem deleteLookup_outcome :
    PollOutcome h i n (.deleteLookup now cmd) (deleteLookup h n now cmd) := by
  unfold deleteLookup
  split
  · exact .ended rfl rfl
  · next act ha =>
    split
    · next hc =>
      split
      · exact .respond rfl rfl _
      · next ht => exact .unchanged rfl (.deleteNeedsCleanup ha hc ht)
    · next hc =>
      split
      · exact .respond rfl rfl _
      · next hu =>
        exact .unchanged rfl (.deleteFound ha (by simpa using hc)
          (by simpa using hu))

theorem deleteCleanup_outcome : PollOutcome h i n (.deleteCleanup now cmd act tgt)
    (deleteCleanup h i n now cmd act tgt) := by
  unfold deleteCleanup
  obtain ⟨pods, e, hc, hd⟩ | hc := cleanupPending_cases h i n act tgt
  · obtain ⟨r, hr⟩ := respond_eq h { n with pods } cmd now (.error e)
    rw [hc]
    dsimp only
    rw [hr]
    exact .ofCase rfl (.deleteCleanupFailed hd) (does_call n pods) .same
  · rw [hc]
    exact .ofCase rfl .deleteCleanupDone ⟨rfl, rfl, rfl, rfl, rfl, rfl, rfl⟩ (.removed _)

theorem deleteMark_outcome :
    PollOutcome h i n (.deleteMark now cmd act) (deleteMark i n now cmd act) := by
  unfold deleteMark
  split
  · next hnn => exact .unchanged rfl (.deleteMarkGone hnn)
  · next cur hc =>
    dsimp only
    split
    · next hw =>
      obtain ⟨hn, hs⟩ := write_error hw
      rw [hn]
      exact .ofCase rfl (.deleteUnsaved hc hs) ⟨rfl, rfl, rfl, rfl, rfl, rfl, rfl⟩ .same
    · next hw =>
      rw [(write_ok hw).1]
      exact .ofCase rfl (.deleteMarked hc) ⟨rfl, rfl, rfl, rfl, rfl, rfl, rfl⟩ (.saved _)

theorem deleteCall_cases (i : Input) (n : Node) (id : String) :
    ∃ pods result, (if id = "" then (n, .ok ()) else runtimeDelete i id n) =
        ({ n with pods }, result) ∧ Deleted id n.pods pods ∧
      (result = .ok () → id ≠ "" → pods = n.pods.erase id) := by
  by_cases hid : id = ""
  · rw [if_pos hid]
    exact ⟨n.pods, _, rfl, .inl rfl, fun _ hne => absurd hid hne⟩
  · rw [if_neg hid]
    obtain ⟨pods, result, hr, hd, hok⟩ := runtimeDelete_cases i id n
    exact ⟨pods, result, hr, hd, fun h _ => hok h⟩

theorem deleteRuntime_outcome : PollOutcome h i n (.deleteRuntime now cmd act)
    (deleteRuntime i n now cmd act) := by
  obtain ⟨pods, result, hr, hd, he⟩ := deleteCall_cases i n act.runtimeId
  unfold deleteRuntime
  rw [hr]
  cases result with
  | ok u =>
    dsimp only
    split
    · next hw =>
      rw [(write_error hw).1]
      exact .ofCase rfl (.deleteStopped hd) (does_call n pods) .same
    · next hw =>
      rw [(write_ok hw).1]
      exact .ofCase rfl (.deleteRemoving (he rfl) hd) ⟨rfl, rfl, rfl, rfl, rfl, rfl, rfl⟩
        (.removed _)
  | error e =>
    dsimp only
    split
    · next hw =>
      rw [(write_error hw).1]
      exact .ofCase rfl (.deleteStopped hd) (does_call n pods) .same
    · next hw =>
      rw [(write_ok hw).1]
      exact .ofCase rfl (.deleteRestoring hd) ⟨rfl, rfl, rfl, rfl, rfl, rfl, rfl⟩ (.saved _)

theorem saveBinding_does (n : Node) (i : Input) (binding : EnrollmentBinding)
    (existing : Option EnrollmentBinding) :
    n.Does (if existing = some binding then (n, .ok ())
      else n.write i (·.saveEnrollment binding)).1 (.quiet n) := by
  split
  · exact does_quiet n
  · unfold Node.write
    split
    · exact ⟨rfl, rfl, rfl, rfl, rfl, rfl, rfl⟩
    · exact does_quiet n

theorem enrollInspect_explains : Explains h i n (.enrollInspect st del)
    (enrollInspect h i n st del) := by
  unfold enrollInspect
  dsimp only
  split
  · exact ⟨_, does_quiet n, .enrolled rfl⟩
  · next report digest _ =>
    split
    · exact ⟨_, does_quiet n, .enrolled rfl⟩
    · have hs := saveBinding_does n i
        ⟨st.grant.workloadId, digest, report.endpointId, report.signingPublicKeyB64⟩
        (n.store.enrollments.lookup st.grant.workloadId)
      split
      · exact ⟨_, hs, .enrolled rfl⟩
      · split
        · exact ⟨_, hs, .enrolled rfl⟩
        · exact ⟨_, hs, .installing⟩

theorem poll_outcome (h : Host) (i : Input) (n : Node) (t : Task) :
    PollOutcome h i n t (poll h i n t) := by
  cases t with
  | admitLock now req =>
    obtain ⟨ha, hq⟩ := admitLocked_keeps h now i.freshId req n.state
    exact .ofCase rfl .admitted ⟨ha, rfl, rfl, rfl, rfl, hq, rfl⟩ .same
  | deployGuard =>
    refine .guard rfl rfl rfl fun hf => ?_
    split
    · exact .ended rfl rfl
    · exact .ofCase rfl (.deployGuarded hf) (does_guarded n _) .same
  | deployLock => exact deployLock_outcome
  | deployRuntime => exact deployRuntime_outcome
  | deployFail => exact deployFail_outcome
  | deployCleanup st tgt =>
    rw [poll, deployCleanup]
    obtain ⟨pods, e, hc, hd⟩ | hc := cleanupPending_cases h i n st tgt
    · rw [hc]
      exact .ofCase rfl (.cleanupFailed hd) (does_call n pods) .same
    · rw [hc]
      exact .ofCase rfl .cleanupDone ⟨rfl, rfl, rfl, rfl, rfl, rfl, rfl⟩ (.removed _)
  | deployRemove => exact .ofCase rfl .deployRemoved ⟨rfl, rfl, rfl, rfl, rfl, rfl, rfl⟩ .same
  | deployCommit => exact .ofCase rfl .deployCommitted ⟨rfl, rfl, rfl, rfl, rfl, rfl, rfl⟩ .same
  | updateGuard =>
    refine .guard rfl rfl rfl fun hf => ?_
    split
    · exact .ended rfl rfl
    · next hm => exact .ofCase rfl (.updateGuarded hf hm) (does_guarded n _) .same
  | updateLock => exact updateLock_outcome
  | updateRuntime => exact updateRuntime_outcome
  | rollbackRuntime => exact rollbackRuntime_outcome
  | rollbackInsert => exact .ofCase rfl .rolledBack ⟨rfl, rfl, rfl, rfl, rfl, rfl, rfl⟩ .same
  | updateCommit => exact .ofCase rfl .updateCommitted ⟨rfl, rfl, rfl, rfl, rfl, rfl, rfl⟩ .same
  | commandLock =>
    rw [poll, commandLock]
    split
    · exact .ended rfl rfl
    · split
      · exact .unchanged rfl .deleteRequested
      · split
        · exact .respond rfl rfl _
        · exact .unchanged rfl .operationStarted
  | commandRuntime => exact .respond rfl rfl _
  | deleteGuard =>
    refine .guard rfl rfl rfl fun hf => ?_
    split
    · exact .ended rfl rfl
    · exact .ofCase rfl (.deleteGuarded hf) (does_guarded n _) .same
  | deleteLookup => exact deleteLookup_outcome
  | deleteCleanup => exact deleteCleanup_outcome
  | deleteMark => exact deleteMark_outcome
  | deleteUnmark =>
    rw [poll, deleteUnmark]
    split
    · next hn => exact .unchanged rfl (.deleteUnmarkGone hn)
    · next hcr =>
      exact .ofCase rfl (.deleteUnmarked hcr) ⟨rfl, rfl, rfl, rfl, rfl, rfl, rfl⟩ .same
  | deleteRuntime => exact deleteRuntime_outcome
  | deleteRemove now cmd act =>
    obtain ⟨r, hr⟩ := respond_eq h (n.eraseActive cmd.workloadId) cmd now (.ok "deleted")
    rw [poll, deleteRemove, hr]
    exact .ofCase rfl .deleteRemoved ⟨rfl, rfl, rfl, rfl, rfl, rfl, rfl⟩ .same
  | deleteRestore now cmd act error =>
    obtain ⟨r, hr⟩ := respond_eq h (n.insertActive cmd.workloadId act) cmd now
      (.error error)
    rw [poll, deleteRestore, hr]
    exact .ofCase rfl .deleteRestored ⟨rfl, rfl, rfl, rfl, rfl, rfl, rfl⟩ .same
  | listLock => exact .ended rfl rfl
  | enrollLock =>
    rw [poll, enrollLock]
    split
    · exact .unchanged rfl (.enrolled rfl)
    · next st hs =>
      dsimp only
      split
      · exact .unchanged rfl (.enrolled rfl)
      · exact .unchanged rfl (.inspecting hs)
  | enrollInspect => exact ⟨enrollInspect_explains, fun _ hd => (by cases hd), fun ht => by cases ht⟩
  | enrollInstall => exact .unchanged rfl (.enrolled rfl)

theorem poll_explains (h : Host) (i : Input) (n : Node) (t : Task) :
    Explains h i n t (poll h i n t) :=
  (poll_outcome h i n t).explains

end Podmesh
