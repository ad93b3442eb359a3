import Podmesh.Agent.Provenance
import Podmesh.Agent.Reference

namespace Podmesh

variable {h : Host} {w : World} {command : WorkloadCommand} {active : StoredWorkload}
  {received lock guard lookup mark : Input}

def Task.awaitsRemoval : Task → Bool
  | .deleteCleanup _ _ _ _ => true
  | .deleteRuntime _ _ active => active.runtimeId != ""
  | _ => false

def World.awaitsRemoval (w : World) (task : Nat) : Bool :=
  (w.tasks.lookup task).any Task.awaitsRemoval

/-- Runs an operation alone, one section for each input, until it ends or waits for the removal of
a pod. -/
def World.untilRemoval (h : Host) (task : Nat) (w : World) : List Input → World
  | [] => w
  | i :: inputs =>
    match w.tasks.lookup task with
    | some t =>
      if t.awaitsRemoval then w
      else (w.advance task (some t) (poll h i w.node t)).untilRemoval h task inputs
    | none => w

theorem World.untilRemoval_next (hl : w.tasks.lookup task = some t) (ht : t.awaitsRemoval = false)
    (hp : poll h i w.node t = (n, .next t')) :
    w.untilRemoval h task (i :: inputs) =
      { w with node := n, tasks := w.tasks.insert task t' }.untilRemoval h task inputs := by
  rw [World.untilRemoval, hl]
  simp [ht, hp, World.advance]

theorem World.untilRemoval_awaits (hl : w.tasks.lookup task = some t) (ht : t.awaitsRemoval = true) :
    w.untilRemoval h task inputs = w := by
  cases inputs with
  | nil => rfl
  | cons i inputs => simp [World.untilRemoval, hl, ht]

theorem World.untilRemoval_reach (hr : Reach (World.step h) always init w) (inputs : List Input) :
    Reach (World.step h) always init (w.untilRemoval h task inputs) := by
  induction inputs generalizing w with
  | nil => exact hr
  | cons i inputs ih =>
    rw [World.untilRemoval]
    split
    · next t hl =>
      split
      · exact hr
      · have hs : w.step h (.poll task i) = some (w.advance task (some t) (poll h i w.node t)) := by
          simp [World.step, hl]
        exact ih (hr.next trivial hs)
    · exact hr

theorem World.Running.free (hw : w.Running h) (hi : w.tasks = ∅) (k : String) :
    w.node.mutationWithOwner k .lifecycle =
      .ok { w.node with mutations := w.node.mutations.insert k .lifecycle } := by
  have hn : ∀ k, w.node.mutations.lookup k = none := by
    intro k
    cases hk : w.node.mutations.lookup k with
    | none => rfl
    | some o =>
      obtain ⟨task, t, hl, _⟩ := hw.exclusive.owned k o hk
      rw [hi] at hl
      cases hl
  have he : Assoc.size w.node.mutations ≤
      Assoc.size (∅ : AList fun _ : String => MutationOwner) := by
    apply Assoc.size_le_of_lookup
    intro k o hk
    rw [hn k] at hk
    cases hk
  have hs : ¬ Assoc.size w.node.mutations ≥ maxConfiguredWorkloads := by
    have hp : 0 < maxConfiguredWorkloads := by decide
    exact Nat.not_le.2 (Nat.lt_of_le_of_lt he hp)
  simp [Node.mutationWithOwner, hn k, if_neg hs]

theorem StoredWorkload.not_updating_of_cleanup (hc : active.needsCleanup = true) :
    active.isUpdating = false := by
  unfold StoredWorkload.needsCleanup at hc
  unfold StoredWorkload.isUpdating
  cases hp : active.phase with
  | updating =>
    rw [hp] at hc
    cases hc
  | _ => rfl

theorem StoredWorkload.named_of_settled (hc : active.needsCleanup = false)
    (hu : active.isUpdating = false) : active.runtimeId ≠ "" := by
  unfold StoredWorkload.needsCleanup at hc
  unfold StoredWorkload.isUpdating at hu
  cases hp : active.phase with
  | active =>
    rw [hp] at hc
    simpa using hc
  | updating =>
    rw [hp] at hu
    cases hu
  | _ =>
    rw [hp] at hc
    cases hc

/-- An agent without operations in flight gets a valid Delete from the owner of a workload, and the
store takes the writes of the Delete. -/
structure World.Deletes (h : Host) (w : World) (command : WorkloadCommand) (active : StoredWorkload)
    (received guard mark : Input) : Prop where
  running : w.phase = .running
  idle : w.tasks = ∅
  owned : w.node.state.owned command.workloadId command.namespaceId = some active
  operation : command.operation = .delete
  target : command.targetNodeId = h.signingPubkeyB64
  verified : command.verify h.platform.toPlatform received.now = .ok ()
  recorded : (w.node.replay.record (replayKey "command" command.namespaceId command.nonce)
    command.expiresAtSecs received.replayNow).2 = .ok ()
  waited : guard.timedOut = false
  live : command.verify h.platform.toPlatform guard.now = .ok ()
  stored : mark.stored = .ok ()

namespace World.Deletes

def guarded (w : World) (task : Nat) (command : WorkloadCommand) (received : Input) : World :=
  let replay := (w.node.replay.record (replayKey "command" command.namespaceId command.nonce)
    command.expiresAtSecs received.replayNow).1
  { w with
    node := { w.node with
      replay, mutations := w.node.mutations.insert command.workloadId .lifecycle }
    tasks := w.tasks.insert task (.deleteLookup received.now command) }

theorem receive (hd : w.Deletes h command active received guard mark) (task : Nat) :
    w.step h (.receive task (.command command) received) = some { w with
      node := { w.node with replay := (w.node.replay.record
        (replayKey "command" command.namespaceId command.nonce) command.expiresAtSecs
        received.replayNow).1 }
      tasks := w.tasks.insert task (.commandLock received.now command) } := by
  have hf : w.tasks.lookup task = none := by
    rw [hd.idle]
    rfl
  have hr := hd.recorded
  generalize hrs : w.node.replay.record (replayKey "command" command.namespaceId command.nonce)
    command.expiresAtSecs received.replayNow = res at hr
  obtain ⟨replay, outcome⟩ := res
  cases hr
  simp [World.step, hd.running, hf, Podmesh.receive, commandReceive, hd.verified, hd.target,
    hrs, World.advance]

theorem untilGuarded (hd : w.Deletes h command active received guard mark) (hw : w.Running h)
    (hs : w.step h (.receive task (.command command) received) = some w₀) :
    w₀.untilRemoval h task (lock :: guard :: inputs) =
      (guarded w task command received).untilRemoval h task inputs := by
  rw [hd.receive task] at hs
  cases hs
  unfold guarded
  generalize (w.node.replay.record (replayKey "command" command.namespaceId command.nonce)
    command.expiresAtSecs received.replayNow).1 = replay
  have hlc : poll h lock { w.node with replay } (.commandLock received.now command) =
      ({ w.node with replay }, .next (.deleteGuard received.now command)) := by
    simp [poll, commandLock, hd.owned, hd.operation]
  have hg : poll h guard { w.node with replay } (.deleteGuard received.now command) =
      ({ w.node with
          replay, mutations := w.node.mutations.insert command.workloadId .lifecycle },
        .next (.deleteLookup received.now command)) := by
    have hf := hw.free hd.idle command.workloadId
    unfold Node.mutationWithOwner at hf
    split at hf
    · cases hf
    · next hsz =>
      split at hf
      · cases hf
      · next hn =>
        simp [poll, deleteGuard, ownerMutation, hd.waited, Node.mutationWithOwner, if_neg hsz,
          hn, hd.live]
  rw [World.untilRemoval_next (AList.lookup_insert _) rfl hlc,
    World.untilRemoval_next (AList.lookup_insert _) rfl hg]
  simp

end World.Deletes

section
variable (hl : w.tasks.lookup task = some (.deleteLookup now command))
  (ho : w.node.state.owned command.workloadId command.namespaceId = some active)
include hl ho

theorem deleteLookup_cleans (hc : active.needsCleanup = true)
    (ht : h.cleanupTarget active = .ok name) :
    (w.untilRemoval h task [lookup, mark]).awaitsRemoval task = true := by
  have hlk : poll h lookup w.node (.deleteLookup now command) =
      (w.node, .next (.deleteCleanup now command active name)) := by
    simp [poll, deleteLookup, ho, hc, ht]
  rw [World.untilRemoval_next hl rfl hlk, World.untilRemoval_awaits (AList.lookup_insert _) rfl]
  simp [World.awaitsRemoval, Task.awaitsRemoval]

theorem deleteLookup_refuses (hc : active.needsCleanup = false) (hu : active.isUpdating = true) :
    w.untilRemoval h task [lookup, mark] = { w with
      node := w.node.release command.workloadId
      tasks := w.tasks.erase task
      responses := w.responses ++
        [(task, (h.commandResponse command false "workload is updating" now).map .command)] } := by
  have hlk : poll h lookup w.node (.deleteLookup now command) =
      (w.node, .done ((h.commandResponse command false "workload is updating" now).map
        .command)) := by
    simp [poll, deleteLookup, ho, hc, hu, respond, finish]
  rw [World.untilRemoval, hl]
  simp only [Task.awaitsRemoval, Bool.false_eq_true, if_false, hlk, World.advance, Option.elim,
    World.untilRemoval, AList.lookup_erase]
  rfl

theorem deleteLookup_removes (hc : active.needsCleanup = false) (hu : active.isUpdating = false)
    (hs : mark.stored = .ok ()) :
    (w.untilRemoval h task [lookup, mark]).awaitsRemoval task = true := by
  have hlk : poll h lookup w.node (.deleteLookup now command) =
      (w.node, .next (.deleteMark now command active)) := by
    simp [poll, deleteLookup, ho, hc, hu]
  have hm : ∃ node, poll h mark w.node (.deleteMark now command active) =
      (node, .next (.deleteRuntime now command active)) := by
    simp [poll, deleteMark, (owned_some ho).1, Node.write, hs]
  obtain ⟨node, hm⟩ := hm
  rw [World.untilRemoval_next hl rfl hlk]
  rw [World.untilRemoval_next (w := { w with tasks := w.tasks.insert task _ })
    (AList.lookup_insert _) rfl hm]
  simp only [World.untilRemoval, World.awaitsRemoval, AList.lookup_insert, Option.any_some,
    Task.awaitsRemoval, bne_iff_ne]
  exact active.named_of_settled hc hu

end

/-- A Delete on an idle agent reaches the runtime exactly when the record is not marked as being
updated; on such a record it is answered with a refusal. -/
theorem delete_reaches_runtime_iff (hr : Reach (World.step h) always .fresh w)
    (hd : w.Deletes h command active received guard mark) (task : Nat) (lock lookup : Input) :
    ∃ w₀, w.step h (.receive task (.command command) received) = some w₀ ∧
      Reach (World.step h) always w (w₀.untilRemoval h task [lock, guard, lookup, mark]) ∧
      ((w₀.untilRemoval h task [lock, guard, lookup, mark]).awaitsRemoval task = true ↔
        active.isUpdating = false) ∧
      (active.isUpdating = true →
        (w₀.untilRemoval h task [lock, guard, lookup, mark]).responses = w.responses ++
          [(task, (h.commandResponse command false "workload is updating" received.now).map
            .command)]) := by
  have hw := (reach_inv hr).up hd.running
  refine ⟨_, hd.receive task, ?_, ?_⟩
  · have hfr : Reach (World.step h) always w _ := .next .start trivial (hd.receive task)
    exact World.untilRemoval_reach hfr _
  rw [hd.untilGuarded hw (hd.receive task)]
  have hl : (World.Deletes.guarded w task command received).tasks.lookup task =
      some (.deleteLookup received.now command) := AList.lookup_insert _
  cases hc : active.needsCleanup with
  | true =>
    obtain ⟨tgt, ht⟩ := ((reach_recorded hr fun _ _ _ hf => False.elim hf).memory
      command.workloadId active (owned_some hd.owned).1).cleanupTarget
    have hn := active.not_updating_of_cleanup hc
    simp only [deleteLookup_cleans hl hd.owned hc ht, hn, Bool.false_eq_true, false_implies,
      and_self]
  | false =>
    cases hu : active.isUpdating with
    | true =>
      simp only [deleteLookup_refuses hl hd.owned hc hu, World.awaitsRemoval, AList.lookup_erase,
        Option.any_none, Bool.false_eq_true, Bool.true_eq_false, forall_const, true_and]
      rfl
    | false =>
      simp [deleteLookup_removes hl hd.owned hc hu hd.stored]

namespace Reference

def lateDelete : WorkloadCommand := Reference.command "a" "n9" .delete

def abandonedRun : List Action :=
  deployedRun ++
    [.receive 0 (.update (update "a" "Pod/a\n" "Pod/b\n" "n3" 1000 1024 1024)) (input ""),
      .poll 0 (input ""), .poll 0 (input ""), .poll 0 failing, .poll 0 failing]

def acceptsDelete (p : StoredWorkload → Bool) (w : World) : Bool :=
  w.phase.isRunning && w.tasks.entries.isEmpty &&
    (w.node.state.owned lateDelete.workloadId lateDelete.namespaceId).any p &&
    decide ((w.node.replay.record (replayKey "command" lateDelete.namespaceId lateDelete.nonce)
      lateDelete.expiresAtSecs (input "").replayNow).2 = .ok ())

theorem deletes_of_accepts (hw : acceptsDelete p w = true) :
    ∃ active, w.Deletes (host .default) lateDelete active (input "") (input "") (input "") ∧
      p active = true := by
  simp only [acceptsDelete, Bool.and_eq_true, decide_eq_true_eq, Option.any_eq_true,
    and_assoc] at hw
  obtain ⟨hrn, hi, ⟨active, how, hp⟩, hr⟩ := hw
  have hph := (World.quiescent_of_empty (Bool.and_eq_true_iff.2 ⟨hrn, hi⟩)).1
  have ht : w.tasks = ∅ := AList.ext (List.isEmpty_iff.1 hi)
  exact ⟨active, ⟨hph, ht, how, rfl, by decide +kernel, by decide +kernel, hr,
    rfl, by decide +kernel, rfl⟩, hp⟩

end Reference

/-- After an update whose rollback failed, the owner cannot delete the workload any more. -/
theorem abandoned_update_blocks_delete :
    ∃ w active w₀, Reach (World.step (Reference.host .default)) always .fresh w ∧
      w.Deletes (Reference.host .default) Reference.lateDelete active (Reference.input "")
        (Reference.input "") (Reference.input "") ∧
      w.step (Reference.host .default)
        (.receive 1 (.command Reference.lateDelete) (Reference.input "")) = some w₀ ∧
      (w₀.untilRemoval (Reference.host .default) 1
        (List.replicate 4 (Reference.input ""))).awaitsRemoval 1 = false := by
  obtain ⟨w, hr, ha, w₀, hs, hn⟩ := exists_reach_of_run
    (World.step (Reference.host .default)) always .fresh Reference.abandonedRun
    (fun w => Reference.acceptsDelete (fun _ => true) w ∧ ∃ w₀, w.step (Reference.host .default)
        (.receive 1 (.command Reference.lateDelete) (Reference.input "")) = some w₀ ∧
      (w₀.untilRemoval (Reference.host .default) 1
        (List.replicate 4 (Reference.input ""))).awaitsRemoval 1 = false) (by decide +kernel)
  obtain ⟨active, hd, _⟩ := Reference.deletes_of_accepts ha
  exact ⟨w, active, w₀, hr, hd, hs, hn⟩

/-- The Delete of a workload in use reaches the runtime. -/
theorem delete_reaches_runtime_deployed :
    ∃ w active w₀, Reach (World.step (Reference.host .default)) always .fresh w ∧
      w.node.state.owned (Reference.workloadId "a") (Reference.owner 1) = some active ∧
      w.step (Reference.host .default)
        (.receive 1 (.command Reference.lateDelete) (Reference.input "")) = some w₀ ∧
      (w₀.untilRemoval (Reference.host .default) 1
        (List.replicate 4 (Reference.input ""))).awaitsRemoval 1 = true := by
  obtain ⟨w, hr, hw⟩ := exists_reach_of_run (World.step (Reference.host .default)) always .fresh
    Reference.deployedRun (Reference.acceptsDelete (!·.isUpdating) · = true) (by decide +kernel)
  obtain ⟨active, hd, hp⟩ := Reference.deletes_of_accepts hw
  obtain ⟨w₀, hs, _, hi, _⟩ := delete_reaches_runtime_iff hr hd 1 (Reference.input "")
    (Reference.input "")
  exact ⟨w, active, w₀, hr, hd.owned, hs, hi.2 (by simpa using hp)⟩

end Podmesh
