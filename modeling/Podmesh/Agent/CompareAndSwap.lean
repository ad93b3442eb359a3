import Podmesh.Agent.Reference
import Podmesh.Agent.Revisions
import Podmesh.Lib.Journal

namespace Podmesh

variable {h : Host} {i : Input} {n : Node} {w w' : World} {a : Action}

def namesPod (h : Host) (i : Input) (n : Node) (deployment : WorkloadDeployment) : Bool :=
  match (runtimeDeploy h i deployment n).2 with
  | .ok id => id != ""
  | .error _ => true

/-- The step condition: pods have names, and no Delete is dropped once its record is gone. -/
def World.orderly (h : Host) (w : World) : Action → Bool
  | .poll task i =>
    match w.tasks.lookup task with
    | some (.updateRuntime _ _ _ _ deployment) => namesPod h i w.node deployment
    | _ => true
  | .restore i =>
    match w.phase with
    | .restoring _ (some (_, t)) _ _ => t.deploys.all (namesPod h i w.node)
    | _ => true
  | .cancel task => (w.tasks.lookup task).all fun t => !t.removing
  | _ => true

theorem namesPod_ok (hn : namesPod h i n dep = true)
    (hd : (runtimeDeploy h i dep n).2 = .ok rid) : rid ≠ "" := by
  rw [namesPod, hd] at hn
  simpa using hn

structure World.Dated (w : World) : Prop where
  disk : ∀ k r, w.node.store.workloads.lookup k = some (some r) → r.Dated
  slots : w.SlotInv Revised

theorem World.Dated.operation (hw : w.Dated) (hi : w.Inv h) (ht : w.tasks.lookup task = some t) :
    t.Dated := by
  by_cases hg : ∃ k, t.guard = some (k, .lifecycle)
  · obtain ⟨k, hg⟩ := hg
    exact ((hw.slots (hi.running ht)).held task t k ht hg).task t rfl
  · cases t with
    | updateLock | updateRuntime | rollbackRuntime | rollbackInsert | updateCommit =>
      exact absurd ⟨_, rfl⟩ hg
    | _ => trivial

theorem Dates.record (hd : Dates e) (he : e = .put key (some r)) : r.Dated := by
  cases hd with
  | put hp =>
    cases he
    exact hp
  | keep | drop => cases he

theorem RestoreCase.dates (hc : RestoreCase h i n t disk pods r) (ht : t.stored.Dated)
    (hn : t.deploys.all (namesPod h i n) = true) : Dates disk := by
  cases hc with
  | updateDone _ hok => exact .put (dated_active rfl (namesPod_ok hn hok))
  | redeployDone _ hok =>
    exact .put ⟨fun _ => namesPod_ok hn hok, fun prev id req hu =>
      have hs := ht.update prev id req hu
      ⟨hs.expected, hs.requested⟩⟩
  | cleanupDone | deleteDone => exact .drop
  | _ => exact .keep

theorem step_disk_dated (hw : w.Dated) (hi : w.Inv h) (ho : w.orderly h a = true)
    (hc : StepCase h w a w') (k : String) (r : StoredWorkload)
    (hr : w'.node.store.workloads.lookup k = some (some r)) : r.Dated := by
  refine hc.records hi hw.disk ?_ ?_ k r hr
  · rintro task t i e after key r rfl hl hcs hd
    have hrn := hi.polling hl
    refine (hcs.dates (fun key hg => hrn.holds task t key _ hl hg) (hrn.prepared task t hl)
      (hw.operation hi hl) ?_).record hd
    rintro now req exe act dep rfl he
    simp only [World.orderly, hl] at ho
    exact namesPod_ok ho he rfl
  · rintro pend k' t act quar i disk pods rst key r rfl hp hcs hs hd
    have hn : t.deploys.all (namesPod h i w.node) = true := by
      simpa [World.orderly, hp] using ho
    exact (hcs.dates hs hn).record hd

theorem PollCase.not_removing (hc : PollCase h i n t e (.next t')) : t.removing = false := by
  cases hc with
  | guardWait hn =>
    cases t with
    | deleteRemove => cases hn
    | _ => rfl
  | _ => rfl

theorem PollCase.sustains_revised (hc : PollCase h i n t e after) (ht : t.Dated)
    (hs : ∀ k, (n.slot k).Sound k) (hh : ∀ k, t.guard = some (k, .lifecycle) → t.Holds (n.slot k))
    (hq : ∀ k, k ∈ n.state.quarantined → n.state.reservations = ∅) :
    Sustains Revised n t e after where
  next k t' hg hP ha := by
    subst ha
    refine ⟨fun u hu => ?_, fun hr => ?_⟩
    · cases hu
      exact hc.dated ht
    · have hb : (n.slot k).Backed := hP.backed hc.not_removing
      exact hc.backed_next hg (hs k) (hh k hg) (hq k) hb hr
  ends k hg hP he :=
    ⟨fun u hu => (by cases hu), fun _ => hc.backed_ends he hg (hh k hg) hP.backed⟩
  acquires k t' hg ha hg' hP := by
    subst ha
    refine ⟨fun u hu => ?_, fun _ => hP.backed rfl⟩
    cases hu
    exact hc.dated ht

theorem World.Dated.step (hw : w.Dated) (hi : w.Inv h) (ho : w.orderly h a = true)
    (hs : w.step h a = some w') : w'.Dated where
  disk := step_disk_dated hw hi ho (step_cases hs)
  slots := by
    refine hw.slots.step hi (step_cases hs) ?_ ?_ ?_
    · intro act quar hp k
      have hr := hi.restoring hp
      exact ⟨fun u hu => (by cases hu), fun _ m hm hp => ⟨m, hr.memory_on_disk hm, hp, rfl⟩⟩
    · rintro task t input e after rfl hl hc
      have hrn := hi.polling hl
      exact hc.sustains_revised (hw.operation hi hl) hrn.sound
        (fun k hg => hrn.holds task t k _ hl hg) fun k => hrn.quarantine
    · rintro task t k rfl hl hg hP
      refine ⟨fun u hu => (by cases hu), fun _ => hP.backed ?_⟩
      simpa [World.orderly, hl] using ho

theorem World.fresh_dated : World.fresh.Dated where
  disk k r hr := by cases hr
  slots hp := by cases hp

def World.cause (w : World) : Action → Cause
  | .poll task _ => (w.tasks.lookup task).elim .other Task.cause
  | .restore _ =>
    match w.phase with
    | .restoring _ (some (_, t)) _ _ => t.cause
    | _ => .other
  | .corrupt _ => .damage
  | _ => .other

def World.saves (w w' : World) (workloadId : String) : Action → Bool
  | .poll task _ =>
    match w.tasks.lookup task, w'.tasks.lookup task with
    | some (.updateRuntime _ request _ _ _), some (.updateCommit _ _ _ _) =>
      request.workloadId == workloadId
    | _, _ => false
  | _ => false

def Cause.Lawful : Cause → Option String → Option String → Prop
  | .deploy, before, after => before = none ∧ after ≠ none
  | .delete, _, after => after = none
  | .update request, before, after | .rollForward request, before, after =>
    before = some request.expectedRevisionId ∧ after = some request.requestedRevisionId
  | .damage, _, after => after = none
  | .other, _, _ => False

/-- The operation that changes a committed revision is alone on its workload. -/
def World.Alone (w : World) (workloadId : String) (a : Action) : Prop :=
  ∀ k t o, w.tasks.lookup k = some t → t.guard = some (workloadId, o) → ∃ input, a = .poll k input

inductive World.Moves (w w' : World) (workloadId : String) (a : Action) : Prop
  | same : w'.node.committed workloadId = w.node.committed workloadId →
      w.saves w' workloadId a = false → World.Moves w w' workloadId a
  | moved : (w.cause a).Lawful (w.node.committed workloadId) (w'.node.committed workloadId) →
      w.Alone workloadId a → World.Moves w w' workloadId a

theorem World.alone_of_idle (hw : w.Idle) : w.Alone workloadId a :=
  fun _ _ _ hk _ => absurd hk hw.no_task

theorem World.Running.alone (hw : w.Running h) (ht : w.tasks.lookup task = some t)
    (hg : t.guard = some (workloadId, o)) : w.Alone workloadId (.poll task i) := by
  intro k u o' hu hug
  have hk := hw.exclusive.unique k task u t workloadId _ _ hu ht hug hg
  subst hk
  exact ⟨i, rfl⟩

theorem World.advance_lookup :
    (w.advance task bef p).tasks.lookup task =
      match p.2 with
      | .next t => some t
      | _ => none := by
  unfold World.advance
  split <;> next hp => simp [hp]

theorem World.saves_of_task (ht : w.tasks.lookup task = some t) (hs : t.saves p.2 = false) :
    w.saves (w.advance task (some t) p) workloadId (.poll task i) = false := by
  simp only [World.saves, ht, World.advance_lookup]
  cases t with
  | updateRuntime now req exe act dep =>
    cases hp : p.2 with
    | next t' =>
      rw [hp] at hs
      cases t' with
      | updateCommit => cases hs
      | _ => rfl
    | done r | quit r => rfl
  | _ => rfl

theorem World.saves_of_guard (ht : w.tasks.lookup task = some t)
    (hg : t.guard ≠ some (workloadId, .lifecycle)) (w' : World) :
    w.saves w' workloadId (.poll task i) = false := by
  simp only [World.saves, ht]
  cases t with
  | updateRuntime now req exe act dep =>
    have hne : req.workloadId ≠ workloadId := by
      rintro rfl
      exact hg rfl
    cases hl : w'.tasks.lookup task with
    | none => rfl
    | some t' =>
      cases t' with
      | updateCommit => simpa using hne
      | _ => rfl
  | _ => rfl

theorem World.Dated.poll_moves (hw : w.Dated) (hi : w.Inv h) (ht : w.tasks.lookup task = some t)
    (hd : w.node.Does p.1 e) (hc : PollCase h i w.node t e p.2) :
    World.Moves w (w.advance task (some t) p) workloadId (.poll task i) := by
  have hrn := hi.polling ht
  by_cases hg : t.guard = some (workloadId, .lifecycle)
  · have hr := (hw.slots (hi.running ht)).held task t workloadId ht hg
    have hm := hc.moves hg (hrn.sound workloadId) (hrn.holds task t workloadId _ ht hg)
      hrn.quarantine (hr.task t rfl) hr.backed
    have hsl : (w.advance task (some t) p).node.committed workloadId =
        ((w.node.slot workloadId).after e workloadId).committed := by
      rw [Node.committed, World.advance_slot, hd.slot]
    have hcs : w.cause (.poll task i) = t.cause := by
      rw [World.cause, ht]
      rfl
    have ha := hrn.alone (i := i) ht hg
    rw [← hsl] at hm
    generalize hc' : (w.advance task (some t) p).node.committed workloadId = c' at hm
    generalize hc : (w.node.slot workloadId).committed = c at hm
    cases hm with
    | same hs => exact .same (hc'.trans hc.symm) (World.saves_of_task ht hs)
    | deployed _ hd =>
      refine .moved ?_ ha
      rw [hcs, hd, hc', Node.committed, hc]
      exact ⟨rfl, fun hn => by cases hn⟩
    | deleted _ hd =>
      refine .moved ?_ ha
      rw [hcs, hd, hc']
      exact rfl
    | updated _ hd =>
      refine .moved ?_ ha
      rw [hcs, hd, hc', Node.committed, hc]
      exact ⟨rfl, rfl⟩
  · refine .same ?_ (World.saves_of_guard ht hg _)
    rw [Node.committed, World.advance_slot, hrn.elsewhere ht hd hc hg, Node.committed]

theorem committed_of_disk {node : Node} (disk : Edit (Option StoredWorkload))
    (hd : node.store.workloads = disk.apply n.store.workloads) (workloadId : String) :
    node.committed workloadId =
      (disk.at workloadId (n.store.workloads.lookup workloadId)).join.bind
        StoredWorkload.committed := by
  rw [← Edit.lookup_apply, ← hd]
  rfl

theorem committed_of_lookup (hl : n.store.workloads.lookup workloadId = some (some r)) :
    n.committed workloadId = r.committed := by
  show (n.store.workloads.lookup workloadId).join.bind StoredWorkload.committed = _
  rw [hl]
  rfl

theorem committed_corrupted (n : Node) (key workloadId : String) :
    Node.committed { n with store := { n.store with workloads := n.store.workloads.insert key none } }
      workloadId = if workloadId = key then none else n.committed workloadId := by
  rw [committed_of_disk (n := n) (.put key none) rfl]
  split
  · next hk => rw [Edit.at_put_of_eq hk.symm]; rfl
  · next hk => rw [Edit.at, if_neg hk]; rfl

theorem StoredWorkload.Dated.uncommitted {r : StoredWorkload} (hr : r.Dated)
    (hc : r.needsCleanup = true ∨ r.runtimeId = "") : r.committed = none := by
  by_contra hne
  have hn := hr.named hne
  rcases hc with hc | hid
  · unfold StoredWorkload.needsCleanup at hc
    unfold StoredWorkload.committed at hne
    split at hc
    · next hp => simp [hp] at hne
    · next hp => simp [hp] at hne
    · exact hn (by simpa using hc)
    · cases hc
  · exact hn hid

theorem RestoreCase.committed {node : Node} (hc : RestoreCase h i n t disk pods r) (ht : t.Holds h)
    (hb : t.stored.Bound k) (hd : t.stored.Dated)
    (hl : n.store.workloads.lookup k = some (some t.stored))
    (hn : node.store.workloads = disk.apply n.store.workloads) (workloadId : String) :
    node.committed workloadId = n.committed workloadId ∨
      t.cause.Lawful (n.committed workloadId) (node.committed workloadId) := by
  rw [committed_of_disk disk hn]
  by_cases hk : workloadId = k
  · subst hk
    have hbf := committed_of_lookup hl
    have hky : t.stored.grant.workloadId = workloadId := hb.key
    cases hc with
    | cleanupDone =>
      dsimp only [RestoreTask.stored] at hky
      left
      rw [Edit.at_drop_of_eq hky, hbf]
      exact (hd.uncommitted (.inl ht.1)).symm
    | deleteDone =>
      dsimp only [RestoreTask.stored] at hky
      right
      rw [Edit.at_drop_of_eq hky]
      rfl
    | updateDone =>
      obtain ⟨⟨prev, id, hp⟩, _⟩ := ht
      have hs := hd.update prev id _ hp
      dsimp only [RestoreTask.stored] at hbf
      right
      rw [Edit.at_put_of_eq (hb.update prev id _ hp).1, hbf, StoredWorkload.committed, hp]
      exact ⟨congrArg some hs.expected, congrArg some hs.requested⟩
    | redeployDone =>
      dsimp only [RestoreTask.stored] at hky
      left
      rw [Edit.at_put_of_eq hky, hbf]
      rfl
    | _ => exact .inl rfl
  · left
    rw [(Edit.within_of_settles (hc.settles ht hb)).elsewhere hk]
    rfl

theorem BeginCase.committed {node : Node} (hc : BeginCase h st disk r) (hb : st.Bound k)
    (hd : st.Dated) (hl : n.store.workloads.lookup k = some (some st))
    (hn : node.store.workloads = disk.apply n.store.workloads) (workloadId : String) :
    node.committed workloadId = n.committed workloadId := by
  rw [committed_of_disk disk hn]
  by_cases hk : workloadId = k
  · subst hk
    cases hc with
    | retained | waits => rfl
    | dropped _ _ hid =>
      rw [Edit.at_drop_of_eq hb.key, committed_of_lookup hl]
      exact (hd.uncommitted (.inr hid)).symm
  · rw [(Edit.within_of_settles (hc.settles hb)).elsewhere hk]
    rfl

theorem World.Dated.moves (hw : w.Dated) (hin : w.Inv h) (hs : w.step h a = some w')
    (workloadId : String) : World.Moves w w' workloadId a := by
  cases step_cases hs with
  | @corrupted key b hp hl =>
    have hi := ((World.inv_of_down hp).1 hin).1
    have ha := committed_corrupted w.node key workloadId
    by_cases hk : workloadId = key
    · rw [if_pos hk] at ha
      exact .moved ha (World.alone_of_idle hi)
    · rw [if_neg hk] at ha
      exact .same ha rfl
  | @continued _ key t _ _ _ _ _ input _ hp hn hc =>
    have hr := hin.restoring hp
    have hl := hr.on_disk.2.2.2
    have hcs : w.cause (.restore input) = t.cause := by
      rw [World.cause, hp]
    rcases hc.committed (hr.planned key t rfl)
      (hr.bound key _ hl) (hw.disk key _ hl) hl hn.workloads workloadId with hsm | hlw
    · exact .same hsm rfl
    · exact .moved (hcs ▸ hlw) (World.alone_of_idle hr.idle)
  | @begun key _ _ _ _ _ _ _ _ hp hn hc =>
    have hr := hin.restoring hp
    have hl := hr.next_on_disk
    exact .same (hc.committed (hr.bound key _ hl) (hw.disk key _ hl) hl hn.workloads workloadId) rfl
  | received =>
    refine .same ?_ rfl
    rw [Node.committed, World.received_slot, Node.committed]
  | polled hl hd hc => exact hw.poll_moves hin hl hd hc
  | cancelled hl =>
    refine .same ?_ rfl
    show Slot.committed (Node.slot (Node.dropGuard _ _) _) = _
    rw [Node.slot, dropGuard_store]
    rfl
  | _ => exact .same rfl rfl

def After.updateResponse : After → Option UpdateResponse
  | .done (.ok (.update r)) => some r
  | _ => none

theorem finish_updateResponse (n : Node) (res : Except String α) (hf : ∀ x r, f x ≠ .update r) :
    (finish n (res.map f)).2.updateResponse = none := by
  cases res with
  | error e => rfl
  | ok x =>
    simp only [finish, Except.map, After.updateResponse]
    split
    · next r hr =>
      simp only [After.done.injEq, Except.ok.injEq] at hr
      exact absurd hr (hf x r)
    · rfl

@[simp] theorem respond_updateResponse (h : Host) (n : Node) (cmd : WorkloadCommand) (now : UInt64)
    (res : Except String String) : (respond h n cmd now res).2.updateResponse = none := by
  cases res with
  | ok pay | error e => exact finish_updateResponse n _ fun x r hr => by cases hr

theorem receive_updateResponse (h : Host) (i : Input) (n : Node) (msg : OwnerMessage) :
    (receive h i n msg).2.updateResponse = none := by
  cases msg <;>
    (simp only [receive, admitReceive, deployReceive, updateReceive, commandReceive, listReceive]
     repeat' split
     all_goals rfl)

/-- The sections that answer an update: the commit, and the refusals before the transition. -/
inductive UpdateAnswer (h : Host) (n : Node) : Task → Node → UpdateResponse → Prop
  | applied : h.updateResponse request updated .applied "" now = .ok r →
      UpdateAnswer h n (.updateCommit now request active updated) n' r
  | declined : r.outcome ≠ .applied →
      UpdateAnswer h n (.updateLock now request execution manifest) n r

theorem planUpdate_respond (hp : planUpdate h state req exe act = .ok (.respond outcome reason)) :
    outcome ≠ .applied := by
  simp only [planUpdate, unit_bind_ok, pure, Except.pure] at hp
  obtain ⟨_, hr⟩ := hp
  split at hr
  · cases hr
    intro heq
    cases heq
  · simp only [unit_bind_ok] at hr
    obtain ⟨_, hr⟩ := hr
    split at hr
    · cases hr
      intro heq
      cases heq
    · simp only [unit_bind_ok] at hr
      cases hr.2

structure Reports (request : UpdateRequest) (stored : StoredWorkload) (outcome : UpdateOutcome)
    (r : UpdateResponse) : Prop where
  expected : r.expectedRevisionId = request.expectedRevisionId
  requested : r.requestedRevisionId = request.requestedRevisionId
  workloadId : r.receipt.workloadId = stored.grant.workloadId
  outcome : r.outcome = outcome

theorem updateResponse_ok (hr : h.updateResponse req st outcome reason now = .ok r) :
    Reports req st outcome r := by
  simp only [Host.updateResponse, Host.receipt, Host.signReceipt, bind_ok, pure, Except.pure,
    Except.ok.injEq] at hr
  obtain ⟨rcpt, ⟨_, _, rfl⟩, _, _, _, _, rfl⟩ := hr
  exact ⟨rfl, rfl, rfl, rfl⟩

theorem finish_update {res : Except String UpdateResponse}
    (hr : (finish n (res.map .update)).2.updateResponse = some r) : res = .ok r := by
  cases res with
  | error e => cases hr
  | ok x =>
    cases hr
    rfl

theorem updateLock_update (hp : (updateLock h i n now req exe man).2.updateResponse = some r) :
    UpdateAnswer h n (.updateLock now req exe man) (updateLock h i n now req exe man).1 r := by
  generalize hq : updateLock h i n now req exe man = q at hp ⊢
  unfold updateLock at hq
  split at hq
  · cases hq
    cases hp
  · split at hq
    · cases hq
      cases hp
    · next outcome reason hpl =>
      cases hq
      have hr := updateResponse_ok (finish_update hp)
      refine .declined ?_
      rw [hr.outcome]
      exact planUpdate_respond hpl
    · dsimp only at hq
      split at hq
      · cases hq
        cases hp
      · cases hq
        cases hp

theorem poll_update (hp : (poll h i n t).2.updateResponse = some r) :
    UpdateAnswer h n t (poll h i n t).1 r := by
  cases t with
  | updateCommit now req act upd => exact .applied (finish_update hp)
  | updateLock now req exe man => exact updateLock_update hp
  | admitLock | deployCommit | listLock =>
    simp only [poll, admitLock, deployCommit, listLock] at hp
    rw [finish_updateResponse _ _ fun x r hr => by cases hr] at hp
    cases hp
  | _ =>
    -- every other section ends in an error, in an answer to a command, or without an answer
    exfalso
    simp only [poll, deployGuard, deployLock, deployRuntime, deployFail, deployCleanup,
      deployRemove,
      updateGuard, updateRuntime, rollbackRuntime, rollbackInsert, commandLock, commandRuntime,
      deleteGuard, deleteLookup, deleteCleanup, deleteMark, deleteUnmark, deleteRuntime, deleteRemove,
      deleteRestore, enrollLock, enrollInspect, enrollInstall, ownerMutation, beginCleanup] at hp
    repeat' split at hp
    all_goals first | cases hp | simp at hp

def UpdateResponse.confirms (workloadId : String) (r : UpdateResponse) :
    Option (Entry Cause (Option String)) :=
  if r.outcome = .applied ∧ r.receipt.workloadId = workloadId then
    some (.answer (some r.expectedRevisionId) (some r.requestedRevisionId))
  else none

def appliedTo (workloadId : String) (response : Nat × Except String Response) :
    Option (Entry Cause (Option String)) :=
  (After.done response.2).updateResponse.bind (UpdateResponse.confirms workloadId)

def World.answers (w w' : World) (workloadId : String) : Journal Cause (Option String) :=
  (w'.responses.drop w.responses.length).filterMap (appliedTo workloadId)

def World.changes (w w' : World) (workloadId : String) (a : Action) :
    Journal Cause (Option String) :=
  if w.saves w' workloadId a || w'.node.committed workloadId != w.node.committed workloadId then
    [.change (w.cause a) (w.node.committed workloadId) (w'.node.committed workloadId)]
  else []

theorem World.advance_responses :
    (w.advance task bef p).responses = w.responses ++
      match p.2 with
      | .done r => [(task, r)]
      | _ => [] := by
  unfold World.advance
  split <;> next hp => simp [hp]

theorem World.answers_of_append (hw : w'.responses = w.responses ++ new) :
    w.answers w' workloadId = new.filterMap (appliedTo workloadId) := by
  rw [World.answers, hw, List.drop_left]

/-- What a step adds to the answers; an answer to an update comes from the poll of its task. -/
inductive World.Responds (h : Host) (w : World) (a : Action) (w' : World) :
    List (Nat × Except String Response) → Prop
  | nothing : World.Responds h w a w' []
  | other : (After.done r).updateResponse = none → World.Responds h w a w' [(task, r)]
  | update : a = .poll task input → w.tasks.lookup task = some t →
      w' = w.advance task (some t) (poll h input w.node t) →
      UpdateAnswer h w.node t (poll h input w.node t).1 r →
      World.Responds h w a w' [(task, .ok (.update r))]

theorem step_responds (hs : w.step h a = some w') :
    ∃ new, w'.responses = w.responses ++ new ∧ w.Responds h a w' new := by
  cases a with
  | poll task i =>
    obtain ⟨t, hl, rfl⟩ := World.step_poll hs
    refine ⟨_, World.advance_responses, ?_⟩
    have ha := @poll_update h i w.node t
    generalize haf : (poll h i w.node t).2 = after at ha
    cases after with
    | next | quit => exact .nothing
    | done r =>
      cases hr : (After.done r).updateResponse with
      | none => exact .other hr
      | some resp =>
        obtain rfl : r = .ok (.update resp) := by
          unfold After.updateResponse at hr
          split at hr
          · next heq => cases hr; cases heq; rfl
          · cases hr
        exact .update rfl hl rfl (ha hr)
  | receive task msg i =>
    cases step_cases hs with
    | received =>
      refine ⟨_, World.advance_responses, ?_⟩
      have hn := receive_updateResponse h i w.node msg
      cases haf : (receive h i w.node msg).2 with
      | next | quit => exact .nothing
      | done r => exact .other (haf ▸ hn)
  | _ =>
    refine ⟨[], ?_, .nothing⟩
    rw [List.append_nil]
    cases step_cases hs <;> rfl

/-- The only step that confirms an update of the workload is the last section of that update. -/
inductive World.Answers (w : World) (workloadId : String) (a : Action) :
    Journal Cause (Option String) → Prop
  | none : World.Answers w workloadId a []
  | applied : a = .poll task input →
      w.tasks.lookup task = some (.updateCommit now request active updated) →
      request.workloadId = workloadId →
      World.Answers w workloadId a
        [.answer (some request.expectedRevisionId) (some request.requestedRevisionId)]

theorem World.Inv.answers (hi : w.Inv h) (hs : w.step h a = some w') (workloadId : String) :
    World.Answers w workloadId a (w.answers w' workloadId) := by
  obtain ⟨new, hnw, hrs⟩ := step_responds hs
  rw [World.answers_of_append hnw]
  cases hrs with
  | nothing => exact .none
  | other hn =>
    rw [List.filterMap_cons, appliedTo, hn]
    exact .none
  | @update task input t r ha hl hw' han =>
    rw [List.filterMap_cons]
    dsimp [appliedTo, After.updateResponse, UpdateResponse.confirms]
    split
    · exact .none
    · next hc =>
      split at hc
      · next hcn =>
        cases hc
        generalize (poll h input w.node t).1 = n' at han
        cases han with
        | applied hok =>
          have hr := updateResponse_ok hok
          obtain ⟨ho, _, _, hg, _⟩ := (hi.polling hl).holds task _ _ _ hl rfl
          rw [hr.expected, hr.requested]
          refine .applied ha hl ?_
          rw [← hcn.2, hr.workloadId, hg, ho.grantKey]
        | declined hne => exact absurd hcn.1 hne
      · cases hc

theorem PollCase.commit (hc : PollCase h i n t e (.next (.updateCommit now req act upd))) :
    ∃ exe deployment, t = .updateRuntime now req exe act deployment := by
  generalize ht' : Task.updateCommit now req act upd = t' at hc
  cases hc with
  | updateSaved =>
    cases ht'
    exact ⟨_, _, rfl⟩
  | guardWait hnn =>
    subst ht'
    cases hnn
  | failRecorded _ ha =>
    rcases ha with hd | ⟨_, _, hn⟩
    · cases hd
    · cases hn
      cases ht'
  | _ => cases ht'

theorem step_commit (hs : w.step h a = some w')
    (ht : w'.tasks.lookup k = some (.updateCommit now req act upd)) :
    (w.tasks.lookup k = some (.updateCommit now req act upd) ∧ ∀ input, a ≠ .poll k input) ∨
      (∃ input, a = .poll k input) ∧ ∃ exe deployment,
      w.tasks.lookup k = some (.updateRuntime now req exe act deployment) := by
  cases step_cases hs with
  | @polled task t p e input hl hd hc =>
    by_cases hk : k = task
    · subst hk
      rw [World.advance_lookup] at ht
      right
      refine ⟨⟨input, rfl⟩, ?_⟩
      generalize p.2 = after at ht hc
      cases after with
      | next t' =>
        cases ht
        obtain ⟨exe, deployment, rfl⟩ := hc.commit
        exact ⟨exe, deployment, hl⟩
      | done | quit => cases ht
    · left
      refine ⟨?_, fun input' heq => hk (by cases heq; rfl)⟩
      rcases World.advance_tasks ht with ⟨hsl, _⟩ | ⟨_, ho⟩
      · exact absurd hsl hk
      · exact ho
  | @received _ msg input hp hl =>
    rcases World.advance_tasks ht with ⟨_, hn⟩ | ⟨_, ho⟩
    · have hg := ((receive_received h input w.node msg).next _ hn).1
      cases hg
    · exact .inl ⟨ho, fun input heq => by cases heq⟩
  | enrolled hp hl hf =>
    rcases Assoc.lookup_insert_cases ht with ⟨_, he⟩ | ⟨_, ho⟩
    · cases he
    · exact .inl ⟨ho, fun input heq => by cases heq⟩
  | cancelled hl =>
    exact .inl ⟨(Assoc.lookup_of_erase ht).2, fun input heq => by cases heq⟩
  | restarted | crashed | refused => cases ht
  | _ => exact .inl ⟨ht, fun input heq => by cases heq⟩

structure World.Silent (w w' : World) : Prop where
  state : w'.node.state = w.node.state
  store : w'.node.store = w.node.store
  pods : w'.node.pods = w.node.pods

def Action.operation : Action → Option Nat
  | .receive task _ _ | .enroll task _ | .poll task _ | .effect task _ | .cancel task => some task
  | _ => none

def Action.receives (task : Nat) : Action → Bool
  | .receive k _ _ => k == task
  | _ => false

/-- An agent with what is written down about one workload: its revisions, and the operations that
have changed a record, the state or a pod since they were received. -/
structure Journaled where
  world : World
  journal : Journal Cause (Option String)
  touched : Nat → Prop

def Journaled.fresh : Journaled := ⟨.fresh, [], fun _ => False⟩

def Journaled.step (h : Host) (workloadId : String) (j : Journaled) (a : Action) :
    Option Journaled :=
  (j.world.step h a).map fun w' =>
    { world := w'
      journal := j.journal ++ (j.world.changes w' workloadId a ++ j.world.answers w' workloadId)
      touched := fun task => (a.receives task = false ∧ j.touched task) ∨
        (a.operation = some task ∧ ¬ j.world.Silent w') }

def Cause.isUpdate (c : Cause) : Prop := ∃ request, c = .update request

def Task.proposes : Task → Bool
  | .updateGuard _ _ | .updateLock _ _ _ _ => true
  | _ => false

structure Journaled.Inv (h : Host) (workloadId : String) (j : Journaled) : Prop where
  inv : j.world.Inv h
  dated : j.world.Dated
  runs : Journal.Runs none j.journal (j.world.node.committed workloadId)
  answered : Journal.Answered Cause.isUpdate j.journal
  lawful : ∀ cause before after, .change cause before after ∈ j.journal →
    cause.Lawful before after
  pending : ∀ k now request active updated,
    j.world.tasks.lookup k = some (.updateCommit now request active updated) →
    request.workloadId = workloadId → ∃ l, j.journal = l ++ [.change (.update request)
      (some request.expectedRevisionId) (some request.requestedRevisionId)]
  untouched : ∀ k t, j.world.tasks.lookup k = some t → t.proposes = true → ¬ j.touched k
  truthful : j.journal.filter Entry.isAnswer = j.world.responses.filterMap (appliedTo workloadId)

theorem World.changes_same (hc : w'.node.committed workloadId = w.node.committed workloadId)
    (hs : w.saves w' workloadId a = false) : w.changes w' workloadId a = [] := by
  simp [World.changes, hc, hs]

theorem World.changes_filter (w w' : World) (workloadId : String) (a : Action) :
    (w.changes w' workloadId a).filter Entry.isAnswer = [] := by
  unfold World.changes
  split <;> rfl

theorem appliedTo_isAnswer (hm : entry ∈ List.filterMap (appliedTo workloadId) new) :
    entry.isAnswer = true := by
  obtain ⟨⟨task, r⟩, _, ha⟩ := List.mem_filterMap.1 hm
  obtain ⟨resp, _, hc⟩ := Option.bind_eq_some_iff.1 ha
  unfold UpdateResponse.confirms at hc
  split at hc
  · cases hc
    rfl
  · cases hc

theorem commit_quiet (hl : w.tasks.lookup task = some (.updateCommit now req act upd))
    (hs : w.step h (.poll task i) = some w') (workloadId : String) :
    w'.node.committed workloadId = w.node.committed workloadId ∧
      w.saves w' workloadId (.poll task i) = false := by
  cases step_cases hs with
  | polled hl' hd hc =>
    rw [hl] at hl'
    cases hl'
    refine ⟨?_, ?_⟩
    · rw [Node.committed, World.advance_slot, hd.slot]
      generalize Prod.snd _ = after at hc
      cases hc with
      | updateCommitted => rfl
      | guardWait hn => cases hn
      | ended hr => cases hr
      | enrolled he => cases he
    · simp [World.saves, hl]

inductive World.Writes (w w' : World) (workloadId : String) (a : Action) :
    Journal Cause (Option String) → Prop
  | quiet : w'.node.committed workloadId = w.node.committed workloadId →
      w.saves w' workloadId a = false → World.Writes w w' workloadId a []
  | changed : (w.cause a).Lawful (w.node.committed workloadId) (w'.node.committed workloadId) →
      w.Alone workloadId a → World.Writes w w' workloadId a
        [.change (w.cause a) (w.node.committed workloadId) (w'.node.committed workloadId)]
  | confirmed : w'.node.committed workloadId = w.node.committed workloadId →
      w.saves w' workloadId a = false → a = .poll task input →
      w.tasks.lookup task = some (.updateCommit now request active updated) →
      request.workloadId = workloadId → World.Writes w w' workloadId a
        [.answer (some request.expectedRevisionId) (some request.requestedRevisionId)]

theorem World.Dated.writes (hw : w.Dated) (hi : w.Inv h) (hs : w.step h a = some w')
    (workloadId : String) : World.Writes w w' workloadId a
      (w.changes w' workloadId a ++ w.answers w' workloadId) := by
  have han := hi.answers hs workloadId
  generalize w.answers w' workloadId = answers at han
  cases han with
  | none =>
    rw [List.append_nil]
    cases hw.moves hi hs workloadId with
    | same hsm hsv =>
      rw [World.changes_same hsm hsv]
      exact .quiet hsm hsv
    | moved hlw hal =>
      unfold World.changes
      split
      · exact .changed hlw hal
      · next hc =>
        simp only [Bool.or_eq_true, bne_iff_ne, ne_eq, not_or, not_not, Bool.not_eq_true] at hc
        exact .quiet hc.2 hc.1
  | applied ha hl hk =>
    subst ha
    obtain ⟨hsm, hsv⟩ := commit_quiet hl hs workloadId
    rw [World.changes_same hsm hsv]
    exact .confirmed hsm hsv rfl hl hk

namespace Journaled.Inv
variable {j : Journaled} {workloadId : String}

section
variable (hj : j.Inv h workloadId)
include hj

section
variable (hw : World.Writes j.world w' workloadId a l)
include hw

theorem runs_step : Journal.Runs none (j.journal ++ l) (w'.node.committed workloadId) := by
  cases hw with
  | quiet hs =>
    rw [List.append_nil, hs]
    exact hj.runs
  | changed => exact Journal.runs_append.2 ⟨_, hj.runs, rfl, rfl⟩
  | confirmed hs =>
    rw [hs]
    exact hj.runs.answer _ _

theorem answered_step : Journal.Answered Cause.isUpdate (j.journal ++ l) := by
  cases hw with
  | quiet =>
    rw [List.append_nil]
    exact hj.answered
  | changed => exact hj.answered.change _ _ _
  | confirmed _ _ _ hl hk =>
    obtain ⟨l, hjr⟩ := hj.pending _ _ _ _ _ hl hk
    have ha := hj.answered
    rw [hjr] at ha ⊢
    exact ha.answer ⟨_, rfl⟩

theorem lawful_step (cause : Cause) (bef after : Option String)
    (hm : .change cause bef after ∈ j.journal ++ l) : cause.Lawful bef after := by
  rcases List.mem_append.1 hm with ho | hn
  · exact hj.lawful cause bef after ho
  · cases hw with
    | quiet => cases hn
    | changed hl =>
      cases List.mem_singleton.1 hn
      exact hl
    | confirmed => cases List.mem_singleton.1 hn

end

/-- Between the persisted record of an update and its answer nothing else is written down. -/
theorem pending_step (hs : j.world.step h a = some w') (hw : World.Writes j.world w' workloadId a l)
    (hl : w'.tasks.lookup k = some (.updateCommit now request act upd))
    (hk : request.workloadId = workloadId) :
    ∃ l', j.journal ++ l = l' ++ [.change (.update request) (some request.expectedRevisionId)
      (some request.requestedRevisionId)] := by
  rcases step_commit hs hl with ⟨ho, hn⟩ | ⟨⟨input, ha⟩, execution, deployment, ho⟩
  · obtain ⟨l', hjr⟩ := hj.pending _ _ _ _ _ ho hk
    cases hw with
    | quiet => exact ⟨l', by rw [List.append_nil, hjr]⟩
    | changed _ hal =>
      obtain ⟨input, ha⟩ := hal k _ .lifecycle ho (by rw [← hk]; rfl)
      exact absurd ha (hn input)
    | confirmed _ _ ha hc hk' =>
      subst ha
      have hr := hj.inv.polling ho
      have hsl := hr.exclusive.unique k _ _ _ workloadId _ _ ho hc
        (by rw [← hk]; rfl) (by rw [← hk']; rfl)
      subst hsl
      exact absurd rfl (hn _)
  · subst ha
    have hsv : j.world.saves w' workloadId (.poll k input) = true := by
      simp [World.saves, ho, hl, hk]
    have hcs : j.world.cause (.poll k input) = .update request := by
      rw [World.cause, ho]
      rfl
    cases hw with
    | quiet _ hn | confirmed _ hn =>
      rw [hsv] at hn
      cases hn
    | changed hlw =>
      rw [hcs] at hlw ⊢
      rw [hlw.1, hlw.2]
      exact ⟨j.journal, rfl⟩

end

end Journaled.Inv

structure Node.Silent (n n' : Node) : Prop where
  state : n'.state = n.state
  store : n'.store = n.store
  pods : n'.pods = n.pods

theorem ownerMutation_silent (ha : ∀ mutations, n.Silent (acquired { n with mutations }).1) :
    n.Silent (ownerMutation n i workloadId t acquired).1 := by
  unfold ownerMutation
  split
  · exact ⟨rfl, rfl, rfl⟩
  · split
    · next n' hn =>
      obtain ⟨_, rfl⟩ := mutationWithOwner_ok hn
      exact ha _
    all_goals exact ⟨rfl, rfl, rfl⟩

theorem updateGuard_silent (h : Host) (i : Input) (n : Node) (req : UpdateRequest)
    (exe : ExecutionSpec) : n.Silent (updateGuard h i n req exe).1 := by
  refine ownerMutation_silent fun mutations => ?_
  split <;> exact ⟨rfl, rfl, rfl⟩

theorem World.advance_silent (hs : w.node.Silent p.1) (task : Nat) (bef : Option Task) :
    w.Silent (w.advance task bef p) :=
  ⟨(w.advance_state task bef p).trans hs.state, (w.advance_store task bef p).trans hs.store,
    (w.advance_pods task bef p).trans hs.pods⟩

theorem step_other (hs : w.step h a = some w') (ha : a.operation ≠ some k)
    (hl : w'.tasks.lookup k = some t) : w.tasks.lookup k = some t := by
  cases step_cases hs with
  | restarted | crashed | refused => cases hl
  | received | polled =>
    rcases World.advance_tasks hl with ⟨rfl, _⟩ | ⟨_, ho⟩
    · exact absurd rfl ha
    · exact ho
  | enrolled =>
    rcases Assoc.lookup_insert_cases hl with ⟨rfl, _⟩ | ⟨_, ho⟩
    · exact absurd rfl ha
    · exact ho
  | cancelled => exact (Assoc.lookup_of_erase hl).2
  | _ => exact hl

theorem PollCase.proposes (hc : PollCase h i n t e (.next t')) (ht' : t'.proposes = true) :
    ∃ req execution, t = .updateGuard req execution := by
  cases hc with
  | guardWait hnn =>
    cases t with
    | updateGuard req execution => exact ⟨req, execution, rfl⟩
    | updateLock => cases hnn
    | _ => cases ht'
  | updateGuarded => exact ⟨_, _, rfl⟩
  | failRecorded _ ha =>
    rcases ha with hd | ⟨_, _, hn⟩
    · cases hd
    · cases hn
      cases ht'
  | _ => cases ht'

theorem step_proposes (hs : w.step h a = some w') (hl : w'.tasks.lookup k = some t)
    (ht : t.proposes = true) (ha : a.operation = some k) :
    w.Silent w' ∧ (a.receives k = true ∨
      ∃ t', w.tasks.lookup k = some t' ∧ t'.proposes = true) := by
  cases step_cases hs with
  | received =>
    cases ha
    exact ⟨⟨World.received_state, World.received_store,
      World.received_pods⟩, .inl (by simp [Action.receives])⟩
  | enrolled =>
    cases ha
    rcases Assoc.lookup_insert_cases hl with ⟨_, rfl⟩ | ⟨hne, _⟩
    · cases ht
    · exact absurd rfl hne
  | @polled _ _ _ _ i =>
    cases ha
    obtain ⟨t₀, hl₀, hw'⟩ := World.step_poll hs
    rw [hw'] at hl ⊢
    rcases World.advance_tasks hl with ⟨_, hn⟩ | ⟨hne, _⟩
    · obtain ⟨e, _, hc⟩ := poll_explains h i w.node t₀
      rw [hn] at hc
      obtain ⟨req, execution, rfl⟩ := hc.proposes ht
      exact ⟨World.advance_silent (updateGuard_silent h i w.node req execution) k _,
        .inr ⟨_, hl₀, rfl⟩⟩
    · exact absurd rfl hne
  | called =>
    cases ha
    obtain ⟨_, hnd, _⟩ := Option.map_eq_some_iff.1 hs
    obtain ⟨t₀, hl₀, he⟩ := Option.bind_eq_some_iff.1 hnd
    have hsm : t₀ = t := Option.some_inj.1 (hl₀.symm.trans hl)
    subst hsm
    cases t₀ with
    | updateGuard | updateLock => cases he
    | _ => cases ht
  | cancelled =>
    cases ha
    exact absurd rfl (Assoc.lookup_of_erase hl).1
  | _ => cases ha

namespace Journaled.Inv
variable {j j' : Journaled} {workloadId : String}

section
variable (hj : j.Inv h workloadId)
include hj

theorem untouched_step (hs : j.world.step h a = some w')
    (hl : w'.tasks.lookup k = some t) (ht : t.proposes = true) :
    ¬((a.receives k = false ∧ j.touched k) ∨ (a.operation = some k ∧ ¬ j.world.Silent w')) := by
  by_cases ha : a.operation = some k
  · obtain ⟨hsl, hr | ⟨t', hl', ht'⟩⟩ := step_proposes hs hl ht ha
    · rintro (⟨hn, _⟩ | ⟨_, hld⟩)
      · rw [hr] at hn
        cases hn
      · exact hld hsl
    · rintro (⟨_, htc⟩ | ⟨_, hld⟩)
      · exact hj.untouched k t' hl' ht' htc
      · exact hld hsl
  · rintro (⟨_, htc⟩ | ⟨hse, _⟩)
    · exact hj.untouched k t (step_other hs ha hl) ht htc
    · exact ha hse

theorem truthful_step (hs : j.world.step h a = some w') :
    (j.journal ++ (j.world.changes w' workloadId a ++ j.world.answers w' workloadId)).filter
      Entry.isAnswer = w'.responses.filterMap (appliedTo workloadId) := by
  obtain ⟨new, hn, _⟩ := step_responds hs
  rw [World.answers_of_append hn, hn, List.filterMap_append, List.filter_append,
    List.filter_append, hj.truthful, World.changes_filter, List.nil_append,
    List.filter_eq_self.2 fun entry => appliedTo_isAnswer]

theorem step (ho : j.world.orderly h a = true)
    (hs : j.step h workloadId a = some j') : j'.Inv h workloadId := by
  obtain ⟨w', hw', rfl⟩ := Option.map_eq_some_iff.1 hs
  have hwr := hj.dated.writes hj.inv hw' workloadId
  exact
    { inv := hj.inv.step hw'
      dated := hj.dated.step hj.inv ho hw'
      runs := hj.runs_step hwr
      answered := hj.answered_step hwr
      lawful := hj.lawful_step hwr
      pending := fun _ _ _ _ _ hl hk => hj.pending_step hw' hwr hl hk
      untouched := fun _ _ hl ht => hj.untouched_step hw' hl ht
      truthful := hj.truthful_step hw' }

theorem declined (hs : j.step h workloadId a = some j')
    (hr : j'.world.responses = j.world.responses ++ [(task, .ok (.update resp))])
    (ho : resp.outcome ≠ .applied) : ¬ j'.touched task := by
  obtain ⟨w', hw', rfl⟩ := Option.map_eq_some_iff.1 hs
  dsimp only at hr ⊢
  obtain ⟨new, hnw, hrs⟩ := step_responds hw'
  rw [hnw, List.append_cancel_left_eq] at hr
  subst hr
  cases hrs with
  | other hnn => cases hnn
  | @update _ input t _ _ hl hw ha =>
    generalize hn : (poll h input j.world.node t).1 = n' at ha
    cases ha with
    | applied hok => exact absurd (updateResponse_ok hok).outcome ho
    | declined =>
      rintro (⟨_, ht⟩ | ⟨_, hld⟩)
      · exact hj.untouched task _ hl rfl ht
      · apply hld
        subst hw
        apply World.advance_silent
        rw [hn]
        exact ⟨rfl, rfl, rfl⟩

end

end Journaled.Inv

theorem Journaled.fresh_inv (h : Host) (workloadId : String) : Journaled.fresh.Inv h workloadId where
  inv := World.fresh_inv h
  dated := World.fresh_dated
  runs := rfl
  answered := .nil
  lawful cause before after hm := by cases hm
  pending k now req act upd hl := by cases hl
  untouched k t hl := by cases hl
  truthful := rfl

/-- Every Applied answer directly follows the one step that took the committed revision from the
expected to the requested one; AlreadyActive and Conflict come from updates that changed nothing;
besides updates only a deployment, a Delete, the completion of an interrupted update at a restart
and damage to the disk change the committed revision. Of the updates from one revision to others at
most one is applied until that revision is committed again. -/
theorem update_is_compare_and_swap {h : Host} {workloadId : String} {j : Journaled}
    (hr : Reach (Journaled.step h workloadId) (fun j a => j.world.orderly h a = true) .fresh j) :
    j.journal.filter Entry.isAnswer = j.world.responses.filterMap (appliedTo workloadId) ∧
    (∀ A e r B, j.journal = A ++ .answer e r :: B →
      ∃ A' request, A = A' ++ [.change (.update request) e r]) ∧
    (∀ cause before after, .change cause before after ∈ j.journal → cause.Lawful before after) ∧
    (∀ A e r B r' D, j.journal = A ++ .answer e r :: (B ++ .answer e r' :: D) → r ≠ e →
      ∃ cause before, .change cause before e ∈ B) ∧
    ∀ a j' task response, j.step h workloadId a = some j' →
      j'.world.responses = j.world.responses ++ [(task, .ok (.update response))] →
      response.outcome ≠ .applied → ¬ j'.touched task := by
  have hj : j.Inv h workloadId :=
    Reach.invariant _ (Journaled.fresh_inv h workloadId) (fun _ _ _ _ hs ho he => hs.step ho he) hr
  refine ⟨hj.truthful, fun A e r B hjr => ?_, hj.lawful, fun A e r B r' D hjr hne => ?_,
    fun a j' task response hs hrs ho => hj.declined hs hrs ho⟩
  · obtain ⟨A', _, ⟨request, rfl⟩, hA⟩ := hj.answered A e r B hjr
    exact ⟨A', request, hA⟩
  · have hrn := hj.runs
    have ha := hj.answered
    rw [hjr] at hrn ha
    exact hrn.set_between ha hne

open Reference

/-- A deployment and an update of it: the answer directly follows the swap. -/
theorem update_swaps_revision :
    ∃ j, Reach (Journaled.step (host .default) (workloadId "a"))
        (fun j a => j.world.orderly (host .default) a = true) .fresh j ∧
      ∃ A request e r B, j.journal = A ++ [.change (.update request) e r] ++ .answer e r :: B := by
  obtain ⟨j, hr, entry, hm, ha⟩ := exists_reach_of_run
    (Journaled.step (host .default) (workloadId "a"))
    (·.world.orderly (host .default) · = true) .fresh (updateRun "Pod/a\n# 2")
    (fun j => ∃ entry ∈ j.journal, entry.isAnswer = true) (by decide +kernel)
  refine ⟨j, hr, ?_⟩
  cases entry with
  | change => cases ha
  | answer e r =>
    obtain ⟨A, B, hjr⟩ := List.append_of_mem hm
    obtain ⟨A', request, rfl⟩ := (update_is_compare_and_swap hr).2.1 A e r B hjr
    exact ⟨A', request, e, r, B, hjr⟩

end Podmesh
