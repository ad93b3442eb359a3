import Podmesh.Agent.Steady

namespace Podmesh

variable {h : Host} {i : Input} {n : Node} {w w' : World} {r : StoredWorkload}

def Input.answers (i : Input) (present : Bool) : Bool :=
  match i.reply with
  | .ok => present
  | .other _ => false
  | .failed _ | .unknown _ => !present

/-- A section of a restart in which the store and the runtime do what they are asked: the status of
a pod is an error exactly if the pod does not exist. -/
def World.smooth (w : World) (i : Input) : Bool :=
  i.stored.isOk &&
    match w.phase with
    | .restoring _ (some (_, .status stored)) _ _ =>
      i.answers (w.node.pods.lookup stored.runtimeId).isSome
    | _ => i.answers true

/-- A restart can complete what the record stands for: the runtime does not refuse its cleanup, and
the pod of an interrupted update has a name. -/
def StoredWorkload.recoverable (h : Host) (r : StoredWorkload) : Bool :=
  if r.needsCleanup then !(r.cleanupUncertain && h.runtime.refusesUncertainCleanup)
  else if r.deleting then true
  else
    match r.phase with
    | .updating _ _ request =>
      match planInterruptedUpdate h r request with
      | .ok (_, deployment) => (h.runtime.targetId deployment).isOk
      | .error _ => false
    | _ => true

def StoredWorkload.Runs (h : Host) (pod : Option Pod) (r : StoredWorkload) : Prop :=
  ∃ p execution measured, pod = some p ∧
    h.grantManifest r.grant = .ok (execution, p.manifest, measured)

inductive Settled (h : Host) (pod : Option Pod) (r : StoredWorkload) : Option StoredWorkload → Prop
  | removed : r.recoverable h = true → pod = none → Settled h pod r none
  | kept : r.phase = .active → r.deleting = false → r.Runs h pod → Settled h pod r (some r)
  | forward : r.phase = .updating previous rid request → r.deleting = false →
      r.recoverable h = true → (rolledForward r request execution r.runtimeId).Runs h pod →
      Settled h pod r (some (rolledForward r request execution r.runtimeId))
  | stuck : r.recoverable h = false → Settled h pod r (some r)

def RestoreTask.Sensible : RestoreTask → Prop
  | .cleanup stored _ => stored.needsCleanup = true
  | .delete stored => stored.needsCleanup = false ∧ stored.deleting = true
  | .update stored _ _ _ => stored.needsCleanup = false ∧ stored.deleting = false
  | .status stored | .redeploy stored _ => stored.phase = .active ∧ stored.deleting = false
  | .undo _ _ => False

def RestoreTask.rank : RestoreTask → Nat
  | .status _ => 2
  | _ => 1

theorem RestoreTask.rank_lt (t : RestoreTask) : t.rank < 3 := by
  cases t with
  | status => exact Nat.lt_succ_self 2
  | _ => exact Nat.lt_succ_of_lt (Nat.lt_succ_self 1)

theorem RestoreTask.rank_pos (t : RestoreTask) : 0 < t.rank := by
  cases t with
  | _ => exact Nat.zero_lt_succ _

/-- The outcome of a section for the record `r`; `pod` is the one that the record names. -/
def Restored.Outcome (h : Host) (pod : Option Pod) (r : StoredWorkload) (bound : Nat) :
    Restored → Prop
  | .wait t => t.stored = r ∧ t.Sensible ∧ t.rank < bound
  | .keep r' => Settled h pod r (some r')
  | .gone => Settled h pod r none

theorem Proposed.plan (hp : Proposed h req r) :
    ∃ execution dep, planInterruptedUpdate h r req = .ok (execution, dep) := by
  obtain ⟨now, execution, manifest, hd, hm⟩ := hp.checked
  obtain ⟨ms, hmn, hw⟩ := updateManifest_within hm
  rw [← hp.key] at hmn
  refine ⟨execution, ⟨r.grant.workloadId, req.namespaceId, manifest⟩, ?_⟩
  simp only [planInterruptedUpdate, hd, bind, Except.bind, hmn, hw, ensure,
    if_true, pure, Except.pure]

theorem Planned.redeploy (hp : Planned h r man tgt) (hu : r.isUpdating = false) :
    planRedeploy h r = .ok ⟨r.grant.workloadId, r.grant.namespaceId, man⟩ := by
  obtain ⟨exe, measured, hg, hw⟩ := hp.granted
  have hc := hw hu
  unfold ManifestResources.charged at hc
  simp only [planRedeploy, hg, bind, Except.bind, hc, ensure, if_true, pure, Except.pure]

theorem StoredWorkload.isUpdating_of_active (hp : r.phase = .active) : r.isUpdating = false := by
  simp [StoredWorkload.isUpdating, hp]

theorem StoredWorkload.phase_cases (hc : r.needsCleanup = false) :
    r.phase = .active ∨ ∃ prev rid request, r.phase = .updating prev rid request := by
  unfold StoredWorkload.needsCleanup at hc
  cases hp : r.phase with
  | creating | cleanupPending =>
    rw [hp] at hc
    cases hc
  | active => exact .inl rfl
  | updating prev rid request => exact .inr ⟨prev, rid, request, rfl⟩

theorem restoreBegin_outcome (pod : Option Pod) (hr : Recorded h True r) (hn : r.Named h) :
    (restoreBegin h i n r).1 = n ∧ (restoreBegin h i n r).2.Outcome h pod r 3 ∧
      ∀ stored deployment, (restoreBegin h i n r).2 ≠ .wait (.redeploy stored deployment) := by
  unfold restoreBegin
  cases hc : r.needsCleanup with
  | true =>
    have ht : h.cleanupTarget r = .ok r.runtimeId := by
      rw [Host.cleanupTarget, if_neg hn.nonempty]
    simp only [if_true, ht]
    exact ⟨trivial, ⟨rfl, hc, RestoreTask.rank_lt _⟩, fun _ _ he => by cases he⟩
  | false =>
    cases hd : r.deleting with
    | true =>
      simp only [Bool.false_eq_true, if_false, if_true, if_neg hn.nonempty]
      exact ⟨trivial, ⟨rfl, ⟨hc, hd⟩, RestoreTask.rank_lt _⟩, fun _ _ he => by cases he⟩
    | false =>
      simp only [Bool.false_eq_true, if_false]
      obtain ha | ⟨prev, rid, request, hu⟩ := r.phase_cases hc
      · simp only [ha, if_neg hn.nonempty]
        exact ⟨trivial, ⟨rfl, ⟨ha, hd⟩, RestoreTask.rank_lt _⟩, fun _ _ he => by cases he⟩
      · obtain ⟨exe, deployment, hp⟩ := (hr.pending hu).plan
        simp only [hu, hp]
        exact ⟨trivial, ⟨rfl, ⟨hc, hd⟩, RestoreTask.rank_lt _⟩, fun _ _ he => by cases he⟩

theorem write_stored (hi : i.stored = .ok ()) (f : Store → Store) :
    n.write i f = ({ n with store := f n.store }, .ok ()) := by
  rw [Node.write, hi]

theorem runtimeDelete_replied (hi : i.reply = .ok) (name : String) :
    runtimeDelete i name n = ({ n with pods := n.pods.erase name }, .ok ()) := by
  simp only [runtimeDelete, runtimeCall, hi]
  rfl

theorem runtimeDeploy_replied (hi : i.reply = .ok) (ht : h.runtime.targetId d = .ok tgt) :
    ∃ pod, pod.manifest = d.manifest ∧
      runtimeDeploy h i d n = ({ n with pods := n.pods.insert tgt pod }, .ok tgt) := by
  refine ⟨⟨d.manifest, i.podEndpointId, i.podSigningKey⟩, rfl, ?_⟩
  simp only [runtimeDeploy, ht, runtimeCall, hi]
  rfl

theorem runtimeDeploy_unnamed (ht : h.runtime.targetId d = .error e) :
    runtimeDeploy h i d n = (n, .error ⟨e, false⟩) := by
  rw [runtimeDeploy, ht]

section Continue
variable (hi : i.stored = .ok ()) (hreply : i.reply = .ok)
include hi hreply

theorem restoreCleanup_outcome (hn : r.Named h) (hc : r.needsCleanup = true)
    (ht : h.cleanupTarget r = .ok tgt) :
    (restoreContinue h i n (.cleanup r tgt)).2.Outcome h
      ((restoreContinue h i n (.cleanup r tgt)).1.pods.lookup r.runtimeId) r 1 := by
  cases cleanupTarget_eq hn ht
  cases hr : r.cleanupUncertain && h.runtime.refusesUncertainCleanup with
  | true =>
    simp only [restoreContinue, cleanupPending, runtimeCleanup, hr, if_true]
    exact .stuck (by simp [StoredWorkload.recoverable, hc, hr])
  | false =>
    simp only [restoreContinue, cleanupPending, runtimeCleanup, hr, Bool.false_eq_true,
      if_false, runtimeDelete_replied hreply, write_stored hi]
    exact .removed (by simp [StoredWorkload.recoverable, hc, hr])
      (AList.lookup_erase _ _)

theorem restoreUpdate_outcome (hr : Recorded h True r) (hc : r.needsCleanup = false)
    (hd : r.deleting = false) (hp : r.phase = .updating prev rid req)
    (hpl : planInterruptedUpdate h r req = .ok (execution, dep)) (hk : h.Keeps dep r.runtimeId) :
    (restoreContinue h i n (.update r req execution dep)).2.Outcome h
      ((restoreContinue h i n (.update r req execution dep)).1.pods.lookup r.runtimeId)
      r 1 := by
  cases ht : h.runtime.targetId dep with
  | error e =>
    simp only [restoreContinue, runtimeDeploy_unnamed ht]
    apply Settled.stuck
    simp only [StoredWorkload.recoverable, hc, hd, hp, hpl, ht, Bool.false_eq_true, if_false]
    rfl
  | ok tgt =>
    cases hk tgt ht
    obtain ⟨pod, hpd, hdp⟩ := runtimeDeploy_replied (n := n) hreply ht
    simp only [restoreContinue, hdp, write_stored hi]
    obtain ⟨hdc, measured, hm, _, _⟩ := planInterruptedUpdate_ok hpl
    obtain ⟨hky, hns⟩ := (hr.pending hp).grant
    rw [← hky, ← hns, ← hpd] at hm
    have hrc : r.recoverable h = true := by
      simp only [StoredWorkload.recoverable, hc, hd, hp, hpl, ht, Bool.false_eq_true, if_false]
      rfl
    exact .forward hp hd hrc ⟨pod, execution, measured, AList.lookup_insert _,
      grantManifest_of_decode hdc hm⟩

theorem restoreRedeploy_outcome (hr : Recorded h True r) (ha : r.phase = .active)
    (hd : r.deleting = false) (hpl : planRedeploy h r = .ok dep) :
    (restoreContinue h i n (.redeploy r dep)).2.Outcome h
      ((restoreContinue h i n (.redeploy r dep)).1.pods.lookup r.runtimeId) r 1 := by
  obtain ⟨man, target, hp, hn⟩ := hr.plan
  cases hn trivial
  rw [hp.redeploy (r.isUpdating_of_active ha)] at hpl
  cases hpl
  obtain ⟨pod, hpd, hdp⟩ := runtimeDeploy_replied (n := n) hreply hp.names
  simp only [restoreContinue, hdp, write_stored hi]
  obtain ⟨execution, measured, hg, _⟩ := hp.granted
  refine .kept ha hd ⟨pod, execution, measured, AList.lookup_insert _, ?_⟩
  rw [hpd]
  exact hg

end Continue

theorem restoreStatus_outcome (hi : i.stored = .ok ())
    (hs : i.answers (n.pods.lookup r.runtimeId).isSome = true) (hr : Recorded h True r)
    (hf : r.Faithful h n.pods) (ha : r.phase = .active) (hd : r.deleting = false) :
    (restoreContinue h i n (.status r)).2.Outcome h
      ((restoreContinue h i n (.status r)).1.pods.lookup r.runtimeId) r 2 := by
  obtain ⟨man, target, hp, _⟩ := hr.plan
  have hrd : (restoreRedeploy h i n r).2.Outcome h
      ((restoreRedeploy h i n r).1.pods.lookup r.runtimeId) r 2 := by
    simp only [restoreRedeploy, hp.redeploy (r.isUpdating_of_active ha), write_stored hi]
    exact ⟨rfl, ⟨ha, hd⟩, Nat.lt_succ_self 1⟩
  unfold Input.answers at hs
  cases hreply : i.reply with
  | ok =>
    rw [hreply] at hs
    obtain ⟨pod, hpd⟩ := Option.isSome_iff_exists.1 hs
    obtain ⟨execution, measured, hg, _⟩ := hp.granted
    have hm := hf ha pod execution man measured hpd hg
    simp only [restoreContinue, hreply]
    refine .kept ha hd ⟨pod, execution, measured, hpd, ?_⟩
    rw [hm]
    exact hg
  | other name =>
    rw [hreply] at hs
    cases hs
  | failed m | unknown m =>
    simp only [restoreContinue, hreply]
    exact hrd

def RestoreTask.answered (n : Node) (i : Input) : RestoreTask → Bool
  | .status stored => i.answers (n.pods.lookup stored.runtimeId).isSome
  | _ => i.answers true

theorem Input.reply_of_answers (hi : i.answers true = true) : i.reply = .ok := by
  unfold Input.answers at hi
  split at hi
  · assumption
  all_goals cases hi

structure RestoreTask.Known (h : Host) (n : Node) (t : RestoreTask) : Prop where
  sensible : t.Sensible
  holds : t.Holds h
  recorded : Recorded h True t.stored
  named : t.stored.Named h
  faithful : t.stored.Faithful h n.pods
  keeps : ∀ stored request execution deployment, t = .update stored request execution deployment →
    h.Keeps deployment stored.runtimeId

variable {t : RestoreTask}

theorem restoreContinue_outcome (ht : t.Known h n) (hi : i.stored = .ok ())
    (ha : t.answered n i = true) :
    (restoreContinue h i n t).2.Outcome h
      ((restoreContinue h i n t).1.pods.lookup t.stored.runtimeId) t.stored t.rank := by
  obtain ⟨hs, hh, hr, hn, hf, hk⟩ := ht
  cases t with
  | cleanup stored tgt =>
    exact restoreCleanup_outcome hi (Input.reply_of_answers ha) hn hs hh.2
  | delete stored =>
    simp only [restoreContinue, runtimeDelete_replied (Input.reply_of_answers ha), write_stored hi]
    refine .removed ?_ (AList.lookup_erase _ _)
    simp [RestoreTask.stored, StoredWorkload.recoverable, hs.1, hs.2]
  | update stored req exe dep =>
    obtain ⟨⟨prev, rid, hp⟩, hpl⟩ := hh
    exact restoreUpdate_outcome hi (Input.reply_of_answers ha) hr hs.1 hs.2
      hp hpl (hk _ _ _ _ rfl)
  | status stored =>
    exact restoreStatus_outcome hi ha hr hf hs.1 hs.2
  | redeploy stored dep =>
    exact restoreRedeploy_outcome hi (Input.reply_of_answers ha) hr hs.1 hs.2
      hh
  | undo stored runtimeId => exact hs.elim

theorem RestoreTask.Known.away (ht : t.Known h n) (hne : name ≠ t.stored.runtimeId) :
    (restoreContinue h i n t).1.pods.lookup name = n.pods.lookup name := by
  apply (restore_change h i n t).away
  · intro d hd _ htr
    exact hne (RestoreTask.deploys_name ht.holds ht.named hd htr ht.keeps)
  · intro hd
    obtain ⟨hs, hh, _, hn, _, _⟩ := ht
    cases t with
    | cleanup stored tgt =>
      cases hd
      exact hne (cleanupTarget_eq hn hh.2)
    | delete stored =>
      cases hd
      exact hne rfl
    | undo stored rid => exact hs.elim
    | _ => cases hd

structure Recovering (h : Host) (before : String → Option StoredWorkload) (pods : PodMap)
    (pending : List (String × Option StoredWorkload)) (current : Option (String × RestoreTask))
    (active : ActiveMap) : Prop where
  waiting : ∀ k b, pending.lookup k = some b → b = before k
  working : ∀ k t, current = some (k, t) → before k = some t.stored ∧ t.Sensible
  done : ∀ k r', active.lookup k = some r' →
    ∃ r, before k = some r ∧ Settled h (pods.lookup r.runtimeId) r (some r')
  gone : ∀ k r, before k = some r → pending.lookup k = none → currentAt current k = none →
    active.lookup k = none → Settled h (pods.lookup r.runtimeId) r none

def currentRank (current : Option (String × RestoreTask)) : Nat := current.elim 0 fun c => c.2.rank

section Settle
variable {before : String → Option StoredWorkload} {pods pods' : PodMap}
  {pending pending' : List (String × Option StoredWorkload)}
  {current : Option (String × RestoreTask)} {active : ActiveMap}

theorem Recovering.settle {rst : Restored}
    (hsp : ∀ k k' r r', before k = some r → before k' = some r' → r.runtimeId = r'.runtimeId →
      k = k')
    (hr : Recovering h before pods pending current active) (hk : before k = some r)
    (hpn : ∀ k', k' ≠ k → pending'.lookup k' = pending.lookup k')
    (hnn : pending'.lookup k = none) (hcr : ∀ k', k' ≠ k → currentAt current k' = none)
    (hac : active.lookup k = none)
    (hpd : ∀ name, name ≠ r.runtimeId → pods'.lookup name = pods.lookup name)
    (hot : rst.Outcome h (pods'.lookup r.runtimeId) r bound) (hbn : 0 < bound) :
    ∃ current' active', rst.phase pending' active ∅ k = .restoring pending' current' active' ∅ ∧
      Recovering h before pods' pending' current' active' ∧ currentRank current' < bound := by
  have ho : ∀ k' r', k' ≠ k → before k' = some r' →
      pods'.lookup r'.runtimeId = pods.lookup r'.runtimeId := by
    intro k' r' hne hr'
    apply hpd
    intro hn
    exact hne (hsp k' k r' r hr' hk hn)
  have hw : ∀ k' b, pending'.lookup k' = some b → b = before k' := by
    intro k' b hb
    by_cases hne : k' = k
    · rw [hne, hnn] at hb
      cases hb
    · rw [hpn k' hne] at hb
      exact hr.waiting k' b hb
  have hd : ∀ k' r', k' ≠ k → active.lookup k' = some r' →
      ∃ r, before k' = some r ∧ Settled h (pods'.lookup r.runtimeId) r (some r') := by
    intro k' r' hne hr'
    obtain ⟨r₀, hr₀, hs⟩ := hr.done k' r' hr'
    rw [← ho k' r₀ hne hr₀] at hs
    exact ⟨r₀, hr₀, hs⟩
  have hg : ∀ k' r', k' ≠ k → before k' = some r' → pending'.lookup k' = none →
      active.lookup k' = none → Settled h (pods'.lookup r'.runtimeId) r' none := by
    intro k' r' hne hr' hp ha
    rw [ho k' r' hne hr']
    rw [hpn k' hne] at hp
    exact hr.gone k' r' hr' hp (hcr k' hne) ha
  cases rst with
  | wait t =>
    obtain ⟨hst, hsn, hrn⟩ := hot
    refine ⟨_, _, rfl, ⟨hw, ?_, ?_, ?_⟩, hrn⟩
    · intro k' t' he
      cases he
      rw [hst]
      exact ⟨hk, hsn⟩
    · intro k' r' hr'
      apply hd k' r' _ hr'
      rintro rfl
      rw [hac] at hr'
      cases hr'
    · intro k' r' hr' hp hc ha
      apply hg k' r' _ hr' hp ha
      rintro rfl
      simp only [currentAt, Option.bind_some, if_true] at hc
      cases hc
  | keep r' =>
    refine ⟨_, _, rfl, ⟨hw, fun k' t he => (by cases he), ?_, ?_⟩, hbn⟩
    · intro k' v hv
      rcases Assoc.lookup_insert_cases hv with ⟨rfl, rfl⟩ | ⟨hne, hv⟩
      · exact ⟨r, hk, hot⟩
      · exact hd k' v hne hv
    · intro k' v hv hp _ ha
      have hne : k' ≠ k := by
        rintro rfl
        rw [AList.lookup_insert] at ha
        cases ha
      rw [AList.lookup_insert_ne hne] at ha
      exact hg k' v hne hv hp ha
  | gone =>
    refine ⟨_, _, rfl, ⟨hw, fun k' t he => (by cases he), ?_, ?_⟩, hbn⟩
    · intro k' r' hr'
      apply hd k' r' _ hr'
      rintro rfl
      rw [hac] at hr'
      cases hr'
    · intro k' v hv hp _ ha
      by_cases hne : k' = k
      · subst hne
        rw [hk] at hv
        cases hv
        exact hot
      · exact hg k' v hne hv hp ha

end Settle

theorem Settled.runtimeId (hs : Settled h pod r (some r')) : r'.runtimeId = r.runtimeId := by
  cases hs with
  | kept | forward | stuck => rfl

/-- The records a restart starts from: they name different pods, and an update that it completes
keeps the name. -/
structure Startable (h : Host) (before : String → Option StoredWorkload) : Prop where
  separate : ∀ k k' r r', before k = some r → before k' = some r' → r.runtimeId = r'.runtimeId →
    k = k'
  keeps : ∀ k r previous rid request execution deployment, before k = some r →
    r.phase = .updating previous rid request →
    planInterruptedUpdate h r request = .ok (execution, deployment) →
    h.Keeps deployment r.runtimeId

structure World.Recovers (h : Host) (before : String → Option StoredWorkload) (w : World) :
    Prop where
  reach : Reach (World.step h) (fun w a => steady h w a = true) .fresh w
  progress : ∃ pending current active, w.phase = .restoring pending current active ∅ ∧
    Recovering h before w.node.pods pending current active

structure World.Recovered (h : Host) (before : String → Option StoredWorkload) (w : World) :
    Prop where
  reach : Reach (World.step h) (fun w a => steady h w a = true) .fresh w
  running : w.phase = .running
  mirrored : ∀ k, w.node.store.workloads.lookup k = (w.node.state.active.lookup k).map some
  settled : ∀ k r, before k = some r →
    Settled h (w.node.pods.lookup r.runtimeId) r (w.node.state.active.lookup k)
  absent : ∀ k, before k = none → w.node.state.active.lookup k = none

def World.rank (w : World) : Nat :=
  match w.phase with
  | .restoring pending current _ _ => 3 * pending.length + currentRank current
  | _ => 0

section World
variable {before : String → Option StoredWorkload}
  {pending : List (String × Option StoredWorkload)}
  {current : Option (String × RestoreTask)} {active : ActiveMap}

theorem Recovering.uses (hr : Recovering h before pods pending current active)
    (hw : w.Restoring h pending current active ∅) (hu : (w.node.slot k).Uses name) :
    ∃ r, before k = some r ∧ r.runtimeId = name := by
  obtain ⟨m, hm, _⟩ | ⟨r, hd, rfl⟩ := hu
  · exact absurd hm hw.idle.memory
  · have hv := hw.views k
    change w.node.store.workloads.lookup k = some (some r) at hd
    have hwt := hr.waiting k
    have hdn := hr.done k
    have hwr : ∀ stored, currentAt current k = some stored → before k = some stored := by
      intro stored hs
      obtain ⟨⟨k', t⟩, hc, hs⟩ := Option.bind_eq_some_iff.1 hs
      split at hs
      · next hk =>
        cases hs
        subst hk
        exact (hr.working k t hc).1
      · cases hs
    rw [hd] at hv
    generalize pending.lookup k = p at hv hwt
    generalize currentAt current k = c at hv hwr
    generalize active.lookup k = a at hv hdn
    generalize decide (k ∈ (∅ : Finset String)) = q at hv
    cases hv with
    | pending => exact ⟨r, (hwt _ rfl).symm, rfl⟩
    | current => exact ⟨r, hwr _ rfl, rfl⟩
    | rebuilt =>
      obtain ⟨r₀, hr₀, hst⟩ := hdn _ rfl
      exact ⟨r₀, hr₀, hst.runtimeId.symm⟩

theorem Recovering.separate (hstart : Startable h before)
    (hr : Recovering h before pods pending current active)
    (hw : w.Restoring h pending current active ∅) : w.Separate := by
  intro k k' name hk hk'
  obtain ⟨r, hr₁, hn⟩ := hr.uses hw hk
  obtain ⟨r', hr₂, hn'⟩ := hr.uses hw hk'
  exact hstart.separate k k' r r' hr₁ hr₂ (hn.trans hn'.symm)

theorem Input.plain_of_answers (hi : i.answers present = true) : i.plain = true := by
  unfold Input.answers at hi
  unfold Input.plain
  split at hi
  · next hreply => rw [hreply]
  · cases hi
  · next hreply => rw [hreply]
  · next hreply => rw [hreply]

theorem Host.keepsName_of_keeps (hk : h.Keeps d name) : h.keepsName d name = true := by
  unfold Host.keepsName
  split
  · next tgt ht => exact beq_iff_eq.2 (hk tgt ht)
  · rfl

theorem World.smooth_parts (hs : w.smooth i = true) :
    i.stored = .ok () ∧ i.plain = true ∧ ∀ pending k t active,
      w.phase = .restoring pending (some (k, t)) active ∅ → t.answered w.node i = true := by
  obtain ⟨hst, ha⟩ := Bool.and_eq_true_iff.1 hs
  refine ⟨?_, ?_, fun pending k t active hp => ?_⟩
  · cases hi : i.stored with
    | ok u => rfl
    | error e =>
      rw [hi] at hst
      cases hst
  · split at ha <;> exact Input.plain_of_answers ha
  · rw [hp] at ha
    cases t with
    | _ => exact ha

theorem World.podNamesKept_restore (hp : w.phase = .restoring pending current active ∅)
    (hi : i.plain = true)
    (hk : ∀ k stored req exe dep, current = some (k, .update stored req exe dep) →
      h.Keeps dep stored.runtimeId) :
    podNamesKept h w (.restore i) = true := by
  simp only [podNamesKept, hi, Bool.true_and, hp]
  split
  · next he =>
    cases he
    simp [Host.keepsName_of_keeps (hk _ _ _ _ _ rfl)]
  · rfl

section
variable (hstart : Startable h before)
include hstart

theorem World.Recovers.extend (hrc : Reach (World.step h) (fun w a => steady h w a = true) .fresh w)
    (hk : podNamesKept h w (.restore i) = true) (hs : w.restore h i = some w')
    (hp : w'.phase = .restoring pending current active ∅)
    (hr : Recovering h before w'.node.pods pending current active) : w'.Recovers h before := by
  have hst : w.step h (.restore i) = some w' := hs
  have hin := (reach_inv hrc).step hst
  have hsp := hr.separate hstart (hin.restoring hp)
  exact ⟨hrc.next (steady_of_separate hk hst rfl hsp) hst, pending, current, active, hp, hr⟩

theorem Recovering.known (hw : w.Steady h)
    (hp : w.phase = .restoring pending (some (k, t)) active ∅)
    (hr : Recovering h before w.node.pods pending (some (k, t)) active) : t.Known h w.node := by
  have hrs := hw.inv.restoring hp
  obtain ⟨_, _, _, hd⟩ := hrs.on_disk
  obtain ⟨hb, hs⟩ := hr.working k t rfl
  have hh := hrs.planned k t rfl
  refine ⟨hs, hh, hw.recorded.disk k _ hd, hw.housed.disk k _ hd, (hw.faithful k).disk _ hd, ?_⟩
  rintro stored req exe dep rfl
  obtain ⟨⟨prev, rid, hph⟩, hpl⟩ := hh
  exact hstart.keeps k stored prev rid req exe dep hb hph hpl

theorem World.Recovers.continue
    (hrh : Reach (World.step h) (fun w a => steady h w a = true) .fresh w)
    (hp : w.phase = .restoring pending (some (k, t)) active ∅)
    (hr : Recovering h before w.node.pods pending (some (k, t)) active) (hs : w.smooth i = true) :
    ∃ w', w.restore h i = some w' ∧ w'.Recovers h before ∧ w'.rank < w.rank := by
  obtain ⟨hst, hpl, ha⟩ := w.smooth_parts hs
  have hw := reach_steady hrh
  have hre := hw.inv.restoring hp
  obtain ⟨hn, hac, _, _⟩ := hre.on_disk
  obtain ⟨hb, _⟩ := hr.working k t rfl
  have hk := hr.known hstart hw hp
  have hc : ∀ k', k' ≠ k → currentAt (some (k, t)) k' = none := by
    intro k' hne
    simp [currentAt, if_neg hne]
  obtain ⟨current', active', hph, hrc, hrn⟩ := hr.settle hstart.separate hb
    (fun _ _ => rfl) hn hc hac (fun name hne => hk.away hne)
    (restoreContinue_outcome hk hst (ha pending k t active hp)) t.rank_pos
  have hrs : w.restore h i = some { w with
      node := (restoreContinue h i w.node t).1
      phase := (restoreContinue h i w.node t).2.phase pending active ∅ k } := by
    simp [World.restore, hp]
  refine ⟨_, hrs, World.Recovers.extend hstart hrh ?_ hrs hph hrc, ?_⟩
  · apply World.podNamesKept_restore hp hpl
    rintro k' stored req exe dep he
    cases he
    exact hk.keeps stored req exe dep rfl
  · simp only [World.rank, hp, hph]
    exact Nat.add_lt_add_left hrn _

theorem World.Recovers.begin {stored : StoredWorkload}
    (hrh : Reach (World.step h) (fun w a => steady h w a = true) .fresh w)
    (hp : w.phase = .restoring ((k, some stored) :: pending) none active ∅)
    (hr : Recovering h before w.node.pods ((k, some stored) :: pending) none active)
    (hs : w.smooth i = true) :
    ∃ w', w.restore h i = some w' ∧ w'.Recovers h before ∧ w'.rank < w.rank := by
  obtain ⟨_, hpl, _⟩ := w.smooth_parts hs
  have hw := reach_steady hrh
  have hrs := hw.inv.restoring hp
  have hv := hrs.views k
  simp only [List.lookup_cons_self] at hv
  obtain ⟨_, ha, _, hd⟩ := hv.of_pending
  have hb : before k = some stored := (hr.waiting k _ List.lookup_cons_self).symm
  obtain ⟨hn, ho, _⟩ := restoreBegin_outcome (i := i) (n := w.node)
    (w.node.pods.lookup stored.runtimeId) (hw.recorded.disk k _ hd) (hw.housed.disk k _ hd)
  have hpn : ∀ k', k' ≠ k → pending.lookup k' = ((k, some stored) :: pending).lookup k' := by
    intro k' hne
    rw [List.lookup_cons, beq_false_of_ne hne]
  obtain ⟨current', active', hph, hrc, hrn⟩ := hr.settle hstart.separate hb
    hpn (lookup_tail_of_nodup hrs.nodup) (fun _ _ => rfl) ha (fun _ _ => rfl)
    ho (Nat.zero_lt_succ 2)
  have hre : w.restore h i = some { w with
      phase := (restoreBegin h i w.node stored).2.phase pending active ∅ k } := by
    simp [World.restore, hp, hn]
  refine ⟨_, hre, World.Recovers.extend hstart hrh ?_ hre hph hrc, ?_⟩
  · exact World.podNamesKept_restore hp hpl fun _ _ _ _ _ he => by cases he
  · have hnn : currentRank none = 0 := rfl
    simp only [World.rank, hp, hph, List.length_cons, hnn]
    omega

end

theorem World.Recovers.finish (hrc : Reach (World.step h) (fun w a => steady h w a = true) .fresh w)
    (hp : w.phase = .restoring [] none active ∅)
    (hr : Recovering h before w.node.pods [] none active) (hs : w.smooth i = true) :
    ∃ w', w.restore h i = some w' ∧ w'.Recovered h before := by
  obtain ⟨_, hpl, _⟩ := w.smooth_parts hs
  have hw := reach_steady hrc
  have hrs := hw.inv.restoring hp
  have hre : w.restore h i = some { w with
      node := { w.node with state := ⟨active, ∅, ∅⟩ }, phase := .running } := by
    simp [World.restore, hp, hrs.fits hw.fits]
  have hmr : ∀ k, w.node.store.workloads.lookup k = (active.lookup k).map some := by
    intro k
    have hv := hrs.views k
    generalize active.lookup k = a at hv ⊢
    generalize w.node.store.workloads.lookup k = d at hv ⊢
    cases hv with
    | absent | rebuilt => rfl
  have hsp : w.step h (.restore i) = _ := hre
  refine ⟨_, hre, hrc.next ?_ hsp, rfl, hmr, ?_, ?_⟩
  · have hkp := World.podNamesKept_restore (h := h) hp hpl fun _ _ _ _ _ he => by cases he
    refine steady_of_separate hkp hsp rfl (hw.separate.of_uses fun k name hu => ?_)
    obtain ⟨m, hm, hn⟩ | hd := hu
    · exact .inr ⟨m, hrs.memory_on_disk hm, hn⟩
    · exact .inr hd
  · intro k r hk
    cases ha : active.lookup k with
    | none => exact hr.gone k r hk rfl rfl ha
    | some r' =>
      obtain ⟨r₀, hr₀, hst⟩ := hr.done k r' ha
      rw [hk] at hr₀
      cases hr₀
      exact hst
  · intro k hk
    cases ha : active.lookup k with
    | none => rfl
    | some r' =>
      obtain ⟨r₀, hr₀, _⟩ := hr.done k r' ha
      rw [hk] at hr₀
      cases hr₀

theorem World.Recovers.next (hstart : Startable h before) (hw : w.Recovers h before)
    (hs : w.smooth i = true) :
    ∃ w', w.restore h i = some w' ∧
      (w'.Recovered h before ∨ w'.Recovers h before ∧ w'.rank < w.rank) := by
  obtain ⟨hrc, pending, current, active, hp, hr⟩ := hw
  cases current with
  | some c =>
    obtain ⟨k, t⟩ := c
    obtain ⟨w', hrs, hw'⟩ := World.Recovers.continue hstart hrc hp hr hs
    exact ⟨w', hrs, .inr hw'⟩
  | none =>
    cases pending with
    | nil =>
      obtain ⟨w', hrs, hw'⟩ := World.Recovers.finish hrc hp hr hs
      exact ⟨w', hrs, .inl hw'⟩
    | cons entry pending =>
      obtain ⟨k, b⟩ := entry
      cases b with
      | none =>
        have hst := reach_steady hrc
        exact absurd (hst.inv.restoring hp).next_on_disk (hst.stocked.readable k)
      | some stored =>
        obtain ⟨w', hrs, hw'⟩ := World.Recovers.begin hstart hrc hp hr hs
        exact ⟨w', hrs, .inr hw'⟩

end World

end Podmesh
