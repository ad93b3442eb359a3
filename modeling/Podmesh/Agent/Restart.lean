import Podmesh.Agent.Recovery

namespace Podmesh

variable {h : Host} {i : Input} {n : Node} {w w' : World} {r : StoredWorkload}
  {answer : World → Input} {before : String → Option StoredWorkload}

def World.stored (w : World) (k : String) : Option StoredWorkload :=
  (w.node.store.workloads.lookup k).join

theorem World.stored_eq_some :
    w.stored k = some r ↔ w.node.store.workloads.lookup k = some (some r) :=
  Option.join_eq_some_iff

def StoredWorkload.updateKeepsName (h : Host) (r : StoredWorkload) : Bool :=
  match r.phase with
  | .updating _ _ request =>
    match planInterruptedUpdate h r request with
    | .ok (_, deployment) => h.keepsName deployment r.runtimeId
    | .error _ => true
  | _ => true

def World.updatesKeepNames (h : Host) (w : World) : Bool :=
  w.node.store.workloads.entries.all fun e => e.2.all (StoredWorkload.updateKeepsName h)

def World.recover (h : Host) (i : Input) (answer : World → Input) (w : World) : Option World :=
  ((w.step h .crash).bind fun w => w.step h (.restart i)).map fun w =>
    drive (fun w => w.restore h (answer w)) (3 * w.node.store.loadAll.length + 1) w

inductive StoredWorkload.Signed (h : Host) (r : StoredWorkload) : Prop
  | reserved : planDeployment h now state r.grant execution reservation = .ok (planned, deployment) →
      r.amount = reservation.amount → Signed h r
  | updated : updateManifest h now request execution = .ok manifest → r.grant = request.grant →
      r.amount = request.amount → Signed h r

/-- The operation on the record `r` is completed: the workload is gone with its pod, or it is in use
and its pod runs the grant of before or after the operation. -/
inductive World.Completed (h : Host) (w : World) (k : String) (r : StoredWorkload) : Prop
  | absent : w.stored k = none → w.node.state.active.lookup k = none →
      w.node.pods.lookup r.runtimeId = none → Completed h w k r
  | active (r' : StoredWorkload) : w.stored k = some r' →
      w.node.state.active.lookup k = some r' → r'.phase = .active → r'.deleting = false →
      r'.Runs h (w.node.pods.lookup r'.runtimeId) → r'.Signed h →
      (r'.grant = r.grant ∨ ∃ previous rid request, r.phase = .updating previous rid request ∧
        r'.grant = request.grant) → Completed h w k r

structure World.Same (w w' : World) : Prop where
  store : w'.node.store = w.node.store
  pods : w'.node.pods = w.node.pods
  active : ∀ k, w'.node.state.active.lookup k = w.node.state.active.lookup k

theorem StoredWorkload.Signed.of_amount {r' : StoredWorkload} (hs : r.Signed h)
    (hg : r'.grant = r.grant) (ha : r'.amount = r.amount) : r'.Signed h := by
  cases hs with
  | reserved hp ham =>
    rw [← hg] at hp
    exact .reserved hp (ha.trans ham)
  | updated hm hgr ham => exact .updated hm (hg.trans hgr) (ha.trans ham)

theorem Recorded.signed (hr : Recorded h exact r) (hu : r.isUpdating = false) : r.Signed h := by
  induction hr with
  | created hd hpl =>
    have hok := planDeployment_ok hpl
    have hg := hok.record
    subst hg
    exact .reserved hpl hok.amount
  | deployed _ hp ih | failed _ hp ih =>
    have hs := ih (by simp [StoredWorkload.isUpdating, hp])
    exact hs.of_amount rfl rfl
  | marked _ _ ih | redeployed _ _ _ _ ih => exact (ih hu).of_amount rfl rfl
  | updating => cases hu
  | updated _ hup =>
    obtain ⟨now, hm⟩ := hup.checked
    exact .updated hm rfl rfl
  | rolledForward hr hp =>
    obtain ⟨now, execution, manifest, _, hm⟩ := (hr.pending hp).checked
    exact .updated hm rfl rfl

theorem StoredWorkload.needsCleanup_of_active (hn : r.Named h) (hp : r.phase = .active) :
    r.needsCleanup = false := by
  simp only [StoredWorkload.needsCleanup, hp]
  simpa using hn.nonempty

theorem StoredWorkload.recoverable_of_active (hn : r.Named h) (hp : r.phase = .active)
    (hd : r.deleting = false) : r.recoverable h = true := by
  simp [StoredWorkload.recoverable, needsCleanup_of_active hn hp, hd, hp]

theorem World.Separate.of_store (hw : w.Separate) (hst : w'.node.store = w.node.store)
    (hs : w'.node.state = .empty) : w'.Separate := by
  refine hw.of_uses fun k name hu => ?_
  obtain ⟨m, hm, _⟩ | ⟨r, hr, hn⟩ := hu
  · have hmm : w'.node.state.active.lookup k = some m := hm
    rw [hs] at hmm
    cases hmm
  · have hd : w'.node.store.workloads.lookup k = some (some r) := hr
    rw [hst] at hd
    exact .inr ⟨r, hd, hn⟩

theorem World.Separate.stored (hw : w.Separate) (hr : w.stored k = some r)
    (hr' : w.stored k' = some r') (hn : r.runtimeId = r'.runtimeId) : k = k' :=
  hw k k' r.runtimeId (.inr ⟨r, World.stored_eq_some.1 hr, rfl⟩)
    (.inr ⟨r', World.stored_eq_some.1 hr', hn.symm⟩)

theorem World.startable (hw : w.Steady h) (hk : w.updatesKeepNames h = true) :
    Startable h w.stored where
  separate _ _ _ _ hr hr' := hw.separate.stored hr hr'
  keeps k r prev rid req exe dep hr hp hpl := by
    have he := AList.mem_lookup_iff.1 (World.stored_eq_some.1 hr)
    have hkp := List.all_eq_true.1 hk _ he
    simp only [Option.all_some, StoredWorkload.updateKeepsName, hp, hpl] at hkp
    exact Host.keeps_of_keepsName hkp

theorem World.restarts (hrc : Reach (World.step h) (fun w a => steady h w a = true) .fresh w)
    (hv : h.config.validate = .ok ()) (hi : i.loaded = .ok ()) :
    ∃ w', ((w.step h .crash).bind fun w => w.step h (.restart i)) = some w' ∧
      w'.Recovers h w.stored ∧ w'.node.store = w.node.store ∧ w'.node.pods = w.node.pods ∧
      w'.phase = .restoring w.node.store.loadAll none ∅ ∅ := by
  have hw := reach_steady hrc
  have hcn : (w.stopped w.node).node.store.loadAll.length ≤ h.config.maxWorkloads := by
    show (w.node.store.workloads.entries.map _).length ≤ h.config.maxWorkloads
    rw [List.length_map]
    exact hw.stocked.count
  have hc : w.step h .crash = some (w.stopped w.node) := rfl
  have hs : Reach (World.step h) (fun w a => steady h w a = true) .fresh
      (w.stopped w.node) :=
    hrc.next (steady_of_separate rfl hc rfl (hw.separate.of_store rfl rfl)) hc
  have hr : (w.stopped w.node).step h (.restart i) = some { w.stopped w.node with
      node := (w.stopped w.node).node.reboot, tasks := ∅
      phase := .restoring (w.stopped w.node).node.store.loadAll none ∅ ∅ } := by
    have hp : (w.stopped w.node).phase = .down := rfl
    simp [World.step, hp, hv, hi, if_pos hcn]
  refine ⟨_, hr, ⟨?_, w.node.store.loadAll, none, ∅, rfl, ?_⟩, rfl, rfl, rfl⟩
  · exact hs.next (steady_of_separate rfl hr rfl (hw.separate.of_store rfl rfl)) hr
  · refine ⟨fun k b hb => ?_, fun k t ht => (by cases ht), fun k r' hr' => (by cases hr'),
      fun k r hk hn _ _ => ?_⟩
    · rw [lookup_loadAll] at hb
      rw [World.stored, hb, Option.join_some]
    · rw [lookup_loadAll] at hn
      rw [World.stored, hn] at hk
      cases hk

theorem World.Recovered.ended (hw : w.Recovered h before) : w.restore h i = none := by
  simp [World.restore, hw.running]

theorem World.recover_settles {I F : World → Prop}
    (hr : ((w.step h .crash).bind fun w => w.step h (.restart i)) = some w')
    (hp : w'.phase = .restoring w'.node.store.loadAll none ∅ ∅)
    (hn : ∀ w, I w → ∃ w', w.restore h (answer w) = some w' ∧ (F w' ∨ I w' ∧ w'.rank < w.rank))
    (he : ∀ w, F w → w.restore h (answer w) = none) (hI : I w') :
    ∃ w'', w.recover h i answer = some w'' ∧ F w'' := by
  refine ⟨_, by rw [World.recover, hr, Option.map_some], ?_⟩
  refine drive_settles hn he hI ?_
  simp only [World.rank, hp]
  exact Nat.lt_succ_self _

theorem World.recover_ends (hr : Reach (World.step h) (fun w a => steady h w a = true) .fresh w)
    (hv : h.config.validate = .ok ()) (hk : w.updatesKeepNames h = true) (hi : i.loaded = .ok ())
    (hs : ∀ w : World, w.smooth (answer w) = true) :
    ∃ w', w.recover h i answer = some w' ∧ w'.Recovered h w.stored := by
  have hst := World.startable (reach_steady hr) hk
  obtain ⟨w₁, hrs, hrc, hsr, _, hp⟩ := World.restarts hr hv hi
  rw [← hsr] at hp
  exact World.recover_settles hrs hp (fun w hw => hw.next hst (hs w))
    (fun w hw => hw.ended) hrc

theorem World.Recovered.completed_iff (hw : w.Recovered h before) (hk : before k = some r)
    (hn : r.Named h) : w.Completed h k r ↔ r.recoverable h = true := by
  have hs := hw.settled k r hk
  have hst : w.stored k = w.node.state.active.lookup k := by
    rw [World.stored, hw.mirrored k]
    cases w.node.state.active.lookup k with
    | none | some => rfl
  constructor
  · intro hc
    cases hc with
    | absent _ hnn =>
      rw [hnn] at hs
      cases hs with
      | removed hr => exact hr
    | active r' _ hr' hp hd =>
      rw [hr'] at hs
      cases hs with
      | kept | stuck => exact StoredWorkload.recoverable_of_active hn hp hd
      | forward _ _ hr => exact hr
  · intro hr
    have hrc := (reach_steady hw.reach).recorded.memory k
    generalize ha : w.node.state.active.lookup k = a at hs hst hrc
    cases hs with
    | removed _ hpd => exact .absent hst ha hpd
    | kept hp hd hrn =>
      have hsg := (hrc _ rfl).signed (StoredWorkload.isUpdating_of_active hp)
      exact .active r hst ha hp hd hrn hsg (.inl rfl)
    | forward hp hd _ hrn =>
      have hsg := (hrc _ rfl).signed rfl
      exact .active _ hst ha rfl hd hrn hsg (.inr ⟨_, _, _, hp, rfl⟩)
    | stuck hsc =>
      rw [hsc] at hr
      cases hr

/-- A record that a restart leaves alone: in use with its pod, or one that it cannot complete. -/
def StoredWorkload.Rests (h : Host) (pods : PodMap) (r : StoredWorkload) : Prop :=
  (r.phase = .active ∧ r.deleting = false ∧ (pods.lookup r.runtimeId).isSome = true) ∨
    r.recoverable h = false

theorem restoreContinue_rests (ht : t.Known h n) (hr : t.stored.Rests h n.pods)
    (hnt : ∀ st dep, t ≠ .redeploy st dep) (ha : t.answered n i = true) :
    (restoreContinue h i n t).1 = n ∧ ∀ t', (restoreContinue h i n t).2 ≠ .wait t' := by
  obtain ⟨hsn, hh, _, hn, _, _⟩ := ht
  cases t with
  | cleanup st tgt =>
    have hc : st.needsCleanup = true := hsn
    obtain ⟨hp, _, _⟩ | hs := hr
    · rw [RestoreTask.stored] at hp hn
      rw [StoredWorkload.needsCleanup_of_active hn hp] at hc
      cases hc
    · have hrf : (st.cleanupUncertain && h.runtime.refusesUncertainCleanup) = true := by
        simpa [RestoreTask.stored, StoredWorkload.recoverable, hc, Bool.not_eq_false']
          using hs
      simp only [restoreContinue, cleanupPending, runtimeCleanup, hrf, if_true]
      exact ⟨trivial, fun _ he => by cases he⟩
  | delete st =>
    obtain ⟨hc, hd⟩ := hsn
    obtain ⟨_, hk, _⟩ | hs := hr
    · rw [RestoreTask.stored, hd] at hk
      cases hk
    · simp only [RestoreTask.stored, StoredWorkload.recoverable, hc, hd, Bool.false_eq_true,
        if_false, if_true] at hs
      cases hs
  | update st req exe dep =>
    obtain ⟨hc, hd⟩ := hsn
    obtain ⟨⟨prev, rid, hp⟩, hpl⟩ := hh
    obtain ⟨hac, _, _⟩ | hs := hr
    · rw [RestoreTask.stored, hp] at hac
      cases hac
    · simp only [RestoreTask.stored, StoredWorkload.recoverable, hc, hd, hp, hpl,
        Bool.false_eq_true, if_false] at hs
      cases htr : h.runtime.targetId dep with
      | ok tgt =>
        rw [htr] at hs
        cases hs
      | error e =>
        simp only [restoreContinue, runtimeDeploy_unnamed htr]
        exact ⟨trivial, fun _ he => by cases he⟩
  | status st =>
    obtain ⟨hp, hd⟩ := hsn
    obtain ⟨_, _, hpd⟩ | hs := hr
    · have hrp : i.reply = .ok := by
        rw [RestoreTask.answered] at ha
        rw [RestoreTask.stored] at hpd
        rw [hpd] at ha
        exact Input.reply_of_answers ha
      simp only [restoreContinue, hrp]
      exact ⟨trivial, fun _ he => by cases he⟩
    · rw [RestoreTask.stored] at hs hn
      rw [StoredWorkload.recoverable_of_active hn hp hd] at hs
      cases hs
  | redeploy st dep => exact absurd rfl (hnt st dep)
  | undo st runtimeId => exact hsn.elim

structure World.Rests (store : Store) (pods : PodMap) (w : World) : Prop where
  disk : w.node.store = store
  runtime : w.node.pods = pods
  calls : ∀ pending k t active quarantined,
    w.phase = .restoring pending (some (k, t)) active quarantined →
    ∀ stored deployment, t ≠ .redeploy stored deployment

theorem Restored.wait_of_phase {rst : Restored}
    (hp : rst.phase pend act quar k =
      .restoring pend' (some (k', t)) act' quar') : rst = .wait t := by
  cases rst with
  | wait t' =>
    cases hp
    rfl
  | keep r | gone => cases hp

theorem World.Rests.next (hsr : Startable h before) (hw : w.Recovers h before)
    (hb : ∀ k r, before k = some r → r.Rests h pods) (hr : w.Rests store pods)
    (hs : w.smooth i = true) (hn : w.restore h i = some w') : w'.Rests store pods := by
  obtain ⟨hd, hpd, hc⟩ := hr
  obtain ⟨hre, pending, current, active, hp, hrc⟩ := hw
  have hst := reach_steady hre
  obtain ⟨_, _, ha⟩ := w.smooth_parts hs
  cases current with
  | some c =>
    obtain ⟨k, t⟩ := c
    have hrs : t.stored.Rests h w.node.pods := by
      rw [hpd]
      exact hb k _ (hrc.working k t rfl).1
    obtain ⟨hnd, hwt⟩ := restoreContinue_rests (hrc.known hsr hst hp) hrs
      (hc _ _ _ _ _ hp) (ha pending k t active hp)
    simp only [World.restore, hp, Option.some.injEq] at hn
    subst hn
    refine ⟨?_, ?_, fun _ _ t' _ _ hph => absurd (Restored.wait_of_phase hph) (hwt t')⟩
    · rw [hnd, hd]
    · rw [hnd, hpd]
  | none =>
    cases pending with
    | nil =>
      simp only [World.restore, hp] at hn
      split at hn <;> cases hn <;>
        exact ⟨hd, hpd, fun _ _ _ _ _ hph => by cases hph⟩
    | cons entry pending =>
      obtain ⟨k, b⟩ := entry
      have hl := (hst.inv.restoring hp).next_on_disk
      cases b with
      | none => exact absurd hl (hst.stocked.readable k)
      | some st =>
        obtain ⟨hnd, _, hnt⟩ := restoreBegin_outcome (i := i) (n := w.node) none
          (hst.recorded.disk k _ hl) (hst.housed.disk k _ hl)
        simp only [World.restore, hp, Option.some.injEq] at hn
        subst hn
        refine ⟨?_, ?_, fun _ _ t' _ _ hph st' dep he => ?_⟩
        · rw [hnd, hd]
        · rw [hnd, hpd]
        · have hwt := Restored.wait_of_phase hph
          rw [he] at hwt
          exact hnt st' dep hwt

theorem World.Recovered.rests (hw : w.Recovered h before) (hk : w.stored k = some r) :
    r.Rests h w.node.pods ∧ (r.phase ≠ .active → before k = some r) := by
  have ha : w.node.state.active.lookup k = some r := by
    have hm := hw.mirrored k
    rw [World.stored_eq_some.1 hk] at hm
    obtain ⟨r', hr', he⟩ := Option.map_eq_some_iff.1 hm.symm
    cases he
    exact hr'
  cases hb : before k with
  | none =>
    rw [hw.absent k hb] at ha
    cases ha
  | some r₀ =>
    have hs := hw.settled k r₀ hb
    rw [ha] at hs
    cases hs with
    | kept hp hd hr =>
      obtain ⟨pod, _, _, hpd, _⟩ := hr
      exact ⟨.inl ⟨hp, hd, Option.isSome_iff_exists.2 ⟨pod, hpd⟩⟩, fun _ => rfl⟩
    | forward hp hd _ hr =>
      obtain ⟨pod, _, _, hpd, _⟩ := hr
      exact ⟨.inl ⟨rfl, hd, Option.isSome_iff_exists.2 ⟨pod, hpd⟩⟩, fun hne => absurd rfl hne⟩
    | stuck hst => exact ⟨.inr hst, fun _ => rfl⟩

theorem World.Recovered.recover_again (hsr : Startable h before) (hw : w.Recovered h before)
    (hv : h.config.validate = .ok ()) (hi : i.loaded = .ok ())
    (hs : ∀ w : World, w.smooth (answer w) = true) :
    ∃ w', w.recover h i answer = some w' ∧ w'.phase = .running ∧ w.Same w' := by
  have hsd := reach_steady hw.reach
  have hag : Startable h w.stored := by
    refine ⟨fun _ _ _ _ => hsd.separate.stored, fun k r prev rid req exe dep hr hp hpl => ?_⟩
    have ho := (hw.rests hr).2 fun ha => by
      rw [hp] at ha
      cases ha
    exact hsr.keeps k r prev rid req exe dep ho hp hpl
  obtain ⟨w₁, hrt, hrc, hst, hpd, hp⟩ := World.restarts hw.reach hv hi
  have hrst : w₁.Rests w.node.store w.node.pods := by
    refine ⟨hst, hpd, fun _ _ _ _ _ hc => ?_⟩
    rw [hp] at hc
    cases hc
  have hn : ∀ u : World, u.Recovers h w.stored ∧ u.Rests w.node.store w.node.pods →
      ∃ u', u.restore h (answer u) = some u' ∧
        (u'.Recovered h w.stored ∧ u'.Rests w.node.store w.node.pods ∨
          (u'.Recovers h w.stored ∧ u'.Rests w.node.store w.node.pods) ∧ u'.rank < u.rank) := by
    rintro u ⟨hu, hres⟩
    obtain ⟨u', hrs, hcs⟩ := hu.next hag (hs u)
    have hr' := hres.next hag hu (fun k r hr => (hw.rests hr).1) (hs u) hrs
    exact ⟨u', hrs, hcs.imp (fun hF => ⟨hF, hr'⟩) fun hI => ⟨⟨hI.1, hr'⟩, hI.2⟩⟩
  rw [← hst] at hp
  obtain ⟨w', hre, he, hf⟩ := World.recover_settles hrt hp hn
    (fun u hu => hu.1.ended) ⟨hrc, hrst⟩
  refine ⟨w', hre, he.running, hf.disk, hf.runtime, fun k => ?_⟩
  have hm := he.mirrored k
  rw [hf.disk, hw.mirrored k] at hm
  exact (Option.map_injective (Option.some_injective _) hm).symm

namespace Reference

def truthful (w : World) : Input :=
  match w.phase with
  | .restoring _ (some (_, .status stored)) _ _ =>
    if (w.node.pods.lookup stored.runtimeId).isSome then input "" else failing
  | _ => input ""

theorem truthful_smooth (w : World) : w.smooth (truthful w) = true := by
  unfold World.smooth truthful
  split
  · next pend k st act quar hp =>
    simp only [hp]
    cases (w.node.pods.lookup st.runtimeId).isSome with
    | true | false => rfl
  · next hn =>
    split
    · next hp => exact (hn _ _ _ _ _ hp).elim
    · rfl

def creatingRun : List Action :=
  startUp ++ reserve 0 "a" "n1" 1000 1024 1024 ++
    [.receive 0 (.deploy (grant "a" "Pod/a\n" "a" "n2")) (input ""), .poll 0 (input ""),
      .poll 0 (input "")]

end Reference

open Reference

end Podmesh
