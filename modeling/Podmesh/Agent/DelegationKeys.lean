import Podmesh.Agent.EnrollmentKeys

namespace Podmesh

variable {h : Host} {i : Input} {n : Node} {w w' : World} {k : String}

structure Mint where
  workloadId : String
  digest : String
  keys : ConnectorKeys

/-- The identity minted in a step: the binding is committed and the connector needs a credential. -/
def World.mint (h : Host) (w : World) : Action → Option Mint
  | .poll task i =>
    match w.tasks.lookup task with
    | some (.enrollInspect stored delegation) =>
      match (enrollInspect h i w.node stored delegation).2, i.report,
          h.platform.encodeDelegation delegation with
      | .next _, .ok report, .ok encoded =>
        some ⟨stored.grant.workloadId, h.platform.blake3Hex [encoded], report.keys⟩
      | _, _, _ => none
    | _ => none
  | _ => none

def World.restores (h : Host) (w : World) : Action → Option String
  | .restore i => (w.recreates h (.restore i)).map Prod.fst
  | .restoreEffect i => (w.recreates h (.restoreEffect i)).map Prod.fst
  | _ => none

/-- The pod of the workload was recreated by a restore, or its record was removed. -/
def World.ends (h : Host) (w : World) (a : Action) (w' : World) (workloadId : String) : Bool :=
  (w.restores h a == some workloadId) ||
    ((w.node.store.workloads.lookup workloadId).isSome &&
      (w'.node.store.workloads.lookup workloadId).isNone)

/-- The agent, with the identities it minted for every workload since its pod was last recreated by
a restore or its record removed. -/
structure Minting where
  world : World
  mints : List Mint

namespace Minting

def fresh : Minting := ⟨.fresh, []⟩

def step (h : Host) (s : Minting) (a : Action) : Option Minting :=
  (s.world.step h a).map fun world =>
    ⟨world, (s.world.mint h a).toList ++
      s.mints.filter fun m => !s.world.ends h a world m.workloadId⟩

def Agree (s : Minting) : Prop :=
  ∀ m ∈ s.mints, ∀ m' ∈ s.mints, m.workloadId = m'.workloadId → m.digest = m'.digest →
    m.keys = m'.keys

/-- The step condition: when an enrollment meets a digest that was minted before, the stored binding
of the workload is still one for this digest. -/
def keepsBinding (h : Host) (s : Minting) : Action → Bool
  | .poll task _ =>
    match s.world.tasks.lookup task with
    | some (.enrollInspect stored delegation) =>
      match h.platform.encodeDelegation delegation with
      | .ok encoded => s.mints.all fun m =>
          m.workloadId != stored.grant.workloadId || m.digest != h.platform.blake3Hex [encoded] ||
            (s.world.node.store.enrollments.lookup m.workloadId).any
              fun b => b.delegationDigest == m.digest
      | .error _ => true
    | _ => true
  | _ => true

end Minting

section Bindings

theorem World.restore_bindings (hs : w.restore h i = some w')
    (hb : w'.node.store.enrollments.lookup k = some b) :
    w.node.store.enrollments.lookup k = some b := by
  unfold World.restore at hs
  split at hs
  · cases hs
    exact ((restoreContinue_result h i w.node _).cleared.change.survives hb).1
  · cases hs
    exact hb
  · cases hs
    obtain ⟨_, _, _, hcl⟩ := restoreBegin_cases h i w.node _
    exact (hcl.change.survives hb).1
  · dsimp only at hs
    split at hs
    · cases hs
      exact hb
    · cases hs
      exact hb
  · cases hs

theorem World.step_bindings (hs : w.step h a = some w')
    (hb : w'.node.store.enrollments.lookup k = some b) :
    w.node.store.enrollments.lookup k = some b ∨ ∃ task i stored delegation, a = .poll task i ∧
      w.tasks.lookup task = some (.enrollInspect stored delegation) ∧
      (enrollInspect h i w.node stored delegation).1.store.enrollments.lookup k = some b := by
  have hc := step_cases hs
  cases hc with
  | continued | quarantined | begun | started | refused =>
    exact .inl (World.restore_bindings hs hb)
  | received =>
    rw [World.received_store] at hb
    exact .inl hb
  | cancelled =>
    rw [dropGuard_store] at hb
    exact .inl hb
  | @polled task t p e input hl =>
    simp only [World.step, hl, Option.some.injEq] at hs
    rw [← hs, World.advance_store] at hb
    cases ht : t.isInspection with
    | false => exact .inl (((poll_outcome h input w.node t).store ht).survives hb).1
    | true =>
      cases t with
      | enrollInspect stored delegation =>
        exact .inr ⟨task, input, stored, delegation, rfl, hl, hb⟩
      | _ => cases ht
  | _ => exact .inl hb

structure BoundBy (h : Host) (i : Input) (n n' : Node) (stored : StoredWorkload)
    (delegation : EnrollmentDelegation) (report : ConnectorReport) (encoded : Bytes) : Prop where
  reported : i.report = .ok report
  encodes : h.platform.encodeDelegation delegation = .ok encoded
  compared : ∀ e, n.store.enrollments.lookup stored.grant.workloadId = some e →
    e.delegationDigest = h.platform.blake3Hex [encoded] → e = h.binding stored encoded report
  bound : n'.store.enrollments.lookup stored.grant.workloadId =
    some (h.binding stored encoded report)
  others : ∀ k, k ≠ stored.grant.workloadId →
    n'.store.enrollments.lookup k = n.store.enrollments.lookup k

theorem saveBinding_cases (hk : binding.workloadId = k)
    (hs : (if n.store.enrollments.lookup k = some binding then (n, .ok ()) else n.write i
      (·.saveEnrollment binding)) = (node, res)) :
    (node = n ∧ ∃ e, res = .error e) ∨ res = .ok () ∧
      node.store.enrollments.lookup k = some binding ∧
      ∀ k', k' ≠ k → node.store.enrollments.lookup k' = n.store.enrollments.lookup k' := by
  subst hk
  split at hs
  · next hl =>
    cases hs
    exact .inr ⟨rfl, hl, fun _ _ => rfl⟩
  · unfold Node.write at hs
    split at hs
    · cases hs
      exact .inr ⟨rfl, AList.lookup_insert _, fun _ hk => AList.lookup_insert_ne hk⟩
    · cases hs
      exact .inl ⟨rfl, _, rfl⟩

theorem enrollInspect_reads (h : Host) (i : Input) (n : Node) (st : StoredWorkload)
    (del : EnrollmentDelegation) :
    ((enrollInspect h i n st del).1 = n ∧ ∀ t, (enrollInspect h i n st del).2 ≠ .next t) ∨
      ∃ report encoded, i.report = .ok report ∧
        h.platform.encodeDelegation del = .ok encoded ∧ i.loaded = .ok () := by
  cases hr : i.report with
  | error e =>
    simp only [enrollInspect, hr, bind, Except.bind]
    exact .inl ⟨trivial, fun _ hn => by cases hn⟩
  | ok report =>
    cases he : h.platform.encodeDelegation del with
    | error e =>
      simp only [enrollInspect, hr, he, bind, Except.bind]
      exact .inl ⟨trivial, fun _ hn => by cases hn⟩
    | ok encoded =>
      cases hl : i.loaded with
      | error e =>
        simp only [enrollInspect, hr, he, hl, bind, Except.bind]
        exact .inl ⟨trivial, fun _ hn => by cases hn⟩
      | ok _ => exact .inr ⟨report, encoded, rfl, rfl, rfl⟩

theorem enrollInspect_cases (h : Host) (i : Input) (n : Node) (st : StoredWorkload)
    (del : EnrollmentDelegation) :
    ((enrollInspect h i n st del).1 = n ∧ ∀ t, (enrollInspect h i n st del).2 ≠ .next t) ∨
      ∃ report encoded, BoundBy h i n (enrollInspect h i n st del).1 st del report encoded := by
  rcases enrollInspect_reads h i n st del with
    hed | ⟨report, encoded, hr, hen, hl⟩
  · exact .inl hed
  · rw [enrollInspect_eq hr hen hl]
    split
    · exact .inl ⟨rfl, fun _ hn => by cases hn⟩
    · next hp =>
      have hc : ∀ e, n.store.enrollments.lookup st.grant.workloadId = some e →
          e.delegationDigest = h.platform.blake3Hex [encoded] →
          e = h.binding st encoded report := by
        intro e he hd
        rw [he, Option.any_some, Bool.and_eq_true] at hp
        by_contra hne
        exact hp ⟨beq_iff_eq.2 hd, bne_iff_ne.2 hne⟩
      generalize hs : (if n.store.enrollments.lookup st.grant.workloadId =
          some (h.binding st encoded report) then (n, .ok ())
        else n.write i (·.saveEnrollment (h.binding st encoded report))) = saved
      obtain ⟨node, res⟩ := saved
      have hk : (h.binding st encoded report).workloadId = st.grant.workloadId := rfl
      rcases saveBinding_cases hk hs with ⟨rfl, e, rfl⟩ | ⟨rfl, hb, ho⟩
      · exact .inl ⟨rfl, fun _ hn => by cases hn⟩
      · right
        refine ⟨report, encoded, hr, hen, hc, ?_, ?_⟩
        · split <;> exact hb
        · split <;> exact ho

end Bindings

namespace Minting
variable {s s' : Minting}

structure Sound (s : Minting) : Prop where
  agree : s.Agree
  bound : ∀ m ∈ s.mints, ∀ b, s.world.node.store.enrollments.lookup m.workloadId = some b →
    b.delegationDigest = m.digest → b.keys = m.keys

theorem fresh_sound : fresh.Sound where
  agree m hm := by cases hm
  bound m hm := by cases hm

theorem Sound.mono (hs : s.Sound) (hmn : ∀ m ∈ s'.mints, m ∈ s.mints)
    (hbn : ∀ k b, s'.world.node.store.enrollments.lookup k = some b →
      s.world.node.store.enrollments.lookup k = some b) : s'.Sound where
  agree m hm m' hm' := hs.agree m (hmn m hm) m' (hmn m' hm')
  bound m hm b hb := hs.bound m (hmn m hm) b (hbn _ b hb)

def Inspects (s : Minting) (a : Action) (task : Nat) (i : Input) (stored : StoredWorkload)
    (delegation : EnrollmentDelegation) : Prop :=
  a = .poll task i ∧ s.world.tasks.lookup task = some (.enrollInspect stored delegation)

theorem mint_inspects (hm : s.world.mint h a = some m) :
    ∃ task i stored delegation, s.Inspects a task i stored delegation := by
  cases a with
  | poll task i =>
    simp only [World.mint] at hm
    split at hm
    · next stored delegation hl => exact ⟨task, i, stored, delegation, rfl, hl⟩
    · cases hm
  | _ => cases hm

theorem mint_eq (hi : s.Inspects a task i st del)
    (hb : BoundBy h i s.world.node n st del report enc) (hm : s.world.mint h a = some m) :
    m = ⟨st.grant.workloadId, h.platform.blake3Hex [enc], report.keys⟩ := by
  obtain ⟨rfl, hl⟩ := hi
  simp only [World.mint, hl, hb.reported, hb.encodes] at hm
  split at hm
  · next he₁ he₂ he₃ =>
    cases he₂
    cases he₃
    cases hm
    rfl
  · cases hm

theorem mem_step (hm : m ∈ (s.world.mint h a).toList ++
    s.mints.filter fun m => !s.world.ends h a w m.workloadId) :
    s.world.mint h a = some m ∨ m ∈ s.mints := by
  rcases List.mem_append.1 hm with hn | ho
  · exact .inl (Option.mem_toList.1 hn)
  · exact .inr (List.mem_filter.1 ho).1

theorem Sound.reported (hs : s.Sound) (hok : s.keepsBinding h a = true)
    (hi : s.Inspects a task i st del) (hb : BoundBy h i s.world.node n st del report enc)
    (hm : m ∈ s.mints) (hky : m.workloadId = st.grant.workloadId)
    (hd : m.digest = h.platform.blake3Hex [enc]) : m.keys = report.keys := by
  obtain ⟨rfl, hl⟩ := hi
  simp only [keepsBinding, hl, hb.encodes, List.all_eq_true] at hok
  have hbn := hok m hm
  rw [hky, hd, bne_self_eq_false, bne_self_eq_false, Bool.false_or, Bool.false_or,
    Option.any_eq_true] at hbn
  obtain ⟨e, he, hed⟩ := hbn
  have heq := hb.compared e he (beq_iff_eq.1 hed)
  have hk := hs.bound m hm e (hky ▸ he) ((beq_iff_eq.1 hed).trans hd.symm)
  rw [← hk, heq]
  rfl

theorem Sound.inspect (hs : s.Sound) (hok : s.keepsBinding h a = true)
    (hi : s.Inspects a task i st delegation) (he : s.step h a = some s') : s'.Sound := by
  obtain ⟨w, hsp, rfl⟩ := Option.map_eq_some_iff.1 he
  obtain ⟨ha, hl⟩ := hi
  have hst : w.node.store = (enrollInspect h i s.world.node st delegation).1.store := by
    rw [ha, World.step, hl, Option.some.injEq] at hsp
    rw [← hsp, World.advance_store]
    rfl
  rcases enrollInspect_cases h i s.world.node st delegation with
    ⟨hnd, hen⟩ | ⟨report, encoded, hb⟩
  · apply hs.mono
    · intro m hm
      rcases mem_step hm with hnw | ho
      · simp only [World.mint, ha, hl] at hnw
        split at hnw
        · next hn _ _ => exact absurd hn (hen _)
        · cases hnw
      · exact ho
    · intro k b hk
      rw [hst, hnd] at hk
      exact hk
  · have hi : s.Inspects a task i st delegation := ⟨ha, hl⟩
    have ho : ∀ m ∈ s.mints, m.workloadId = st.grant.workloadId →
        m.digest = h.platform.blake3Hex [encoded] → m.keys = report.keys :=
      fun m hm => hs.reported hok hi hb hm
    refine ⟨fun m hm m' hm' hky hd => ?_, fun m hm b hk hd => ?_⟩
    · rcases mem_step hm with hm | hm
      · have hmn := mint_eq hi hb hm
        subst hmn
        rcases mem_step hm' with hm' | hm'
        · rw [mint_eq hi hb hm']
        · exact (ho m' hm' hky.symm hd.symm).symm
      · rcases mem_step hm' with hm' | hm'
        · have hmn := mint_eq hi hb hm'
          subst hmn
          exact ho m hm hky hd
        · exact hs.agree m hm m' hm' hky hd
    · rw [hst] at hk
      by_cases hky : m.workloadId = st.grant.workloadId
      · rw [hky, hb.bound] at hk
        cases hk
        rcases mem_step hm with hm | hm
        · rw [mint_eq hi hb hm]
          rfl
        · exact (ho m hm hky hd.symm).symm
      · rw [hb.others _ hky] at hk
        rcases mem_step hm with hm | hm
        · exact absurd (congrArg Mint.workloadId (mint_eq hi hb hm)) hky
        · exact hs.bound m hm b hk hd

theorem Sound.step (hs : s.Sound) (hok : s.keepsBinding h a = true)
    (he : s.step h a = some s') : s'.Sound := by
  by_cases hi : ∃ task i stored delegation, s.Inspects a task i stored delegation
  · obtain ⟨task, i, stored, delegation, hi⟩ := hi
    exact hs.inspect hok hi he
  · obtain ⟨w, hst, rfl⟩ := Option.map_eq_some_iff.1 he
    apply hs.mono
    · intro m hm
      rcases mem_step hm with hn | ho
      · exact absurd (mint_inspects hn) hi
      · exact ho
    · intro k b hk
      rcases World.step_bindings hst hk with ho | ⟨task, i, stored, delegation, ha, hl, _⟩
      · exact ho
      · exact absurd ⟨task, i, stored, delegation, ha, hl⟩ hi

theorem reach_sound (hr : Reach (step h) (fun s a => s.keepsBinding h a = true) fresh s) :
    s.Sound := by
  apply Reach.invariant Sound fresh_sound _ hr
  intro s a s' _ hs hok he
  exact hs.step hok he

def otherReport (keys : ConnectorKeys) : ConnectorReport := ⟨keys.1 ++ "'", keys.2, false⟩

theorem otherReport_ne (keys : ConnectorKeys) : (otherReport keys).keys ≠ keys := by
  intro he
  have hl := congrArg (fun k : ConnectorKeys => k.1.length) he
  simp [otherReport, ConnectorReport.keys, String.length_append] at hl

theorem inspect_workloads (h : Host) (i : Input) (n : Node) (st : StoredWorkload)
    (del : EnrollmentDelegation) :
    (enrollInspect h i n st del).1.store.workloads = n.store.workloads := by
  rcases enrollInspect_store h i n st del with hs | ⟨_, _, _, _, hs⟩
  · rw [hs]
  · rw [hs]
    rfl

theorem not_agree_of_lost (hl : s.world.tasks.lookup task = some (.enrollInspect stored del))
    (hls : s.keepsBinding h (.poll task i) = false) :
    ∃ j s', s.step h (.poll task j) = some s' ∧ ¬ s'.Agree := by
  simp only [keepsBinding, hl] at hls
  split at hls
  · next enc he =>
    obtain ⟨m, hm, hls⟩ := List.all_eq_false.1 hls
    simp only [Bool.or_eq_true, bne_iff_ne, ne_eq, not_or, not_not, Bool.not_eq_true] at hls
    obtain ⟨⟨hke, hdg⟩, hg⟩ := hls
    let j : Input := { i with report := .ok (otherReport m.keys), loaded := .ok (), stored := .ok () }
    have hr : j.report = .ok (otherReport m.keys) := rfl
    have hn : (enrollInspect h j s.world.node stored del).2 =
        .next (.enrollInstall stored) := by
      apply enrollInspect_accepts hr he rfl rfl
      intro b hb hd
      rw [hke, hb, Option.any_some, hd, hdg, beq_self_eq_true] at hg
      cases hg
    have hmn : s.world.mint h (.poll task j) =
        some ⟨stored.grant.workloadId, h.platform.blake3Hex [enc], (otherReport m.keys).keys⟩ := by
      simp [World.mint, hl, hn, he, hr]
    refine ⟨j, _, by rw [step, World.step, hl]; rfl, fun ha => ?_⟩
    have hky := ha ⟨stored.grant.workloadId, h.platform.blake3Hex [enc],
      (otherReport m.keys).keys⟩ ?_ m ?_ hke.symm hdg.symm
    · exact otherReport_ne m.keys hky
    · rw [hmn]
      exact List.mem_append.2 (.inl (List.mem_singleton.2 rfl))
    · refine List.mem_append.2 (.inr (List.mem_filter.2 ⟨hm, ?_⟩))
      have hk : (s.world.advance task (some (.enrollInspect stored del))
          (enrollInspect h j s.world.node stored del)).node.store.workloads =
          s.world.node.store.workloads := by
        rw [World.advance_store, inspect_workloads]
      rw [Bool.not_eq_true', World.ends, Bool.or_eq_false_iff]
      refine ⟨rfl, ?_⟩
      change (_ && ((s.world.advance task (some (.enrollInspect stored del))
        (enrollInspect h j s.world.node stored del)).node.store.workloads.lookup
          m.workloadId).isNone) = false
      rw [hk]
      cases s.world.node.store.workloads.lookup m.workloadId with
      | none => rfl
      | some r => rfl
  · cases hls

end Minting

/-- An agent gives the identities of one delegation one key pair in every run in which an enrollment
that meets a delegation minted before finds the stored binding to be one for it. Conversely, an
enrollment of such a run that finds no such binding mints other keys for the delegation, if the
connector reports them. -/
theorem one_key_pair_per_delegation (h : Host) :
    (∀ s, Reach (Minting.step h) (fun s a => s.keepsBinding h a = true) .fresh s → s.Agree) ∧
    ∀ s task i stored delegation,
      Reach (Minting.step h) (fun s a => s.keepsBinding h a = true) .fresh s →
      s.world.tasks.lookup task = some (.enrollInspect stored delegation) →
      ((∀ j s', s.step h (.poll task j) = some s' → s'.Agree) ↔
        s.keepsBinding h (.poll task i) = true) := by
  refine ⟨fun s hr => (Minting.reach_sound hr).agree, fun s task i stored delegation hr hl => ?_⟩
  constructor
  · intro ha
    by_contra hls
    obtain ⟨j, s', he, hn⟩ := Minting.not_agree_of_lost hl (Bool.eq_false_iff.2 hls)
    exact hn (ha j s' he)
  · intro hok j s' he
    exact ((Minting.reach_sound hr).step (a := .poll task j) hok he).agree

namespace Reference

/-- A section in which everything succeeds; the connector has the keys of `generation` and no
credential. -/
def asking (generation : String) : Input :=
  { keyed generation with report := .ok { report generation with credentialFresh := false } }

def enrollment (generation : String) : List Action :=
  .enroll 0 (workloadId "a") :: List.replicate 3 (.poll 0 (asking generation))

def identified : List Action :=
  startUp ++ reserve 0 "a" "n1" 2000 1073741824 1073741824 ++
    .receive 0 (.deploy (grant "a" "Pod/a\n" "a" "n2")) (input "") ::
      List.replicate 4 (.poll 0 (keyed "1")) ++ enrollment "1"

def succeeded (previous manifest nonce generation : String) : List Action :=
  .receive 0 (.update (update "a" previous manifest nonce 100 1048576 1048576)) (input "") ::
    List.replicate 4 (.poll 0 (keyed generation)) ++ enrollment generation

end Reference

open Reference

/-- An update to another delegation and one back to the first: its identities have the keys of the
first and of the third pod. -/
theorem returned_delegation_gets_other_keys :
    ∃ s, Reach (Minting.step meshHost) always .fresh s ∧ ¬ s.Agree := by
  obtain ⟨s, hr, m, hm, m', hm', hky, hd, hk⟩ := exists_reach_of_run
    (Minting.step meshHost) always .fresh
    (identified ++ succeeded "Pod/a\n" "Pod/b\n" "n3" "2" ++ succeeded "Pod/b\n" "Pod/a\n" "n4" "3")
    (fun s => ∃ m ∈ s.mints, ∃ m' ∈ s.mints,
      m.workloadId = m'.workloadId ∧ m.digest = m'.digest ∧ m.keys ≠ m'.keys) (by decide +kernel)
  exact ⟨s, hr, fun ha => hk (ha m hm m' hm' hky hd)⟩

/-- Two enrollments of one pod and one after an update: three identities that agree. -/
theorem one_key_pair_per_delegation_sample :
    ∃ s, Reach (Minting.step meshHost)
        (fun s a => s.keepsBinding meshHost a = true) .fresh s ∧
      s.mints.length = 3 ∧ s.Agree := by
  obtain ⟨s, hr, hd⟩ := exists_reach_of_run (Minting.step meshHost)
    (·.keepsBinding meshHost · = true) .fresh
    (identified ++ enrollment "1" ++ succeeded "Pod/a\n" "Pod/b\n" "n3" "2")
    (·.mints.length = 3) (by decide +kernel)
  exact ⟨s, hr, hd, (one_key_pair_per_delegation meshHost).1 s hr⟩

end Podmesh
