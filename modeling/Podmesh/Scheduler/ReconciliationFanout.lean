import Podmesh.Scheduler.ReconciliationService

namespace Podmesh

def ReconciliationEvent.agent : ReconciliationEvent → Option Bytes
  | .agentAnswer agent _ | .agentUnreachable agent => some agent
  | .complete => none

theorem ReconciliationEvent.agent_ofProbe (p : Bytes × Option Bytes) :
    (ofProbe p).agent = some p.1 := by
  obtain ⟨ag, ans⟩ := p
  cases ans <;> rfl

namespace Reconciliation
namespace Pending

def Accounts (request : Pending) (agent : Bytes) : Prop :=
  agent ∈ request.unreachableAgents ∨ (request.answers.lookup agent).isSome = true

theorem Accounts.later (h : Accounts req agent) (hl : Later req req') : Accounts req' agent := by
  rcases h with h | h
  · exact hl.unreachable agent h
  · obtain ⟨sealed, h⟩ := Option.isSome_iff_exists.1 h
    right
    rw [hl.answers agent sealed h]
    rfl

theorem Applied.accounts (ha : Applied r sch req event added req')
    (hag : event.agent = some agent) : Accounts req' agent := by
  cases ha with
  | answered =>
    cases hag
    right
    exact congrArg Option.isSome (AList.lookup_insert _)
  | known ho | reachable ho =>
    cases hag
    right
    exact congrArg Option.isSome ho
  | unreachable =>
    cases hag
    exact .inl (Finset.mem_insert_self _ _)
  | completed => cases hag

theorem Applied.mem_completed (ha : Applied r scheduler req event added req')
    (hs : s ∈ req'.completed) : s ∈ req.completed ∨ event = .complete ∧ s = scheduler := by
  cases ha with
  | completed =>
    rcases Finset.mem_insert.1 hs with rfl | ho
    · exact .inr ⟨rfl, rfl⟩
    · exact .inl ho
  | answered | known | unreachable | reachable => exact .inl hs

end Pending

namespace RegistryState

variable {s : RegistryState}

theorem record_ok (h : s.record r sch resp = (.ok (), s')) :
    s.pending.lookup resp.queryId = none ∧ s' = s ∨ ∃ req req' added,
      s.pending.lookup resp.queryId = some req ∧ Pending.Applied r sch req resp.event added req' ∧
      s' = ⟨s.pending.insert resp.queryId req', s.answerBytes + added⟩ := by
  have hc := record_cases r s sch resp
  rw [h] at hc
  cases hc with
  | gone hg => exact .inl ⟨hg, rfl⟩
  | applied hp _ _ ha => exact .inr ⟨_, _, _, hp, ha, rfl⟩

def Continues (s s' : RegistryState) : Prop :=
  ∀ queryId request', s'.pending.lookup queryId = some request' →
    ∃ request, s.pending.lookup queryId = some request ∧ Pending.Later request request'

theorem Continues.refl (s : RegistryState) : Continues s s :=
  fun _ req h => ⟨req, h, .refl req⟩

theorem Continues.of_same (h : Same s s') : Continues s s' := by
  intro qid req hr
  rw [h.pending] at hr
  exact ⟨req, hr, .refl req⟩

theorem Continues.of_erase (h : s'.pending = s.pending.erase qid) : Continues s s' := by
  intro oth req hr
  rw [h] at hr
  exact ⟨req, (Assoc.lookup_of_erase hr).2, .refl req⟩

theorem Continues.of_record (h : s.record r sch resp = (.ok (), s')) : Continues s s' := by
  rcases record_ok h with ⟨_, rfl⟩ | ⟨req, req', addedBytes, hp, ha, rfl⟩
  · exact .refl s'
  · intro qid last hl
    rcases Assoc.lookup_insert_cases hl with ⟨rfl, rfl⟩ | ⟨_, ho⟩
    · exact ⟨req, hp, ha.later⟩
    · exact ⟨last, ho, .refl last⟩

end RegistryState
end Reconciliation

namespace Reconciliations
open Reconciliation

def Honest : ReconcileAction → Prop
  | .record _ _ => False
  | .reconcile _ _ _ _ _ | .call _ _ | .collect _ _ _ _ _ | .deliver _ _ _ _ => True

instance (a : ReconcileAction) : Decidable (Honest a) :=
  match a with
  | .record _ _ => inferInstanceAs (Decidable False)
  | .reconcile _ _ _ _ _ | .call _ _ | .collect _ _ _ _ _ | .deliver _ _ _ _ =>
    inferInstanceAs (Decidable True)

theorem published_iff (w : Reconciliations) (qid : String) :
    w.published qid = true ↔
      ∃ id call, w.calls.lookup id = some call ∧ call.queryId = qid ∧ call.published = true := by
  simp only [published, List.any_eq_true, Bool.and_eq_true, beq_iff_eq]
  constructor
  · rintro ⟨⟨id, call⟩, hm, hq, hp⟩
    exact ⟨id, call, AList.mem_lookup_iff.2 hm, hq, hp⟩
  · rintro ⟨id, call, hc, hq, hp⟩
    exact ⟨⟨id, call⟩, AList.mem_lookup_iff.1 hc, hq, hp⟩

theorem published_insert {w w' : Reconciliations} {id : Nat} {call' : ReconcileCall}
    (hcl : w'.calls = w.calls.insert id call')
    (hs : ∀ call, w.calls.lookup id = some call →
      call'.queryId = call.queryId ∧ (call.published = true → call'.published = true))
    (h : w.published qid = true) : w'.published qid = true := by
  obtain ⟨i, call, hc, hq, hp⟩ := (published_iff w qid).1 h
  rw [published_iff, hcl]
  by_cases hi : i = id
  · subst hi
    obtain ⟨hid, hpb⟩ := hs call hc
    exact ⟨i, call', AList.lookup_insert _, hid.trans hq, hpb hp⟩
  · exact ⟨i, call, (AList.lookup_insert_ne hi).trans hc, hq, hp⟩

theorem published_step (h : w.published qid = true) (hs : step r w a = some w') :
    w'.published qid = true := by
  cases step_cases hs with
  | started hn =>
    apply published_insert rfl _ h
    intro call hc
    rw [hn] at hc
    cases hc
  | moved hc | stranded hc | cancelled hc | finished hc =>
    apply published_insert rfl _ h
    intro call' hc'
    rw [hc] at hc'
    cases hc'
    exact ⟨rfl, fun hp => hp⟩
  | began hc =>
    apply published_insert rfl _ h
    intro call' hc'
    rw [hc] at hc'
    cases hc'
    exact ⟨rfl, fun _ => rfl⟩
  | collected | aborted | delivered | recorded => exact h

def Tail (events : List ReconciliationEvent) : Prop :=
  events = [] ∨ ∃ front : List ReconciliationEvent, events = front ++ [.complete] ∧ .complete ∉ front

theorem tail_rest (h : Tail (event :: rest)) : Tail rest ∧ (event = .complete → rest = []) := by
  rcases h with h | ⟨front, h, hf⟩
  · cases h
  · cases front with
    | nil =>
      cases h
      exact ⟨.inl rfl, fun _ => rfl⟩
    | cons e front =>
      cases h
      refine ⟨.inr ⟨front, rfl, fun hm => hf (List.mem_cons_of_mem _ hm)⟩, ?_⟩
      rintro rfl
      exact absurd List.mem_cons_self hf

/-- What holds of a collection: while its request is pending, each agent is reported or its event is
still to be delivered. -/
structure Collected (w : Reconciliations) (c : Collection) : Prop where
  published : w.published c.queryId = true
  tail : Tail c.events
  completed : c.completed = true → c.events = []
  accounted : ∀ request, w.registry.pending.lookup c.queryId = some request →
    ∀ agent ∈ c.attached, request.Accounts agent ∨ ∃ event ∈ c.events, event.agent = some agent

def CompletedBy (w : Reconciliations) (queryId : String) (scheduler : Bytes) : Prop :=
  ∃ id c, w.collections.lookup id = some c ∧ c.scheduler = scheduler ∧ c.queryId = queryId ∧
    c.completed = true

structure Complete (w : Reconciliations) (call : ReconcileCall) (request : Pending) : Prop where
  expected : request.expected = call.expected
  completed : ∀ scheduler ∈ request.completed, w.CompletedBy call.queryId scheduler
  accounted : ∀ id c, w.collections.lookup id = some c → c.queryId = call.queryId →
    c.completed = true → ∀ agent ∈ c.attached, request.Accounts agent

structure Fanout (w : Reconciliations) : Prop where
  slots : Registered w
  unpublished : ∀ id call, w.calls.lookup id = some call → call.phase = .beginning →
    call.published = false
  expected : ∀ id call request, w.calls.lookup id = some call → call.phase.holds = true →
    w.registry.pending.lookup call.queryId = some request → request.expected = call.expected
  collections : ∀ id c, w.collections.lookup id = some c → w.Collected c
  completed : ∀ queryId request scheduler, w.registry.pending.lookup queryId = some request →
    scheduler ∈ request.completed → w.CompletedBy queryId scheduler
  outcomes : ∀ id call outcome, w.calls.lookup id = some call → call.phase.outcome = some outcome →
    call.phase.holds = false ∧ ∃ request, outcome = request.outcome ∧ w.Complete call request

theorem Fanout.empty : Fanout .empty where
  slots := .empty _ _
  unpublished := by
    intro _ _ h
    cases h
  expected := by
    intro _ _ _ h
    cases h
  collections := by
    intro _ _ h
    cases h
  completed := by
    intro _ _ _ h
    cases h
  outcomes := by
    intro _ _ _ h
    cases h

theorem Collected.step (h : Collected w c) (hs : step r w a = some w')
    (hrg : ∀ req', w'.registry.pending.lookup c.queryId = some req' →
      ∃ req, w.registry.pending.lookup c.queryId = some req ∧ req.Later req') :
    Collected w' c where
  published := published_step h.published hs
  tail := h.tail
  completed := h.completed
  accounted := by
    intro req' hr' ag ha
    obtain ⟨req, hr, hl⟩ := hrg req' hr'
    rcases h.accounted req hr ag ha with hac | he
    · exact .inl (hac.later hl)
    · exact .inr he

theorem Fanout.queryId_ne {id : Nat} {call : ReconcileCall} (h : Fanout w)
    (hcl : w.calls.lookup id = some call) (hph : call.phase = .beginning)
    (hc : w.Collected c) : c.queryId ≠ call.queryId := by
  intro heq
  obtain ⟨i, other, ho, hq, hp⟩ := (published_iff w c.queryId).1 hc.published
  have hi := h.slots.distinct i id other call ho hcl (hq.trans heq)
  subst hi
  rw [hcl] at ho
  cases ho
  rw [h.unpublished i call hcl hph] at hp
  cases hp

theorem collected_new (hpb : w.published qid = true) (hpr : (probed.map Prod.fst).Perm attached)
    (sch : Bytes) : Collected w (.new sch qid attached probed) where
  published := hpb
  tail := by
    refine .inr ⟨probed.map .ofProbe, rfl, ?_⟩
    intro hm
    obtain ⟨p, _, hp⟩ := List.mem_map.1 hm
    have ha := ReconciliationEvent.agent_ofProbe p
    rw [hp] at ha
    cases ha
  completed := by
    intro h
    cases h
  accounted := by
    intro req _ ag ha
    obtain ⟨p, hp, rfl⟩ := List.mem_map.1 (hpr.mem_iff.2 ha)
    right
    refine ⟨.ofProbe p, ?_, ReconciliationEvent.agent_ofProbe p⟩
    exact List.mem_append_left _ (List.mem_map_of_mem hp)

theorem Collected.delivered {r : ReconciliationService} {registry : RegistryState}
    (h : Collected w c) (hev : c.events = event :: rest)
    (hr : w.registry.record r.registry c.scheduler (c.response ep event) = (.ok (), registry))
    (req' : Pending) (hr' : registry.pending.lookup c.queryId = some req') :
    ∀ agent ∈ c.attached, req'.Accounts agent ∨ ∃ event ∈ rest, event.agent = some agent := by
  intro agent hag
  rcases RegistryState.record_ok hr with
    ⟨hg, rfl⟩ | ⟨req, last, addedBytes, hp, ha, rfl⟩
  · rw [show w.registry.pending.lookup c.queryId = none from hg] at hr'
    cases hr'
  · have hl : req' = last := by
      rw [show (c.response ep event).queryId = c.queryId from rfl, AList.lookup_insert] at hr'
      exact (Option.some.inj hr').symm
    subst hl
    rcases h.accounted req hp agent hag with hac | ⟨e, he, hn⟩
    · exact .inl (hac.later ha.later)
    · rw [hev] at he
      rcases List.mem_cons.1 he with rfl | he
      · exact .inl (ha.accounts hn)
      · exact .inr ⟨e, he, hn⟩

section
variable (h : Fanout w)
include h

theorem Fanout.collections_step (ha : Honest a) (hs : step r w a = some w')
    (id : Nat) (c : Collection) (hc : w'.collections.lookup id = some c) : w'.Collected c := by
  have hk : ∀ c, w.Collected c → RegistryState.Continues w.registry w'.registry →
      w'.Collected c :=
    fun c hol hrg => hol.step hs fun req' => hrg c.queryId req'
  cases step_cases hs with
  | started | moved => exact hk c (h.collections id c hc) (.refl _)
  | began hca hph hb | stranded hca hph hb =>
    obtain ⟨_, _, rfl⟩ := RegistryState.begin_ok hb
    have hol := h.collections id c hc
    apply hol.step hs
    intro req' hr'
    rw [AList.lookup_insert_ne (h.queryId_ne hca hph hol)] at hr'
    exact ⟨req', hr', .refl req'⟩
  | cancelled =>
    exact hk c (h.collections id c hc) (.of_erase (RegistryState.pending_cancel _ _))
  | finished =>
    exact hk c (h.collections id c hc) (.of_erase (RegistryState.pending_finish _ _))
  | collected _ hp hpr =>
    rcases Assoc.lookup_insert_cases hc with ⟨_, rfl⟩ | ⟨_, hol⟩
    · exact collected_new (published_step hp hs) hpr _
    · exact hk c (h.collections id c hol) (.refl _)
  | @aborted _ _ _ n old _ hol hsm =>
    rcases Assoc.lookup_insert_cases hc with ⟨_, rfl⟩ | ⟨_, ho⟩
    · have hkp := hk old (h.collections n old hol) (.of_same hsm)
      exact ⟨hkp.published, hkp.tail, hkp.completed, hkp.accounted⟩
    · exact hk c (h.collections id c ho) (.of_same hsm)
  | @delivered _ _ _ n old _ _ _ hol he hr =>
    rcases Assoc.lookup_insert_cases hc with ⟨_, rfl⟩ | ⟨_, ho⟩
    · have hcl := h.collections n old hol
      have ht := hcl.tail
      rw [he] at ht
      obtain ⟨hrs, hl⟩ := tail_rest ht
      refine ⟨published_step hcl.published hs, hrs, ?_, hcl.delivered he hr⟩
      intro hcm
      simp only [Bool.and_eq_true, beq_iff_eq] at hcm
      exact hl hcm.1
    · exact hk c (h.collections id c ho) (.of_record hr)
  | recorded => cases ha

theorem Fanout.completedBy_step (hs : step r w a = some w')
    (hc : w.CompletedBy qid scheduler) : w'.CompletedBy qid scheduler := by
  obtain ⟨id, c, hl, hsc, hq, hcm⟩ := hc
  cases step_cases hs with
  | @collected _ _ _ n _ hnw =>
    have hne : id ≠ n := by
      rintro rfl
      rw [hnw] at hl
      cases hl
    exact ⟨id, c, (AList.lookup_insert_ne hne).trans hl, hsc, hq, hcm⟩
  | @aborted _ _ _ n _ _ ho =>
    by_cases hn : id = n
    · subst hn
      rw [hl] at ho
      cases ho
      exact ⟨id, _, AList.lookup_insert _, hsc, hq, hcm⟩
    · exact ⟨id, c, (AList.lookup_insert_ne hn).trans hl, hsc, hq, hcm⟩
  | @delivered _ _ _ n _ _ _ _ ho he =>
    have hne : id ≠ n := by
      rintro rfl
      rw [hl] at ho
      cases ho
      rw [(h.collections id c hl).completed hcm] at he
      cases he
    exact ⟨id, c, (AList.lookup_insert_ne hne).trans hl, hsc, hq, hcm⟩
  | _ => exact ⟨id, c, hl, hsc, hq, hcm⟩

theorem Fanout.completed_step (ha : Honest a) (hs : step r w a = some w') (qid : String)
    (request' : Pending) (scheduler : Bytes) (hr' : w'.registry.pending.lookup qid = some request')
    (hm : scheduler ∈ request'.completed) : w'.CompletedBy qid scheduler := by
  have hk : w.registry.pending.lookup qid = some request' → w'.CompletedBy qid scheduler :=
    fun ho => h.completedBy_step hs (h.completed qid request' scheduler ho hm)
  cases step_cases hs with
  | started | moved | collected => exact hk hr'
  | began _ _ hb | stranded _ _ hb =>
    obtain ⟨_, _, rfl⟩ := RegistryState.begin_ok hb
    rcases Assoc.lookup_insert_cases hr' with ⟨_, rfl⟩ | ⟨_, ho⟩
    · cases hm
    · exact hk ho
  | cancelled =>
    rw [RegistryState.pending_cancel] at hr'
    exact hk (Assoc.lookup_of_erase hr').2
  | finished =>
    rw [RegistryState.pending_finish] at hr'
    exact hk (Assoc.lookup_of_erase hr').2
  | aborted _ hsm =>
    rw [hsm.pending] at hr'
    exact hk hr'
  | @delivered _ _ _ n c event _ _ hc hev hr =>
    rcases RegistryState.record_ok hr with
      ⟨_, rfl⟩ | ⟨request, last, addedBytes, hp, hap, rfl⟩
    · exact hk hr'
    · rcases Assoc.lookup_insert_cases hr' with ⟨rfl, rfl⟩ | ⟨_, ho⟩
      · rcases hap.mem_completed hm with ho | ⟨he, rfl⟩
        · exact h.completedBy_step hs (h.completed _ request scheduler hp ho)
        · refine ⟨n, _, AList.lookup_insert _, rfl, rfl, ?_⟩
          have hp : w.registry.pending.lookup c.queryId = some request := hp
          have he : event = .complete := he
          rw [hp, he]
          rfl
      · exact hk ho
  | recorded => cases ha

theorem Fanout.complete_step (hs : step r w a = some w')
    (hcl : w.registry.pending.lookup call.queryId = none) (hc : w.Complete call req) :
    w'.Complete call req where
  expected := hc.expected
  completed := by
    intro sch hm
    exact h.completedBy_step hs (hc.completed sch hm)
  accounted := by
    intro id c hl hq hcm
    cases step_cases hs with
    | collected =>
      rcases Assoc.lookup_insert_cases hl with ⟨_, rfl⟩ | ⟨_, hol⟩
      · cases hcm
      · exact hc.accounted id c hol hq hcm
    | @aborted _ _ _ n old _ hol =>
      rcases Assoc.lookup_insert_cases hl with ⟨_, rfl⟩ | ⟨_, ho⟩
      · exact hc.accounted n old hol hq hcm
      · exact hc.accounted id c ho hq hcm
    | @delivered _ _ _ _ old event _ _ hol =>
      rcases Assoc.lookup_insert_cases hl with ⟨_, rfl⟩ | ⟨_, ho⟩
      · have hsm : old.queryId = call.queryId := hq
        have hr : (event == .complete &&
            (w.registry.pending.lookup old.queryId).isSome) = true := hcm
        rw [hsm, hcl, Option.isSome_none, Bool.and_false] at hr
        cases hr
      · exact hc.accounted id c ho hq hcm
    | _ => exact hc.accounted id c hl hq hcm

theorem Fanout.outcomes_step (hs : step r w a = some w') (id : Nat)
    (call : ReconcileCall) (outcome : ReconciliationOutcome)
    (hca : w'.calls.lookup id = some call) (ho : call.phase.outcome = some outcome) :
    call.phase.holds = false ∧ ∃ request, outcome = request.outcome ∧ w'.Complete call request := by
  have hk : w.calls.lookup id = some call → call.phase.holds = false ∧
      ∃ request, outcome = request.outcome ∧ w'.Complete call request := by
    intro hol
    obtain ⟨hh, request, heq, hco⟩ := h.outcomes id call outcome hol ho
    exact ⟨hh, request, heq, h.complete_step hs (h.slots.free hol hh) hco⟩
  cases step_cases hs with
  | started | began | stranded | cancelled =>
    rcases Assoc.lookup_insert_cases hca with ⟨_, rfl⟩ | ⟨_, hol⟩
    · cases ho
    · exact hk hol
  | moved _ _ _ _ hn =>
    rcases Assoc.lookup_insert_cases hca with ⟨_, rfl⟩ | ⟨_, hol⟩
    · rw [hn] at ho
      cases ho
    · exact hk hol
  | @finished n old hf hph =>
    rcases Assoc.lookup_insert_cases hca with ⟨_, rfl⟩ | ⟨_, hol⟩
    · refine ⟨rfl, ?_⟩
      cases hp : w.registry.pending.lookup old.queryId with
      | none =>
        simp only [RegistryState.finish, hp, ReconcilePhase.outcome] at ho
        cases ho
      | some request =>
        simp only [RegistryState.finish, hp, ReconcilePhase.outcome, Option.some.injEq] at ho
        refine ⟨request, ho.symm, ?_, ?_, ?_⟩
        · exact h.expected n old request hf (by rw [hph]; rfl) hp
        · intro sch hm
          exact h.completed old.queryId request sch hp hm
        · intro i c hc hq hcm ag ha
          have hcl := h.collections i c hc
          rw [← show c.queryId = old.queryId from hq] at hp
          rcases hcl.accounted request hp ag ha with hac | ⟨event, he, _⟩
          · exact hac
          · rw [hcl.completed hcm] at he
            cases he
    · exact hk hol
  | collected | aborted | delivered | recorded => exact hk hca

theorem Fanout.unpublished_step (hs : step r w a = some w') (id : Nat)
    (call : ReconcileCall) (hc : w'.calls.lookup id = some call)
    (hp : call.phase = .beginning) : call.published = false := by
  cases step_cases hs with
  | started =>
    rcases Assoc.lookup_insert_cases hc with ⟨_, rfl⟩ | ⟨_, ho⟩
    · rfl
    · exact h.unpublished id call ho hp
  | moved _ _ _ hb =>
    rcases Assoc.lookup_insert_cases hc with ⟨_, rfl⟩ | ⟨_, ho⟩
    · exact absurd hp hb
    · exact h.unpublished id call ho hp
  | began | stranded | cancelled | finished =>
    rcases Assoc.lookup_insert_cases hc with ⟨_, rfl⟩ | ⟨_, ho⟩
    · cases hp
    · exact h.unpublished id call ho hp
  | collected | aborted | delivered | recorded =>
    exact h.unpublished id call hc hp

theorem Fanout.expected_step (ha : Honest a) (hs : step r w a = some w') (id : Nat)
    (call : ReconcileCall) (req' : Pending) (hc : w'.calls.lookup id = some call)
    (hh : call.phase.holds = true) (hr' : w'.registry.pending.lookup call.queryId = some req') :
    req'.expected = call.expected := by
  have hk : w.calls.lookup id = some call →
      RegistryState.Continues w.registry w'.registry → req'.expected = call.expected := by
    intro ho hrg
    obtain ⟨req, hr, hl⟩ := hrg call.queryId req' hr'
    exact hl.expected.trans (h.expected id call req ho hh hr)
  cases step_cases hs with
  | started =>
    rcases Assoc.lookup_insert_cases hc with ⟨_, rfl⟩ | ⟨_, ho⟩
    · cases hh
    · exact hk ho (.refl _)
  | @moved _ n old _ hf hsm =>
    rcases Assoc.lookup_insert_cases hc with ⟨_, rfl⟩ | ⟨_, ho⟩
    · exact h.expected n old req' hf (hsm ▸ hh) hr'
    · exact hk ho (.refl _)
  | @began _ n old _ hf _ hb | @stranded n old _ _ hf _ hb =>
    obtain ⟨_, _, rfl⟩ := RegistryState.begin_ok hb
    rcases Assoc.lookup_insert_cases hr' with ⟨hq, rfl⟩ | ⟨hq, hp⟩
    · rcases Assoc.lookup_insert_cases hc with ⟨_, rfl⟩ | ⟨hne, ho⟩
      · rfl
      · exact absurd (h.slots.distinct id n call old ho hf hq) hne
    · rcases Assoc.lookup_insert_cases hc with ⟨_, rfl⟩ | ⟨_, ho⟩
      · exact absurd rfl hq
      · exact h.expected id call req' ho hh hp
  | cancelled =>
    rcases Assoc.lookup_insert_cases hc with ⟨_, rfl⟩ | ⟨_, ho⟩
    · cases hh
    · exact hk ho (.of_erase (RegistryState.pending_cancel _ _))
  | finished =>
    rcases Assoc.lookup_insert_cases hc with ⟨_, rfl⟩ | ⟨_, ho⟩
    · cases hh
    · exact hk ho (.of_erase (RegistryState.pending_finish _ _))
  | collected => exact hk hc (.refl _)
  | aborted _ hsm => exact hk hc (.of_same hsm)
  | delivered _ _ hrc => exact hk hc (.of_record hrc)
  | recorded => cases ha

end

theorem reach_fanout (h : Reach (step r) (fun w a => FreshQueryId w a ∧ Honest a) .empty w) :
    Fanout w := by
  apply Reach.invariant Fanout .empty _ h
  intro w a w' _ ih ha hs
  exact {
    slots := registered_step ih.slots ha.1 hs
    unpublished := ih.unpublished_step hs
    expected := ih.expected_step ha.2 hs
    collections := ih.collections_step ha.2 hs
    completed := ih.completed_step ha.2 hs
    outcomes := ih.outcomes_step hs }

/-- An outcome that does not list a scheduler as unreachable was taken after a collection of that
scheduler had been delivered in full, and reports every agent of each such collection: in
particular, of its only one. -/
theorem reconciliation_complete (r : ReconciliationService) (w : Reconciliations)
    (h : Reach (step r) (fun w a => FreshQueryId w a ∧ Honest a) .empty w) (id : Nat)
    (call : ReconcileCall) (outcome : ReconciliationOutcome)
    (hcall : w.calls.lookup id = some call) (houtcome : call.phase.outcome = some outcome)
    (scheduler : Bytes) (hexpected : scheduler ∈ call.expected)
    (hreached : scheduler ∉ outcome.unreachableSchedulers) :
    let reported := fun agent => (∃ sealedResponse, ⟨agent, sealedResponse⟩ ∈ outcome.answers) ∨
      agent ∈ outcome.unreachableAgents
    w.CompletedBy call.queryId scheduler ∧
    (∀ i c, w.collections.lookup i = some c → c.scheduler = scheduler →
      c.queryId = call.queryId → c.completed = true → ∀ agent ∈ c.attached, reported agent) ∧
    ∀ i c, w.collections.lookup i = some c → c.scheduler = scheduler → c.queryId = call.queryId →
      (∀ j d, w.collections.lookup j = some d → d.scheduler = scheduler →
        d.queryId = call.queryId → j = i) → ∀ agent ∈ c.attached, reported agent := by
  intro reported
  obtain ⟨_, request, rfl, hco⟩ := (reach_fanout h).outcomes id call outcome hcall houtcome
  rw [Pending.outcome, Finset.mem_sort, Finset.mem_sdiff, hco.expected, not_and, not_not]
    at hreached
  have hby := hco.completed scheduler (hreached hexpected)
  have hr : ∀ i c, w.collections.lookup i = some c → c.queryId = call.queryId →
      c.completed = true → ∀ agent ∈ c.attached, reported agent := by
    intro i c hc hq hcm agent hag
    rcases hco.accounted i c hc hq hcm agent hag with hun | ha
    · exact .inr ((Finset.mem_sort _).2 hun)
    · obtain ⟨sealedResponse, ha⟩ := Option.isSome_iff_exists.1 ha
      exact .inl ⟨sealedResponse, (request.mem_answers_outcome agent sealedResponse).2 ha⟩
  refine ⟨hby, ?_, ?_⟩
  · intro i c hc _ hq hcm
    exact hr i c hc hq hcm
  · intro i c hc hs hq ho
    obtain ⟨j, d, hd, hds, hdq, hdc⟩ := hby
    have hji := ho j d hd hds hdq
    subst hji
    rw [hc] at hd
    cases hd
    exact hr j c hc hq hdc

def sampleFanout : List ReconcileAction :=
  let endpoint : EndpointRecord := ⟨1, [], none, [], "", 0, 0, ""⟩
  [.reconcile 0 [] "q" 100 {List.replicate 32 2}, .call 0 .begin,
    .collect 0 (List.replicate 32 1) "q" [] [], .deliver 0 endpoint true true,
    .collect 1 (List.replicate 32 2) "q" [List.replicate 32 3] [(List.replicate 32 3, some [7])],
    .deliver 1 endpoint true true, .deliver 1 endpoint true true,
    .call 0 (.joined (.ok ())), .call 0 .finish]

theorem reconciliation_complete_sample : ∃ w call outcome,
    Reach (step sampleService) (fun w a => FreshQueryId w a ∧ Honest a) .empty w ∧
    w.calls.lookup 0 = some call ∧ call.phase.outcome = some outcome ∧
    outcome.unreachableSchedulers = [] ∧
    ((∃ sealedResponse, ⟨List.replicate 32 3, sealedResponse⟩ ∈ outcome.answers) ∨
      List.replicate 32 3 ∈ outcome.unreachableAgents) := by
  obtain ⟨w, hrc, ⟨call, hcl, hid, he, outcome, ho, hr⟩, c, hc, hs, hq, hcm, ha⟩ :=
    exists_reach_of_run (step sampleService) (fun w a => FreshQueryId w a ∧ Honest a) .empty
      sampleFanout (fun w => (∃ call, w.calls.lookup 0 = some call ∧ call.queryId = "q" ∧
          List.replicate 32 2 ∈ call.expected ∧ ∃ outcome, call.phase.outcome = some outcome ∧
            outcome.unreachableSchedulers = []) ∧
        ∃ c, w.collections.lookup 1 = some c ∧ c.scheduler = List.replicate 32 2 ∧
          c.queryId = "q" ∧ c.completed ∧ c.attached = [List.replicate 32 3]) (by decide +kernel)
  refine ⟨w, call, outcome, hrc, hcl, ho, hr, ?_⟩
  have hco := reconciliation_complete sampleService w hrc 0 call outcome hcl ho
    (List.replicate 32 2) he (by rw [hr]; exact List.not_mem_nil)
  apply hco.2.1 1 c hc hs (hq.trans hid.symm) hcm
  rw [ha]
  exact List.mem_singleton_self _

end Reconciliations
end Podmesh
