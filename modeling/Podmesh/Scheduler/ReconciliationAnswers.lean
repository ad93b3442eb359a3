import Podmesh.Scheduler.Reconciliation

namespace Podmesh

namespace Reconciliation

namespace Pending

/-- What is recorded of a request stays recorded. -/
structure Later (p p' : Pending) : Prop where
  expected : p'.expected = p.expected
  answers : ∀ agent sealedResponse, p.answers.lookup agent = some sealedResponse →
    p'.answers.lookup agent = some sealedResponse
  unreachable : ∀ agent ∈ p.unreachableAgents,
    agent ∈ p'.unreachableAgents ∨ (p'.answers.lookup agent).isSome = true
  completed : p.completed ⊆ p'.completed

theorem Later.refl (p : Pending) : Later p p where
  expected := rfl
  answers _ _ h := h
  unreachable _ h := .inl h
  completed := Finset.Subset.refl _

theorem Later.trans (h : Later p p') (h' : Later p' p'') : Later p p'' where
  expected := h'.expected.trans h.expected
  answers ag sealed ha := h'.answers ag _ (h.answers ag _ ha)
  unreachable := by
    intro ag ha
    rcases h.unreachable ag ha with hm | hm
    · exact h'.unreachable ag hm
    · obtain ⟨sealed, hm⟩ := Option.isSome_iff_exists.1 hm
      right
      rw [h'.answers ag sealed hm]
      rfl
  completed := h.completed.trans h'.completed

theorem Applied.later (ha : Applied r scheduler request event addedBytes request') :
    Later request request' := by
  cases ha with
  | @answered agent _ hn =>
    refine ⟨rfl, ?_, ?_, Finset.Subset.refl _⟩
    · intro other answer ho
      have hne : other ≠ agent := by
        rintro rfl
        rw [hn] at ho
        cases ho
      exact (AList.lookup_insert_ne hne).trans ho
    · intro other ho
      by_cases hne : other = agent
      · subst hne
        right
        exact congrArg Option.isSome (AList.lookup_insert _)
      · exact .inl (Finset.mem_erase.2 ⟨hne, ho⟩)
  | @known agent _ _ hol =>
    refine ⟨rfl, fun _ _ h => h, ?_, Finset.Subset.refl _⟩
    intro other ho
    by_cases hne : other = agent
    · subst hne
      right
      exact congrArg Option.isSome hol
    · exact .inl (Finset.mem_erase.2 ⟨hne, ho⟩)
  | unreachable =>
    refine ⟨rfl, fun _ _ h => h, ?_, Finset.Subset.refl _⟩
    intro other ho
    exact .inl (Finset.mem_insert_of_mem ho)
  | reachable => exact .refl request
  | completed => exact ⟨rfl, fun _ _ h => h, fun _ h => .inl h, Finset.subset_insert _ _⟩

theorem Applied.lookup_answer (ha : Applied r sch req (.agentAnswer ag sealed) added req') :
    req'.answers.lookup ag = some ((req.answers.lookup ag).getD sealed) := by
  cases ha with
  | answered hn =>
    rw [hn]
    exact AList.lookup_insert _
  | known ho =>
    rw [ho]
    exact ho

theorem mem_answers_outcome (req : Pending) (ag sealedResponse : Bytes) :
    ⟨ag, sealedResponse⟩ ∈ req.outcome.answers ↔ req.answers.lookup ag = some sealedResponse := by
  rw [outcome, List.mem_insertionSort, List.mem_map]
  constructor
  · rintro ⟨⟨a, v⟩, hm, he⟩
    cases he
    exact AList.mem_lookup_iff.2 hm
  · intro h
    exact ⟨⟨ag, sealedResponse⟩, AList.mem_lookup_iff.1 h, rfl⟩

end Pending

def RegistryCall.Leaves (queryId : String) : RegistryCall → Prop
  | .begin other _ | .finish other | .cancel other => other ≠ queryId
  | .record _ _ => True

namespace RegistryState

variable {s : RegistryState}

theorem lookup_call (hc : c.Leaves queryId) (hne : ∀ sch resp, c ≠ .record sch resp) :
    (s.call r c).pending.lookup queryId = s.pending.lookup queryId := by
  cases c with
  | begin oth expected =>
    rw [call]
    split
    · next s' hs =>
      obtain ⟨_, _, rfl⟩ := begin_ok hs
      exact AList.lookup_insert_ne (Ne.symm hc)
    · rfl
  | finish oth => rw [call, pending_finish, AList.lookup_erase_ne (Ne.symm hc)]
  | cancel oth => rw [call, pending_cancel, AList.lookup_erase_ne (Ne.symm hc)]
  | record sch resp => exact absurd rfl (hne sch resp)

theorem later_call (hc : c.Leaves queryId) (hp : s.pending.lookup queryId = some request) :
    ∃ request', (s.call r c).pending.lookup queryId = some request' ∧ request.Later request' := by
  cases c with
  | begin | finish | cancel =>
    exact ⟨request, (lookup_call hc (fun _ _ => nofun)).trans hp, .refl request⟩
  | record scheduler response =>
    have hcs := record_cases r s scheduler response
    rw [call]
    generalize s.record r scheduler response = result at hcs ⊢
    cases hcs with
    | refused hs => exact ⟨request, (hs.pending queryId).trans hp, .refl request⟩
    | gone => exact ⟨request, hp, .refl request⟩
    | @applied _ request₁ _ hpn _ _ ha =>
      by_cases hq : queryId = response.queryId
      · subst hq
        rw [hp] at hpn
        cases hpn
        exact ⟨request₁, AList.lookup_insert _, ha.later⟩
      · exact ⟨request, (AList.lookup_insert_ne hq).trans hp, .refl request⟩

theorem later_run (hc : ∀ c ∈ calls, c.Leaves queryId)
    (hp : s.pending.lookup queryId = some request) :
    ∃ request', (s.run r calls).pending.lookup queryId = some request' ∧
      request.Later request' := by
  induction calls generalizing s request with
  | nil => exact ⟨request, hp, .refl request⟩
  | cons c calls ih =>
    obtain ⟨mid, hm, hl⟩ := later_call (hc c List.mem_cons_self) hp
    obtain ⟨last, hls, hl'⟩ := ih (fun d hd => hc d (List.mem_cons_of_mem c hd)) hm
    exact ⟨last, hls, hl.trans hl'⟩

structure Delivers (r : ReconciliationRegistry) (s : RegistryState) (scheduler : Bytes)
    (response : SchedulerReconciliationResponse) (request : Pending) (agent genuine : Bytes) :
    Prop where
  pending : s.pending.lookup response.queryId = some request
  expected : scheduler ∈ request.expected
  responder : decodeEndpoint r response.responderEndpoint.endpointId = .ok scheduler
  event : response.event = .agentAnswer agent genuine
  agent : decodeEndpoint r agent = .ok agent

theorem record_delivered (h : Delivers r s sch resp req ag genuine) :
    (∃ e, req.checkAnswer s.answerBytes ag genuine = .error e ∧
      s.record r sch resp = (.error e, s)) ∨
    req.checkAnswer s.answerBytes ag genuine = .ok () ∧
      ∃ req' addedBytes, s.record r sch resp =
        (.ok (), ⟨s.pending.insert resp.queryId req', s.answerBytes + addedBytes⟩) ∧
      req'.answers.lookup ag = some ((req.answers.lookup ag).getD genuine) := by
  have hc : s.checkRecord r sch resp =
      (do req.checkAnswer s.answerBytes ag genuine; return some req) := by
    have he : ensure (sch ∈ req.expected)
        "unexpected scheduler answered reconciliation query" = .ok () :=
      ensure_ok.2 (decide_eq_true h.expected)
    simp only [checkRecord, h.responder, h.pending, h.event, Pending.checkEvent, h.agent, bind,
      Except.bind, he]
    simp [ensure]
  rw [RegistryState.record, hc, h.event]
  cases hr : req.checkAnswer s.answerBytes ag genuine with
  | error e => exact .inl ⟨e, rfl, rfl⟩
  | ok u =>
    right
    obtain ⟨addedBytes, req', hex, ha⟩ :=
      Pending.exec_apply_answer h.agent sch genuine req
    refine ⟨rfl, req', addedBytes, ?_, ha.lookup_answer⟩
    show s.store resp.queryId _ = _
    rw [hex]
    rfl

/-- The outcome of a request names the genuine answer of an agent and no other. -/
def Reports (s : RegistryState) (queryId : String) (agent genuine : Bytes) : Prop :=
  ∃ outcome, (s.finish queryId).1 = .ok outcome ∧
    ∀ sealedResponse, ⟨agent, sealedResponse⟩ ∈ outcome.answers ↔ sealedResponse = genuine

theorem reports_iff (hp : s.pending.lookup qid = some req) :
    s.Reports qid ag genuine ↔ req.answers.lookup ag = some genuine := by
  simp only [Reports, finish, hp, Except.ok.injEq]
  constructor
  · rintro ⟨outcome, rfl, h⟩
    exact (req.mem_answers_outcome ag genuine).1 ((h genuine).2 rfl)
  · intro h
    refine ⟨req.outcome, rfl, fun sealed => ?_⟩
    rw [req.mem_answers_outcome, h, Option.some.injEq]
    exact eq_comm

/-- An answer that an expected scheduler delivers is the one in the outcome, whatever the other
schedulers send later, exactly if it is stored already, or none is stored and there is room. -/
theorem delivered_answer_reported_iff (r : ReconciliationRegistry) (s : RegistryState)
    (scheduler : Bytes) (response : SchedulerReconciliationResponse) (request : Pending)
    (agent genuine : Bytes) (h : Delivers r s scheduler response request agent genuine) :
    (∀ calls, (∀ c ∈ calls, RegistryCall.Leaves response.queryId c) →
      ((s.call r (.record scheduler response)).run r calls).Reports response.queryId agent genuine) ↔
    request.answers.lookup agent = some genuine ∨
      request.answers.lookup agent = none ∧ request.Room s.answerBytes genuine := by
  have hcl : s.call r (.record scheduler response) = (s.record r scheduler response).2 := rfl
  rcases record_delivered h with ⟨e, hrm, hrc⟩ | ⟨hrm, request', addedBytes, hrc, hlk⟩
  · -- refused: the outcome of a finish right away has no answer of the agent
    have hn : request.answers.lookup agent = none := by
      cases hl : request.answers.lookup agent with
      | none => rfl
      | some old =>
        simp only [Pending.checkAnswer, hl] at hrm
        cases hrm
    rw [hcl, hrc]
    constructor
    · intro ha
      have hnw := ha [] (fun c hc => by cases hc)
      exact .inl ((reports_iff h.pending).1 hnw)
    · rintro (hs | ⟨_, hfr⟩)
      · rw [hn] at hs
        cases hs
      · rw [(Pending.checkAnswer_of_new hn).2 hfr] at hrm
        cases hrm
  · have hp : (s.call r (.record scheduler response)).pending.lookup response.queryId =
        some request' := by
      rw [hcl, hrc]
      exact AList.lookup_insert _
    constructor
    · intro ha
      have hnw := ha [] (fun c hc => by cases hc)
      have hr := (reports_iff hp).1 hnw
      rw [hlk] at hr
      cases hl : request.answers.lookup agent with
      | none => exact .inr ⟨rfl, (Pending.checkAnswer_of_new hl).1 hrm⟩
      | some old =>
        rw [hl] at hr
        exact .inl hr
    · intro hf calls hca
      have hg : request'.answers.lookup agent = some genuine := by
        rcases hf with hs | ⟨hn, _⟩
        · rw [hlk, hs]
          rfl
        · rw [hlk, hn]
          rfl
      obtain ⟨last, hls, hlt⟩ := later_run hca hp
      exact (reports_iff hls).2 (hlt.answers agent genuine hg)

def sampleRegistry : ReconciliationRegistry := .new 8 fun _ => true

def sampleId (id : UInt8) : Bytes := List.replicate 32 id

def sampleOpen : RegistryState :=
  RegistryState.empty.run sampleRegistry [.begin "q" {sampleId 1, sampleId 2}]

def sampleAnswer (scheduler : UInt8) (sealedResponse : Bytes) : SchedulerReconciliationResponse where
  queryId := "q"
  responderEndpoint := ⟨1, sampleId scheduler, none, [], "", 0, 0, ""⟩
  event := .agentAnswer (sampleId 3) sealedResponse

theorem delivered_answer_reported_sample :
    Delivers sampleRegistry sampleOpen (sampleId 1) (sampleAnswer 1 [7])
      (.new {sampleId 1, sampleId 2}) (sampleId 3) [7] ∧
    ∀ calls, (∀ c ∈ calls, RegistryCall.Leaves "q" c) →
      ((sampleOpen.call sampleRegistry (.record (sampleId 1) (sampleAnswer 1 [7]))).run
        sampleRegistry calls).Reports "q" (sampleId 3) [7] := by
  have hd : Delivers sampleRegistry sampleOpen (sampleId 1) (sampleAnswer 1 [7])
      (.new {sampleId 1, sampleId 2}) (sampleId 3) [7] :=
    ⟨rfl, Finset.mem_insert_self _ _, rfl, rfl, rfl⟩
  have hr : (Pending.new {sampleId 1, sampleId 2}).Room sampleOpen.answerBytes [7] :=
    ⟨by decide, by decide, by decide⟩
  exact ⟨hd, (delivered_answer_reported_iff _ _ _ _ _ _ _ hd).2 (.inr ⟨rfl, hr⟩)⟩

/-- Scheduler 2, which does not hold the agent, sends a forged answer before scheduler 1 delivers the
genuine one. -/
theorem forged_answer_preempts :
    let forged := sampleOpen.call sampleRegistry (.record (sampleId 2) (sampleAnswer 2 [6]))
    (∃ request, Delivers sampleRegistry forged (sampleId 1) (sampleAnswer 1 [7]) request
      (sampleId 3) [7]) ∧
    (forged.record sampleRegistry (sampleId 1) (sampleAnswer 1 [7])).1 = .ok () ∧
    (forged.call sampleRegistry (.record (sampleId 1) (sampleAnswer 1 [7]))).Reports "q"
      (sampleId 3) [6] := by
  intro forged
  have hf : ∃ request, forged.pending.lookup "q" = some request ∧
      sampleId 1 ∈ request.expected := by
    refine ⟨_, rfl, ?_⟩
    exact Finset.mem_insert_self _ _
  have haf : ∃ request, (forged.call sampleRegistry
      (.record (sampleId 1) (sampleAnswer 1 [7]))).pending.lookup "q" = some request ∧
      request.answers.lookup (sampleId 3) = some [6] := by
    exact ⟨_, rfl, rfl⟩
  obtain ⟨request, hp, he⟩ := hf
  obtain ⟨last, hl, ha⟩ := haf
  exact ⟨⟨request, hp, he, rfl, rfl, rfl⟩, rfl, (reports_iff hl).2 ha⟩

end RegistryState
end Reconciliation
end Podmesh
