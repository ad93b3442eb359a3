import Podmesh.Scheduler.ReconciliationAnswers

namespace Podmesh

namespace Reconciliation

def AnsweredBy (events : List (Bytes × ReconciliationEvent)) (agent : Bytes) : Prop :=
  ∃ scheduler sealedResponse, (scheduler, .agentAnswer agent sealedResponse) ∈ events

def ReportedUnreachable (events : List (Bytes × ReconciliationEvent)) (agent : Bytes) : Prop :=
  ∃ scheduler, (scheduler, .agentUnreachable agent) ∈ events

@[simp] theorem answeredBy_cons : AnsweredBy ((sch, event) :: events) agent ↔
    (∃ sealed, event = .agentAnswer agent sealed) ∨ AnsweredBy events agent := by
  simp [AnsweredBy, exists_or, eq_comm]

@[simp] theorem reportedUnreachable_cons :
    ReportedUnreachable ((sch, event) :: events) agent ↔
      event = .agentUnreachable agent ∨ ReportedUnreachable events agent := by
  simp [ReportedUnreachable, exists_or, eq_comm]

/-- A request holds what some events say, in whatever order they came. -/
structure Pending.Reflects (expected : Finset Bytes) (events : List (Bytes × ReconciliationEvent))
    (req : Pending) : Prop where
  expected : req.expected = expected
  answered : ∀ agent, (req.answers.lookup agent).isSome = true ↔ AnsweredBy events agent
  unreachable : ∀ agent, agent ∈ req.unreachableAgents ↔
    ReportedUnreachable events agent ∧ ¬ AnsweredBy events agent
  completed : ∀ sch, sch ∈ req.completed ↔ (sch, .complete) ∈ events

variable {expected : Finset Bytes}

namespace Pending

theorem Reflects.opened (expected : Finset Bytes) : (Pending.new expected).Reflects expected [] := by
  constructor <;> simp [Pending.new, AnsweredBy, ReportedUnreachable]

theorem Reflects.applied (h : Reflects expected events request)
    (ha : Applied r scheduler request event addedBytes request') :
    Reflects expected ((scheduler, event) :: events) request' := by
  have hk {agent old : Bytes} (hol : request.answers.lookup agent = some old) :
      AnsweredBy events agent := (h.answered agent).1 (congrArg Option.isSome hol)
  cases ha with
  | @answered agent sealedResponse hn =>
    refine ⟨h.expected, ?_, ?_, ?_⟩
    · intro other
      by_cases ho : other = agent
      · subst ho
        simp [storeAnswer]
      · simp [storeAnswer, dropUnreachable, AList.lookup_insert_ne ho, h.answered, Ne.symm ho]
    · intro other
      by_cases ho : other = agent
      · subst ho
        simp [storeAnswer, dropUnreachable]
      · simp [storeAnswer, dropUnreachable, h.unreachable, ho, Ne.symm ho]
    · simp [storeAnswer, dropUnreachable, h.completed]
  | @known agent sealedResponse old hol =>
    refine ⟨h.expected, ?_, ?_, ?_⟩
    · intro other
      by_cases ho : other = agent
      · subst ho
        simp [dropUnreachable, h.answered, hk hol]
      · simp [dropUnreachable, h.answered, Ne.symm ho]
    · intro other
      by_cases ho : other = agent
      · subst ho
        simp [dropUnreachable]
      · simp [dropUnreachable, h.unreachable, ho, Ne.symm ho]
    · simp [dropUnreachable, h.completed]
  | @unreachable agent hn hr =>
    refine ⟨h.expected, ?_, ?_, ?_⟩
    · simp [markUnreachable, h.answered]
    · intro other
      have hf : ¬ AnsweredBy events agent := by
        rw [← h.answered, hn]
        simp
      by_cases ho : other = agent
      · subst ho
        simp [markUnreachable, hf]
      · simp [markUnreachable, h.unreachable, ho, Ne.symm ho]
    · simp [markUnreachable, h.completed]
  | @reachable agent old hol =>
    refine ⟨h.expected, ?_, ?_, ?_⟩
    · simp [h.answered]
    · intro other
      by_cases ho : other = agent
      · subst ho
        simp [h.unreachable, hk hol]
      · simp [h.unreachable, Ne.symm ho]
    · simp [h.completed]
  | completed =>
    refine ⟨h.expected, ?_, ?_, ?_⟩
    · simp [markCompleted, h.answered]
    · simp [markCompleted, h.unreachable]
    · simp [markCompleted, h.completed]

end Pending

namespace RegistryState

/-- The events that the calls record for a query, the latest first. -/
def accepted (r : ReconciliationRegistry) (queryId : String) :
    RegistryState → List RegistryCall → List (Bytes × ReconciliationEvent)
  | _, [] => []
  | s, c :: calls =>
    (s.call r c).accepted r queryId calls ++ match c with
      | .record scheduler response =>
        if response.queryId = queryId ∧ (s.record r scheduler response).1 = .ok () then
          [(scheduler, response.event)]
        else []
      | _ => []

theorem reflects_call {s : RegistryState} (hc : c.Leaves qid)
    (hp : s.pending.lookup qid = some req) (h : req.Reflects expected events) :
    ∃ req', (s.call r c).pending.lookup qid = some req' ∧
      req'.Reflects expected (s.accepted r qid [c] ++ events) := by
  cases c with
  | begin | finish | cancel => exact ⟨req, (lookup_call hc (fun _ _ => nofun)).trans hp, h⟩
  | record sch resp =>
    have hcs := record_cases r s sch resp
    simp only [accepted, call, List.nil_append]
    generalize s.record r sch resp = res at hcs ⊢
    cases hcs with
    | refused hs => exact ⟨req, (hs.pending qid).trans hp, by simpa using h⟩
    | gone hg =>
      refine ⟨req, hp, ?_⟩
      rw [if_neg]
      · exact h
      · rintro ⟨rfl, -⟩
        rw [hp] at hg
        cases hg
    | @applied _ req' _ hpn _ _ ha =>
      by_cases hq : resp.queryId = qid
      · subst hq
        rw [hp] at hpn
        cases hpn
        exact ⟨req', AList.lookup_insert _, by simpa using h.applied ha⟩
      · exact ⟨req, (AList.lookup_insert_ne (Ne.symm hq)).trans hp, by simpa [hq] using h⟩

theorem reflects_run {s : RegistryState} {calls : List RegistryCall}
    (hc : ∀ c ∈ calls, c.Leaves qid) (hp : s.pending.lookup qid = some req)
    (h : req.Reflects expected events) :
    ∃ req', (s.run r calls).pending.lookup qid = some req' ∧
      req'.Reflects expected (s.accepted r qid calls ++ events) := by
  induction calls generalizing s req events with
  | nil => exact ⟨req, hp, h⟩
  | cons c calls ih =>
    obtain ⟨mid, hm, hr⟩ := reflects_call (r := r) (hc c List.mem_cons_self) hp h
    obtain ⟨last, hl, ha⟩ := ih (fun d hd => hc d (List.mem_cons_of_mem c hd)) hm hr
    rw [← List.append_assoc] at ha
    exact ⟨last, hl, ha⟩

end RegistryState

def answeringAgents (outcome : ReconciliationOutcome) : List Bytes :=
  outcome.answers.map ReconciliationAnswer.agentEndpointId

theorem sorted_answeringAgents (req : Pending) :
    (answeringAgents req.outcome).Pairwise endpointOrder := by
  let order (a b : ReconciliationAnswer) := endpointOrder a.agentEndpointId b.agentEndpointId
  have : Std.Total order := ⟨fun a b => Std.Total.total (r := endpointOrder) _ _⟩
  exact List.pairwise_map.2 (List.pairwise_insertionSort order _)

theorem nodup_answeringAgents (req : Pending) : (answeringAgents req.outcome).Nodup := by
  have hp := List.perm_insertionSort
    (fun a b : ReconciliationAnswer => endpointOrder a.agentEndpointId b.agentEndpointId)
    (req.answers.entries.map fun e => ⟨e.1, e.2⟩)
  apply (hp.map ReconciliationAnswer.agentEndpointId).nodup_iff.2
  rw [List.map_map]
  exact req.answers.nodupKeys

/-- What an outcome says about the events of its query: each list is sorted, without duplicates, and
has the endpoints that the events name. -/
structure Describes (expected : Finset Bytes) (events : List (Bytes × ReconciliationEvent))
    (outcome : ReconciliationOutcome) : Prop where
  sorted : ∀ l ∈ [answeringAgents outcome, outcome.unreachableAgents, outcome.unreachableSchedulers],
    l.Pairwise endpointOrder ∧ l.Nodup
  agents : ∀ agent, agent ∈ answeringAgents outcome ↔ AnsweredBy events agent
  unreachableAgents : ∀ agent, agent ∈ outcome.unreachableAgents ↔
    ReportedUnreachable events agent ∧ ¬ AnsweredBy events agent
  unreachableSchedulers : ∀ scheduler, scheduler ∈ outcome.unreachableSchedulers ↔
    scheduler ∈ expected ∧ (scheduler, .complete) ∉ events

theorem Pending.Reflects.describes
    (h : Pending.Reflects expected events req) : Describes expected events req.outcome where
  sorted := by
    simp only [List.forall_mem_cons]
    refine ⟨⟨sorted_answeringAgents req, nodup_answeringAgents req⟩, ?_, ?_, by simp⟩
    · exact ⟨Finset.pairwise_sort _ _, Finset.sort_nodup _ _⟩
    · exact ⟨Finset.pairwise_sort _ _, Finset.sort_nodup _ _⟩
  agents := by
    intro ag
    rw [← h.answered, Option.isSome_iff_exists, answeringAgents, List.mem_map]
    constructor
    · rintro ⟨ans, hm, rfl⟩
      exact ⟨ans.sealedResponse, (req.mem_answers_outcome _ _).1 hm⟩
    · rintro ⟨sealed, hl⟩
      exact ⟨_, (req.mem_answers_outcome ag sealed).2 hl, rfl⟩
  unreachableAgents := by
    intro ag
    rw [Pending.outcome, Finset.mem_sort]
    exact h.unreachable ag
  unreachableSchedulers := by
    intro sch
    rw [Pending.outcome, Finset.mem_sort, Finset.mem_sdiff, h.expected, h.completed]

theorem eq_of_members {l l' : List Bytes} (h : l.Pairwise endpointOrder ∧ l.Nodup)
    (h' : l'.Pairwise endpointOrder ∧ l'.Nodup) (hm : ∀ a, a ∈ l ↔ a ∈ l') : l = l' := by
  have hp := (List.perm_ext_iff_of_nodup h.2 h'.2).2 hm
  exact hp.eq_of_pairwise' h.1 h'.1

/-- Any two orders in which the same events are accepted for a query end with the same outcome, up to
which of several answers for one agent is kept. -/
theorem outcome_order_independent (r : ReconciliationRegistry) (s s' : RegistryState)
    (queryId : String) (expected : Finset Bytes) (calls calls' : List RegistryCall)
    (hs : s.pending.lookup queryId = some (.new expected))
    (hs' : s'.pending.lookup queryId = some (.new expected))
    (hc : ∀ c ∈ calls, RegistryCall.Leaves queryId c)
    (hc' : ∀ c ∈ calls', RegistryCall.Leaves queryId c)
    (hsame : ∀ e, e ∈ s.accepted r queryId calls ↔ e ∈ s'.accepted r queryId calls') :
    ∃ outcome outcome', ((s.run r calls).finish queryId).1 = .ok outcome ∧
      ((s'.run r calls').finish queryId).1 = .ok outcome' ∧
      answeringAgents outcome = answeringAgents outcome' ∧
      outcome.unreachableAgents = outcome'.unreachableAgents ∧
      outcome.unreachableSchedulers = outcome'.unreachableSchedulers ∧
      Describes expected (s.accepted r queryId calls) outcome := by
  obtain ⟨last, hl, hr⟩ := RegistryState.reflects_run (r := r) hc hs (.opened expected)
  obtain ⟨last', hl', hr'⟩ := RegistryState.reflects_run (r := r) hc' hs' (.opened expected)
  rw [List.append_nil] at hr hr'
  have hd := hr.describes
  have hd' := hr'.describes
  have ha (agent : Bytes) : AnsweredBy (s.accepted r queryId calls) agent ↔
      AnsweredBy (s'.accepted r queryId calls') agent := by
    simp [AnsweredBy, hsame]
  refine ⟨last.outcome, last'.outcome, by rw [RegistryState.finish, hl],
    by rw [RegistryState.finish, hl'], ?_, ?_, ?_, hd⟩
  · apply eq_of_members (hd.sorted _ (by simp)) (hd'.sorted _ (by simp))
    intro agent
    rw [hd.agents, hd'.agents, ha]
  · apply eq_of_members (hd.sorted _ (by simp)) (hd'.sorted _ (by simp))
    intro agent
    rw [hd.unreachableAgents, hd'.unreachableAgents, ha]
    simp [ReportedUnreachable, hsame]
  · apply eq_of_members (hd.sorted _ (by simp)) (hd'.sorted _ (by simp))
    intro sch
    rw [hd.unreachableSchedulers, hd'.unreachableSchedulers, hsame]

open RegistryState

/-- Scheduler 1 answers for agent 3, which scheduler 2 reports as unreachable. -/
def disagreeing : List RegistryCall :=
  [.record (sampleId 1) (sampleAnswer 1 [7]),
    .record (sampleId 2)
      { sampleAnswer 2 [] with event := .agentUnreachable (sampleId 3) }]

theorem outcome_order_independent_disagreeing : ∃ outcome outcome',
    ((sampleOpen.run sampleRegistry disagreeing).finish "q").1 =
        .ok outcome ∧
      ((sampleOpen.run sampleRegistry disagreeing.reverse).finish "q").1 =
        .ok outcome' ∧
      answeringAgents outcome = answeringAgents outcome' ∧
      outcome.unreachableAgents = outcome'.unreachableAgents := by
  obtain ⟨outcome, outcome', h, h', ha, hu, -⟩ := outcome_order_independent
    sampleRegistry sampleOpen sampleOpen "q"
    {sampleId 1, sampleId 2} disagreeing disagreeing.reverse rfl rfl
    (by simp [disagreeing, RegistryCall.Leaves]) (by simp [disagreeing, RegistryCall.Leaves])
    (fun e => List.Perm.mem_iff (by decide +kernel))
  exact ⟨outcome, outcome', h, h', ha, hu⟩

end Reconciliation
end Podmesh
