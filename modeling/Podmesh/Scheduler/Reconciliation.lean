import Mathlib.Data.Finset.Sort
import Podmesh.Scheduler.Query

namespace Podmesh

def maxReconciliationAgents : Nat := 2048
def maxPendingReconciliations : Nat := 32
def maxReconciliationAnswerBytes : Nat := 32 * 1024 * 1024
def maxTotalReconciliationAnswerBytes : Nat := 64 * 1024 * 1024

theorem bytesLe_iff (a b : Bytes) : bytesLe a b = true ↔ a ≤ b := by
  induction a generalizing b with
  | nil => simp [bytesLe]
  | cons x xs ih =>
    cases b with
    | nil => simp [bytesLe]
    | cons y ys =>
      rw [List.cons_le_cons_iff, ← ih]
      simp [bytesLe]

def endpointOrder (a b : Bytes) : Prop := bytesLe a b = true

instance : DecidableRel endpointOrder := fun a b => inferInstanceAs (Decidable (bytesLe a b = true))

instance : IsTrans Bytes endpointOrder where
  trans a b c hab hbc :=
    (bytesLe_iff a c).2 (List.le_trans ((bytesLe_iff a b).1 hab) ((bytesLe_iff b c).1 hbc))

instance : Std.Antisymm endpointOrder where
  antisymm a b hab hba := List.le_antisymm ((bytesLe_iff a b).1 hab) ((bytesLe_iff b a).1 hba)

instance : Std.Total endpointOrder where
  total a b := by
    rcases List.le_total a b with h | h
    · exact .inl ((bytesLe_iff a b).2 h)
    · exact .inr ((bytesLe_iff b a).2 h)

inductive ReconciliationEvent where
  | agentAnswer (agentEndpointId sealedResponse : Bytes)
  | agentUnreachable (agentEndpointId : Bytes)
  | complete
  deriving DecidableEq

structure SchedulerReconciliationResponse where
  queryId : String
  responderEndpoint : EndpointRecord
  event : ReconciliationEvent

structure ReconciliationAnswer where
  agentEndpointId : Bytes
  sealedResponse : Bytes
  deriving DecidableEq

structure ReconciliationOutcome where
  answers : List ReconciliationAnswer
  unreachableAgents : List Bytes
  unreachableSchedulers : List Bytes

/-- The registry's limit on pending requests, and the test whether 32 bytes are an endpoint id. -/
structure ReconciliationRegistry where
  maxPending : Nat
  validEndpointId : Bytes → Bool

def ReconciliationRegistry.new (maxPending : Nat) (validEndpointId : Bytes → Bool) :
    ReconciliationRegistry :=
  ⟨min maxPending maxPendingReconciliations, validEndpointId⟩

namespace Reconciliation

structure Pending where
  expected : Finset Bytes
  completed : Finset Bytes
  answers : AList fun _ : Bytes => Bytes
  unreachableAgents : Finset Bytes
  answerBytes : Nat

structure RegistryState where
  pending : AList fun _ : String => Pending
  answerBytes : Nat

def decodeEndpoint (r : ReconciliationRegistry) (bytes : Bytes) : Except String Bytes := do
  ensure (bytes.length == 32) "reconciliation EndpointId length is invalid"
  ensure (r.validEndpointId bytes) "reconciliation EndpointId is invalid"
  return bytes

namespace Pending

def new (expected : Finset Bytes) : Pending := ⟨expected, ∅, ∅, ∅, 0⟩

def agents (self : Pending) : Nat := Assoc.size self.answers + self.unreachableAgents.card

/-- The limits that a new answer is checked against, with the bytes of all requests. -/
def checkAnswer (self : Pending) (stateBytes : Nat) (agent sealedResponse : Bytes) :
    Except String Unit :=
  match self.answers.lookup agent with
  | some _ => return ()
  | none => do
    ensure (self.agents < maxReconciliationAgents) "reconciliation agent answer limit reached"
    ensure (saturatingAdd u64Max self.answerBytes sealedResponse.length ≤
      maxReconciliationAnswerBytes) "reconciliation query answer byte limit reached"
    ensure (saturatingAdd u64Max stateBytes sealedResponse.length ≤
      maxTotalReconciliationAnswerBytes) "scheduler reconciliation answer memory limit reached"

def checkEvent (r : ReconciliationRegistry) (self : Pending) (stateBytes : Nat) :
    ReconciliationEvent → Except String Unit
  | .agentAnswer agentEndpointId sealedResponse => do
    let agent ← decodeEndpoint r agentEndpointId
    self.checkAnswer stateBytes agent sealedResponse
  | .agentUnreachable _ | .complete => return ()

def storeAnswer (agent sealedResponse : Bytes) (self : Pending) : Pending :=
  { self with
    answers := self.answers.insert agent sealedResponse
    answerBytes := self.answerBytes + sealedResponse.length }

def dropUnreachable (agent : Bytes) (self : Pending) : Pending :=
  { self with unreachableAgents := self.unreachableAgents.erase agent }

def markUnreachable (agent : Bytes) (self : Pending) : Pending :=
  { self with unreachableAgents := insert agent self.unreachableAgents }

def markCompleted (scheduler : Bytes) (self : Pending) : Pending :=
  { self with completed := insert scheduler self.completed }

def apply (r : ReconciliationRegistry) (scheduler : Bytes) : ReconciliationEvent → Locked Pending Nat
  | .agentAnswer agentEndpointId sealedResponse => do
    let agent ← liftExcept (decodeEndpoint r agentEndpointId)
    modify (dropUnreachable agent)
    let request ← get
    match request.answers.lookup agent with
    | some _ => return 0
    | none =>
      modify (storeAnswer agent sealedResponse)
      return sealedResponse.length
  | .agentUnreachable agentEndpointId => do
    let agent ← liftExcept (decodeEndpoint r agentEndpointId)
    let request ← get
    match request.answers.lookup agent with
    | some _ => return 0
    | none =>
      liftExcept (ensure (request.agents < maxReconciliationAgents ||
        agent ∈ request.unreachableAgents) "reconciliation agent answer limit reached")
      modify (markUnreachable agent)
      return 0
  | .complete => do
    modify (markCompleted scheduler)
    return 0

def outcome (self : Pending) : ReconciliationOutcome where
  answers := (self.answers.entries.map fun e => ⟨e.1, e.2⟩).insertionSort fun a b =>
    endpointOrder a.agentEndpointId b.agentEndpointId
  unreachableAgents := self.unreachableAgents.sort endpointOrder
  unreachableSchedulers := (self.expected \ self.completed).sort endpointOrder

end Pending

namespace RegistryState

def empty : RegistryState := ⟨∅, 0⟩

def begin (r : ReconciliationRegistry) (self : RegistryState) (queryId : String)
    (expected : Finset Bytes) : Except String RegistryState := do
  ensure (Assoc.size self.pending < r.maxPending) "scheduler reconciliation limit reached"
  ensure (self.pending.lookup queryId).isNone "duplicate scheduler reconciliation query id"
  return { self with pending := self.pending.insert queryId (.new expected) }

theorem begin_ok {self : RegistryState} (h : self.begin r qid expected = .ok s') :
    Assoc.size self.pending < r.maxPending ∧ self.pending.lookup qid = none ∧
      s' = { self with pending := self.pending.insert qid (.new expected) } := by
  obtain ⟨hr, h⟩ := unit_bind_ok.1 h
  obtain ⟨hn, h⟩ := unit_bind_ok.1 h
  cases h
  rw [ensure_ok, decide_eq_true_eq] at hr
  rw [ensure_ok, Option.isNone_iff_eq_none] at hn
  exact ⟨hr, hn, rfl⟩

/-- The first phase of `record`: the request that an event is for, unless it is gone. -/
def checkRecord (r : ReconciliationRegistry) (self : RegistryState) (scheduler : Bytes)
    (response : SchedulerReconciliationResponse) : Except String (Option Pending) := do
  let responder ← decodeEndpoint r response.responderEndpoint.endpointId
  ensure (responder == scheduler)
    "reconciliation response endpoint does not match authenticated scheduler"
  match self.pending.lookup response.queryId with
  | none => return none
  | some request => do
    ensure (scheduler ∈ request.expected) "unexpected scheduler answered reconciliation query"
    request.checkEvent r self.answerBytes response.event
    return some request

def store (self : RegistryState) (queryId : String) :
    Except String Nat × Pending → Except String Unit × RegistryState
  | (.ok addedBytes, request) =>
    (.ok (), ⟨self.pending.insert queryId request, self.answerBytes + addedBytes⟩)
  | (.error e, request) => (.error e, { self with pending := self.pending.insert queryId request })

def record (r : ReconciliationRegistry) (self : RegistryState) (scheduler : Bytes)
    (response : SchedulerReconciliationResponse) : Except String Unit × RegistryState :=
  match self.checkRecord r scheduler response with
  | .error e => (.error e, self)
  | .ok none => (.ok (), self)
  | .ok (some request) =>
    self.store response.queryId ((Pending.apply r scheduler response.event).exec request)

def release (self : RegistryState) (queryId : String) (request : Pending) : RegistryState :=
  ⟨self.pending.erase queryId, self.answerBytes - request.answerBytes⟩

def finish (self : RegistryState) (queryId : String) :
    Except String ReconciliationOutcome × RegistryState :=
  match self.pending.lookup queryId with
  | none => (.error "scheduler reconciliation state disappeared", self)
  | some request => (.ok request.outcome, self.release queryId request)

def cancel (self : RegistryState) (queryId : String) : RegistryState :=
  match self.pending.lookup queryId with
  | none => self
  | some request => self.release queryId request

theorem pending_finish (self : RegistryState) (queryId : String) :
    (self.finish queryId).2.pending = self.pending.erase queryId := by
  rw [finish]
  split
  · next hn => exact (Assoc.erase_of_lookup_none hn).symm
  · rfl

theorem pending_cancel (self : RegistryState) (queryId : String) :
    (self.cancel queryId).pending = self.pending.erase queryId := by
  rw [cancel]
  split
  · next hn => exact (Assoc.erase_of_lookup_none hn).symm
  · rfl

structure Same (s s' : RegistryState) : Prop where
  pending : ∀ queryId, s'.pending.lookup queryId = s.pending.lookup queryId
  answerBytes : s'.answerBytes = s.answerBytes

end RegistryState

theorem decodeEndpoint_ok :
    decodeEndpoint r bytes = .ok ag ↔
      ag = bytes ∧ bytes.length = 32 ∧ r.validEndpointId bytes = true := by
  simp only [decodeEndpoint, unit_bind_ok, ensure_ok, beq_iff_eq]
  constructor
  · rintro ⟨hl, hv, h⟩
    cases h
    exact ⟨rfl, hl, hv⟩
  · rintro ⟨rfl, hl, hv⟩
    exact ⟨hl, hv, rfl⟩

namespace Pending

structure Room (p : Pending) (stateBytes : Nat) (sealedResponse : Bytes) : Prop where
  agents : p.agents < maxReconciliationAgents
  request : p.answerBytes + sealedResponse.length ≤ maxReconciliationAnswerBytes
  total : stateBytes + sealedResponse.length ≤ maxTotalReconciliationAnswerBytes

theorem checkAnswer_of_new (h : req.answers.lookup ag = none) :
    checkAnswer req stateBytes ag sealedResponse = .ok () ↔ Room req stateBytes sealedResponse := by
  simp only [checkAnswer, h, unit_bind_ok, ensure_ok, decide_eq_true_eq]
  rw [saturatingAdd_le_iff (by decide), saturatingAdd_le_iff (by decide)]
  constructor
  · rintro ⟨ha, hr, ht⟩
    exact ⟨ha, hr, ht⟩
  · rintro ⟨ha, hr, ht⟩
    exact ⟨ha, hr, ht⟩

inductive Applied (r : ReconciliationRegistry) (scheduler : Bytes) (self : Pending) :
    ReconciliationEvent → Nat → Pending → Prop
  | answered {agent sealedResponse : Bytes} (hnew : self.answers.lookup agent = none) :
    Applied r scheduler self (.agentAnswer agent sealedResponse) sealedResponse.length
      ((self.dropUnreachable agent).storeAnswer agent sealedResponse)
  | known {agent sealedResponse old : Bytes} (hold : self.answers.lookup agent = some old) :
    Applied r scheduler self (.agentAnswer agent sealedResponse) 0 (self.dropUnreachable agent)
  | unreachable {agent : Bytes} (hnew : self.answers.lookup agent = none)
    (hroom : self.agents < maxReconciliationAgents ∨ agent ∈ self.unreachableAgents) :
    Applied r scheduler self (.agentUnreachable agent) 0 (self.markUnreachable agent)
  | reachable {agent old : Bytes} (hold : self.answers.lookup agent = some old) :
    Applied r scheduler self (.agentUnreachable agent) 0 self
  | completed : Applied r scheduler self .complete 0 (self.markCompleted scheduler)

theorem exec_apply_answer (hd : decodeEndpoint r ag = .ok ag) (sch : Bytes) (sealed : Bytes)
    (self : Pending) :
    ∃ added request, (apply r sch (.agentAnswer ag sealed)).exec self = (.ok added, request) ∧
      Applied r sch self (.agentAnswer ag sealed) added request := by
  rw [apply, Locked.exec_bind_ok _ (by rw [Locked.exec_liftExcept, hd]),
    Locked.exec_bind_ok _ Locked.exec_modify, Locked.exec_get_bind]
  cases hl : self.answers.lookup ag with
  | some old =>
    refine ⟨0, _, ?_, .known hl⟩
    simp only [dropUnreachable, hl]
    rfl
  | none =>
    refine ⟨_, _, ?_, .answered hl⟩
    simp only [dropUnreachable, hl]
    rfl

theorem exec_apply (r : ReconciliationRegistry) (sch : Bytes) (event : ReconciliationEvent)
    (self : Pending) :
    (∃ e, (apply r sch event).exec self = (.error e, self)) ∨
      ∃ added request, (apply r sch event).exec self = (.ok added, request) ∧
        Applied r sch self event added request := by
  cases event with
  | agentAnswer aid sealed =>
    cases hd : decodeEndpoint r aid with
    | error e => exact .inl ⟨e, Locked.exec_bind_error _ (by rw [Locked.exec_liftExcept, hd])⟩
    | ok agent =>
      obtain ⟨rfl, _⟩ := decodeEndpoint_ok.1 hd
      exact .inr (exec_apply_answer hd sch sealed self)
  | agentUnreachable aid =>
    cases hd : decodeEndpoint r aid with
    | error e => exact .inl ⟨e, Locked.exec_bind_error _ (by rw [Locked.exec_liftExcept, hd])⟩
    | ok agent =>
      obtain ⟨rfl, _⟩ := decodeEndpoint_ok.1 hd
      rw [apply, Locked.exec_bind_ok _ (by rw [Locked.exec_liftExcept, hd]), Locked.exec_get_bind]
      cases hl : self.answers.lookup agent with
      | some old =>
        right
        exact ⟨0, self, rfl, .reachable hl⟩
      | none =>
        cases hr : ensure (self.agents < maxReconciliationAgents ||
            agent ∈ self.unreachableAgents) "reconciliation agent answer limit reached" with
        | error e => exact .inl ⟨e, Locked.exec_bind_error _ (Locked.exec_liftExcept _ _)⟩
        | ok u =>
          right
          rw [ensure_ok, Bool.or_eq_true, decide_eq_true_eq, decide_eq_true_eq] at hr
          exact ⟨0, _, rfl, .unreachable hl hr⟩
  | complete => exact .inr ⟨0, _, rfl, .completed⟩

structure Sound (p : Pending) : Prop where
  bytes : p.answerBytes = Assoc.total (fun _ sealedResponse => sealedResponse.length) p.answers
  bounded : p.answerBytes ≤ maxReconciliationAnswerBytes
  disjoint : ∀ agent ∈ p.unreachableAgents, p.answers.lookup agent = none
  few : p.agents ≤ maxReconciliationAgents
  completed : p.completed ⊆ p.expected

theorem Sound.new (expected : Finset Bytes) : Sound (.new expected) where
  bytes := rfl
  bounded := Nat.zero_le _
  disjoint := by
    intro ag ha
    cases ha
  few := Nat.zero_le _
  completed := Finset.empty_subset _

theorem Sound.dropUnreachable (h : Sound req) (ag : Bytes) : Sound (req.dropUnreachable ag) where
  bytes := h.bytes
  bounded := h.bounded
  disjoint := by
    intro oth ho
    exact h.disjoint oth (Finset.mem_of_mem_erase ho)
  few := Nat.le_trans (Nat.add_le_add_left (Finset.card_erase_le) _) h.few
  completed := h.completed

theorem Sound.storeAnswer (h : Sound req) (hn : req.answers.lookup agent = none)
    (hr : agent ∉ req.unreachableAgents) (hrm : Room req stateBytes sealed) :
    Sound (req.storeAnswer agent sealed) where
  bytes := by
    have ht := Assoc.total_insert_new (fun _ ans => ans.length) sealed hn
    have hb := h.bytes
    simp only [Pending.storeAnswer]
    omega
  bounded := hrm.request
  disjoint := by
    intro oth ho
    have hne : oth ≠ agent := by
      rintro rfl
      exact hr ho
    exact (AList.lookup_insert_ne hne).trans (h.disjoint oth ho)
  few := by
    have hs := Assoc.size_insert_le req.answers agent sealed
    have ha := hrm.agents
    simp only [agents, Pending.storeAnswer] at ha ⊢
    omega
  completed := h.completed

theorem Sound.markUnreachable (h : Sound req) (hn : req.answers.lookup ag = none)
    (hr : req.agents < maxReconciliationAgents ∨ ag ∈ req.unreachableAgents) :
    Sound (req.markUnreachable ag) where
  bytes := h.bytes
  bounded := h.bounded
  disjoint := by
    intro oth ho
    rcases Finset.mem_insert.1 ho with rfl | hol
    · exact hn
    · exact h.disjoint oth hol
  few := by
    rcases hr with hr | hm
    · have hc := Finset.card_insert_le ag req.unreachableAgents
      simp only [agents, Pending.markUnreachable] at hr ⊢
      omega
    · rw [Pending.markUnreachable, Finset.insert_eq_of_mem hm]
      exact h.few
  completed := h.completed

theorem Sound.applied (h : Sound req) (he : sch ∈ req.expected)
    (hrm : ∀ ag sealedResponse, event = .agentAnswer ag sealedResponse →
      req.answers.lookup ag = none → Room req stateBytes sealedResponse)
    (ha : Applied r sch req event addedBytes req') :
    Sound req' ∧ req'.answerBytes = req.answerBytes + addedBytes := by
  cases ha with
  | @answered ag sealedResponse hn =>
    have hr := hrm ag sealedResponse rfl hn
    have hd : Room (req.dropUnreachable ag) stateBytes sealedResponse :=
      ⟨Nat.lt_of_le_of_lt (Nat.add_le_add_left Finset.card_erase_le _) hr.agents, hr.request, hr.total⟩
    exact ⟨(h.dropUnreachable ag).storeAnswer hn (Finset.notMem_erase _ _) hd, rfl⟩
  | known => exact ⟨h.dropUnreachable _, rfl⟩
  | unreachable hn hr => exact ⟨h.markUnreachable hn hr, rfl⟩
  | reachable => exact ⟨h, rfl⟩
  | completed =>
    refine ⟨⟨h.bytes, h.bounded, h.disjoint, h.few, ?_⟩, rfl⟩
    exact Finset.insert_subset he h.completed

end Pending

variable {s : RegistryState}

namespace RegistryState

theorem Same.refl (s : RegistryState) : Same s s := ⟨fun _ => rfl, rfl⟩

theorem Same.store (h : s.pending.lookup qid = some req) :
    Same s { s with pending := s.pending.insert qid req } := by
  refine ⟨fun oth => ?_, rfl⟩
  by_cases ho : oth = qid
  · subst ho
    exact (AList.lookup_insert _).trans h.symm
  · exact AList.lookup_insert_ne ho

theorem checkRecord_ok (h : s.checkRecord r sch resp = .ok found) :
    found = s.pending.lookup resp.queryId ∧ ∀ req, found = some req → sch ∈ req.expected ∧
      req.checkEvent r s.answerBytes resp.event = .ok () := by
  obtain ⟨responder, _, h⟩ := bind_ok.1 h
  obtain ⟨_, h⟩ := unit_bind_ok.1 h
  split at h
  · next hn =>
    cases h
    refine ⟨hn.symm, ?_⟩
    intro req hr
    cases hr
  · next req hs =>
    obtain ⟨he, h⟩ := unit_bind_ok.1 h
    obtain ⟨hev, h⟩ := unit_bind_ok.1 h
    cases h
    refine ⟨hs.symm, ?_⟩
    rintro _ ⟨⟩
    exact ⟨of_decide_eq_true (ensure_ok.1 he), hev⟩

inductive Recorded (r : ReconciliationRegistry) (s : RegistryState) (scheduler : Bytes)
    (response : SchedulerReconciliationResponse) : Except String Unit × RegistryState → Prop
  | refused {e : String} {s' : RegistryState} (hsame : Same s s') :
    Recorded r s scheduler response (.error e, s')
  | gone (hgone : s.pending.lookup response.queryId = none) :
    Recorded r s scheduler response (.ok (), s)
  | applied {request request' : Pending} {addedBytes : Nat}
    (hpending : s.pending.lookup response.queryId = some request)
    (hexpected : scheduler ∈ request.expected)
    (hroom : ∀ agent sealedResponse, response.event = .agentAnswer agent sealedResponse →
      request.answers.lookup agent = none → request.Room s.answerBytes sealedResponse)
    (happlied : request.Applied r scheduler response.event addedBytes request') :
    Recorded r s scheduler response
      (.ok (), ⟨s.pending.insert response.queryId request', s.answerBytes + addedBytes⟩)

theorem record_cases (r : ReconciliationRegistry) (s : RegistryState) (sch : Bytes)
    (resp : SchedulerReconciliationResponse) : Recorded r s sch resp (s.record r sch resp) := by
  rw [record]
  split
  · exact .refused (.refl s)
  · next h => exact .gone (checkRecord_ok h).1.symm
  · next req h =>
    obtain ⟨hp, hc⟩ := checkRecord_ok h
    obtain ⟨hex, hev⟩ := hc req rfl
    rcases Pending.exec_apply r sch resp.event req with
      ⟨e, he⟩ | ⟨addedBytes, req', he, ha⟩
    · rw [he]
      exact .refused (.store hp.symm)
    · rw [he]
      apply Recorded.applied hp.symm hex _ ha
      intro ag sealedResponse heq hn
      rw [heq] at hev
      obtain ⟨ag', hd, han⟩ := bind_ok.1 hev
      obtain ⟨rfl, _⟩ := decodeEndpoint_ok.1 hd
      exact (Pending.checkAnswer_of_new hn).1 han

structure Sound (r : ReconciliationRegistry) (s : RegistryState) : Prop where
  requests : ∀ queryId request, s.pending.lookup queryId = some request → request.Sound
  total : s.answerBytes = Assoc.total (fun _ request => request.answerBytes) s.pending
  bounded : s.answerBytes ≤ maxTotalReconciliationAnswerBytes
  few : Assoc.size s.pending ≤ r.maxPending

theorem Sound.empty (r : ReconciliationRegistry) : Sound r .empty where
  requests := by
    intro qid req h
    cases h
  total := rfl
  bounded := Nat.zero_le _
  few := Nat.zero_le _

section
variable (h : Sound r s)
include h

theorem Sound.le_total (hp : s.pending.lookup qid = some req) :
    req.answerBytes ≤ s.answerBytes := by
  rw [h.total, Assoc.total_of_lookup _ hp]
  exact Nat.le_add_right _ _

theorem Sound.begin (hs : s.begin r qid expected = .ok s') : Sound r s' := by
  obtain ⟨hr, hn, rfl⟩ := begin_ok hs
  refine ⟨?_, ?_, h.bounded, ?_⟩
  · intro oth req ho
    rcases Assoc.lookup_insert_cases ho with ⟨_, rfl⟩ | ⟨_, hol⟩
    · exact .new expected
    · exact h.requests oth req hol
  · have ht := Assoc.total_insert_new (fun _ req => req.answerBytes) (.new expected) hn
    exact h.total.trans (ht.trans (Nat.zero_add _)).symm
  · exact Nat.le_trans (Assoc.size_insert_le _ _ _) hr

theorem Sound.of_same (hs : Same s s') : Sound r s' := by
  have ht : Assoc.total (fun _ req => req.answerBytes) s'.pending =
      Assoc.total (fun _ req => req.answerBytes) s.pending := by
    apply Assoc.total_eq
    intro qid
    rw [hs.pending]
  have hsz : Assoc.size s'.pending ≤ Assoc.size s.pending := by
    apply Assoc.size_le_of_lookup
    intro qid req hr
    rw [hs.pending] at hr
    rw [hr]
    rfl
  refine ⟨?_, ?_, ?_, Nat.le_trans hsz h.few⟩
  · intro qid req hr
    rw [hs.pending] at hr
    exact h.requests qid req hr
  · rw [hs.answerBytes, ht, h.total]
  · rw [hs.answerBytes]
    exact h.bounded

theorem Sound.record (sch : Bytes)
    (resp : SchedulerReconciliationResponse) : Sound r (s.record r sch resp).2 := by
  have hc := record_cases r s sch resp
  generalize s.record r sch resp = res at hc ⊢
  cases hc with
  | refused hsm => exact h.of_same hsm
  | gone => exact h
  | @applied req req' _ hp he hr ha =>
    obtain ⟨hs, hb⟩ := (h.requests _ _ hp).applied he hr ha
    refine ⟨?_, ?_, ?_, ?_⟩
    · intro oth req ho
      rcases Assoc.lookup_insert_cases ho with ⟨_, rfl⟩ | ⟨_, hol⟩
      · exact hs
      · exact h.requests oth req hol
    · have ht := Assoc.total_insert_replace (fun _ req => req.answerBytes) req' hp
      have hol := h.total
      dsimp only
      omega
    · generalize resp.event = event at ha hr
      cases ha with
      | @answered ag sealed hn => exact (hr ag sealed rfl hn).total
      | known | unreachable | reachable | completed => exact h.bounded
    · have hsz : Assoc.size (s.pending.insert resp.queryId req') ≤ Assoc.size s.pending := by
        apply Assoc.size_le_of_lookup
        intro oth req ho
        rcases Assoc.lookup_insert_cases ho with ⟨rfl, _⟩ | ⟨_, hol⟩
        · rw [hp]
          rfl
        · rw [hol]
          rfl
      exact Nat.le_trans hsz h.few

theorem Sound.release (hp : s.pending.lookup qid = some req) : Sound r (s.release qid req) := by
  have ht := h.total
  rw [Assoc.total_of_lookup _ hp] at ht
  refine ⟨?_, ?_, ?_, ?_⟩
  · intro oth req ho
    exact h.requests oth req (Assoc.lookup_of_erase ho).2
  · simp only [RegistryState.release]
    omega
  · exact Nat.le_trans (Nat.sub_le _ _) h.bounded
  · have hs := Assoc.size_erase_of_lookup hp
    have hf := h.few
    simp only [RegistryState.release]
    omega

theorem Sound.finish (qid : String) : Sound r (s.finish qid).2 := by
  rw [RegistryState.finish]
  split
  · exact h
  · next req hp => exact h.release hp

theorem Sound.cancel (qid : String) : Sound r (s.cancel qid) := by
  rw [RegistryState.cancel]
  split
  · exact h
  · next req hp => exact h.release hp

end

end RegistryState

inductive RegistryCall where
  | begin (queryId : String) (expected : Finset Bytes)
  | record (scheduler : Bytes) (response : SchedulerReconciliationResponse)
  | finish (queryId : String)
  | cancel (queryId : String)

namespace RegistryState

def call (r : ReconciliationRegistry) (s : RegistryState) : RegistryCall → RegistryState
  | .begin queryId expected =>
    match s.begin r queryId expected with
    | .ok s' => s'
    | .error _ => s
  | .record scheduler response => (s.record r scheduler response).2
  | .finish queryId => (s.finish queryId).2
  | .cancel queryId => s.cancel queryId

def run (r : ReconciliationRegistry) (s : RegistryState) (calls : List RegistryCall) :
    RegistryState :=
  calls.foldl (call r) s

theorem Sound.call (h : Sound r s) (c : RegistryCall) : Sound r (s.call r c) := by
  cases c with
  | begin qid expected =>
    rw [RegistryState.call]
    split
    · next s' hs => exact h.begin hs
    · exact h
  | record sch resp => exact h.record sch resp
  | finish qid => exact h.finish qid
  | cancel qid => exact h.cancel qid

theorem Sound.run (h : Sound r s) (calls : List RegistryCall) : Sound r (s.run r calls) := by
  induction calls generalizing s with
  | nil => exact h
  | cons c calls ih => exact ih (h.call c)

theorem record_error (h : s.record r sch resp = (.error e, s')) : Same s s' := by
  have hc := record_cases r s sch resp
  rw [h] at hc
  cases hc with
  | refused hs => exact hs

/-- For every sequence of calls, the counters are the sums they stand for, each request is within its
limits and so is the registry, no subtraction saturates, and a refused event changes nothing. -/
theorem reconciliation_books (maxPending : Nat) (validEndpointId : Bytes → Bool)
    (calls : List RegistryCall) :
    let r := ReconciliationRegistry.new maxPending validEndpointId
    let s := RegistryState.empty.run r calls
    s.answerBytes = Assoc.total (fun _ request => request.answerBytes) s.pending ∧
    s.answerBytes ≤ maxTotalReconciliationAnswerBytes ∧
    Assoc.size s.pending ≤ min maxPending maxPendingReconciliations ∧
    (∀ queryId request, s.pending.lookup queryId = some request → request.answerBytes =
        Assoc.total (fun _ sealedResponse => sealedResponse.length) request.answers ∧
      request.answerBytes ≤ maxReconciliationAnswerBytes ∧
      (∀ agent ∈ request.unreachableAgents, request.answers.lookup agent = none) ∧
      Assoc.size request.answers + request.unreachableAgents.card ≤ maxReconciliationAgents ∧
      request.completed ⊆ request.expected ∧
      -- what `finish` and `cancel` subtract
      request.answerBytes ≤ s.answerBytes) ∧
    (∀ scheduler response e s', s.record r scheduler response = (.error e, s') → Same s s') := by
  intro r s
  have hsn : Sound r s := (Sound.empty r).run calls
  refine ⟨hsn.total, hsn.bounded, hsn.few, ?_, ?_⟩
  · intro queryId request hp
    have hr := hsn.requests queryId request hp
    exact ⟨hr.bytes, hr.bounded, hr.disjoint, hr.few, hr.completed, hsn.le_total hp⟩
  · intro scheduler response e s' hs
    exact record_error hs

end RegistryState

end Reconciliation
end Podmesh
