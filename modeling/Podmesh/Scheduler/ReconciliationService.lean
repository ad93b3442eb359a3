import Podmesh.Scheduler.LocationQueries
import Podmesh.Scheduler.ReconciliationAnswers

namespace Podmesh

def reconciliationProtocolVersion : UInt16 := 1
def maxReconciliationLifetimeSecs : UInt64 := 15

structure SchedulerReconciliationQuery where
  version : UInt16
  queryId : String
  ownerRequest : Bytes
  replyEndpoint : EndpointRecord
  issuedAtSecs : UInt64
  expiresAtSecs : UInt64
  signingPubkey : String
  signature : String

structure ReconciliationService where
  identity : SchedulerIdentity
  endpointId : Bytes
  registry : ReconciliationRegistry
  signReconciliation : SchedulerReconciliationQuery → UInt64 →
    Except String SchedulerReconciliationQuery

def ReconciliationService.query (self : ReconciliationService) (ownerRequest : Bytes)
    (queryId : String) (now : UInt64) : Except String SchedulerReconciliationQuery := do
  let replyEndpoint ← self.identity.endpointRecord now (now + maxReconciliationLifetimeSecs)
  self.signReconciliation {
    version := reconciliationProtocolVersion
    queryId
    ownerRequest
    replyEndpoint
    issuedAtSecs := now
    expiresAtSecs := now + maxReconciliationLifetimeSecs
    signingPubkey := ""
    signature := "" } now

/-- Where a call of `reconcile` stands. The first four are suspension points; a call that has ended
remembers whether its request is still registered. -/
inductive ReconcilePhase where
  | beginning
  | joining
  | cancelling (error : String)
  | finishing
  | returned (registered : Bool) (result : Except String ReconciliationOutcome)
  | dropped (registered : Bool)

namespace ReconcilePhase

def holds : ReconcilePhase → Bool
  | .joining | .cancelling _ | .finishing => true
  | .returned registered _ | .dropped registered => registered
  | .beginning => false

def ended : ReconcilePhase → Bool
  | .returned _ _ | .dropped _ => true
  | _ => false

def outcome : ReconcilePhase → Option ReconciliationOutcome
  | .returned _ (.ok outcome) => some outcome
  | _ => none

end ReconcilePhase

structure ReconcileCall where
  ownerRequest : Bytes
  queryId : String
  now : UInt64
  expected : Finset Bytes
  published : Bool
  phase : ReconcilePhase

def ReconciliationEvent.ofProbe : Bytes × Option Bytes → ReconciliationEvent
  | (agent, some sealedResponse) => .agentAnswer agent sealedResponse
  | (agent, none) => .agentUnreachable agent

/-- The answers that one scheduler collected for a query: the agents that were attached to it, the
events that are still to be delivered, and whether its last event was recorded in time. -/
structure Collection where
  scheduler : Bytes
  queryId : String
  attached : List Bytes
  events : List ReconciliationEvent
  aborted : Bool
  completed : Bool

namespace Collection

/-- What a scheduler has to deliver once its agents are probed. -/
def new (scheduler : Bytes) (queryId : String) (attached : List Bytes)
    (probed : List (Bytes × Option Bytes)) : Collection where
  scheduler := scheduler
  queryId := queryId
  attached := attached
  events := probed.map .ofProbe ++ [.complete]
  aborted := false
  completed := false

def response (self : Collection) (endpoint : EndpointRecord) (event : ReconciliationEvent) :
    SchedulerReconciliationResponse :=
  ⟨self.queryId, { endpoint with endpointId := self.scheduler }, event⟩

end Collection

structure Reconciliations where
  registry : Reconciliation.RegistryState
  calls : AList fun _ : Nat => ReconcileCall
  collections : AList fun _ : Nat => Collection

inductive ReconcileStep where
  | begin
  | joined (published : Except String Unit)
  | cancel
  | finish
  | drop

inductive ReconcileAction where
  | reconcile (id : Nat) (ownerRequest : Bytes) (queryId : String) (now : UInt64)
    (members : Finset Bytes)
  | call (id : Nat) (resumed : ReconcileStep)
  | collect (id : Nat) (scheduler : Bytes) (queryId : String) (attached : List Bytes)
    (probed : List (Bytes × Option Bytes))
  | deliver (id : Nat) (endpoint : EndpointRecord) (arrives acknowledged : Bool)
  | record (scheduler : Bytes) (response : SchedulerReconciliationResponse)

namespace Reconciliations
open Reconciliation

def empty : Reconciliations := ⟨.empty, ∅, ∅⟩

def move (w : Reconciliations) (id : Nat) (call : ReconcileCall) (phase : ReconcilePhase) :
    Reconciliations :=
  { w with calls := w.calls.insert id { call with phase := phase } }

/-- What `reconcile` does from its registration to the next suspension point. -/
def prepare (r : ReconciliationService) (w : Reconciliations) (id : Nat) (call : ReconcileCall)
    (registry : RegistryState) : Reconciliations :=
  match r.query call.ownerRequest call.queryId call.now with
  | .ok _ =>
    { w with
      registry := registry
      calls := w.calls.insert id { call with published := true, phase := .joining } }
  | .error e => { w.move id call (.returned true (.error e)) with registry := registry }

def advance (r : ReconciliationService) (w : Reconciliations) (id : Nat) (call : ReconcileCall) :
    ReconcilePhase → ReconcileStep → Option Reconciliations
  | .beginning, .begin =>
    match w.registry.begin r.registry call.queryId call.expected with
    | .ok registry => some (w.prepare r id call registry)
    | .error e => some (w.move id call (.returned false (.error e)))
  | .joining, .joined published =>
    -- the result of the local fan-out is only logged
    match published with
    | .ok () => some (w.move id call .finishing)
    | .error e => some (w.move id call (.cancelling e))
  | .cancelling e, .cancel =>
    some { w.move id call (.returned false (.error e)) with
      registry := w.registry.cancel call.queryId }
  | .finishing, .finish =>
    some { w.move id call (.returned false (w.registry.finish call.queryId).1) with
      registry := (w.registry.finish call.queryId).2 }
  | phase, .drop => if phase.ended then none else some (w.move id call (.dropped phase.holds))
  | _, _ => none

def start (r : ReconciliationService) (w : Reconciliations) (id : Nat) (ownerRequest : Bytes)
    (queryId : String) (now : UInt64) (members : Finset Bytes) : Reconciliations :=
  let expected := insert r.endpointId members
  { w with calls := w.calls.insert id ⟨ownerRequest, queryId, now, expected, false, .beginning⟩ }

def published (w : Reconciliations) (queryId : String) : Bool :=
  w.calls.entries.any fun e => e.2.queryId == queryId && e.2.published

/-- A scheduler probes the agents attached to it, whose answers come in any order. A query that
gossip delivers again is collected again. -/
def collect (w : Reconciliations) (id : Nat) (scheduler : Bytes) (queryId : String)
    (attached : List Bytes) (probed : List (Bytes × Option Bytes)) : Option Reconciliations :=
  if w.published queryId && attached.length ≤ maxReconciliationAgents &&
      (probed.map Prod.fst).isPerm attached then
    some { w with
      collections := w.collections.insert id (.new scheduler queryId attached probed) }
  else none

/-- A scheduler sends its next event and waits for the acknowledgement; whatever goes wrong ends the
collection. The local fan-out records its events without a stream in between. -/
def deliver (r : ReconciliationService) (w : Reconciliations) (id : Nat) (c : Collection)
    (endpoint : EndpointRecord) (arrives acknowledged : Bool) : Option Reconciliations :=
  match c.events with
  | [] => none
  | event :: rest =>
    if c.aborted then none
    else if !arrives then
      some { w with collections := w.collections.insert id { c with aborted := true } }
    else
      match w.registry.record r.registry c.scheduler (c.response endpoint event) with
      | (.error _, registry) =>
        some { w with
          registry := registry
          collections := w.collections.insert id { c with aborted := true } }
      | (.ok (), registry) =>
        some { w with
          registry := registry
          collections := w.collections.insert id { c with
            events := rest
            aborted := !acknowledged
            completed := event == .complete && (w.registry.pending.lookup c.queryId).isSome } }

def step (r : ReconciliationService) (w : Reconciliations) : ReconcileAction → Option Reconciliations
  | .reconcile id ownerRequest queryId now members =>
    match w.calls.lookup id with
    | none => some (w.start r id ownerRequest queryId now members)
    | some _ => none
  | .call id resumed =>
    match w.calls.lookup id with
    | some call => w.advance r id call call.phase resumed
    | none => none
  | .collect id scheduler queryId attached probed =>
    match w.collections.lookup id with
    | none => w.collect id scheduler queryId attached probed
    | some _ => none
  | .deliver id endpoint arrives acknowledged =>
    match w.collections.lookup id with
    | some c => w.deliver r id c endpoint arrives acknowledged
    | none => none
  | .record scheduler response =>
    some { w with registry := (w.registry.record r.registry scheduler response).2 }

inductive Stepped (r : ReconciliationService) (w : Reconciliations) :
    ReconcileAction → Reconciliations → Prop
  | started {id : Nat} (hnew : w.calls.lookup id = none) :
    Stepped r w (.reconcile id ownerRequest queryId now members)
      (w.start r id ownerRequest queryId now members)
  | moved {id : Nat} {call : ReconcileCall} {phase : ReconcilePhase}
    (hcall : w.calls.lookup id = some call) (hholds : phase.holds = call.phase.holds)
    (hdrop : phase.ended = true → phase.holds = true → resumed = .drop)
    (hbegun : phase ≠ .beginning) (houtcome : phase.outcome = none) :
    Stepped r w (.call id resumed) (w.move id call phase)
  | began {id : Nat} {call : ReconcileCall} {registry : RegistryState}
    (hcall : w.calls.lookup id = some call) (hphase : call.phase = .beginning)
    (hbegin : w.registry.begin r.registry call.queryId call.expected = .ok registry)
    (hquery : r.query call.ownerRequest call.queryId call.now = .ok query) :
    Stepped r w (.call id .begin) { w with
      registry := registry
      calls := w.calls.insert id { call with published := true, phase := .joining } }
  | stranded {id : Nat} {call : ReconcileCall} {registry : RegistryState} {e : String}
    (hcall : w.calls.lookup id = some call) (hphase : call.phase = .beginning)
    (hbegin : w.registry.begin r.registry call.queryId call.expected = .ok registry)
    (hquery : r.query call.ownerRequest call.queryId call.now = .error e) :
    Stepped r w (.call id .begin)
      { w.move id call (.returned true (.error e)) with registry := registry }
  | cancelled {id : Nat} {call : ReconcileCall} (hcall : w.calls.lookup id = some call)
    (hphase : call.phase = .cancelling e) :
    Stepped r w (.call id .cancel) { w.move id call (.returned false (.error e)) with
      registry := w.registry.cancel call.queryId }
  | finished {id : Nat} {call : ReconcileCall} (hcall : w.calls.lookup id = some call)
    (hphase : call.phase = .finishing) :
    Stepped r w (.call id .finish)
      { w.move id call (.returned false (w.registry.finish call.queryId).1) with
        registry := (w.registry.finish call.queryId).2 }
  | collected {id : Nat} {probed : List (Bytes × Option Bytes)}
    (hnew : w.collections.lookup id = none) (hpublished : w.published queryId = true)
    (hprobed : (probed.map Prod.fst).Perm attached) :
    Stepped r w (.collect id scheduler queryId attached probed) { w with
      collections := w.collections.insert id (.new scheduler queryId attached probed) }
  | aborted {id : Nat} {c : Collection} {registry : RegistryState}
    (hc : w.collections.lookup id = some c) (hsame : w.registry.Same registry) :
    Stepped r w (.deliver id endpoint arrives acknowledged) { w with
      registry := registry
      collections := w.collections.insert id { c with aborted := true } }
  | delivered {id : Nat} {c : Collection} {event : ReconciliationEvent}
    {rest : List ReconciliationEvent} {registry : RegistryState}
    (hc : w.collections.lookup id = some c) (hevents : c.events = event :: rest)
    (hrecord : w.registry.record r.registry c.scheduler (c.response endpoint event) =
      (.ok (), registry)) :
    Stepped r w (.deliver id endpoint arrives acknowledged) { w with
      registry := registry
      collections := w.collections.insert id { c with
        events := rest
        aborted := !acknowledged
        completed := event == .complete && (w.registry.pending.lookup c.queryId).isSome } }
  | recorded : Stepped r w (.record scheduler response)
      { w with registry := (w.registry.record r.registry scheduler response).2 }

theorem stepped_of_advance {id : Nat} (hc : w.calls.lookup id = some call)
    (h : advance r w id call call.phase resumed = some w') : Stepped r w (.call id resumed) w' := by
  generalize hp : call.phase = phase at h
  unfold advance at h
  split at h
  · split at h
    · next registry hb =>
      cases h
      unfold prepare
      split
      · next hq => exact .began hc hp hb hq
      · next hq => exact .stranded hc hp hb hq
    · cases h
      exact .moved hc (by rw [hp]; rfl) (fun _ hh => by cases hh) (fun he => by cases he) rfl
  · split at h <;> cases h <;>
      exact .moved hc (by rw [hp]; rfl) (fun he => by cases he) (fun he => by cases he) rfl
  · cases h
    exact .cancelled hc hp
  · cases h
    exact .finished hc hp
  · split at h
    · cases h
    · cases h
      exact .moved hc (by rw [hp]; rfl) (fun _ _ => rfl) (fun he => by cases he) rfl
  · cases h

theorem stepped_of_deliver {id : Nat} (hc : w.collections.lookup id = some c)
    (h : deliver r w id c ep arrives acknowledged = some w') :
    Stepped r w (.deliver id ep arrives acknowledged) w' := by
  unfold deliver at h
  split at h
  · cases h
  · next event rest he =>
    split at h
    · cases h
    · split at h
      · cases h
        exact .aborted hc (.refl _)
      · split at h
        · next hr =>
          cases h
          exact .aborted hc (RegistryState.record_error hr)
        · next hr =>
          cases h
          exact .delivered hc he hr

theorem step_cases (hs : step r w a = some w') : Stepped r w a w' := by
  cases a with
  | reconcile id ownerRequest qid now members =>
    simp only [step] at hs
    split at hs
    · next hn =>
      cases hs
      exact .started hn
    · cases hs
  | call id resumed =>
    simp only [step] at hs
    split at hs
    · next call hcl => exact stepped_of_advance hcl hs
    · cases hs
  | collect id sch qid attached probed =>
    simp only [step, collect] at hs
    split at hs
    · next hn =>
      split at hs
      · next hok =>
        cases hs
        simp only [Bool.and_eq_true, List.isPerm_iff] at hok
        exact .collected hn hok.1.1 hok.2
      · cases hs
    · cases hs
  | deliver id ep arrives acknowledged =>
    simp only [step] at hs
    split at hs
    · next c hc => exact stepped_of_deliver hc hs
    · cases hs
  | record sch resp =>
    cases hs
    exact .recorded

def FreshQueryId (w : Reconciliations) : ReconcileAction → Prop
  | .reconcile _ _ queryId _ _ => ∀ id call, w.calls.lookup id = some call → call.queryId ≠ queryId
  | .call _ _ | .collect _ _ _ _ _ | .deliver _ _ _ _ | .record _ _ => True

instance (w : Reconciliations) (a : ReconcileAction) : Decidable (FreshQueryId w a) :=
  match a with
  | .reconcile _ _ queryId _ _ =>
    decidable_of_iff (∀ e ∈ w.calls.entries, e.2.queryId ≠ queryId)
      (Assoc.forall_lookup (P := fun call : ReconcileCall => call.queryId ≠ queryId)).symm
  | .call _ _ | .collect _ _ _ _ _ | .deliver _ _ _ _ | .record _ _ =>
    inferInstanceAs (Decidable True)

/-- No call is dropped while its request is registered, and a call that registers one can build and
sign its query. -/
def Unstranded (r : ReconciliationService) (w : Reconciliations) : ReconcileAction → Prop
  | .call id .drop => ∀ call, w.calls.lookup id = some call → call.phase.holds = false
  | .call id .begin => ∀ call, w.calls.lookup id = some call → call.phase = .beginning →
      (w.registry.begin r.registry call.queryId call.expected).isOk = true →
      (r.query call.ownerRequest call.queryId call.now).isOk = true
  | _ => True

abbrev Registered (w : Reconciliations) : Prop :=
  Slots ReconcileCall.queryId (fun call => call.phase.holds) w.calls w.registry.pending

theorem isSome_lookup_record (r : ReconciliationRegistry) (s : RegistryState) (sch : Bytes)
    (resp : SchedulerReconciliationResponse) (qid : String) :
    ((s.record r sch resp).2.pending.lookup qid).isSome = (s.pending.lookup qid).isSome := by
  have hc := RegistryState.record_cases r s sch resp
  generalize s.record r sch resp = res at hc ⊢
  cases hc with
  | refused hs => rw [hs.pending]
  | gone => rfl
  | applied hp =>
    by_cases hq : qid = resp.queryId
    · subst hq
      rw [hp, AList.lookup_insert]
      rfl
    · rw [AList.lookup_insert_ne hq]

theorem registered_step (h : Registered w) (hf : FreshQueryId w a)
    (hs : step r w a = some w') : Registered w' := by
  cases step_cases hs with
  | started hn => exact h.arrive hn hf rfl
  | moved hc hh => exact h.move hc rfl hh
  | began hc _ hb | stranded hc _ hb =>
    obtain ⟨_, _, rfl⟩ := RegistryState.begin_ok hb
    apply h.take hc <;> rfl
  | cancelled hc =>
    show Slots _ _ _ (w.registry.cancel _).pending
    rw [RegistryState.pending_cancel]
    apply h.release hc <;> rfl
  | finished hc =>
    show Slots _ _ _ (w.registry.finish _).2.pending
    rw [RegistryState.pending_finish]
    apply h.release hc <;> rfl
  | collected => exact h
  | aborted _ hsm =>
    apply h.revalue
    intro qid
    rw [hsm.pending]
  | delivered _ _ hr =>
    apply h.revalue
    intro qid
    rw [← isSome_lookup_record r.registry w.registry _ _ qid, hr]
  | recorded =>
    apply h.revalue
    intro qid
    exact isSome_lookup_record _ _ _ _ qid

theorem reach_registered (h : Reach (step r) FreshQueryId .empty w) : Registered w := by
  apply Reach.invariant Registered (.empty _ _) _ h
  intro w a w' _ ih ha hs
  exact registered_step ih ha hs

abbrev Unleaked (w : Reconciliations) : Prop :=
  Slots.Unleaked (fun call : ReconcileCall => call.phase.holds) (fun call => call.phase.ended)
    w.calls

theorem unleaked_step (h : Unleaked w) (ha : Unstranded r w a) (hs : step r w a = some w') :
    Unleaked w' := by
  cases step_cases hs with
  | started | began =>
    apply h.insert
    intro he
    cases he
  | moved hc hh hd =>
    apply h.move hh
    intro he hhl
    cases hd he hhl
    exact ha _ hc
  | @stranded _ call _ _ hc hp hb hq =>
    have hsg := ha call hc hp (by rw [hb]; rfl)
    rw [hq] at hsg
    cases hsg
  | cancelled | finished =>
    apply h.insert
    intro _
    rfl
  | collected | aborted | delivered | recorded => exact h

abbrev Freed (w : Reconciliations) : Prop :=
  Slots.Freed ReconcileCall.queryId (fun call => call.phase.ended) w.calls w.registry.pending

theorem reach_freed (h : Reach (step r) (fun w a => FreshQueryId w a ∧ Unstranded r w a) .empty w) :
    Freed w := by
  have hr : Registered w := reach_registered (h.mono fun _ _ ha => ha.1)
  have hu : Unleaked w := by
    apply Reach.invariant Unleaked (.empty _ _) _ h
    intro w a w' _ ih ha hs
    exact unleaked_step ih ha.2 hs
  exact hr.freed hu

theorem not_freed_of_stranded (hr : Registered w') (ha : ¬Unstranded r w a)
    (hs : step r w a = some w') : ¬Freed w' := by
  cases a with
  | call id resumed =>
    cases resumed with
    | drop =>
      simp only [Unstranded, not_forall] at ha
      obtain ⟨call, hc, hh⟩ := ha
      rw [Bool.not_eq_false] at hh
      have hd : w'.calls.lookup id = some { call with phase := .dropped call.phase.holds } := by
        simp only [step, hc, advance] at hs
        split at hs
        · cases hs
        · cases hs
          exact AList.lookup_insert _
      exact hr.not_freed hd rfl hh
    | begin =>
      simp only [Unstranded, not_forall] at ha
      obtain ⟨call, hc, hp, hb, hq⟩ := ha
      cases hrg : w.registry.begin r.registry call.queryId call.expected with
      | error e =>
        rw [hrg] at hb
        cases hb
      | ok registry =>
        cases hsg : r.query call.ownerRequest call.queryId call.now with
        | ok query =>
          rw [hsg] at hq
          exact absurd rfl hq
        | error e =>
          simp only [step, hc, hp, advance, hrg, prepare, hsg] at hs
          cases hs
          have hst : ((w.move id call (.returned true (.error e))).calls).lookup id =
              some { call with phase := .returned true (.error e) } := AList.lookup_insert _
          exact hr.not_freed hst rfl rfl
    | joined | cancel | finish => exact absurd trivial ha
  | _ => exact absurd trivial ha

end Reconciliations

/-- As long as no call is dropped with its entry registered, and no call of `reconcile` fails to build
its query after the registration, the two tables of pending work hold entries of running calls only.
The first call that does so leaves its entry behind. -/
theorem work_slots_freed (service : ReconciliationService) (relay : PeerControlRelay) :
    (∀ w, Reach (Reconciliations.step service)
      (fun w a => w.FreshQueryId a ∧ w.Unstranded service a) .empty w → w.Freed) ∧
    (∀ w, Reach (Locations.step relay) (fun w a => w.FreshQueryId a ∧ w.Undropped a) .empty w →
      w.Freed) ∧
    (∀ w a w', Reach (Reconciliations.step service) Reconciliations.FreshQueryId .empty w →
      w.FreshQueryId a → Reconciliations.step service w a = some w' → ¬w.Unstranded service a →
      ¬w'.Freed) ∧
    (∀ w a w', Reach (Locations.step relay) Locations.FreshQueryId .empty w →
      w.FreshQueryId a → Locations.step relay w a = some w' → ¬w.Undropped a → ¬w'.Freed) := by
  refine ⟨?_, ?_, ?_, ?_⟩
  · intro w h
    exact Reconciliations.reach_freed h
  · intro w h
    exact Locations.reach_freed h
  · intro w a w' h hf hs ha
    have hr := Reconciliations.registered_step (Reconciliations.reach_registered h) hf hs
    exact Reconciliations.not_freed_of_stranded hr ha hs
  · intro w a w' h hf hs ha
    have hr := Locations.registered_step (Locations.reach_registered h) hf hs
    exact Locations.not_freed_of_drop hr ha hs

namespace Reconciliations

def unstranded (r : ReconciliationService) (w : Reconciliations) : ReconcileAction → Bool
  | .call id .drop => (w.calls.lookup id).all fun call => !call.phase.holds
  | .call id .begin =>
    (w.calls.lookup id).all fun call => (r.query call.ownerRequest call.queryId call.now).isOk
  | _ => true

theorem unstranded_sound (h : unstranded r w a = true) : Unstranded r w a := by
  cases a with
  | call id resumed =>
    cases resumed with
    | drop =>
      intro call hc
      simp only [unstranded, hc, Option.all_some, Bool.not_eq_true'] at h
      exact h
    | begin =>
      intro call hc _ _
      simp only [unstranded, hc, Option.all_some] at h
      exact h
    | joined | cancel | finish => trivial
  | reconcile | collect | deliver | record => trivial

def sampleService : ReconciliationService where
  identity := ⟨[], [], fun now expires => .ok ⟨1, [], none, [], "", now, expires, ""⟩⟩
  endpointId := List.replicate 32 1
  registry := Reconciliation.RegistryState.sampleRegistry
  signReconciliation query _ := .ok query

end Reconciliations

theorem work_slots_freed_sample :
    ∃ w, Reach (Reconciliations.step Reconciliations.sampleService)
        (fun w a => w.FreshQueryId a ∧ w.Unstranded Reconciliations.sampleService a) .empty w ∧
      (w.calls.lookup 0).any (fun call => call.phase.outcome.isSome) = true ∧ w.Freed := by
  obtain ⟨w, hr, hw⟩ := exists_reach_of_run (Reconciliations.step Reconciliations.sampleService)
    (fun w a => w.FreshQueryId a ∧ w.unstranded Reconciliations.sampleService a) .empty
    [.reconcile 0 [] "q" 100 ∅, .call 0 .begin, .call 0 (.joined (.ok ())), .call 0 .finish]
    (fun w => (w.calls.lookup 0).any fun call => call.phase.outcome.isSome) (by decide +kernel)
  have hok := hr.mono fun w a h => And.imp_right Reconciliations.unstranded_sound h
  exact ⟨w, hok, hw, (work_slots_freed _ Locations.sampleRelay).1 w hok⟩

/-- Clients disconnect while their requests wait for answers. -/
theorem dropped_calls_keep_slots :
    (∃ w, Reach (Reconciliations.step Reconciliations.sampleService) Reconciliations.FreshQueryId
        .empty w ∧
      (w.calls.lookup 0).any (fun call => call.phase.ended && call.queryId == "q") = true ∧
      (w.registry.pending.lookup "q").isSome = true) ∧
    ∃ w, Reach (Locations.step Locations.sampleRelay) Locations.FreshQueryId .empty w ∧
      (w.calls.lookup 0).any (fun call => call.phase.ended && call.queryId == "q") = true ∧
      (w.registry.pending.lookup "q").isSome = true := by
  constructor
  · exact exists_reach_of_run _ _ _ [.reconcile 0 [] "q" 100 ∅, .call 0 .begin,
      .call 0 (.joined (.ok ())), .call 0 .drop] _ (by decide +kernel)
  · exact exists_reach_of_run _ _ _ [.query 0 (Locations.sampleAgent 1) "q" 100 true,
      .call 0 .begin, .call 0 (.published (.ok ())), .call 0 .drop] _ (by decide +kernel)

end Podmesh
