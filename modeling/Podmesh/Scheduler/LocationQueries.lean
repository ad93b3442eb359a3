import Podmesh.Lib.Slots
import Podmesh.Scheduler.Locations
import Podmesh.Scheduler.Query

namespace Podmesh

def schedulerGossipProtocolVersion : UInt16 := 1
def maxLocationQueryLifetimeSecs : UInt64 := 15
def agentControlRelayProtocolVersion : UInt16 := 1
def irohEndpointIdBytes : Nat := 32
def maxAgentControlPayloadBytes : Nat := 20 * 1024 * 1024
def maxAgentControlRelayFrameBytes : Nat := maxAgentControlPayloadBytes + 1024

structure AgentLocationQuery where
  version : UInt16
  queryId : String
  agentEndpointId : Bytes
  replyEndpoint : EndpointRecord
  issuedAtSecs : UInt64
  expiresAtSecs : UInt64
  signingPubkey : String
  signature : String

inductive AgentControlRelayIntent where
  | locate
  | forward
  | locationAnswer
  deriving DecidableEq

structure AgentControlRelayRequest where
  version : UInt16
  agentEndpointId : Bytes
  intent : AgentControlRelayIntent
  queryId : String
  encryptedPayload : Bytes

namespace AgentControlRelayRequest

def checkPayload (self : AgentControlRelayRequest) : Except String Unit :=
  match self.intent with
  | .locate => ensure self.encryptedPayload.isEmpty "a locate probe cannot carry a payload"
  | .forward =>
    ensure (!self.encryptedPayload.isEmpty &&
      self.encryptedPayload.length ≤ maxAgentControlPayloadBytes)
      "relayed agent control payload size is invalid"
  | .locationAnswer => do
    ensure self.encryptedPayload.isEmpty "a location answer cannot carry a payload"
    ensure (self.queryId != "" && self.queryId.utf8ByteSize ≤ 128)
      "a location answer must name the query it answers"

def validate (self : AgentControlRelayRequest) : Except String Unit := do
  ensure (self.version == agentControlRelayProtocolVersion)
    "unsupported agent control relay protocol version"
  ensure (self.agentEndpointId.length == irohEndpointIdBytes)
    "relayed agent EndpointId must contain 32 bytes"
  self.checkPayload
  ensure (self.intent == .locationAnswer || self.queryId == "")
    "only a location answer carries a query id"

end AgentControlRelayRequest

/-- The scheduler's own identity, and the libraries it works with: the signature of a query, the
postcard form of a relayed request, and the endpoint id that some bytes spell. -/
structure PeerControlRelay where
  identity : SchedulerIdentity
  signLocation : AgentLocationQuery → UInt64 → Except String AgentLocationQuery
  decodeRequest : Bytes → Except String AgentControlRelayRequest
  decodeEndpointId : Bytes → Option Bytes

namespace PeerControlRelay

/-- The query that `query_mesh` builds before it registers it. -/
def locationQuery (self : PeerControlRelay) (publisherInstalled : Bool) (agent : Bytes)
    (queryId : String) (now : UInt64) : Except String AgentLocationQuery := do
  ensure publisherInstalled "scheduler gossip publisher is not installed"
  let replyEndpoint ← self.identity.endpointRecord now (now + maxLocationQueryLifetimeSecs)
  self.signLocation {
    version := schedulerGossipProtocolVersion
    queryId
    agentEndpointId := agent
    replyEndpoint
    issuedAtSecs := now
    expiresAtSecs := now + maxLocationQueryLifetimeSecs
    signingPubkey := ""
    signature := "" } now

def requestFromBytes (self : PeerControlRelay) (bytes : Bytes) :
    Except String AgentControlRelayRequest := do
  ensure (!bytes.isEmpty && bytes.length ≤ maxAgentControlRelayFrameBytes)
    "agent control relay frame size is invalid"
  let request ← self.decodeRequest bytes
  request.validate
  return request

/-- The query and the agent that a relayed request answers about, if it is a location answer that
`dispatch` acts on. -/
def locationAnswer (self : PeerControlRelay) (forwarderInstalled : Bool) (bytes : Bytes) :
    Option (String × Bytes) :=
  match self.requestFromBytes bytes with
  | .error _ => none
  | .ok request =>
    match self.decodeEndpointId request.agentEndpointId with
    | none => none
    | some agent =>
      if forwarderInstalled && request.intent == .locationAnswer then some (request.queryId, agent)
      else none

end PeerControlRelay

/-- Where a call of `query_mesh` stands. The first four are suspension points; a call that was
dropped remembers whether its query was registered. -/
inductive LocationQueryPhase where
  | beginning
  | publishing
  | waiting
  | finishing (result : Except String (Option Bytes))
  | returned (result : Except String (Option Bytes))
  | dropped (registered : Bool)

namespace LocationQueryPhase

def holds : LocationQueryPhase → Bool
  | .publishing | .waiting | .finishing _ => true
  | .dropped registered => registered
  | .beginning | .returned _ => false

def ended : LocationQueryPhase → Bool
  | .returned _ | .dropped _ => true
  | _ => false

def first : Except String AgentLocationQuery → LocationQueryPhase
  | .ok _ => .beginning
  | .error e => .returned (.error e)

theorem holds_first : (first query).holds = false := by
  cases query <;> rfl

end LocationQueryPhase

structure LocationQueryCall where
  agent : Bytes
  queryId : String
  answer : Option Bytes
  phase : LocationQueryPhase

/-- A location answer of a peer that found the query it names pending. -/
structure LocationAnswer where
  peer : Bytes
  queryId : String
  agent : Bytes
  sender : Nat
  remembered : Bool

structure Locations where
  registry : LocationState
  calls : AList fun _ : Nat => LocationQueryCall
  answers : AList fun _ : Nat => LocationAnswer

inductive LocationQueryStep where
  | begin
  | published (result : Except String Unit)
  | waited (timedOut : Bool)
  | finish
  | drop

inductive LocationAction where
  | query (id : Nat) (agent : Bytes) (queryId : String) (now : UInt64) (publisherInstalled : Bool)
  | call (id : Nat) (resumed : LocationQueryStep)
  | answer (id : Nat) (peer bytes : Bytes) (forwarderInstalled : Bool)
  | remember (id : Nat) (now : Nat)
  | forget (agent : Bytes)

namespace Locations

def empty : Locations := ⟨.empty, ∅, ∅⟩

def move (w : Locations) (id : Nat) (call : LocationQueryCall) (phase : LocationQueryPhase) :
    Locations :=
  { w with calls := w.calls.insert id { call with phase := phase } }

/-- One call of `query_mesh` runs to its next suspension point, or is dropped at one. -/
def advance (w : Locations) (id : Nat) (call : LocationQueryCall) :
    LocationQueryPhase → LocationQueryStep → Option Locations
  | .beginning, .begin =>
    match w.registry.begin call.queryId id with
    | .ok registry => some { w.move id call .publishing with registry := registry }
    | .error e => some (w.move id call (.returned (.error e)))
  | .publishing, .published result =>
    match result with
    | .ok () => some (w.move id call .waiting)
    | .error e => some (w.move id call (.finishing (.error e)))
  | .waiting, .waited timedOut =>
    if timedOut then some (w.move id call (.finishing (.ok none)))
    else if call.answer.isSome then some (w.move id call (.finishing (.ok call.answer)))
    else none
  | .finishing result, .finish =>
    some { w.move id call (.returned result) with registry := w.registry.finish call.queryId }
  | phase, .drop => if phase.ended then none else some (w.move id call (.dropped phase.holds))
  | _, _ => none

def start (r : PeerControlRelay) (w : Locations) (id : Nat) (agent : Bytes) (queryId : String)
    (now : UInt64) (publisherInstalled : Bool) : Locations :=
  let query := r.locationQuery publisherInstalled agent queryId now
  { w with calls := w.calls.insert id ⟨agent, queryId, none, .first query⟩ }

/-- The first half of `resolve`: a location answer looks its query up. -/
def hear (r : PeerControlRelay) (w : Locations) (id : Nat) (peer bytes : Bytes)
    (forwarderInstalled : Bool) : Locations :=
  match r.locationAnswer forwarderInstalled bytes with
  | none => w
  | some (queryId, agent) =>
    match w.registry.pending.lookup queryId with
    | none => w
    | some sender =>
      { w with answers := w.answers.insert id ⟨peer, queryId, agent, sender, false⟩ }

/-- The second half of `resolve`: wake the caller and remember the location. -/
def learn (w : Locations) (id : Nat) (a : LocationAnswer) (now : Nat) : Locations :=
  { registry := w.registry.remember a.agent a.peer now
    calls := match w.calls.lookup a.sender with
      | some call => w.calls.insert a.sender { call with answer := some a.peer }
      | none => w.calls
    answers := w.answers.insert id { a with remembered := true } }

def step (r : PeerControlRelay) (w : Locations) : LocationAction → Option Locations
  | .query id agent queryId now publisherInstalled =>
    match w.calls.lookup id with
    | none => some (w.start r id agent queryId now publisherInstalled)
    | some _ => none
  | .call id resumed =>
    match w.calls.lookup id with
    | some call => w.advance id call call.phase resumed
    | none => none
  | .answer id peer bytes forwarderInstalled =>
    match w.answers.lookup id with
    | none => some (w.hear r id peer bytes forwarderInstalled)
    | some _ => none
  | .remember id now =>
    match w.answers.lookup id with
    | some a => if a.remembered then none else some (w.learn id a now)
    | none => none
  | .forget agent => some { w with registry := w.registry.forget agent }

theorem advance_drop (w : Locations) (id : Nat) (call : LocationQueryCall)
    (phase : LocationQueryPhase) :
    advance w id call phase .drop =
      if phase.ended then none else some (w.move id call (.dropped phase.holds)) := by
  cases phase <;> rfl

inductive Stepped (r : PeerControlRelay) (w : Locations) : LocationAction → Locations → Prop
  | started {id : Nat} (hnew : w.calls.lookup id = none) :
    Stepped r w (.query id agent queryId now installed)
      (w.start r id agent queryId now installed)
  | moved {id : Nat} {call : LocationQueryCall} {phase : LocationQueryPhase}
    (hcall : w.calls.lookup id = some call) (hholds : phase.holds = call.phase.holds)
    (hdrop : phase.ended = true → phase.holds = true → resumed = .drop) :
    Stepped r w (.call id resumed) (w.move id call phase)
  | began {id : Nat} (hcall : w.calls.lookup id = some call) (hphase : call.phase = .beginning)
    (hroom : Assoc.size w.registry.pending < maxPendingLocations) :
    Stepped r w (.call id resumed) { w.move id call .publishing with
      registry := { w.registry with pending := w.registry.pending.insert call.queryId id } }
  | finished {id : Nat} (hcall : w.calls.lookup id = some call) (hphase : call.phase = .finishing result) :
    Stepped r w (.call id resumed) { w.move id call (.returned result) with
      registry := { w.registry with pending := w.registry.pending.erase call.queryId } }
  | heard {id : Nat} (hnew : w.answers.lookup id = none)
    (hanswer : r.locationAnswer installed bytes = some (queryId, agent))
    (hpending : w.registry.pending.lookup queryId = some sender) :
    Stepped r w (.answer id peer bytes installed)
      { w with answers := w.answers.insert id ⟨peer, queryId, agent, sender, false⟩ }
  | ignored {id : Nat} : Stepped r w (.answer id peer bytes installed) w
  | learned {id : Nat} {a : LocationAnswer} (ha : w.answers.lookup id = some a) (hnew : a.remembered = false) :
    Stepped r w (.remember id now) (w.learn id a now)
  | forgot : Stepped r w (.forget agent) { w with registry := w.registry.forget agent }

theorem stepped_of_advance {id : Nat} (hc : w.calls.lookup id = some call)
    (h : advance w id call call.phase resumed = some w') : Stepped r w (.call id resumed) w' := by
  generalize hp : call.phase = phase at h
  unfold advance at h
  split at h
  · split at h
    · next registry hb =>
      cases h
      obtain ⟨hr, hb⟩ := unit_bind_ok.1 hb
      cases hb
      rw [ensure_ok, decide_eq_true_eq] at hr
      exact .began hc hp hr
    · cases h
      exact .moved hc (by rw [hp]; rfl) (fun _ hh => by cases hh)
  · split at h
    all_goals
      cases h
      exact .moved hc (by rw [hp]; rfl) (fun he => by cases he)
  · split at h
    · cases h
      exact .moved hc (by rw [hp]; rfl) (fun he => by cases he)
    · split at h
      · cases h
        exact .moved hc (by rw [hp]; rfl) (fun he => by cases he)
      · cases h
  · cases h
    exact .finished hc hp
  · split at h
    · cases h
    · cases h
      exact .moved hc (by rw [hp]; rfl) (fun _ _ => rfl)
  · cases h

theorem step_cases (hs : step r w a = some w') : Stepped r w a w' := by
  cases a with
  | query id ag qid now installed =>
    simp only [step] at hs
    split at hs
    · next hn =>
      cases hs
      exact .started hn
    · cases hs
  | call id resumed =>
    simp only [step] at hs
    split at hs
    · next call hc => exact stepped_of_advance hc hs
    · cases hs
  | answer id peer bytes installed =>
    simp only [step] at hs
    split at hs
    · next hn =>
      cases hs
      unfold hear
      split
      · exact .ignored
      · next qid ag han =>
        split
        · exact .ignored
        · next sender hp => exact .heard hn han hp
    · cases hs
  | remember id now =>
    simp only [step] at hs
    split at hs
    · next a ha =>
      split at hs
      · cases hs
      · next hn =>
        cases hs
        exact .learned ha (Bool.eq_false_iff.2 hn)
    · cases hs
  | forget ag =>
    cases hs
    exact .forgot

def FreshQueryId (w : Locations) : LocationAction → Prop
  | .query _ _ queryId _ _ => ∀ id call, w.calls.lookup id = some call → call.queryId ≠ queryId
  | .call _ _ | .answer _ _ _ _ | .remember _ _ | .forget _ => True

instance (w : Locations) (a : LocationAction) : Decidable (FreshQueryId w a) :=
  match a with
  | .query _ _ queryId _ _ =>
    decidable_of_iff (∀ e ∈ w.calls.entries, e.2.queryId ≠ queryId)
      (Assoc.forall_lookup (P := fun call : LocationQueryCall => call.queryId ≠ queryId)).symm
  | .call _ _ | .answer _ _ _ _ | .remember _ _ | .forget _ => inferInstanceAs (Decidable True)

def Undropped (w : Locations) : LocationAction → Prop
  | .call id .drop => ∀ call, w.calls.lookup id = some call → call.phase.holds = false
  | _ => True

/-- The pending queries are those of the calls that registered one and did not remove it. -/
abbrev Registered (w : Locations) : Prop :=
  Slots LocationQueryCall.queryId (fun call => call.phase.holds) w.calls w.registry.pending

theorem registered_step (h : Registered w) (hf : FreshQueryId w a)
    (hs : step r w a = some w') : Registered w' := by
  cases step_cases hs with
  | started hn => exact h.arrive hn hf LocationQueryPhase.holds_first
  | moved hc hh => exact h.move hc rfl hh
  | began hc =>
    apply h.take hc <;> rfl
  | finished hc =>
    apply h.release hc <;> rfl
  | heard | ignored | forgot => exact h
  | learned =>
    unfold learn Registered
    split
    · next call hc => exact h.move hc rfl rfl
    · exact h

theorem reach_registered (h : Reach (step r) FreshQueryId .empty w) : Registered w := by
  apply Reach.invariant Registered (.empty _ _) _ h
  intro w a w' _ ih ha hs
  exact registered_step ih ha hs

abbrev Unleaked (w : Locations) : Prop :=
  Slots.Unleaked (fun call : LocationQueryCall => call.phase.holds) (fun call => call.phase.ended)
    w.calls

theorem unleaked_step (h : Unleaked w) (ha : Undropped w a) (hs : step r w a = some w') :
    Unleaked w' := by
  cases step_cases hs with
  | started =>
    apply h.insert
    intro _
    exact LocationQueryPhase.holds_first
  | moved hc hh hd =>
    apply h.move hh
    intro he hhl
    -- only a drop ends a call that holds its slot
    cases hd he hhl
    exact ha _ hc
  | began =>
    apply h.insert
    intro he
    cases he
  | finished =>
    apply h.insert
    intro _
    rfl
  | heard | ignored | forgot => exact h
  | @learned _ _ ans =>
    unfold learn Unleaked
    split
    · next call hc =>
      apply h.insert
      exact h ans.sender call hc
    · exact h

abbrev Freed (w : Locations) : Prop :=
  Slots.Freed LocationQueryCall.queryId (fun call => call.phase.ended) w.calls w.registry.pending

theorem reach_freed (h : Reach (step r) (fun w a => FreshQueryId w a ∧ Undropped w a) .empty w) :
    Freed w := by
  have hr : Registered w := reach_registered (h.mono fun _ _ ha => ha.1)
  have hu : Unleaked w := by
    apply Reach.invariant Unleaked (.empty _ _) _ h
    intro w a w' _ ih ha hs
    exact unleaked_step ih ha.2 hs
  exact hr.freed hu

theorem not_freed_of_drop (hr : Registered w') (ha : ¬Undropped w a)
    (hs : step r w a = some w') : ¬Freed w' := by
  cases a with
  | call id resumed =>
    cases resumed with
    | drop =>
      simp only [Undropped, not_forall] at ha
      obtain ⟨call, hc, hh⟩ := ha
      rw [Bool.not_eq_false] at hh
      have hd : w'.calls.lookup id = some { call with phase := .dropped call.phase.holds } := by
        simp only [step, hc] at hs
        rw [advance_drop] at hs
        split at hs
        · cases hs
        · cases hs
          exact AList.lookup_insert _
      exact hr.not_freed hd rfl hh
    | _ => exact absurd trivial ha
  | _ => exact absurd trivial ha

def sampleRelay : PeerControlRelay where
  identity := ⟨[], [], fun now expires => .ok ⟨1, [], none, [], "", now, expires, ""⟩⟩
  signLocation query _ := .ok query
  decodeRequest bytes := .ok ⟨1, bytes, .locationAnswer, "q", []⟩
  decodeEndpointId := some

def sampleAgent (id : UInt8) : Bytes := List.replicate 32 id

end Locations
end Podmesh
