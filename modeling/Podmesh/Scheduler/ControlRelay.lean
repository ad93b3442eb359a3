import Podmesh.Scheduler.LocationQueries

namespace Podmesh

def agentControlProtocolVersion : UInt16 := 1

inductive AgentControlError where
  | rejected
  | busy
  deriving DecidableEq

structure AgentControlResponse where
  version : UInt16
  ok : Bool
  encryptedPayload : Bytes
  error : Option AgentControlError
  deriving DecidableEq

def AgentControlResponse.validate (self : AgentControlResponse) : Except String Unit := do
  ensure (self.version == agentControlProtocolVersion) "unsupported agent control response version"
  ensure (self.ok == self.error.isNone) "agent control response result is ambiguous"
  if self.ok then
    ensure (!self.encryptedPayload.isEmpty
        && self.encryptedPayload.length ≤ maxAgentControlPayloadBytes)
      "agent control payload size is invalid"
  else ensure self.encryptedPayload.isEmpty "rejected agent response cannot contain a payload"

inductive AgentControlRelayError where
  | unknownAgent
  | busy
  | rejected
  | unavailable
  deriving DecidableEq

structure AgentControlRelayResponse where
  version : UInt16
  ok : Bool
  encryptedPayload : Bytes
  error : Option AgentControlRelayError
  deriving DecidableEq

namespace AgentControlRelayResponse

def delivered (encryptedPayload : Bytes) : AgentControlRelayResponse :=
  ⟨agentControlRelayProtocolVersion, true, encryptedPayload, none⟩

def failed (error : AgentControlRelayError) : AgentControlRelayResponse :=
  ⟨agentControlRelayProtocolVersion, false, [], some error⟩

def validate (self : AgentControlRelayResponse) : Except String Unit := do
  ensure (self.version == agentControlRelayProtocolVersion)
    "unsupported agent control relay response version"
  ensure (self.ok == self.error.isNone) "agent control relay response result is ambiguous"
  if self.ok then
    ensure (self.encryptedPayload.length ≤ maxAgentControlPayloadBytes)
      "relayed agent control response payload is too large"
  else
    ensure self.encryptedPayload.isEmpty "a failed relay response cannot contain a payload"

end AgentControlRelayResponse

inductive ForwardError where
  | unknownAgent
  | busy
  | rejected
  | unavailable
  deriving DecidableEq

def ForwardError.toRelayError : ForwardError → AgentControlRelayError
  | .unknownAgent => .unknownAgent
  | .busy => .busy
  | .rejected => .rejected
  | .unavailable => .unavailable

def mapRelayError : Option AgentControlRelayError → ForwardError
  | some .unknownAgent | none => .unknownAgent
  | some .busy => .busy
  | some .rejected => .rejected
  | some .unavailable => .unavailable

def AgentControlRelayRequest.forwarding (agent payload : Bytes) : AgentControlRelayRequest :=
  ⟨agentControlRelayProtocolVersion, agent, .forward, "", payload⟩

/-- One exchange of a scheduler with an agent attached to it. Connecting, opening the stream and
writing may fail before the agent has the whole request; reading the answer may fail after it. -/
inductive AgentExchange where
  | unreached (error : String)
  | handed (answer : Except String AgentControlResponse)

def AgentExchange.result : AgentExchange → Except String AgentControlResponse
  | .unreached e => .error e
  | .handed answer => do
    let response ← answer
    response.validate
    return response

/-- The scheduler at the other end when a request arrives: whether the sender is a member of its
mesh, its startup has completed, it has free permits and holds the attachment of the agent, and how
its exchange with the agent goes. -/
structure PeerScheduler where
  admitsSender : Bool
  forwarderInstalled : Bool
  relayPermit : Bool
  forwardPermit : Bool
  holdsAttachment : Bool
  exchange : AgentExchange

namespace PeerScheduler

/-- `forward_attached`: its answer, and whether the agent got the payload. -/
def forwardAttached (self : PeerScheduler) : Except ForwardError Bytes × Bool :=
  if !self.forwardPermit then (.error .busy, false)
  else if !self.holdsAttachment then (.error .unknownAgent, false)
  else
    let answer := match self.exchange.result with
      | .ok response => if response.ok then .ok response.encryptedPayload else .error .rejected
      | .error _ => .error .unavailable
    match self.exchange with
    | .unreached _ => (answer, false)
    | .handed _ => (answer, true)

/-- `dispatch` of a valid request to forward a payload. -/
def dispatch (self : PeerScheduler) : AgentControlRelayResponse × Bool :=
  if !self.forwarderInstalled then (.failed .busy, false)
  else if !self.relayPermit then (.failed .busy, false)
  else
    match self.forwardAttached with
    | (.ok payload, handed) => (.delivered payload, handed)
    | (.error e, handed) => (.failed e.toRelayError, handed)

end PeerScheduler

/-- One exchange with a peer. It may fail before the peer has the whole request, and the answer may
be lost or come too late. -/
inductive PeerExchange where
  | unreached (error : String)
  | reached (peer : PeerScheduler) (arrival : Except String Unit)

/-- The locations a scheduler remembers, and every payload an agent got from it. -/
structure RelayState where
  locations : LocationState
  handed : List (Bytes × Bytes)

/-- What one call of `deliver` meets: the clock, the members at each attempt, the two exchanges and
what the mesh answers to the location query. -/
structure DeliveryInput where
  now : Nat
  encode : AgentControlRelayRequest → Except String Bytes
  members : Bytes → Bool
  first : PeerExchange
  locate : LocationState → Option Bytes × LocationState
  laterMembers : Bytes → Bool
  second : PeerExchange

namespace RelayState

def hand (self : RelayState) (agent payload : Bytes) (handed : Bool) : RelayState :=
  if handed then { self with handed := self.handed ++ [(agent, payload)] } else self

def forget (self : RelayState) (agent : Bytes) : RelayState :=
  { self with locations := self.locations.forget agent }

def exchange (self : RelayState) (encode : AgentControlRelayRequest → Except String Bytes)
    (agent payload : Bytes) (x : PeerExchange) :
    Except String AgentControlRelayResponse × RelayState :=
  let request := AgentControlRelayRequest.forwarding agent payload
  match (do request.validate; encode request) with
  | .error e => (.error e, self)
  | .ok _ =>
    match x with
    | .unreached e => (.error e, self)
    | .reached peer arrival =>
      if !peer.admitsSender then
        (.error "read scheduler control relay response", self)
      else
        let (response, handed) := peer.dispatch
        (do response.validate; arrival; return response, self.hand agent payload handed)

/-- Relays through one peer; `none` means that the location is to be resolved again. -/
def tryForward (self : RelayState) (encode : AgentControlRelayRequest → Except String Bytes)
    (members : Bytes → Bool) (holder agent payload : Bytes) (x : PeerExchange) :
    Option (Except ForwardError Bytes) × RelayState :=
  if !members holder then (none, self.forget agent)
  else
    match self.exchange encode agent payload x with
    | (.ok response, self) =>
      if response.ok then (some (.ok response.encryptedPayload), self)
      else if response.error = some .unknownAgent then (none, self.forget agent)
      else (some (.error (mapRelayError response.error)), self)
    | (.error _, self) => (none, self.forget agent)

/-- The part of `deliver` after the cached location, if any, was of no use. -/
def resolve (self : RelayState) (i : DeliveryInput) (agent payload : Bytes) :
    Except ForwardError Bytes × RelayState :=
  match i.locate self.locations with
  | (none, locations) => (.error .unknownAgent, { self with locations })
  | (some holder, locations) =>
    let (answer, self) := { self with locations }.tryForward i.encode i.laterMembers holder agent
      payload i.second
    (answer.getD (.error .unavailable), self)

def deliver (self : RelayState) (i : DeliveryInput) (agent payload : Bytes) :
    Except ForwardError Bytes × RelayState :=
  match self.locations.cached agent i.now with
  | none => self.resolve i agent payload
  | some holder =>
    match self.tryForward i.encode i.members holder agent payload i.first with
    | (some response, self) => (response, self)
    | (none, self) => self.resolve i agent payload

end RelayState

/-! What one exchange does. -/

def PeerExchange.hands : PeerExchange → Bool
  | .unreached _ => false
  | .reached peer _ => peer.admitsSender && peer.dispatch.2

def PeerExchange.answered : PeerExchange → Bool
  | .unreached _ => false
  | .reached peer arrival =>
    peer.admitsSender && peer.dispatch.1.validate.isOk && arrival.isOk

def canSend (encode : AgentControlRelayRequest → Except String Bytes) (agent payload : Bytes) :
    Bool :=
  let request := AgentControlRelayRequest.forwarding agent payload
  (request.validate >>= fun _ => encode request).isOk

variable {peer : PeerScheduler}

theorem PeerScheduler.answer_of_handed
    (h : peer.forwardAttached.2 = true) : peer.forwardAttached.1 ≠ .error .unknownAgent := by
  unfold PeerScheduler.forwardAttached at h ⊢
  split at h
  · cases h
  · next hp =>
    rw [if_neg hp]
    split at h
    · cases h
    · next ha =>
      rw [if_neg ha]
      cases hx : peer.exchange with
      | unreached e =>
        rw [hx] at h
        cases h
      | handed ans =>
        split
        · split <;> exact fun hne => by cases hne
        · exact fun hne => by cases hne

theorem PeerScheduler.error_of_handed (h : peer.dispatch.2 = true) :
    peer.dispatch.1.error ≠ some .unknownAgent := by
  unfold PeerScheduler.dispatch at h ⊢
  split
  · exact fun hne => by cases hne
  · next hi =>
    rw [if_neg hi] at h
    split
    · exact fun hne => by cases hne
    · next hp =>
      rw [if_neg hp] at h
      cases hf : peer.forwardAttached with
      | mk ans handed =>
        rw [hf] at h
        cases ans with
        | ok pay => exact fun hne => by cases hne
        | error e =>
          have hk : (peer.forwardAttached).1 ≠ .error .unknownAgent := by
            apply PeerScheduler.answer_of_handed
            rw [hf]
            exact h
          rw [hf] at hk
          cases e with
          | unknownAgent => exact absurd rfl hk
          | _ => exact fun hne => by cases hne

namespace RelayState
variable {s : RelayState}

structure Exchanged (s : RelayState) (sent : Bool) (agent payload : Bytes) (x : PeerExchange)
    (r : Except String AgentControlRelayResponse × RelayState) : Prop where
  state : r.2 = s.hand agent payload (sent && x.hands)
  heard : r.1.isOk = (sent && x.answered)
  known : ∀ response, r.1 = .ok response → x.hands = true → response.error ≠ some .unknownAgent

theorem exchange_unadmitted (ha : peer.admitsSender = false) :
    s.Exchanged sent ag pay (.reached peer arrival) (.error e, s) := by
  refine ⟨?_, ?_, fun resp h => by cases h⟩
  · rw [PeerExchange.hands, ha, Bool.false_and, Bool.and_false]
    rfl
  · rw [PeerExchange.answered, ha, Bool.false_and, Bool.false_and, Bool.and_false]
    rfl

theorem exchange_admitted (ha : peer.admitsSender = true) :
    s.Exchanged true ag pay (.reached peer arrival)
      (do peer.dispatch.1.validate; arrival; return peer.dispatch.1,
        s.hand ag pay peer.dispatch.2) := by
  refine ⟨?_, ?_, fun resp h hh => ?_⟩
  · rw [PeerExchange.hands, ha, Bool.true_and, Bool.true_and]
  · rw [PeerExchange.answered, ha, Bool.true_and, Bool.true_and]
    cases peer.dispatch.1.validate with
    | error e => rfl
    | ok u =>
      cases arrival with
      | error e => rfl
      | ok u => rfl
  · obtain ⟨_, h⟩ := unit_bind_ok.1 h
    obtain ⟨_, h⟩ := unit_bind_ok.1 h
    cases h
    rw [PeerExchange.hands, ha, Bool.true_and] at hh
    exact PeerScheduler.error_of_handed hh

theorem exchange_spec (s : RelayState) (encode : AgentControlRelayRequest → Except String Bytes)
    (ag pay : Bytes) (x : PeerExchange) :
    s.Exchanged (canSend encode ag pay) ag pay x (s.exchange encode ag pay x) := by
  unfold exchange
  dsimp only
  split
  · next e her =>
    have hs : canSend encode ag pay = false := by
      rw [canSend, her]
      rfl
    rw [hs]
    exact ⟨rfl, rfl, fun resp h => by cases h⟩
  · next he =>
    have hs : canSend encode ag pay = true := by
      rw [canSend, he]
      rfl
    rw [hs]
    cases x with
    | unreached e => exact ⟨rfl, rfl, fun resp h => by cases h⟩
    | reached peer arrival =>
      dsimp only
      split
      · next ha => exact exchange_unadmitted (by simpa using ha)
      · next ha => exact exchange_admitted (by simpa using ha)

/-- One attempt: the agent gets the payload if the holder is a member, the request can be sent and
the exchange hands it over; the location is then resolved again exactly if no answer was read. -/
structure Tried (s : RelayState) (hands : Bool) (agent payload : Bytes) (x : PeerExchange)
    (r : Option (Except ForwardError Bytes) × RelayState) : Prop where
  state : r.2.handed = (s.hand agent payload hands).handed
  again : hands = true → (r.1 = none ↔ x.answered = false)
  forgotten : r.1 = none → r.2.locations = s.locations.forget agent

theorem forget_hand (s : RelayState) (agent pay : Bytes) (handed : Bool) :
    ((s.hand agent pay handed).forget agent).locations = s.locations.forget agent := by
  cases handed with
  | false | true => rfl

theorem tryForward_spec (s : RelayState) (encode : AgentControlRelayRequest → Except String Bytes)
    (members : Bytes → Bool) (holder ag pay : Bytes) (x : PeerExchange) :
    s.Tried (members holder && (canSend encode ag pay && x.hands)) ag pay x
      (s.tryForward encode members holder ag pay x) := by
  unfold tryForward
  cases hm : members holder with
  | false => exact ⟨rfl, (fun h => by cases h), fun _ => rfl⟩
  | true =>
    have hx := s.exchange_spec encode ag pay x
    simp only [Bool.not_true, Bool.false_eq_true, if_false, Bool.true_and]
    cases hr : s.exchange encode ag pay x with
    | mk ans s' =>
      rw [hr] at hx
      obtain ⟨rfl, hhr, hk⟩ := hx
      cases ans with
      | error e =>
        refine ⟨rfl, fun hh => iff_of_true rfl ?_, fun _ => ?_⟩
        · rw [(Bool.and_eq_true_iff.1 hh).1, Bool.true_and] at hhr
          exact hhr.symm
        · exact forget_hand s ag pay _
      | ok resp =>
        have ha : x.answered = true := (Bool.and_eq_true_iff.1 hhr.symm).2
        dsimp only
        split
        · exact ⟨rfl, fun _ => iff_of_false (fun h => by cases h) (by simp [ha]),
            fun h => by cases h⟩
        · split
          · next hu =>
            refine ⟨rfl, fun hh => ?_, fun _ => forget_hand s ag pay _⟩
            exact absurd hu (hk resp rfl (Bool.and_eq_true_iff.1 hh).2)
          · exact ⟨rfl, fun _ => iff_of_false (fun h => by cases h) (by simp [ha]),
              fun h => by cases h⟩

def firstHands (s : RelayState) (i : DeliveryInput) (agent payload : Bytes) : Bool :=
  (s.locations.cached agent i.now).any i.members && (canSend i.encode agent payload && i.first.hands)

def secondHands (s : RelayState) (i : DeliveryInput) (agent payload : Bytes) : Bool :=
  (i.locate (s.locations.forget agent)).1.any i.laterMembers
    && (canSend i.encode agent payload && i.second.hands)

theorem length_hand (handed : Bool) :
    (s.hand ag pay handed).handed.length = s.handed.length + handed.toNat := by
  cases handed with
  | false => rfl
  | true => exact List.length_append

theorem resolve_handed (s : RelayState) (i : DeliveryInput) (ag pay : Bytes) :
    (s.resolve i ag pay).2.handed.length = s.handed.length +
      ((i.locate s.locations).1.any i.laterMembers
        && (canSend i.encode ag pay && i.second.hands)).toNat := by
  unfold resolve
  cases hl : i.locate s.locations with
  | mk located locations =>
    cases located with
    | none => rfl
    | some holder =>
      have ht := tryForward_spec { s with locations } i.encode i.laterMembers holder ag
        pay i.second
      rw [ht.state, length_hand]
      rfl

/-- For every cache and every way in which the exchanges go, one delivery hands its payload to the
agent at most once exactly if it does not hand it over, miss the answer of the peer, and hand it
over again through the location that the mesh then answers. -/
theorem delivered_once_iff (s : RelayState) (i : DeliveryInput) (agent payload : Bytes) :
    (s.deliver i agent payload).2.handed.length ≤ s.handed.length + 1 ↔
      ¬ (s.firstHands i agent payload = true ∧ i.first.answered = false ∧
        s.secondHands i agent payload = true) := by
  unfold deliver firstHands secondHands
  cases hc : s.locations.cached agent i.now with
  | none =>
    have hrs := s.resolve_handed i agent payload
    have hb := Bool.toNat_le ((i.locate s.locations).1.any i.laterMembers
      && (canSend i.encode agent payload && i.second.hands))
    refine iff_of_true ?_ fun h => by cases h.1
    dsimp only
    omega
  | some holder =>
    have ht := s.tryForward_spec i.encode i.members holder agent payload i.first
    dsimp only
    rw [Option.any_some]
    cases hr : s.tryForward i.encode i.members holder agent payload i.first with
    | mk ans s' =>
      rw [hr] at ht
      have hl := congrArg List.length ht.state
      rw [length_hand] at hl
      have hfr := Bool.toNat_le
        (i.members holder && (canSend i.encode agent payload && i.first.hands))
      cases ans with
      | some resp =>
        refine iff_of_true ?_ fun ⟨hh, hu, _⟩ => ?_
        · dsimp only at hl ⊢
          omega
        · cases (ht.again hh).2 hu
      | none =>
        have hrs := s'.resolve_handed i agent payload
        have hlc : s'.locations = s.locations.forget agent := ht.forgotten rfl
        rw [hlc] at hrs
        have hs := Bool.toNat_le ((i.locate (s.locations.forget agent)).1.any i.laterMembers
          && (canSend i.encode agent payload && i.second.hands))
        rw [hrs, hl]
        cases hf : (i.members holder && (canSend i.encode agent payload && i.first.hands)) with
        | false =>
          refine iff_of_true ?_ fun h => by cases h.1
          rw [Bool.toNat_false]
          omega
        | true =>
          have hu : i.first.answered = false := (ht.again hf).1 rfl
          cases hg : ((i.locate (s.locations.forget agent)).1.any i.laterMembers
              && (canSend i.encode agent payload && i.second.hands)) with
          | false => exact iff_of_true (by simp) fun h => by cases h.2.2
          | true => exact iff_of_false (by simp) fun h => h ⟨rfl, hu, rfl⟩

def sampleHolder (answer : AgentControlResponse) : PeerScheduler :=
  ⟨true, true, true, true, true, .handed (.ok answer)⟩

/-- The agent accepts the payload, but the answer of the peer comes too late; the mesh then names
the same peer, and the agent refuses the repeated payload. -/
def lateAnswer : DeliveryInput where
  now := 1
  encode request := .ok request.encryptedPayload
  members _ := true
  first := .reached (sampleHolder ⟨agentControlProtocolVersion, true, [7], none⟩)
    (.error "scheduler control relay response timed out")
  locate locations := (some [2], locations)
  laterMembers _ := true
  second := .reached (sampleHolder ⟨agentControlProtocolVersion, false, [], some .rejected⟩) (.ok ())

/-- One delivery hands the payload over twice, and the client hears of the refusal only. -/
theorem late_answer_hands_over_twice :
    let agent := List.replicate 32 1
    let s : RelayState := ⟨LocationState.empty.remember agent [2] 0, []⟩
    (s.deliver lateAnswer agent [5]).1 = .error .rejected ∧
      (s.deliver lateAnswer agent [5]).2.handed = [(agent, [5]), (agent, [5])] := by
  decide +kernel

end RelayState

end Podmesh
