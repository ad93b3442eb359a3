import Podmesh.Lib.Exclusive
import Podmesh.Protocol.Verify

namespace Podmesh

def schedulerMeshProtocolVersion : UInt16 := 1
def maxAgentAttachmentBytes : Nat := 8 * 1024
def maxAttachmentRelayGrants : Nat := 16
def maxMachineRelayGrantBytes : Nat := 2 * 1024
def maxMachineRelayAuthTokenLen : Nat := 4 * ((maxMachineRelayGrantBytes + 2) / 3)
def maxMachineRelayGrantLifetimeSecs : UInt64 := 5 * 60

structure AgentAttachmentAck where
  version : UInt16
  relayGrants : List String
  refreshAfterSecs : UInt64
  deriving DecidableEq

def AgentAttachmentAck.validate (self : AgentAttachmentAck) (nowSecs : UInt64) :
    Except String Unit := do
  ensure (self.version == schedulerMeshProtocolVersion)
    "unsupported agent attachment acknowledgement version"
  ensure (self.relayGrants.length ≤ maxAttachmentRelayGrants) "too many attachment relay grants"
  ensure (self.refreshAfterSecs > nowSecs) "agent attachment refresh deadline must be in the future"
  forEach (fun grant => ensure (grant != "" && grant.utf8ByteSize ≤ maxMachineRelayAuthTokenLen)
    "attachment relay grant length is invalid") self.relayGrants

structure RelayGrantIssuer where
  issueRelayGrant : Bytes → String → UInt64 → Except String String
  audiences : List String

structure AttachmentSession where
  generation : String
  connection : Nat
  agentAddr : String
  deriving DecidableEq

/-- The settings of the attachment manager. Decoding and checking a hello, reading its address and
the postcard encoding of an acknowledgement are parameters. -/
structure AttachmentManager where
  maxAttachedAgents : Nat
  relayIssuer : Option RelayGrantIssuer
  helloFromBytes : Bytes → UInt64 → Except String EndpointRecord
  endpointAddr : EndpointRecord → UInt64 → Except String String
  encodeAck : AgentAttachmentAck → Except String Bytes

abbrev AttachedSessions := AList fun _ : Bytes => AttachmentSession

namespace AttachmentManager

def register (self : AttachmentManager) (sessions : AttachedSessions) (endpointId : Bytes)
    (session : AttachmentSession) : Except String AttachedSessions := do
  ensure (sessions.lookup endpointId).isNone "agent already has an active scheduler attachment"
  ensure (Assoc.size sessions < self.maxAttachedAgents) "scheduler attachment limit reached"
  return sessions.insert endpointId session

def remove (sessions : AttachedSessions) (endpointId : Bytes) (generation : String) :
    AttachedSessions :=
  if (sessions.lookup endpointId).any fun session => session.generation == generation then
    sessions.erase endpointId
  else
    sessions

def acknowledgement (self : AttachmentManager) (endpointId : Bytes) (nowSecs : UInt64) :
    Except String AgentAttachmentAck := do
  let relayGrants ← match self.relayIssuer with
    | none => pure []
    | some issuer => issuer.audiences.mapM fun audience =>
      issuer.issueRelayGrant endpointId audience nowSecs
  return {
    version := schedulerMeshProtocolVersion
    relayGrants := relayGrants
    refreshAfterSecs := nowSecs + maxMachineRelayGrantLifetimeSecs / 2 }

def ackToBytes (self : AttachmentManager) (ack : AgentAttachmentAck) (nowSecs : UInt64) :
    Except String Bytes := do
  ack.validate nowSecs
  let bytes ← self.encodeAck ack
  ensure (!bytes.isEmpty && bytes.length ≤ maxAgentAttachmentBytes)
    "agent attachment encoded size is invalid"
  return bytes

def readHello (self : AttachmentManager) (remoteId : Bytes) (received : Except String Bytes)
    (verifiedAt addressedAt : UInt64) : Except String String := do
  let bytes ← received
  let endpoint ← self.helloFromBytes bytes verifiedAt
  ensure (endpoint.endpointId == remoteId)
    "agent attachment EndpointId does not match authenticated transport"
  self.endpointAddr endpoint addressedAt

def prepareAck (self : AttachmentManager) (remoteId : Bytes) (issuedAt encodedAt : UInt64) :
    Except String Bytes := do
  let ack ← self.acknowledgement remoteId issuedAt
  self.ackToBytes ack encodedAt

end AttachmentManager

/-- Where a call of `accept_once` stands. Every constructor but the last is a suspension point. -/
inductive AcceptPhase where
  | handshake
  | registering (agentAddr : String)
  | acknowledging (session : AttachmentSession)
  | writing (session : AttachmentSession)
  | serving (session : AttachmentSession)
  | removing (session : AttachmentSession)
  | returned (registered : Option AttachmentSession) (result : Except String Unit)

namespace AcceptPhase

def session : AcceptPhase → Option AttachmentSession
  | .handshake | .registering _ => none
  | .acknowledging session | .writing session | .serving session | .removing session =>
    some session
  | .returned registered _ => registered

/-- The session of the call that nobody has removed: the only removal is on the way to `Ok`. -/
def standing : AcceptPhase → Option AttachmentSession
  | .returned _ (.ok _) => none
  | phase => phase.session

def ended : AcceptPhase → Bool
  | .returned _ _ => true
  | _ => false

def failed : AcceptPhase → Bool
  | .returned (some _) (.error _) => true
  | _ => false

/-- An error after the registration ends the call and leaves its session. -/
def proceed (session : AttachmentSession) (next : AcceptPhase) : Except String Unit → AcceptPhase
  | .ok _ => next
  | .error e => .returned (some session) (.error e)

theorem proceed_spec (ses : AttachmentSession) (next : AcceptPhase) (outcome : Except String Unit)
    (hss : next.session = some ses) (hs : next.standing = some ses) (hf : next.failed = false) :
    (proceed ses next outcome).session = some ses ∧ (proceed ses next outcome).standing = some ses ∧
      (outcome.isOk = true ↔ (proceed ses next outcome).failed = false) := by
  cases outcome with
  | ok _ => exact ⟨hss, hs, iff_of_true rfl hf⟩
  | error e => exact ⟨rfl, rfl, iff_of_false Bool.false_ne_true Bool.true_eq_false.mp⟩

end AcceptPhase

structure AcceptOnce where
  remoteId : Bytes
  connection : Nat
  phase : AcceptPhase

/-- The attachment map and all calls of `accept_once`, running and returned. -/
structure Attachments where
  sessions : AttachedSessions
  calls : AList fun _ : Nat => AcceptOnce

inductive AttachmentAction where
  | accept (id : Nat) (remoteId : Bytes) (connection : Nat)
  | hello (id : Nat) (received : Except String Bytes) (verifiedAt addressedAt : UInt64)
  | register (id : Nat) (generation : String)
  | acknowledge (id : Nat) (issuedAt encodedAt : UInt64)
  | write (id : Nat) (written finished : Except String Unit)
  | close (id : Nat)
  | remove (id : Nat)

namespace Attachments

def empty : Attachments := ⟨∅, ∅⟩

def move (w : Attachments) (id : Nat) (call : AcceptOnce) (phase : AcceptPhase) : Attachments :=
  { w with calls := w.calls.insert id { call with phase := phase } }

def generations (w : Attachments) : List String :=
  w.calls.entries.filterMap fun entry => entry.2.phase.session.map (·.generation)

def advance (m : AttachmentManager) (w : Attachments) (id : Nat) (call : AcceptOnce) :
    AttachmentAction → Option Attachments
  | .hello _ received verifiedAt addressedAt =>
    match call.phase with
    | .handshake =>
      match m.readHello call.remoteId received verifiedAt addressedAt with
      | .ok agentAddr => some (w.move id call (.registering agentAddr))
      | .error e => some (w.move id call (.returned none (.error e)))
    | _ => none
  | .register _ generation =>
    match call.phase with
    | .registering agentAddr =>
      match m.register w.sessions call.remoteId ⟨generation, call.connection, agentAddr⟩ with
      | .ok sessions => some { w.move id call
          (.acknowledging ⟨generation, call.connection, agentAddr⟩) with sessions := sessions }
      | .error e => some (w.move id call (.returned none (.error e)))
    | _ => none
  | .acknowledge _ issuedAt encodedAt =>
    match call.phase with
    | .acknowledging session => some (w.move id call (.proceed session (.writing session)
        ((m.prepareAck call.remoteId issuedAt encodedAt).map fun _ => ())))
    | _ => none
  | .write _ written finished =>
    match call.phase with
    | .writing session => some (w.move id call (.proceed session (.serving session)
        (written.bind fun _ => finished)))
    | _ => none
  | .close _ =>
    match call.phase with
    | .serving session => some (w.move id call (.removing session))
    | _ => none
  | .remove _ =>
    match call.phase with
    | .removing session => some { w.move id call (.returned (some session) (.ok ())) with
        sessions := AttachmentManager.remove w.sessions call.remoteId session.generation }
    | _ => none
  | .accept _ _ _ => none

end Attachments

def AttachmentAction.id : AttachmentAction → Nat
  | .accept id _ _ | .hello id _ _ _ | .register id _ | .acknowledge id _ _ | .write id _ _
  | .close id | .remove id => id

namespace Attachments

def arrive (w : Attachments) : AttachmentAction → Option Attachments
  | .accept id remoteId connection =>
    some { w with calls := w.calls.insert id ⟨remoteId, connection, .handshake⟩ }
  | _ => none

def step (m : AttachmentManager) (w : Attachments) (a : AttachmentAction) : Option Attachments :=
  match w.calls.lookup a.id with
  | some call => w.advance m a.id call a
  | none => w.arrive a

def FreshGeneration (w : Attachments) : AttachmentAction → Prop
  | .register _ generation => generation ∉ w.generations
  | _ => True

/-- After it registered, a call gets its acknowledgement issued, encoded, written and finished. -/
def Delivers (m : AttachmentManager) (w : Attachments) : AttachmentAction → Prop
  | .acknowledge id issuedAt encodedAt => ((w.calls.lookup id).all fun call =>
    (m.prepareAck call.remoteId issuedAt encodedAt).isOk) = true
  | .write _ written finished => written.isOk = true ∧ finished.isOk = true
  | _ => True

instance (w : Attachments) (a : AttachmentAction) : Decidable (FreshGeneration w a) := by
  cases a <;> unfold FreshGeneration <;> infer_instance

instance (m : AttachmentManager) (w : Attachments) (a : AttachmentAction) :
    Decidable (Delivers m w a) := by
  cases a <;> unfold Delivers <;> infer_instance

inductive Stepped (m : AttachmentManager) (w : Attachments) : AttachmentAction → Attachments → Prop
  | moved {a : AttachmentAction} (hcall : w.calls.lookup a.id = some call)
    (hsession : phase.session = call.phase.session)
    (hstanding : phase.standing = call.phase.standing)
    (hiff : Delivers m w a ↔ phase.failed = false) : Stepped m w a (w.move a.id call phase)
  | accepted {id : Nat} (hnone : w.calls.lookup id = none) : Stepped m w (.accept id remoteId connection)
      { w with calls := w.calls.insert id ⟨remoteId, connection, .handshake⟩ }
  | registered {id : Nat} (hcall : w.calls.lookup id = some call)
    (hphase : call.phase = .registering agentAddr) (hfree : w.sessions.lookup call.remoteId = none)
      :
    Stepped m w (.register id generation)
      { w.move id call (.acknowledging ⟨generation, call.connection, agentAddr⟩) with
        sessions := w.sessions.insert call.remoteId ⟨generation, call.connection, agentAddr⟩ }
  | removed {id : Nat} (hcall : w.calls.lookup id = some call)
    (hphase : call.phase = .removing session) :
    Stepped m w (.remove id) { w.move id call (.returned (some session) (.ok ())) with
      sessions := AttachmentManager.remove w.sessions call.remoteId session.generation }

theorem step_cases (hs : step m w a = some w') : Stepped m w a w' := by
  unfold step at hs
  split at hs
  · next call hc =>
    obtain ⟨remoteId, connection, phase⟩ := call
    -- each action moves a call from one phase only
    cases a with
    | accept id => cases hs
    | hello id received verifiedAt addressedAt =>
      cases phase with
      | handshake =>
        simp only [advance] at hs
        split at hs <;> cases hs <;> exact .moved hc rfl rfl (iff_of_true trivial rfl)
      | _ => cases hs
    | register id gen =>
      cases phase with
      | registering agentAddr =>
        simp only [advance] at hs
        split at hs
        · next sessions hr =>
          cases hs
          obtain ⟨hf, hr⟩ := unit_bind_ok.1 hr
          obtain ⟨_, hr⟩ := unit_bind_ok.1 hr
          cases hr
          have hf := Option.isNone_iff_eq_none.1 (ensure_ok.1 hf)
          exact .registered hc rfl hf
        · cases hs
          exact .moved hc rfl rfl (iff_of_true trivial rfl)
      | _ => cases hs
    | acknowledge id issuedAt encodedAt =>
      cases phase with
      | acknowledging ses =>
        cases hs
        have hsp := AcceptPhase.proceed_spec ses (.writing ses)
          ((m.prepareAck remoteId issuedAt encodedAt).map fun _ => ()) rfl rfl rfl
        refine .moved hc hsp.1 hsp.2.1 ?_
        rw [← hsp.2.2, isOk_map, Delivers, show w.calls.lookup id = _ from hc]
        exact Iff.rfl
      | _ => cases hs
    | write id written finished =>
      cases phase with
      | writing ses =>
        cases hs
        have hsp := AcceptPhase.proceed_spec ses (.serving ses)
          (written.bind fun _ => finished) rfl rfl rfl
        refine .moved hc hsp.1 hsp.2.1 ?_
        rw [← hsp.2.2]
        cases written <;> simp [Delivers, Except.bind, Except.isOk, Except.toBool]
      | _ => cases hs
    | close id =>
      cases phase with
      | serving ses =>
        cases hs
        exact .moved hc rfl rfl (iff_of_true trivial rfl)
      | _ => cases hs
    | remove id =>
      cases phase with
      | removing ses =>
        cases hs
        exact .removed hc rfl
      | _ => cases hs
  · next hn =>
    cases a with
    | accept id remoteId connection =>
      cases hs
      exact .accepted hn
    | _ => cases hs

end Attachments
end Podmesh
