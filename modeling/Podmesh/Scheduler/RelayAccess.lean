import Podmesh.Scheduler.Attachments
import Podmesh.Scheduler.Members

namespace Podmesh

def machineRelayGrantVersion : UInt16 := 1
def maxMachineRelayClockSkewSecs : Nat := 30
def maxMachineRelayAudienceLen : Nat := 2048
def maxMachineRelayTokenIdLen : Nat := 128

inductive MachineRole where
  | scheduler
  | agent
  | podctl
  | proxy
  | sidecar
  deriving DecidableEq

def MachineRole.isMachineRelayAllowed : MachineRole → Bool
  | .scheduler | .agent | .podctl => true
  | .proxy | .sidecar => false

structure MachineRelayGrant where
  version : UInt16
  subjectEndpointId : Bytes
  role : MachineRole
  relayAudience : String
  issuedAtSecs : UInt64
  expiresAtSecs : UInt64
  tokenId : String
  issuerPubkey : String
  signature : String

structure RelayPlatform extends IrohPlatform where
  encodeGrant : MachineRelayGrant → Except String Bytes
  decodeGrant : Bytes → Except String MachineRelayGrant
  verifyGrant : Bytes → Bytes → Bytes → Except String Unit

def validateAudience (value : String) : Except String Unit := do
  ensure (value != "" && value.utf8ByteSize ≤ maxMachineRelayAudienceLen)
    "relay grant audience length is invalid"
  ensure (startsWith value "https://" || startsWith value "http://")
    "relay grant audience must use HTTP or HTTPS"
  ensure (!(utf8Bytes value).any isAsciiWhitespaceOrControl)
    "relay grant audience contains invalid characters"

namespace MachineRelayGrant

def validateEncodedSize (bytes : Bytes) : Except String Unit :=
  ensure (!bytes.isEmpty && bytes.length ≤ maxMachineRelayGrantBytes)
    "machine relay grant encoded size is invalid"

def validateUnsigned (self : MachineRelayGrant) (nowSecs : UInt64) : Except String Unit := do
  ensure (self.version == machineRelayGrantVersion) "unsupported machine relay grant version"
  ensure (self.subjectEndpointId.length == 32) "relay grant subject must contain 32 bytes"
  validateAudience self.relayAudience
  ensure (self.tokenId != "" && self.tokenId.utf8ByteSize ≤ maxMachineRelayTokenIdLen)
    "relay grant token ID length is invalid"
  ensure (self.issuedAtSecs.toNat ≤
      saturatingAdd u64Max nowSecs.toNat maxMachineRelayClockSkewSecs)
    "relay grant issue time is too far in the future"
  ensure (self.expiresAtSecs.toNat ≥ nowSecs.toNat) "relay grant expired"
  ensure (self.expiresAtSecs.toNat ≥ self.issuedAtSecs.toNat)
    "relay grant expiry precedes issue time"
  ensure (self.expiresAtSecs.toNat - self.issuedAtSecs.toNat ≤
      maxMachineRelayGrantLifetimeSecs.toNat)
    "relay grant lifetime exceeds limit"

def validate (p : RelayPlatform) (self : MachineRelayGrant) (nowSecs : UInt64) :
    Except String Unit := do
  self.validateUnsigned nowSecs
  let issuer ← p.b64Decode self.issuerPubkey
  ensure (issuer.length == 32) "relay grant issuer key must decode to 32 bytes"
  let signature ← p.b64Decode self.signature
  ensure (signature.length == 64) "relay grant signature must decode to 64 bytes"

def canonicalBytes (p : RelayPlatform) (self : MachineRelayGrant) : Except String Bytes := do
  let bytes ← p.encodeGrant { self with signature := "" }
  validateEncodedSize bytes
  return bytes

def verify (p : RelayPlatform) (self : MachineRelayGrant) (trustedIssuers : List Bytes)
    (expectedSubjectEndpointId : Bytes) (expectedRelayAudience : String) (nowSecs : UInt64) :
    Except String Unit := do
  self.validate p nowSecs
  ensure (self.subjectEndpointId == expectedSubjectEndpointId)
    "relay grant subject does not match authenticated endpoint"
  ensure (self.relayAudience == expectedRelayAudience) "relay grant audience does not match relay"
  ensure self.role.isMachineRelayAllowed "role is not allowed on machine relay"
  let issuerPublic ← p.b64Decode self.issuerPubkey
  ensure (trustedIssuers.contains issuerPublic) "relay grant issuer is not trusted"
  let signature ← p.b64Decode self.signature
  let bytes ← self.canonicalBytes p
  p.verifyGrant issuerPublic bytes signature

def fromBytes (p : RelayPlatform) (bytes : Bytes) (nowSecs : UInt64) :
    Except String MachineRelayGrant := do
  validateEncodedSize bytes
  let grant ← p.decodeGrant bytes
  grant.validate p nowSecs
  return grant

def fromAuthToken (p : RelayPlatform) (token : String) (nowSecs : UInt64) :
    Except String MachineRelayGrant := do
  ensure (token != "" && token.utf8ByteSize ≤ maxMachineRelayAuthTokenLen)
    "machine relay authorization token length is invalid"
  let bytes ← p.b64Decode token
  fromBytes p bytes nowSecs

end MachineRelayGrant

structure MachineRelayAccessControl where
  trustedIssuers : List Bytes
  memberIssuers : MemberIssuers
  audience : String

inductive Access where
  | allow
  | deny (reason : Option String)
  deriving DecidableEq

namespace MachineRelayAccessControl

def trusted (p : RelayPlatform) (self : MachineRelayAccessControl) (grant : MachineRelayGrant) :
    Except String (List Bytes) :=
  if self.memberIssuers.endpointFor grant.issuerPubkey = some grant.subjectEndpointId then do
    let key ← p.b64Decode grant.issuerPubkey
    return self.trustedIssuers ++ [key]
  else return self.trustedIssuers

def authorizeToken (p : RelayPlatform) (self : MachineRelayAccessControl) (token : String)
    (endpointId : Bytes) (nowSecs : UInt64) : Except String Unit := do
  let grant ← MachineRelayGrant.fromAuthToken p token nowSecs
  let trusted ← self.trusted p grant
  grant.verify p trusted endpointId self.audience nowSecs

def onConnect (p : RelayPlatform) (self : MachineRelayAccessControl) (authToken : Option String)
    (endpointId : Bytes) (nowSecs : UInt64) : Access :=
  match authToken with
  | none => .deny (some "invalid machine relay grant")
  | some token =>
    match self.authorizeToken p token endpointId nowSecs with
    | .ok () => .allow
    | .error _ => .deny (some "invalid machine relay grant")

theorem onConnect_eq_allow {self : MachineRelayAccessControl} :
    self.onConnect p authToken eid now = .allow ↔
      ∃ token, authToken = some token ∧ self.authorizeToken p token eid now = .ok () := by
  cases authToken with
  | none => simp [onConnect]
  | some token =>
    cases ha : self.authorizeToken p token eid now with
    | error e => simp [onConnect, ha]
    | ok => simp [onConnect, ha]

end MachineRelayAccessControl

/-- What a grant has to say, and who signed it, for `key` to open the relay to `endpointId`. -/
structure MachineRelayGrant.Opens (p : RelayPlatform) (grant : MachineRelayGrant) (key : Bytes)
    (endpointId : Bytes) (audience : String) (nowSecs : UInt64) : Prop where
  subject : grant.subjectEndpointId = endpointId
  audience : grant.relayAudience = audience
  allowed : grant.role.isMachineRelayAllowed = true
  issued : grant.issuedAtSecs.toNat ≤
    saturatingAdd u64Max nowSecs.toNat maxMachineRelayClockSkewSecs
  unexpired : nowSecs.toNat ≤ grant.expiresAtSecs.toNat
  issuer : p.b64Decode grant.issuerPubkey = .ok key
  signed : ∃ signature bytes, p.b64Decode grant.signature = .ok signature ∧
    grant.canonicalBytes p = .ok bytes ∧ p.verifyGrant key bytes signature = .ok ()

namespace MachineRelayGrant

theorem validateUnsigned_window {grant : MachineRelayGrant}
    (h : grant.validateUnsigned now = .ok ()) :
    grant.issuedAtSecs.toNat ≤ saturatingAdd u64Max now.toNat maxMachineRelayClockSkewSecs ∧
      now.toNat ≤ grant.expiresAtSecs.toNat := by
  simp only [validateUnsigned, bind_ok] at h
  obtain ⟨_, -, _, -, _, -, _, -, _, hi, _, he, _⟩ := h
  rw [ensure_ok, decide_eq_true_eq] at hi he
  exact ⟨hi, he⟩

theorem verify_ok {grant : MachineRelayGrant}
    (h : grant.verify p trusted eid audience now = .ok ()) :
    ∃ key ∈ trusted, grant.Opens p key eid audience now := by
  simp only [verify, bind_ok] at h
  obtain ⟨_, hv, _, hs, _, ha, _, hr, key, hk, _, ht, signature, hsg, bytes, hb, h⟩ := h
  rw [ensure_ok] at hs ha hr ht
  obtain ⟨hi, he⟩ := validateUnsigned_window (unit_bind_ok.1 hv).1
  refine ⟨key, List.contains_iff_mem.1 ht, ?_⟩
  exact {
    subject := eq_of_beq hs
    audience := eq_of_beq ha
    allowed := hr
    issued := hi
    unexpired := he
    issuer := hk
    signed := ⟨signature, bytes, hsg, hb, h⟩ }

end MachineRelayGrant

theorem MachineRelayAccessControl.authorizeToken_ok {self : MachineRelayAccessControl}
    (h : self.authorizeToken p token eid now = .ok ()) :
    ∃ grant key, MachineRelayGrant.fromAuthToken p token now = .ok grant ∧
      grant.Opens p key eid self.audience now ∧ (key ∈ self.trustedIssuers ∨
      self.memberIssuers.lookup grant.issuerPubkey = some eid) := by
  obtain ⟨grant, hg, h⟩ := bind_ok.1 h
  obtain ⟨keys, hk, h⟩ := bind_ok.1 h
  obtain ⟨key, hm, ho⟩ := MachineRelayGrant.verify_ok h
  refine ⟨grant, key, hg, ho, ?_⟩
  rw [← ho.subject]
  unfold trusted at hk
  split at hk
  · next hb => exact .inr hb
  · cases hk
    exact .inl hm

namespace Membership

def accessControl (w : Membership) (audience : String) : MachineRelayAccessControl :=
  ⟨w.issuers, w.memberIssuers, audience⟩

/-- The endpoint that the latest accepted binding of a key names. -/
def latestBinding (p : RelayPlatform) (w : Membership) (key : Bytes) : Option Bytes :=
  (w.accepted.find? fun binding => (p.b64Decode binding.1).toOption == some key).map Prod.snd

def Recorded (w : Membership) : Prop :=
  ∀ key, w.memberIssuers.lookup key = (w.accepted.find? fun b => b.1 == key).map Prod.snd

def Pinned (keys : List Bytes) (w : Membership) : Prop :=
  ∀ key ∈ w.issuers, key ∈ keys ∨ key ∈ w.pinned

variable {w w' : Membership} {a : MembershipEvent}

theorem Recorded.bind (h : w.Recorded) (key : String) (eid : Bytes) :
    (w.bind key eid).2.Recorded := by
  intro oth
  rcases w.memberIssuers.bind_cases key eid with ⟨hr, hs⟩ | ⟨hb, hsl, ho⟩
  · simp only [Membership.bind, hr, hs]
    exact h oth
  · simp only [Membership.bind, hb, if_true]
    by_cases hk : oth = key
    · subst hk
      simp only [hsl, List.find?_cons, beq_self_eq_true]
      rfl
    · rw [ho oth hk, h oth, List.find?_cons_of_neg]
      rw [beq_iff_eq]
      exact fun he => hk he.symm

theorem Recorded.step (h : w.Recorded) (hs : step p localEndpoint w a = some w') : w'.Recorded := by
  cases step_cases hs with
  | ignored => exact h
  | @admitted _ rcd => exact h.bind rcd.signingPubkey rcd.endpointId
  | @found _ _ _ address sk => exact h.bind (p.b64Encode sk) address.id

theorem Pinned.step (h : w.Pinned keys) (hs : step p localEndpoint w a = some w') :
    w'.Pinned keys := by
  cases step_cases hs with
  | ignored | admitted => exact h
  | found =>
    intro key hk
    rcases IssuerRegistry.mem_insert hk with hk | rfl
    · exact (h key hk).imp_right (List.mem_cons_of_mem _)
    · exact .inr List.mem_cons_self

theorem reach_recorded (h : Reach (step p localEndpoint) ok (start seed keys) w) :
    w.Recorded ∧ w.Pinned keys := by
  apply Reach.invariant (fun w => w.Recorded ∧ w.Pinned keys) _ _ h
  · exact ⟨fun _ => rfl, fun _ hk => .inl hk⟩
  · intro w a w' _ ih _ hs
    exact ⟨ih.1.step hs, ih.2.step hs⟩

theorem latestBinding_eq
    (hc : ∀ text bytes, p.b64Decode text = .ok bytes → p.b64Encode bytes = text) (h : w.Recorded)
    (hk : p.b64Decode text = .ok key) : w.latestBinding p key = w.memberIssuers.lookup text := by
  rw [h text, latestBinding]
  congr 2
  funext binding
  rw [Bool.eq_iff_iff, beq_iff_eq, beq_iff_eq]
  constructor
  · intro hd
    cases hb : p.b64Decode binding.1 with
    | error e =>
      rw [hb] at hd
      cases hd
    | ok bytes =>
      rw [hb] at hd
      have hby : bytes = key := Option.some.inj hd
      subst hby
      exact (hc _ _ hb).symm.trans (hc _ _ hk)
  · rintro rfl
    rw [hk]
    rfl

def sampleRelay : RelayPlatform where
  b64Encode bytes :=
    if bytes.length = 32 then "key" else if bytes.length = 64 then "signature"
    else if bytes = [1] then "first" else "second"
  b64Decode text :=
    if text = "key" then .ok (List.replicate 32 0)
    else if text = "signature" then .ok (List.replicate 64 0)
    else if text = "first" then .ok [1] else if text = "second" then .ok [2] else .error "base64"
  canonical _ := .ok [0]
  signDomain _ _ _ := .ok (List.replicate 64 0)
  verifyDomain _ _ _ _ := .ok ()
  blake3Hex _ := ""
  parseSocketAddr _ := none
  validEndpointId _ := true
  parseRelayUrl := some
  encodeGrant _ := .ok [0]
  decodeGrant bytes := .ok ⟨1, List.replicate 32 (bytes.headD 0), .scheduler, "https://relay", 130,
    140, "grant", "key", "signature"⟩
  verifyGrant _ _ _ := .ok ()

end Membership
end Podmesh
