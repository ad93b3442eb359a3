import Podmesh.Proxy.Sessions

namespace Podmesh

def maxWorkloadConnections : Nat := 4096

/-- Where a task of `register_connection` stands; it holds the write lock of the connection map from
`inserted` to `serving` and from `removing` to its end. -/
inductive LinkPhase where
  | arriving
  | inserted
  | serving
  | closing
  | removing
  | removed
  | ended (closed : Option String)
  deriving DecidableEq

namespace LinkPhase

def locked : LinkPhase → Bool
  | .inserted | .removing | .removed => true
  | _ => false

def torn : LinkPhase → Bool
  | .inserted | .removed => true
  | _ => false

def past : LinkPhase → Bool
  | .arriving | .inserted => false
  | _ => true

end LinkPhase

structure Link where
  remote : String
  stableId : Nat
  phase : LinkPhase
  deriving DecidableEq

structure Links where
  connections : AList fun _ : String => Nat
  sessions : TenantSessions
  lock : Option Nat
  tasks : AList fun _ : Nat => Link

inductive LinkStep where
  | enter | start | leave | cleanup | removeSession | removeConnection
  deriving DecidableEq

/-- The steps of the connection tasks, and the calls of `TenantSessions` from any stream. -/
inductive LinkAction where
  | connect (id : Nat) (remote : String) (stableId : Nat)
  | task (id : Nat) (step : LinkStep)
  | proveBound (remote : String) (stableId : Nat) (tenant : ProvenTenant) (now : UInt64)
  | removeIfCurrent (remote : String) (stableId : Nat)

namespace Links

def empty : Links := ⟨∅, ∅, none, ∅⟩

def move (w : Links) (id : Nat) (link : Link) (phase : LinkPhase) : Links :=
  { w with tasks := w.tasks.insert id { link with phase := phase } }

def refusal (w : Links) (remote : String) : Option String :=
  if (w.connections.lookup remote).isNone && maxWorkloadConnections ≤ Assoc.size w.connections then
    some "connection limit reached"
  else if (w.connections.lookup remote).isSome then
    some "duplicate connection"
  else
    none

/-- Takes the lock and inserts the connection, or refuses it and gives the lock back. -/
def enter (w : Links) (id : Nat) (link : Link) : Links :=
  match w.refusal link.remote with
  | some reason => w.move id link (.ended (some reason))
  | none => { w.move id link .inserted with
      connections := w.connections.insert link.remote link.stableId
      lock := some id }

def start (w : Links) (id : Nat) (link : Link) : Links :=
  match w.sessions.start link.remote link.stableId with
  | .ok sessions => { w.move id link .serving with sessions := sessions, lock := none }
  | .error _ => { w.move id link (.ended (some "duplicate connection session")) with
      connections := w.connections.erase link.remote
      lock := none }

/-- Takes the lock after the connection ended, to remove it if it is still the current one. -/
def cleanup (w : Links) (id : Nat) (link : Link) : Links :=
  if w.connections.lookup link.remote = some link.stableId then
    { w.move id link .removing with lock := some id }
  else
    w.move id link (.ended none)

def advance (w : Links) (id : Nat) (link : Link) : LinkStep → Option Links
  | .enter => if link.phase = .arriving ∧ w.lock = none then some (w.enter id link) else none
  | .start => if link.phase = .inserted then some (w.start id link) else none
  | .leave => if link.phase = .serving then some (w.move id link .closing) else none
  | .cleanup => if link.phase = .closing ∧ w.lock = none then some (w.cleanup id link) else none
  | .removeSession =>
    if link.phase = .removing then
      some { w.move id link .removed with
        sessions := w.sessions.removeIfCurrent link.remote link.stableId }
    else none
  | .removeConnection =>
    if link.phase = .removed then
      some { w.move id link (.ended none) with
        connections := w.connections.erase link.remote
        lock := none }
    else none

def proveBound (p : TokenPlatform) (w : Links) (remote : String) (stableId : Nat)
    (tenant : ProvenTenant) (now : UInt64) : Links :=
  match w.sessions.proveBound p remote stableId tenant now with
  | .ok sessions => { w with sessions := sessions }
  | .error _ => w

def step (p : TokenPlatform) (w : Links) : LinkAction → Option Links
  | .connect id remote stableId =>
    if (w.tasks.lookup id).isNone then
      some { w with tasks := w.tasks.insert id ⟨remote, stableId, .arriving⟩ }
    else none
  | .proveBound remote stableId tenant now => some (w.proveBound p remote stableId tenant now)
  | .removeIfCurrent remote stableId =>
    some { w with sessions := w.sessions.removeIfCurrent remote stableId }
  | .task id step => (w.tasks.lookup id).bind fun link => w.advance id link step

/-- No two connections have one stable id, and a stream that forgets a session with
`remove_if_current` is one of an earlier connection: only the cleanup of a connection forgets its
own session. -/
def Regular (w : Links) : LinkAction → Prop
  | .connect _ _ stableId => ∀ id link, w.tasks.lookup id = some link → link.stableId ≠ stableId
  | .removeIfCurrent remote stableId => ∀ session, w.sessions.lookup remote = some session →
    session.stableId ≠ stableId
  | _ => True

instance (w : Links) (a : LinkAction) : Decidable (Regular w a) :=
  match a with
  | .connect _ _ stableId =>
    decidable_of_iff (∀ entry ∈ w.tasks.entries, entry.2.stableId ≠ stableId)
      (Assoc.forall_lookup (P := fun link : Link => link.stableId ≠ stableId)).symm
  | .removeIfCurrent remote stableId =>
    decidable_of_iff ((w.sessions.lookup remote).all (·.stableId ≠ stableId) = true) (by
      simp [Regular, Option.all_eq_true])
  | .task _ _ => .isTrue trivial
  | .proveBound _ _ _ _ => .isTrue trivial

inductive Stepped (p : TokenPlatform) (w : Links) : LinkAction → Links → Prop
  | connected {id : Nat} (hnew : w.tasks.lookup id = none) :
    Stepped p w (.connect id remote stableId)
      { w with tasks := w.tasks.insert id ⟨remote, stableId, .arriving⟩ }
  | moved {id : Nat} (hlink : w.tasks.lookup id = some link) (hl : link.phase.locked = false)
    (hl' : phase.locked = false) (hpast : phase.past = true) :
    Stepped p w (.task id s) (w.move id link phase)
  | entered {id : Nat} (hlink : w.tasks.lookup id = some link) (hphase : link.phase = .arriving)
    (hlock : w.lock = none) (hfree : w.connections.lookup link.remote = none) :
    Stepped p w (.task id s) { w.move id link .inserted with
      connections := w.connections.insert link.remote link.stableId
      lock := some id }
  | started {id : Nat} (hlink : w.tasks.lookup id = some link) (hphase : link.phase = .inserted)
    (hnone : w.sessions.lookup link.remote = none) :
    Stepped p w (.task id s) { w.move id link .serving with
      sessions := w.sessions.insert link.remote ⟨link.stableId, none⟩
      lock := none }
  | duplicate {id : Nat} (hlink : w.tasks.lookup id = some link) (hphase : link.phase = .inserted)
    (hheld : w.sessions.lookup link.remote ≠ none) :
    Stepped p w (.task id s) { w.move id link (.ended (some "duplicate connection session")) with
      connections := w.connections.erase link.remote
      lock := none }
  | removing {id : Nat} (hlink : w.tasks.lookup id = some link) (hlock : w.lock = none)
    (hcurrent : w.connections.lookup link.remote = some link.stableId) :
    Stepped p w (.task id s) { w.move id link .removing with lock := some id }
  | removedSession {id : Nat} (hlink : w.tasks.lookup id = some link)
    (hphase : link.phase = .removing) :
    Stepped p w (.task id s) { w.move id link .removed with
      sessions := w.sessions.removeIfCurrent link.remote link.stableId }
  | removedConnection {id : Nat} (hlink : w.tasks.lookup id = some link)
    (hphase : link.phase = .removed) :
    Stepped p w (.task id s) { w.move id link (.ended none) with
      connections := w.connections.erase link.remote
      lock := none }
  | proved {session : TenantSession} (hsession : w.sessions.lookup remote = some session)
    (hidentity : tenant.identity p = .ok identity)
    (hrenews : ∀ old, session.tenant = some old → old.Renews p tenant) :
    Stepped p w (.proveBound remote session.stableId tenant now)
      { w with sessions := w.sessions.insert remote ⟨session.stableId, some tenant⟩ }
  | unproved : Stepped p w (.proveBound remote stableId tenant now) w
  | forgot : Stepped p w (.removeIfCurrent remote stableId)
      { w with sessions := w.sessions.removeIfCurrent remote stableId }

theorem stepped_of_advance {id : Nat} (hl : w.tasks.lookup id = some link)
    (h : advance w id link s = some w') : Stepped p w (.task id s) w' := by
  cases s with
  | enter =>
    simp only [advance, enter] at h
    split at h
    · next hc =>
      obtain ⟨hp, hlc⟩ := hc
      split at h
      · cases h
        exact .moved hl (by rw [hp]; rfl) rfl rfl
      · next hr =>
        cases h
        refine .entered hl hp hlc ?_
        unfold refusal at hr
        split at hr
        · cases hr
        · split at hr
          · cases hr
          · next hn => simpa using hn
    · cases h
  | start =>
    simp only [advance, start, TenantSessions.start] at h
    split at h
    · next hp =>
      cases hs : w.sessions.lookup link.remote with
      | none =>
        rw [hs] at h
        cases h
        exact .started hl hp hs
      | some ses =>
        rw [hs] at h
        cases h
        refine .duplicate hl hp ?_
        rw [hs]
        exact Option.some_ne_none ses
    · cases h
  | leave =>
    simp only [advance] at h
    split at h
    · next hp =>
      cases h
      exact .moved hl (by rw [hp]; rfl) rfl rfl
    · cases h
  | cleanup =>
    simp only [advance, cleanup] at h
    split at h
    · next hc =>
      obtain ⟨hp, hlc⟩ := hc
      split at h
      · next hcr =>
        cases h
        exact .removing hl hlc hcr
      · cases h
        exact .moved hl (by rw [hp]; rfl) rfl rfl
    · cases h
  | removeSession =>
    simp only [advance] at h
    split at h
    · next hp =>
      cases h
      exact .removedSession hl hp
    · cases h
  | removeConnection =>
    simp only [advance] at h
    split at h
    · next hp =>
      cases h
      exact .removedConnection hl hp
    · cases h

theorem step_cases (hs : step p w a = some w') : Stepped p w a w' := by
  cases a with
  | connect id rem sid =>
    simp only [step] at hs
    split at hs
    · next hn =>
      cases hs
      exact .connected (Option.isNone_iff_eq_none.1 hn)
    · cases hs
  | task id s =>
    obtain ⟨link, hl, hs⟩ := Option.bind_eq_some_iff.1 hs
    exact stepped_of_advance hl hs
  | proveBound rem sid ten now =>
    cases hs
    unfold proveBound
    split
    · next sessions hok =>
      obtain ⟨ses, _, hss, rfl, rfl, hi, hr⟩ :=
        TenantSessions.proveBound_ok hok
      exact .proved hss hi hr
    · exact .unproved
  | removeIfCurrent rem sid =>
    cases hs
    exact .forgot

end Links
end Podmesh
