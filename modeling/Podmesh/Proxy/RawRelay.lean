import Podmesh.Lib.Fallible
import Podmesh.Lib.Transition
import Mathlib.Algebra.Order.Ring.Nat

/-!
Two copy loops run under a supervisor that stops them when its token is cancelled, when the relay
was idle or alive for too long and when its authority ends. What one `await` returns is one action;
a write of a whole buffer may be done in several parts. The clock counts the units of the limits,
and the timers may tick at any moment.
-/

namespace Podmesh

structure RawRelayLimits where
  maxBytesPerDirection : Nat
  idleTimeout : Nat
  maxLifetime : Nat
  authorityInterval : Nat

def RawRelayLimits.validate (l : RawRelayLimits) : Except String RawRelayLimits := do
  ensure (l.maxBytesPerDirection > 0) "raw relay byte limit is zero"
  ensure (l.idleTimeout > 0) "raw relay idle timeout is zero"
  ensure (l.maxLifetime > 0) "raw relay lifetime is zero"
  ensure (l.authorityInterval > 0) "raw relay authority interval is zero"
  return l

inductive RelayWay where
  | leftToRight
  | rightToLeft
deriving DecidableEq

structure RawRelayStats where
  leftToRightBytes : Nat
  rightToLeftBytes : Nat
deriving DecidableEq

def RawRelayStats.bytes (stats : RawRelayStats) : RelayWay → Nat
  | .leftToRight => stats.leftToRightBytes
  | .rightToLeft => stats.rightToLeftBytes

/-- What a copy loop waits for; `next` is the total once `rest` is written. -/
inductive CopyPhase where
  | reading
  | writing (rest : List UInt8) (next : Nat)
  | shutting
  | ended (result : Except String Nat)

namespace CopyPhase

def rest : CopyPhase → List UInt8
  | .writing rest _ => rest
  | .reading | .shutting | .ended _ => []

def isReading : CopyPhase → Bool
  | .reading => true
  | _ => false

def isEnded : CopyPhase → Bool
  | .ended _ => true
  | _ => false

end CopyPhase

structure CopyDirection where
  read : List UInt8
  written : List UInt8
  total : Nat
  phase : CopyPhase

inductive CopyEvent where
  | cancelled
  | read (result : Except String (List UInt8))
  | write (count : Nat)
  | writeFailed
  | shutdown (result : Except String Unit)

namespace CopyDirection

def new : CopyDirection := ⟨[], [], 0, .reading⟩

def fail (d : CopyDirection) (message : String) : CopyDirection :=
  { d with phase := .ended (.error message) }

def nextTotal (d : CopyDirection) (maxBytes read : Nat) : Except String Nat := do
  ensure (d.total + read < 2 ^ 64) "raw relay byte count overflow"
  ensure (d.total + read ≤ maxBytes) "raw relay byte limit exceeded"
  return d.total + read

def receive (d : CopyDirection) (maxBytes : Nat) (bytes : List UInt8) : CopyDirection :=
  { d with
    read := d.read ++ bytes
    phase :=
      if bytes = [] then .shutting
      else
        match d.nextTotal maxBytes bytes.length with
        | .ok next => .writing bytes next
        | .error e => .ended (.error e) }

def write (d : CopyDirection) (rest : List UInt8) (next count : Nat) : CopyDirection :=
  if count = rest.length then
    { d with written := d.written ++ rest, total := next, phase := .reading }
  else
    { d with
      written := d.written ++ rest.take count
      phase := .writing (rest.drop count) next }

def step (d : CopyDirection) (maxBytes : Nat) (cancelled : Bool) :
    CopyEvent → Option CopyDirection
  | .cancelled =>
    if cancelled && !d.phase.isEnded then some (d.fail "raw relay direction cancelled") else none
  | .read result =>
    match d.phase, result with
    | .reading, .ok bytes =>
      if bytes.length ≤ 16 * 1024 then some (d.receive maxBytes bytes) else none
    | .reading, .error _ => some (d.fail "read raw relay bytes")
    | _, _ => none
  | .write count =>
    match d.phase with
    | .writing rest next =>
      if 0 < count ∧ count ≤ rest.length then some (d.write rest next count) else none
    | _ => none
  | .writeFailed =>
    match d.phase with
    | .writing _ _ => some (d.fail "write raw relay bytes")
    | _ => none
  | .shutdown result =>
    match d.phase, result with
    | .shutting, .ok _ => some { d with phase := .ended (.ok d.total) }
    | .shutting, .error _ => some (d.fail "shutdown raw relay writer")
    | _, _ => none

/-- The total that a loop without an error stands for. -/
def count (d : CopyDirection) : Option Nat :=
  match d.phase with
  | .writing _ next => some next
  | .ended (.ok n) => some n
  | .ended (.error _) => none
  | _ => some d.total

structure Sound (d : CopyDirection) (maxBytes : Nat) : Prop where
  held : d.written ++ d.phase.rest <+: d.read
  bound : (d.written ++ d.phase.rest).length ≤ maxBytes
  exact : ∀ n, d.count = some n → d.written ++ d.phase.rest = d.read ∧ n = d.read.length

variable {d d' : CopyDirection}

theorem Sound.of_eq (he : d.written ++ d.phase.rest = d.read) (hb : d.read.length ≤ m)
    (hn : d.count = some d.read.length) : d.Sound m := by
  refine ⟨he ▸ List.prefix_refl _, he ▸ hb, fun n hc => ⟨he, ?_⟩⟩
  exact Option.some.inj (hc.symm.trans hn)

theorem Sound.written_le (h : d.Sound m) : d.written.length ≤ m :=
  Nat.le_trans (List.prefix_append _ _).length_le h.bound

theorem Sound.fail (h : d.Sound m) (e : String) (hp : d.read <+: r) :
    Sound { d with read := r, phase := .ended (.error e) } m := by
  have hw : d.written ++ [] = d.written := List.append_nil _
  refine ⟨hw.symm ▸ ((List.prefix_append _ _).trans h.held).trans hp, ?_, fun n hn => by cases hn⟩
  exact hw.symm ▸ h.written_le

/-- Nothing is held back while the loop reads or shuts its writer down. -/
theorem Sound.drained (h : d.Sound m) (hn : d.count = some n) (hr : d.phase.rest = []) :
    d.written = d.read ∧ n = d.read.length := by
  have he := h.exact n hn
  rwa [hr, List.append_nil] at he

theorem Sound.receive (h : d.Sound m) (hp : d.phase = .reading) (bytes : List UInt8) :
    (d.receive m bytes).Sound m := by
  obtain ⟨hw, ht⟩ := h.drained (by rw [count, hp]) (by rw [hp]; rfl)
  rw [CopyDirection.receive]
  split
  · next hb =>
    rw [hb, List.append_nil]
    refine .of_eq ((List.append_nil _).trans hw) ?_ (congrArg some ht)
    exact hw ▸ h.written_le
  · split
    · next next hn =>
      simp only [nextTotal, unit_bind_ok, ensure_ok, decide_eq_true_eq] at hn
      obtain ⟨_, hle, hn⟩ := hn
      cases hn
      have hl : d.total + bytes.length = (d.read ++ bytes).length := by
        rw [List.length_append, ht]
      exact .of_eq (congrArg (· ++ bytes) hw) (hl ▸ hle) (congrArg some hl)
    · exact h.fail _ (List.prefix_append _ _)

theorem Sound.write (h : d.Sound m) (hp : d.phase = .writing rest next) (count : Nat) :
    (d.write rest next count).Sound m := by
  obtain ⟨he, hn⟩ := h.exact next (by rw [CopyDirection.count, hp])
  have hb := h.bound
  rw [he] at hb
  rw [hp] at he
  rw [CopyDirection.write]
  split
  · exact .of_eq ((List.append_nil _).trans he) hb (congrArg some hn)
  · refine .of_eq ?_ hb (congrArg some hn)
    calc d.written ++ rest.take count ++ rest.drop count
        = d.written ++ rest := by rw [List.append_assoc, List.take_append_drop]
      _ = d.read := he

theorem Sound.step (h : d.Sound m) (hs : d.step m c event = some d') : d'.Sound m := by
  have hf (e : String) : (d.fail e).Sound m := h.fail e (List.prefix_refl _)
  cases event with
  | cancelled =>
    obtain ⟨_, hs⟩ := Option.ite_none_right_eq_some.1 hs
    cases hs
    exact hf _
  | read res =>
    dsimp only [CopyDirection.step] at hs
    split at hs
    · next hp =>
      obtain ⟨_, hs⟩ := Option.ite_none_right_eq_some.1 hs
      cases hs
      exact h.receive hp _
    · cases hs
      exact hf _
    · cases hs
  | write count =>
    dsimp only [CopyDirection.step] at hs
    split at hs
    · next hp =>
      obtain ⟨_, hs⟩ := Option.ite_none_right_eq_some.1 hs
      cases hs
      exact h.write hp count
    · cases hs
  | writeFailed =>
    dsimp only [CopyDirection.step] at hs
    split at hs
    · cases hs
      exact hf _
    · cases hs
  | shutdown res =>
    dsimp only [CopyDirection.step] at hs
    split at hs
    · next hp =>
      cases hs
      obtain ⟨hw, ht⟩ := h.drained (by rw [count, hp]) (by rw [hp]; rfl)
      exact .of_eq ((List.append_nil _).trans hw) (hw ▸ h.written_le) (congrArg some ht)
    · cases hs
      exact hf _
    · cases hs

end CopyDirection

/-- While the relay stops, the loops that have not ended are awaited, the left one first. -/
inductive RelayStage where
  | running
  | stopping (error : String)
  | returned (result : Except String RawRelayStats)
deriving DecidableEq

def RelayStage.isRunning : RelayStage → Bool
  | .running => true
  | _ => false

structure RawRelay where
  limits : RawRelayLimits
  now : Nat
  lastActivity : Nat
  lifetime : Nat
  cancelled : Bool
  copy : RelayWay → CopyDirection
  stage : RelayStage

inductive RelayAction where
  | elapse (time : Nat)
  | cancel
  | copy (way : RelayWay) (event : CopyEvent)
  | cancelled
  | lifetime
  | idle
  | authority (result : Except String Unit)

namespace RawRelay

def opened (limits : RawRelayLimits) (now : Nat) : RawRelay where
  limits
  now
  lastActivity := now
  lifetime := now + limits.maxLifetime
  cancelled := false
  copy _ := .new
  stage := .running

/-- The part of `supervise_raw_relay` before its loop. -/
def start (limits : RawRelayLimits) (authority : Except String Unit) (now : Nat) :
    Except String RawRelay := do
  let limits ← limits.validate
  withContext "raw relay authority check" authority
  return opened limits now

def isDone (s : RawRelay) (way : RelayWay) : Bool := (s.copy way).phase.isEnded

def allDone (s : RawRelay) : Bool := s.isDone .leftToRight && s.isDone .rightToLeft

def bytes (s : RawRelay) (way : RelayWay) : Nat :=
  match (s.copy way).phase with
  | .ended (.ok n) => n
  | _ => 0

def stop (s : RawRelay) (error : String) : RawRelay :=
  { s with stage := if s.allDone then .returned (.error error) else .stopping error }

def stopIf (s : RawRelay) (condition : Bool) (error : String) : RawRelay :=
  if condition then s.stop error else s

/-- The second loop is not polled before the first has ended once the relay stops. -/
def polls (s : RawRelay) (way : RelayWay) : Bool :=
  match s.stage with
  | .running => true
  | .stopping _ => way = .leftToRight || s.isDone .leftToRight
  | .returned _ => false

def update (s : RawRelay) (way : RelayWay) (d : CopyDirection) : RawRelay :=
  { s with
    copy := Function.update s.copy way d
    lastActivity := if d.phase.isReading then s.now else s.lastActivity }

/-- What the supervisor does after a loop was polled. -/
def observe (s : RawRelay) (way : RelayWay) : RawRelay :=
  match s.stage with
  | .running =>
    match (s.copy way).phase with
    | .ended (.error _) =>
      s.stop (if way = .leftToRight then "left-to-right relay" else "right-to-left relay")
    | _ =>
      if s.allDone then
        { s with stage := .returned (.ok ⟨s.bytes .leftToRight, s.bytes .rightToLeft⟩) }
      else s
  | .stopping error => s.stop error
  | .returned _ => s

def step (s : RawRelay) : RelayAction → Option RawRelay
  | .elapse time => some { s with now := s.now + time }
  | .cancel => some { s with cancelled := true }
  | .copy way event =>
    if s.polls way then
      ((s.copy way).step s.limits.maxBytesPerDirection (s.cancelled || !s.stage.isRunning)
        event).map fun d => (s.update way d).observe way
    else none
  | .cancelled =>
    if s.stage.isRunning && s.cancelled then some (s.stop "raw relay cancelled") else none
  | .lifetime =>
    if s.stage.isRunning && s.lifetime ≤ s.now then some (s.stop "raw relay lifetime exceeded")
    else none
  | .idle =>
    if s.stage.isRunning then
      some (s.stopIf (s.limits.idleTimeout ≤ s.now - s.lastActivity)
        "raw relay idle timeout exceeded")
    else none
  | .authority result =>
    if s.stage.isRunning then some (s.stopIf (!result.isOk) "raw relay authority check") else none

structure Sound (m : Nat) (s : RawRelay) : Prop where
  limit : s.limits.maxBytesPerDirection = m
  copies : ∀ way, (s.copy way).Sound m
  running : s.stage = .running → ∀ way e, (s.copy way).phase ≠ .ended (.error e)
  returned : ∀ stats, s.stage = .returned (.ok stats) →
    ∀ way, (s.copy way).phase = .ended (.ok (stats.bytes way))

variable {s s' : RawRelay}

theorem Sound.stop (hl : s.limits.maxBytesPerDirection = m) (hc : ∀ way, (s.copy way).Sound m)
    (e : String) : (s.stop e).Sound m := by
  refine ⟨hl, hc, fun hr => ?_, fun stats hr => ?_⟩ <;>
  · rw [RawRelay.stop] at hr
    split at hr <;> cases hr

theorem Sound.stopIf (h : s.Sound m) (c : Bool) (e : String) : (s.stopIf c e).Sound m := by
  cases c
  · exact h
  · exact .stop h.limit h.copies e

theorem ended_of_allDone (hd : s.allDone = true) (he : ∀ way e, (s.copy way).phase ≠ .ended (.error e))
    (way : RelayWay) : (s.copy way).phase = .ended (.ok (s.bytes way)) := by
  have hw : (s.copy way).phase.isEnded = true := by
    obtain ⟨hl, hr⟩ := Bool.and_eq_true_iff.1 hd
    cases way
    · exact hl
    · exact hr
  have hn := he way
  rw [bytes]
  generalize (s.copy way).phase = phase at hw hn ⊢
  cases phase with
  | ended res =>
    cases res with
    | ok n => rfl
    | error e => exact absurd rfl (hn e)
  | _ => cases hw

theorem Sound.observe (hl : s.limits.maxBytesPerDirection = m) (hc : ∀ way, (s.copy way).Sound m)
    (hr : s.stage = .running → ∀ w, w ≠ way → ∀ e, (s.copy w).phase ≠ .ended (.error e))
    (hn : ∀ r, s.stage ≠ .returned r) : (s.observe way).Sound m := by
  rw [RawRelay.observe]
  split
  · next hst =>
    split
    · exact .stop hl hc _
    · next hp =>
      have he (w : RelayWay) (e : String) : (s.copy w).phase ≠ .ended (.error e) := by
        by_cases hw : w = way
        · rw [hw]
          exact hp e
        · exact hr hst w hw e
      split
      · next hd =>
        refine ⟨hl, hc, fun h => (by cases h), fun stats h => ?_⟩
        cases h
        intro w
        cases w <;> exact ended_of_allDone hd he _
      · exact ⟨hl, hc, fun _ => he, fun stats h => absurd h (hn _)⟩
  · exact .stop hl hc _
  · next hst => exact absurd hst (hn _)

theorem Sound.step (h : s.Sound m) (hs : s.step a = some s') : s'.Sound m := by
  cases a with
  | elapse time =>
    cases hs
    exact ⟨h.limit, h.copies, h.running, h.returned⟩
  | cancel =>
    cases hs
    exact ⟨h.limit, h.copies, h.running, h.returned⟩
  | copy way event =>
    obtain ⟨hp, hs⟩ := Option.ite_none_right_eq_some.1 hs
    obtain ⟨d, hd, rfl⟩ := Option.map_eq_some_iff.1 hs
    rw [h.limit] at hd
    refine .observe h.limit (fun w => ?_) (fun hr w hw => ?_) (fun r hr => ?_)
    · dsimp only [update]
      rw [Function.update_apply]
      split
      · exact (h.copies way).step hd
      · exact h.copies w
    · dsimp only [update]
      rw [Function.update_of_ne hw]
      exact h.running hr w
    · rw [polls, show s.stage = .returned r from hr] at hp
      cases hp
  | cancelled | lifetime =>
    obtain ⟨_, hs⟩ := Option.ite_none_right_eq_some.1 hs
    cases hs
    exact .stop h.limit h.copies _
  | idle | authority res =>
    obtain ⟨_, hs⟩ := Option.ite_none_right_eq_some.1 hs
    cases hs
    exact h.stopIf _ _

theorem Sound.start {limits : RawRelayLimits} {now : Nat}
    (h : RawRelay.start limits auth now = .ok s) : s.Sound limits.maxBytesPerDirection := by
  simp only [RawRelay.start, RawRelayLimits.validate, bind_ok, ensure_ok] at h
  obtain ⟨_, ⟨_, _, _, _, _, _, _, _, hv⟩, _, _, hs⟩ := h
  cases hv
  cases hs
  exact ⟨rfl, fun _ => .of_eq rfl (Nat.zero_le _) rfl, fun _ _ _ hp => (by cases hp),
    fun _ hp => (by cases hp)⟩

end RawRelay

/-- At every moment of a relay, what it has written one way is an initial part of what it has read
and within the limit. When it returns counts, everything was written and they are exact. -/
theorem raw_relay_conserves_bytes (hst : RawRelay.start limits authority now = .ok init)
    (hr : Reach RawRelay.step always init s) :
    (∀ way, (s.copy way).written <+: (s.copy way).read ∧
      (s.copy way).written.length ≤ limits.maxBytesPerDirection) ∧
    ∀ stats, s.stage = .returned (.ok stats) → ∀ way,
      (s.copy way).written = (s.copy way).read ∧
      stats.bytes way = (s.copy way).written.length := by
  have h : s.Sound limits.maxBytesPerDirection :=
    hr.invariant _ (.start hst) fun _ _ _ _ h _ hs => h.step hs
  refine ⟨fun way => ⟨?_, (h.copies way).written_le⟩, fun stats he way => ?_⟩
  · exact (List.prefix_append _ _).trans (h.copies way).held
  · have hp := h.returned stats he way
    obtain ⟨hw, hn⟩ := (h.copies way).drained (by rw [CopyDirection.count, hp]) (by rw [hp]; rfl)
    exact ⟨hw, by rw [hn, hw]⟩

/-- Three bytes are written one way in two parts. The other way is closed at once. -/
theorem raw_relay_conserves_bytes_parts :
    ∃ init s, RawRelay.start ⟨4, 1, 1, 1⟩ (.ok ()) 0 = .ok init ∧
      Reach RawRelay.step always init s ∧ s.stage = .returned (.ok ⟨3, 0⟩) ∧
      (s.copy .leftToRight).written = [1, 2, 3] ∧
      (s.copy .leftToRight).written = (s.copy .leftToRight).read := by
  have hst : RawRelay.start ⟨4, 1, 1, 1⟩ (.ok ()) 0 = .ok (.opened ⟨4, 1, 1, 1⟩ 0) := rfl
  obtain ⟨s, hr, he, hw⟩ := exists_reach_of_run RawRelay.step always (.opened ⟨4, 1, 1, 1⟩ 0)
    [.copy .rightToLeft (.read (.ok [])), .copy .leftToRight (.read (.ok [1, 2, 3])),
      .copy .leftToRight (.write 1), .copy .rightToLeft (.shutdown (.ok ())),
      .copy .leftToRight (.write 2), .copy .leftToRight (.read (.ok [])),
      .copy .leftToRight (.shutdown (.ok ()))]
    (fun s => s.stage = .returned (.ok ⟨3, 0⟩) ∧ (s.copy .leftToRight).written = [1, 2, 3])
    (by decide +kernel)
  exact ⟨_, s, hst, hr, he, hw, ((raw_relay_conserves_bytes hst hr).2 _ he .leftToRight).1⟩

end Podmesh
