import Podmesh.Lib.Assoc

/-!
`DnsForwarder::lookup` enters the lock of its cache twice: once to serve a kept answer, with the
TTL of every record cut to what is left of the answer's lifetime, and once to keep the response of
an upstream server. Lookups run concurrently, so a run is any sequence of these two sections.
Instants are in nanoseconds.
-/

namespace Podmesh

def second : Nat := 1000000000

def maxForwardCache : Nat := 256

inductive ResponseCode where
  | noError
  | nxDomain
  | other (code : Nat)
  deriving DecidableEq

/-- A resource record; `data` stands for its owner, class and contents. -/
structure DnsRecord where
  ttl : Nat
  data : String
  deriving DecidableEq

structure DnsMessage where
  responseCode : ResponseCode
  answers : List DnsRecord
  authorities : List DnsRecord
  additionals : List DnsRecord
  deriving DecidableEq

structure CachedAnswer where
  message : DnsMessage
  expires : Nat

/-- An upstream response, the instant it was received and the one it was put into the cache. -/
structure Upstream where
  response : DnsMessage
  received : Nat
  stored : Nat

namespace DnsMessage

def records (m : DnsMessage) : List DnsRecord := m.answers ++ m.authorities ++ m.additionals

def mapRecords (f : DnsRecord → DnsRecord) (m : DnsMessage) : DnsMessage :=
  { m with
    answers := m.answers.map f
    authorities := m.authorities.map f
    additionals := m.additionals.map f }

/-- The seconds a response is kept: no additional record counts. -/
def lifetime (m : DnsMessage) : Nat :=
  min (((m.answers ++ m.authorities).map DnsRecord.ttl).min?.getD 0) 5

def cacheable (m : DnsMessage) : Bool :=
  decide (0 < m.lifetime) && (m.responseCode == .noError || m.responseCode == .nxDomain)

theorem lifetime_le {m : DnsMessage} (hr : r ∈ m.answers ++ m.authorities) :
    m.lifetime ≤ r.ttl := by
  have hm := List.mem_map_of_mem (f := DnsRecord.ttl) hr
  obtain ⟨least, hl⟩ := Option.isSome_iff_exists.1 (List.isSome_min?_of_mem hm)
  rw [lifetime, hl]
  exact (Nat.min_le_left _ _).trans ((List.min?_eq_some_iff.1 hl).2 _ hm)

end DnsMessage

def CachedAnswer.serveRecord (answer : CachedAnswer) (now : Nat) (record : DnsRecord) : DnsRecord :=
  { record with ttl := min record.ttl ((answer.expires - now) / second % 2 ^ 32) }

def CachedAnswer.serve (answer : CachedAnswer) (now : Nat) : DnsMessage :=
  answer.message.mapRecords (answer.serveRecord now)

def Upstream.cached (x : Upstream) : CachedAnswer where
  message := x.response
  expires := x.stored + x.response.lifetime * second

/-- `origins` is history only: the response each kept answer is from. -/
structure DnsForwarder where
  cache : AList fun _ : String => CachedAnswer
  clock : Nat
  origins : AList fun _ : String => Upstream

inductive DnsSection where
  | hit (key : String) (now : Nat)
  | insert (key : String) (x : Upstream)

namespace DnsForwarder

def new : DnsForwarder := ⟨∅, 0, ∅⟩

def sweep (s : DnsForwarder) (now : Nat) : AList fun _ : String => CachedAnswer :=
  Assoc.retain (fun _ answer => decide (now < answer.expires)) s.cache

def hit (s : DnsForwarder) (key : String) (now : Nat) : Option DnsMessage :=
  ((s.sweep now).lookup key).map (·.serve now)

def insert (s : DnsForwarder) (key : String) (x : Upstream) : DnsForwarder :=
  if x.response.cacheable then
    let cache := if Assoc.size s.cache < maxForwardCache then s.cache else ∅
    ⟨cache.insert key x.cached, x.stored, s.origins.insert key x⟩
  else { s with clock := x.stored }

def step (s : DnsForwarder) : DnsSection → Option DnsForwarder
  | .hit _ now => if s.clock ≤ now then some { s with cache := s.sweep now, clock := now } else none
  | .insert key x =>
    if s.clock ≤ x.stored ∧ x.received ≤ x.stored then some (s.insert key x) else none

/-- Every kept answer is the response it is from, which was put in before now. -/
def Sound (s : DnsForwarder) : Prop :=
  ∀ key answer, s.cache.lookup key = some answer →
    ∃ x, s.origins.lookup key = some x ∧ answer = x.cached ∧ x.stored ≤ s.clock

theorem Sound.later (h : Sound s) (hc : s.clock ≤ now) (hl : s.cache.lookup key = some ans) :
    ∃ x, s.origins.lookup key = some x ∧ ans = x.cached ∧ x.stored ≤ now := by
  obtain ⟨x, hx, ha, hs⟩ := h key ans hl
  exact ⟨x, hx, ha, hs.trans hc⟩

theorem Sound.step (h : Sound s) (hs : s.step a = some s') : Sound s' := by
  intro key ans hl
  cases a with
  | hit _ now =>
    obtain ⟨hcl, heq⟩ := Option.ite_none_right_eq_some.1 hs
    cases heq
    rw [sweep, Assoc.lookup_retain, Option.filter_eq_some_iff] at hl
    exact h.later hcl hl.1
  | insert st x =>
    obtain ⟨hcl, heq⟩ := Option.ite_none_right_eq_some.1 hs
    cases heq
    cases hc : x.response.cacheable with
    | false =>
      simp only [insert, hc] at hl ⊢
      exact h.later hcl.1 hl
    | true =>
      simp only [insert, hc, if_true] at hl ⊢
      by_cases hk : key = st
      · rw [hk, AList.lookup_insert] at hl ⊢
        exact ⟨x, rfl, (Option.some.inj hl).symm, Nat.le_refl _⟩
      · rw [AList.lookup_insert_ne hk] at hl ⊢
        split at hl
        · exact h.later hcl.1 hl
        · cases hl

theorem reach_sound (h : Reach step always new s) : Sound s := by
  apply Reach.invariant Sound _ _ h
  · intro key ans hl
    cases hl
  · intro s a s' _ hsn _ hs
    exact hsn.step hs

theorem hit_eq_some {s : DnsForwarder} : s.hit key now = some m ↔
    ∃ ans, s.cache.lookup key = some ans ∧ now < ans.expires ∧ ans.serve now = m := by
  simp [hit, sweep, Assoc.lookup_retain, Option.filter_eq_some_iff, and_assoc]

end DnsForwarder

namespace Upstream

/-- A record of the response as it is served: what it may still be kept for ends no later than
under the TTL it came with, and that end has not passed. -/
def AgedRecord (x : Upstream) (now : Nat) (record served : DnsRecord) : Prop :=
  served.ttl * second + (now - x.received) ≤ record.ttl * second ∧
    now - x.received < record.ttl * second

def Aged (x : Upstream) (now : Nat) (served : DnsMessage) : Prop :=
  List.Forall₂ (x.AgedRecord now) x.response.records served.records

/-- Kept for its lifetime from the instant it is stored, no record outlives its TTL. -/
def Covered (x : Upstream) (record : DnsRecord) : Prop :=
  x.response.lifetime * second + (x.stored - x.received) ≤ record.ttl * second

theorem aged_serve_iff (x : Upstream) (now : Nat) : x.Aged now (x.cached.serve now) ↔
    ∀ r ∈ x.response.records, x.AgedRecord now r (x.cached.serveRecord now r) := by
  simp [Aged, CachedAnswer.serve, DnsMessage.records, DnsMessage.mapRecords, cached,
    ← List.map_append]

/-- A record that is not covered is served too long at the instant the response is stored or one
nanosecond later. -/
theorem covered_iff {x : Upstream} (hl : 0 < x.response.lifetime)
    (hr : x.received ≤ x.stored) : x.Covered r ↔ ∀ now, x.stored ≤ now →
      now < x.cached.expires → x.AgedRecord now r (x.cached.serveRecord now r) := by
  have hm : x.response.lifetime ≤ 5 := Nat.min_le_right _ _
  simp only [Covered, AgedRecord, CachedAnswer.serveRecord, cached, second]
  constructor
  · intro h now hnw hlv
    omega
  · intro h
    have hf := h x.stored
    have hn := h (x.stored + 1)
    omega

end Upstream

/-- What is served from the cache has aged like the response it is from, over every sequence of
lookups, exactly if every record of the response lives as long as the response is kept. Answers
and authorities do if the response is stored at the instant it is received; additional records
need not. -/
theorem cached_answers_age_iff (x : Upstream) (hcacheable : x.response.cacheable = true)
    (hreceived : x.received ≤ x.stored) :
    ((∀ s, Reach DnsForwarder.step always .new s → ∀ key, s.origins.lookup key = some x →
        ∀ now, s.clock ≤ now → ∀ m, s.hit key now = some m → x.Aged now m) ↔
      ∀ r ∈ x.response.records, x.Covered r) ∧
    (x.stored = x.received → ((∀ r ∈ x.response.records, x.Covered r) ↔
      ∀ r ∈ x.response.additionals, x.response.lifetime ≤ r.ttl)) := by
  have hlf : 0 < x.response.lifetime := of_decide_eq_true (Bool.and_eq_true_iff.1 hcacheable).1
  refine ⟨⟨fun h r hr => ?_, fun h s hs key ho now hn m hm => ?_⟩, fun hst => ?_⟩
  · rw [Upstream.covered_iff hlf hreceived]
    intro now hn hlv
    have hsp : DnsForwarder.new.step (.insert "" x) = some (DnsForwarder.new.insert "" x) :=
      if_pos ⟨Nat.zero_le _, hreceived⟩
    rw [DnsForwarder.insert, if_pos hcacheable] at hsp
    have hsr := h _ (.next .start trivial hsp) "" (AList.lookup_insert _) now hn _
      (DnsForwarder.hit_eq_some.2 ⟨_, AList.lookup_insert _, hlv, rfl⟩)
    exact (x.aged_serve_iff now).1 hsr r hr
  · obtain ⟨ans, hl, hlv, rfl⟩ := DnsForwarder.hit_eq_some.1 hm
    obtain ⟨y, hy, rfl, hst⟩ := (DnsForwarder.reach_sound hs).later hn hl
    rw [ho] at hy
    cases hy
    exact (x.aged_serve_iff now).2 fun r hr =>
      (Upstream.covered_iff hlf hreceived).1 (h r hr) now hst hlv
  · have hc (r : DnsRecord) : x.Covered r ↔ x.response.lifetime ≤ r.ttl := by
      simp only [Upstream.Covered, second]
      omega
    simp only [hc, DnsMessage.records, List.forall_mem_append]
    exact ⟨And.right, fun h => ⟨List.forall_mem_append.1 fun _ => DnsMessage.lifetime_le, h⟩⟩

/-- A service answer with TTL 5, whose address comes as an additional record. -/
def Upstream.located (ttl : Nat) : Upstream :=
  ⟨⟨.noError, [⟨5, "SRV"⟩], [], [⟨ttl, "A"⟩]⟩, 0, 0⟩

theorem cached_answers_age_iff_located :
    (Upstream.located 9).response.cacheable = true ∧
    ∀ s, Reach DnsForwarder.step always .new s → ∀ key, s.origins.lookup key = some (.located 9) →
      ∀ now, s.clock ≤ now → ∀ m, s.hit key now = some m → (Upstream.located 9).Aged now m := by
  refine ⟨by decide, (cached_answers_age_iff (.located 9) (by decide) (by decide)).1.2 ?_⟩
  simp [Upstream.located, DnsMessage.records, Upstream.Covered, DnsMessage.lifetime, second]

/-- An address with TTL 1 is kept for the five seconds of the answer: after three seconds it is
still served, and with TTL 1. -/
theorem additional_outlives_ttl :
    ∃ s, Reach DnsForwarder.step always .new s ∧ s.origins.lookup "k" = some (.located 1) ∧
      ∃ m, s.hit "k" (3 * second) = some m ∧ m.additionals.map (·.ttl) = [1] ∧
        ¬(Upstream.located 1).Aged (3 * second) m := by
  refine ⟨_, .next (a := .insert "k" (.located 1)) .start trivial rfl, rfl, _,
    DnsForwarder.hit_eq_some.2 ⟨_, rfl, by decide, rfl⟩, by decide, fun h => ?_⟩
  have ha := (Upstream.aged_serve_iff _ _).1 h ⟨1, "A"⟩ (by decide)
  exact absurd ha.2 (by decide)

end Podmesh
