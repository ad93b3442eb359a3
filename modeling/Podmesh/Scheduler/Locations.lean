import Mathlib.Data.List.Induction
import Podmesh.Lib.Fallible
import Podmesh.Lib.Queued
import Podmesh.Protocol.Message

namespace Podmesh

def maxCachedLocations : Nat := 16384
def maxPendingLocations : Nat := 1024
/-- In the unit of the clock below. -/
def locationCacheTtl : Nat := 60

structure CachedLocation where
  holder : Bytes
  learnedAt : Nat
  deriving DecidableEq

/-- The locations a scheduler remembers and the queries it has in flight. A sender is named by the
query that waits at the other end of its channel. -/
structure LocationState where
  cache : AList fun _ : Bytes => CachedLocation
  order : List Bytes
  pending : AList fun _ : String => Nat

namespace LocationState

def empty : LocationState := ⟨∅, [], ∅⟩

def cached (self : LocationState) (agent : Bytes) (now : Nat) : Option Bytes :=
  match self.cache.lookup agent with
  | some entry => if now - entry.learnedAt < locationCacheTtl then some entry.holder else none
  | none => none

def remember (self : LocationState) (agent holder : Bytes) (now : Nat) : LocationState :=
  let order := if (self.cache.lookup agent).isNone then self.order ++ [agent] else self.order
  let trimmed := Queued.trim maxCachedLocations (self.cache.insert agent ⟨holder, now⟩) order
  { self with cache := trimmed.map, order := trimmed.order }

def forget (self : LocationState) (agent : Bytes) : LocationState :=
  { self with cache := self.cache.erase agent }

def begin (self : LocationState) (queryId : String) (sender : Nat) :
    Except String LocationState := do
  ensure (Assoc.size self.pending < maxPendingLocations) "scheduler pending-location limit reached"
  return { self with pending := self.pending.insert queryId sender }

def finish (self : LocationState) (queryId : String) : LocationState :=
  { self with pending := self.pending.erase queryId }

def queue (self : LocationState) : Queued Bytes CachedLocation := ⟨self.cache, self.order⟩

/-- The order lists each cached agent once, and no other agent. -/
def Enumerated (self : LocationState) : Prop := self.queue.WellFormed

variable {s : LocationState}

theorem remember_of_cached (h : s.cache.lookup ag = some entry)
    (hl : s.order.length ≤ maxCachedLocations) (holder : Bytes) (now : Nat) :
    s.remember ag holder now = { s with cache := s.cache.insert ag ⟨holder, now⟩ } := by
  simp only [remember, h, Option.isNone_some]
  rw [if_neg Bool.false_ne_true, Queued.trim_of_le _ hl]

theorem remember_of_room (h : s.cache.lookup ag = none)
    (hl : s.order.length < maxCachedLocations) (holder : Bytes) (now : Nat) :
    s.remember ag holder now =
      { s with cache := s.cache.insert ag ⟨holder, now⟩, order := s.order ++ [ag] } := by
  have hle : (s.order ++ [ag]).length ≤ maxCachedLocations := by
    rw [List.length_append]
    exact hl
  simp only [remember, h, Option.isNone_none, if_true]
  rw [Queued.trim_of_le _ hle]

theorem remember_of_full (h : s.cache.lookup ag = none) (hl : s.order.length = maxCachedLocations)
    (ho : s.order ++ [ag] = oldest :: rest) (holder : Bytes) (now : Nat) :
    s.remember ag holder now =
      { s with cache := (s.cache.insert ag ⟨holder, now⟩).erase oldest, order := rest } := by
  have heq : (s.order ++ [ag]).length = maxCachedLocations + 1 := by
    rw [List.length_append, hl]
    rfl
  simp only [remember, h, Option.isNone_none, if_true]
  rw [Queued.trim_of_succ _ heq, ho]
  rfl

theorem length_remember_le (s : LocationState) (ag holder : Bytes) (now : Nat) :
    (s.remember ag holder now).order.length ≤ maxCachedLocations :=
  Queued.length_trim_le _ _ _

theorem lookup_of_remember (h : (s.remember ag holder now).cache.lookup a = some entry) :
    (a = ag ∧ entry = ⟨holder, now⟩) ∨ s.cache.lookup a = some entry := by
  rcases Assoc.lookup_insert_cases (Queued.lookup_of_trim h) with hn | ⟨_, ho⟩
  · exact .inl hn
  · exact .inr ho

end LocationState

inductive LocationCall where
  | remember (agent holder : Bytes) (now : Nat)
  | forget (agent : Bytes)

structure AgedLocations where
  state : LocationState
  clock : Nat
  inserted : Bytes → Nat

namespace AgedLocations

def empty : AgedLocations := ⟨.empty, 0, fun _ => 0⟩

def age (w : AgedLocations) (agent : Bytes) : Nat :=
  if (w.state.cache.lookup agent).isSome then w.inserted agent else w.clock

def call (w : AgedLocations) : LocationCall → AgedLocations
  | .remember agent holder now => ⟨w.state.remember agent holder now, w.clock + 1, w.age⟩
  | .forget agent => ⟨w.state.forget agent, w.clock + 1, w.age⟩

def run (calls : List LocationCall) : AgedLocations := calls.foldl call empty

theorem run_append (calls : List LocationCall) (c : LocationCall) :
    run (calls ++ [c]) = (run calls).call c := by
  rw [run, List.foldl_append]
  rfl

/-- A call drops an agent only from a cache with too many entries, and then the oldest of them. -/
def EvictsOldest (w : AgedLocations) : LocationCall → Prop
  | .forget _ => True
  | .remember agent holder now =>
    ∀ evicted, ((w.state.cache.insert agent ⟨holder, now⟩).lookup evicted).isSome = true →
      (w.state.remember agent holder now).cache.lookup evicted = none →
      maxCachedLocations < Assoc.size (w.state.cache.insert agent ⟨holder, now⟩) ∧
      ∀ other, ((w.state.cache.insert agent ⟨holder, now⟩).lookup other).isSome = true →
        other ≠ evicted → w.age evicted < w.age other

def Keeps (w : AgedLocations) : LocationCall → Prop
  | .forget agent => w.state.cache.lookup agent = none
  | .remember _ _ _ => True

structure Aged (w : AgedLocations) : Prop where
  enumerated : w.state.Enumerated
  bounded : w.state.order.length ≤ maxCachedLocations
  sorted : w.state.order.Pairwise fun a b => w.inserted a < w.inserted b
  past : ∀ a ∈ w.state.order, w.inserted a < w.clock

theorem Aged.empty : Aged .empty where
  enumerated := .empty
  bounded := Nat.zero_le _
  sorted := .nil
  past a ha := by cases ha

section
variable (h : Aged w)
include h

theorem Aged.age_eq (ha : a ∈ w.state.order) : w.age a = w.inserted a := by
  have hc : (w.state.cache.lookup a).isSome = true := (h.enumerated.mem a).1 ha
  rw [age, if_pos hc]

theorem Aged.sorted_age : w.state.order.Pairwise fun a b => w.age a < w.age b := by
  apply List.Pairwise.imp_of_mem _ h.sorted
  intro a b ha hb hab
  rwa [h.age_eq ha, h.age_eq hb]

theorem Aged.sorted_push (hn : w.state.cache.lookup ag = none) :
    (w.state.order ++ [ag]).Pairwise fun a b => w.age a < w.age b := by
  have hag : w.age ag = w.clock := by rw [age, hn]; rfl
  apply List.pairwise_append.2
  refine ⟨h.sorted_age, List.pairwise_singleton _ _, ?_⟩
  intro a ha b hb
  rw [List.mem_singleton.1 hb, hag, h.age_eq ha]
  exact h.past a ha

theorem Aged.age_lt (a : Bytes) : w.age a < w.clock + 1 := by
  by_cases ha : a ∈ w.state.order
  · have hlt := h.past a ha
    rw [h.age_eq ha]
    omega
  · have hn : ¬(w.state.cache.lookup a).isSome = true := fun hs => ha ((h.enumerated.mem a).2 hs)
    rw [age, if_neg hn]
    omega

theorem Aged.remember_new (hn : w.state.cache.lookup ag = none) (holder : Bytes) (now : Nat) :
    (w.state.remember ag holder now = { w.state with
        cache := w.state.cache.insert ag ⟨holder, now⟩, order := w.state.order ++ [ag] }) ∨
    ∃ oldest rest, w.state.order ++ [ag] = oldest :: rest ∧
      maxCachedLocations < Assoc.size (w.state.cache.insert ag ⟨holder, now⟩) ∧
      w.state.remember ag holder now = { w.state with
        cache := (w.state.cache.insert ag ⟨holder, now⟩).erase oldest, order := rest } := by
  rcases Nat.lt_or_eq_of_le h.bounded with hr | hf
  · exact .inl (LocationState.remember_of_room hn hr holder now)
  · right
    have hp : (w.state.queue.push ag ⟨holder, now⟩).WellFormed := h.enumerated.push hn _
    have hs : Assoc.size (w.state.cache.insert ag ⟨holder, now⟩) =
        (w.state.order ++ [ag]).length := hp.size_eq
    cases ho : w.state.order ++ [ag] with
    | nil => simp at ho
    | cons oldest rest =>
      refine ⟨oldest, rest, rfl, ?_, LocationState.remember_of_full hn hf ho holder now⟩
      rw [hs, List.length_append, hf]
      exact Nat.lt_succ_self _

theorem Aged.remember (ag holder : Bytes) (now : Nat) :
    Aged (w.call (.remember ag holder now)) := by
  have hl := w.state.length_remember_le ag holder now
  cases hc : w.state.cache.lookup ag with
  | some entry =>
    rw [call, LocationState.remember_of_cached hc h.bounded]
    exact ⟨h.enumerated.replace hc _, h.bounded, h.sorted_age, fun a _ => h.age_lt a⟩
  | none =>
    have hp : (w.state.queue.push ag ⟨holder, now⟩).WellFormed := h.enumerated.push hc _
    have hsr := h.sorted_push hc
    rcases h.remember_new hc holder now with hs | ⟨oldest, rest, ho, _, hs⟩
    · rw [call, hs]
      rw [hs] at hl
      exact ⟨hp, hl, hsr, fun a _ => h.age_lt a⟩
    · rw [call, hs]
      rw [hs] at hl
      have he := hp.evict
      simp only [Queued.evict, Queued.push, LocationState.queue, ho] at he
      rw [ho] at hsr
      exact ⟨he, hl, (List.pairwise_cons.1 hsr).2, fun a _ => h.age_lt a⟩

theorem Aged.evictsOldest (c : LocationCall) : w.EvictsOldest c := by
  cases c with
  | forget ag => trivial
  | remember ag holder now =>
    intro evicted hm hg
    obtain ⟨entry, hm⟩ := Option.isSome_iff_exists.1 hm
    cases hc : w.state.cache.lookup ag with
    | some old =>
      rw [LocationState.remember_of_cached hc h.bounded, hm] at hg
      cases hg
    | none =>
      have hp : (w.state.queue.push ag ⟨holder, now⟩).WellFormed := h.enumerated.push hc _
      rcases h.remember_new hc holder now with hs | ⟨oldest, rest, hor, hsz, hs⟩
      · rw [hs, hm] at hg
        cases hg
      · have ho : evicted = oldest := by
          by_contra hne
          rw [hs, AList.lookup_erase_ne hne, hm] at hg
          cases hg
        subst ho
        refine ⟨hsz, ?_⟩
        intro oth hot hne
        have hmm : oth ∈ w.state.order ++ [ag] := (hp.mem oth).2 hot
        have hsr := h.sorted_push hc
        rw [hor] at hmm hsr
        rcases List.mem_cons.1 hmm with rfl | hmm
        · exact absurd rfl hne
        · exact (List.pairwise_cons.1 hsr).1 oth hmm

theorem Aged.forget (hk : w.state.cache.lookup ag = none) : Aged (w.call (.forget ag)) := by
  have hs : w.state.forget ag = w.state := by
    rw [LocationState.forget, Assoc.erase_of_lookup_none hk]
  rw [call, hs]
  exact ⟨h.enumerated, h.bounded, h.sorted_age, fun a _ => h.age_lt a⟩

theorem Aged.call (c : LocationCall) (hk : w.Keeps c) : Aged (w.call c) := by
  cases c with
  | remember ag holder now => exact h.remember ag holder now
  | forget ag => exact h.forget hk

end

theorem aged_run (h : ∀ bef c, bef ++ [c] <+: calls → (run bef).Keeps c) : Aged (run calls) := by
  induction calls using List.reverseRecOn with
  | nil => exact .empty
  | append_singleton calls c ih =>
    rw [run_append]
    apply (ih _).call
    · exact h calls c List.prefix_rfl
    · intro bef c' hp
      exact h bef c' (hp.trans (List.prefix_append _ _))

theorem not_enumerated_of_forget {w : AgedLocations} (h : w.state.Enumerated)
    (hc : w.state.cache.lookup ag = some entry) : ¬(w.call (.forget ag)).state.Enumerated := by
  intro hf
  have hm : ag ∈ w.state.order := (h.mem ag).2 (by rw [LocationState.queue, hc]; rfl)
  have hcc := (hf.mem ag).1 hm
  rw [show (w.call (.forget ag)).state.queue.map = w.state.cache.erase ag from rfl,
    AList.lookup_erase] at hcc
  cases hcc

/-- Along a sequence of calls, the order always enumerates the cache and only the oldest entry of an
overfull cache is evicted, exactly if no call forgets an agent that is cached. -/
theorem location_order_iff_no_cached_forget (calls : List LocationCall) :
    (∀ before, before <+: calls → (run before).state.Enumerated) ∧
      (∀ before c, before ++ [c] <+: calls → (run before).EvictsOldest c) ↔
    ∀ before c, before ++ [c] <+: calls → (run before).Keeps c := by
  constructor
  · rintro ⟨he, _⟩ before c hp
    cases c with
    | remember ag holder now => trivial
    | forget ag =>
      cases hc : (run before).state.cache.lookup ag with
      | none => exact hc
      | some entry =>
        have hb := he before ((List.prefix_append _ _).trans hp)
        have ha := he _ hp
        rw [run_append] at ha
        exact absurd ha (not_enumerated_of_forget hb hc)
  · intro h
    have hag : ∀ before, before <+: calls → Aged (run before) := by
      intro before hp
      apply aged_run
      intro before' c hp'
      exact h before' c (hp'.trans hp)
    constructor
    · intro before hp
      exact (hag before hp).enumerated
    · intro before c hp
      exact (hag before ((List.prefix_append _ _).trans hp)).evictsOldest c

/-- A forgotten agent stays in the order. -/
theorem forgotten_agent_stays_in_order :
    ¬(run [.remember [1] [2] 0, .forget [1]]).state.Enumerated := by
  intro h
  have hc := (h.mem [1]).1 (by decide)
  revert hc
  decide

end AgedLocations
end Podmesh
