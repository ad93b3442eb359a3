import Podmesh.Lib.Assoc

namespace Podmesh

/-- The semaphores of a proxy: `ingress_slots`, `stream_slots`, and the slots of one connection. -/
inductive Permit where
  | ingress
  | workload
  | connection (id : Nat)
  deriving DecidableEq

def Permit.size : Permit → Nat
  | .ingress => 256
  | .workload => 1024
  | .connection _ => 64

/-- Where a call of `forward_inner` or `handle_stream` stands, and what is left of it after it has
returned; the connection is the one of its stream. -/
inductive StreamTask where
  /-- `forward_inner` waits for its slot. -/
  | waiting
  | admitted
  /-- `open_ingress` has the slot of the connection, and then the stream. -/
  | dialing (connection : Nat)
  | opened (connection : Nat)
  /-- `open_ingress` has returned the stream. -/
  | exchanging (connection : Nat)
  /-- `forward_inner` has returned a response whose body is read from the stream. -/
  | streaming (connection : Nat)
  /-- `forward_inner` has spawned the relay of an upgraded connection. -/
  | relaying (connection : Nat)
  /-- A stream was accepted, and its `handle_stream` starts. -/
  | arrived (connection : Nat)
  | queued (connection : Nat)
  | served (connection : Nat)
  deriving DecidableEq

namespace StreamTask

/-- The permits that are alive in the scope of the task. -/
def permits : StreamTask → List Permit
  | admitted | exchanging _ => [.ingress]
  | dialing c | opened c => [.ingress, .connection c]
  | queued c => [.connection c]
  | served c => [.connection c, .workload]
  | waiting | streaming _ | relaying _ | arrived _ => []

/-- The connection on which the task has a stream. -/
def stream : StreamTask → Option Nat
  | opened c | exchanging c | streaming c | relaying c | arrived c | queued c | served c => some c
  | waiting | admitted | dialing _ => none

/-- An ingress exchange from its admission to the end of its body or relay. -/
def inProgress : StreamTask → Bool
  | admitted | dialing _ | opened _ | exchanging _ | streaming _ | relaying _ => true
  | waiting | arrived _ | queued _ | served _ => false

/-- An exchange that goes on without its slot. -/
def detached (t : StreamTask) : Bool := t.inProgress && !t.permits.contains .ingress

def streamsOn (c : Nat) (t : StreamTask) : Bool := t.stream == some c

/-- A stream that is open without a slot of its connection. -/
def bare (c : Nat) (t : StreamTask) : Bool :=
  t.streamsOn c && !t.permits.contains (.connection c)

/-- A slot of a connection whose stream is not open yet. -/
def early (c : Nat) (t : StreamTask) : Bool :=
  t.permits.contains (.connection c) && !t.streamsOn c

end StreamTask

inductive StreamMove where
  | request
  | acquire
  | dial (connection : Nat)
  | openStream
  /-- The replica cannot be reached, and the next one is tried. -/
  | fallThrough
  | send
  | respond
  | upgrade
  | accept (connection : Nat)
  | reserve
  | serve
  /-- The task ends, with an error, a timeout or the end of its stream. -/
  | finish

/-- What becomes of a task; the permits that this takes are another matter. -/
def StreamMove.next : StreamMove → Option StreamTask → Option (Option StreamTask)
  | request, none => some (some .waiting)
  | acquire, some .waiting => some (some .admitted)
  | dial c, some .admitted => some (some (.dialing c))
  | openStream, some (.dialing c) => some (some (.opened c))
  | fallThrough, some (.dialing _) | fallThrough, some (.opened _) => some (some .admitted)
  | send, some (.opened c) => some (some (.exchanging c))
  | respond, some (.exchanging c) => some (some (.streaming c))
  | upgrade, some (.exchanging c) => some (some (.relaying c))
  | accept c, none => some (some (.arrived c))
  | reserve, some (.arrived c) => some (some (.queued c))
  | serve, some (.queued c) => some (some (.served c))
  | finish, some _ => some none
  | _, _ => none

abbrev Streams := AList fun _ : Nat => StreamTask

namespace Streams

def count (p : StreamTask → Bool) (w : Streams) : Nat := Assoc.total (fun _ t => (p t).toNat) w

def held (w : Streams) (p : Permit) : Nat := w.count fun t => t.permits.contains p

/-- The permits that a task takes on its way to `t` are free. -/
def grants (w : Streams) (before : Option StreamTask) (t : StreamTask) : Bool :=
  t.permits.all fun p => before.any (·.permits.contains p) || w.held p < p.size

def step (w : Streams) : Nat × StreamMove → Option Streams
  | (id, move) =>
    match move.next (w.lookup id) with
    | none => none
    | some none => some (w.erase id)
    | some (some t) => if w.grants (w.lookup id) t then some (w.insert id t) else none

theorem count_insert (p : StreamTask → Bool) (w : Streams) (id : Nat) (t : StreamTask) :
    count p (w.insert id t) + ((w.lookup id).any p).toNat = w.count p + (p t).toNat := by
  cases hl : w.lookup id with
  | none => exact (Assoc.total_insert_new (fun _ t => (p t).toNat) t hl).trans (Nat.add_comm _ _)
  | some old => exact Assoc.total_insert_replace (fun _ t => (p t).toNat) t hl

theorem held_step {w w' : Streams} (h : ∀ p, w.held p ≤ p.size) (hs : w.step a = some w')
    (p : Permit) : w'.held p ≤ p.size := by
  obtain ⟨id, move⟩ := a
  rw [step] at hs
  split at hs
  · cases hs
  · cases hs
    exact Nat.le_trans (Assoc.total_erase_le (fun _ t => (t.permits.contains p).toNat) w id) (h p)
  · next t _ =>
    split at hs
    · next hg =>
      cases hs
      have hc := count_insert (·.permits.contains p) w id t
      have ho := h p
      simp only [held] at ho ⊢
      cases ht : t.permits.contains p with
      | false =>
        rw [ht, Bool.toNat_false] at hc
        omega
      | true =>
        have hf := List.all_eq_true.1 hg p (List.contains_iff_mem.1 ht)
        rw [ht, Bool.toNat_true] at hc
        rcases Bool.or_eq_true_iff.1 hf with hk | hr
        · rw [hk, Bool.toNat_true] at hc
          omega
        · have hr := of_decide_eq_true hr
          simp only [held] at hr
          omega
    · cases hs

theorem count_split (h : ∀ t, (p t).toNat = (r t).toNat + (s t).toNat) (w : Streams) :
    w.count p = w.count r + w.count s := by
  simp only [count, Assoc.total, ← List.sum_map_add, h]

open StreamTask (inProgress detached streamsOn bare early)

/-- With no permit in use elsewhere, nothing keeps a task from moving on. -/
theorem step_alone {w : Streams} (hw : ∀ p, w.held p = 0)
    (hn : move.next (some t) = some (some t')) :
    step (w.insert key t) (key, move) = some (w.insert key t') := by
  have hg : grants (w.insert key t) (some t) t' = true := by
    apply List.all_eq_true.2
    intro p _
    have hc := count_insert (·.permits.contains p) w key t
    have hz := hw p
    have hs : 1 < p.size := by cases p <;> simp [Permit.size]
    -- the task itself holds one permit at most
    have ho := Bool.toNat_le (t.permits.contains p)
    rw [Bool.or_eq_true_iff, decide_eq_true_eq]
    simp only [held] at hz ⊢
    omega
  simp [step, AList.lookup_insert, hn, hg, AList.insert_insert]

theorem exists_streaming (n : Nat) : ∃ w, Reach step always ∅ w ∧ (∀ p, w.held p = 0) ∧
    (∀ id, n ≤ id → w.lookup id = none) ∧ w.count inProgress = n ∧
    w.count (streamsOn 0) = n := by
  induction n with
  | zero => exact ⟨∅, .start, fun _ => rfl, fun _ _ => rfl, rfl, rfl⟩
  | succ n ih =>
    obtain ⟨w, hrc, hh, hf, hc, ho⟩ := ih
    have hn := hf n le_rfl
    have hl (p : StreamTask → Bool) :
        count p (w.insert n (.streaming 0)) = w.count p + (p (.streaming 0)).toNat := by
      simpa [hn] using count_insert p w n (.streaming 0)
    have hr : step w (n, .request) = some (w.insert n .waiting) := by
      simp [step, hn, StreamMove.next, grants, StreamTask.permits]
    refine ⟨w.insert n (.streaming 0), ?_, fun p => ?_, fun id hid => ?_, ?_, ?_⟩
    · have h₁ := Reach.next (a := (n, .request)) hrc trivial hr
      have h₂ := h₁.next (a := (n, .acquire)) trivial (step_alone hh rfl)
      have h₃ := h₂.next (a := (n, .dial 0)) trivial (step_alone hh rfl)
      have h₄ := h₃.next (a := (n, .openStream)) trivial (step_alone hh rfl)
      have h₅ := h₄.next (a := (n, .send)) trivial (step_alone hh rfl)
      exact h₅.next (a := (n, .respond)) trivial (step_alone hh rfl)
    · exact (hl _).trans (by rw [← held, hh]; rfl)
    · exact (AList.lookup_insert_ne (by omega)).trans (hf id (by omega))
    · rw [hl, hc]
      rfl
    · rw [hl, ho]
      rfl

end Streams
end Podmesh
