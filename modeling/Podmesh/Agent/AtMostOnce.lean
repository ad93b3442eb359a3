import Podmesh.Agent.Invariant
import Podmesh.Agent.Reference
import Podmesh.Lib.Queued

namespace Podmesh

theorem mem_dropWhile_iff :
    a ∈ l.dropWhile p ↔ ∃ ahead rest, l = ahead ++ a :: rest ∧ ∃ b ∈ ahead ++ [a], p b = false := by
  induction l with
  | nil =>
    constructor
    · intro ha
      cases ha
    · rintro ⟨ahead, rest, hl, _⟩
      cases ahead <;> cases hl
  | cons c l ih =>
    cases hc : p c with
    | true =>
      rw [List.dropWhile_cons_of_pos hc, ih]
      constructor
      · rintro ⟨ahead, rest, hl, b, hb, hp⟩
        exact ⟨c :: ahead, rest, by rw [hl]; rfl, b, List.mem_cons_of_mem c hb, hp⟩
      · rintro ⟨ahead, rest, hl, b, hb, hp⟩
        cases ahead with
        | nil =>
          cases hl
          cases List.mem_singleton.1 hb
          rw [hc] at hp
          cases hp
        | cons c' ahead =>
          cases hl
          refine ⟨ahead, rest, rfl, b, ?_, hp⟩
          rcases List.mem_cons.1 hb with rfl | hb
          · rw [hc] at hp
            cases hp
          · exact hb
    | false =>
      rw [List.dropWhile_cons_of_neg (by simp [hc])]
      constructor
      · intro ha
        obtain ⟨ahead, rest, hl⟩ := List.append_of_mem ha
        refine ⟨ahead, rest, hl, c, ?_, hc⟩
        cases ahead with
        | nil =>
          cases hl
          exact List.mem_singleton_self _
        | cons c' ahead =>
          cases hl
          exact List.mem_cons_self
      · rintro ⟨ahead, rest, hl, _⟩
        rw [hl]
        exact List.mem_append_right ahead List.mem_cons_self

variable {c : ReplayCache}

namespace ReplayCache

/-- Every remembered key stands in the queue once, and nothing else does. -/
structure WellFormed (c : ReplayCache) : Prop where
  nodup : c.order.Nodup
  mem : ∀ k, k ∈ c.order ↔ (c.seen.lookup k).isSome = true

def expired (seen : AList fun _ : String => UInt64) (now : UInt64) (k : String) : Bool :=
  (seen.lookup k).all fun expiry => decide (expiry.toNat < now.toNat)

def toQueued (c : ReplayCache) : Queued String UInt64 := ⟨c.seen, c.order⟩

theorem wellFormed_iff : c.WellFormed ↔ c.toQueued.WellFormed :=
  ⟨fun h => ⟨h.nodup, h.mem⟩, fun h => ⟨h.nodup, h.mem⟩⟩

theorem toQueued_prune (now : UInt64) (seen : AList fun _ : String => UInt64) (order : List String) :
    (prune now seen order).toQueued
      = Queued.pruneFront (fun expiry => decide (expiry.toNat < now.toNat)) seen order := by
  induction order generalizing seen with
  | nil => rfl
  | cons oldest rest ih =>
    cases hl : seen.lookup oldest with
    | none => simp [prune, Queued.pruneFront, hl, ih]
    | some expiry =>
      by_cases he : expiry.toNat < now.toNat
      · simp [prune, Queued.pruneFront, hl, if_pos he, decide_eq_true he, ih]
      · simp only [prune, Queued.pruneFront, hl, if_neg he, decide_eq_false he,
          Bool.false_eq_true, if_false]
        rfl

theorem toQueued_evict (c : ReplayCache) :
    c.evict.toQueued = c.toQueued ∨ c.evict.toQueued = c.toQueued.evict := by
  by_cases hf : c.order.length ≥ maxReplayEntries
  · right
    rw [ReplayCache.evict, if_pos hf, Queued.evict, toQueued]
    split <;> next ho => simp [toQueued, ho]
  · left
    rw [ReplayCache.evict, if_neg hf]

theorem prune_spec (now : UInt64) (seen : AList fun _ : String => UInt64) {order : List String}
    (hn : order.Nodup) :
    (prune now seen order).order = order.dropWhile (expired seen now) ∧
      ∀ k, (prune now seen order).seen.lookup k =
        if k ∈ order.takeWhile (expired seen now) then none else seen.lookup k := by
  have hs := Queued.pruneFront_spec (fun expiry => decide (expiry.toNat < now.toNat)) seen hn
  rw [← toQueued_prune] at hs
  exact hs

theorem WellFormed.prune (hc : c.WellFormed) (now : UInt64) :
    (prune now c.seen c.order).WellFormed := by
  rw [wellFormed_iff, toQueued_prune]
  exact (wellFormed_iff.1 hc).pruneFront _

theorem WellFormed.evict (hc : c.WellFormed) : c.evict.WellFormed := by
  rw [wellFormed_iff]
  rcases c.toQueued_evict with he | he
  · rw [he]
    exact wellFormed_iff.1 hc
  · rw [he]
    exact (wellFormed_iff.1 hc).evict

theorem WellFormed.push (hc : c.WellFormed) (hnw : (c.seen.lookup key).isSome = false)
    (expiry : UInt64) : (c.push key expiry).WellFormed := by
  have hn : c.seen.lookup key = none := by
    cases hl : c.seen.lookup key with
    | none => rfl
    | some e =>
      rw [hl] at hnw
      cases hnw
  exact wellFormed_iff.2 ((wellFormed_iff.1 hc).push hn expiry)

theorem evict_lookup_none (hn : (c.seen.lookup key).isSome = false) :
    (c.evict.seen.lookup key).isSome = false := by
  unfold ReplayCache.evict
  split
  · split
    · next evicted rest ho =>
      by_cases hk : key = evicted
      · subst hk
        simp
      · rw [AList.lookup_erase_ne hk]
        exact hn
    · exact hn
  · exact hn

theorem WellFormed.record (hc : c.WellFormed) (key : String)
    (expiry now : UInt64) : (c.record key expiry now).1.WellFormed := by
  have hp := hc.prune now
  unfold ReplayCache.record
  dsimp only
  split
  · exact hp
  · next hn =>
    have hf : ((ReplayCache.prune now c.seen c.order).seen.lookup key).isSome = false := by
      simpa using hn
    exact hp.evict.push (evict_lookup_none hf) expiry

theorem record_refused_iff (hc : c.WellFormed) :
    (c.record key expiry now).2 = .error "replayed request" ↔
      ∃ ahead rest, c.order = ahead ++ key :: rest ∧
        ∃ k ∈ ahead ++ [key], ∃ e, c.seen.lookup k = some e ∧ now.toNat ≤ e.toNat := by
  have hr : (c.record key expiry now).2 = .error "replayed request" ↔
      key ∈ c.order.dropWhile (expired c.seen now) := by
    rw [← (prune_spec now c.seen hc.nodup).1, (hc.prune now).mem key]
    unfold ReplayCache.record
    dsimp only
    split
    · next hs => simp [hs]
    · next hs =>
      constructor
      · intro hok
        cases hok
      · exact fun hsm => absurd hsm hs
  rw [hr, mem_dropWhile_iff]
  refine exists_congr fun ahead => exists_congr fun rest => and_congr_right fun ho => ?_
  refine exists_congr fun k => and_congr_right fun hk => ?_
  have hm : k ∈ c.order := by
    rw [ho]
    rcases List.mem_append.1 hk with hk | hk
    · exact List.mem_append_left _ hk
    · cases List.mem_singleton.1 hk
      exact List.mem_append_right _ List.mem_cons_self
  obtain ⟨e, he⟩ := Option.isSome_iff_exists.1 ((hc.mem k).1 hm)
  rw [expired, he]
  simp

end ReplayCache

structure Presented where
  key : String
  expiresAtSecs : UInt64
  now : UInt64

namespace ReplayCache

def present (c : ReplayCache) (p : Presented) : ReplayCache × Except String Unit :=
  c.record p.key p.expiresAtSecs p.now

def run (c : ReplayCache) (ps : List Presented) : ReplayCache :=
  ps.foldl (fun c p => (c.present p).1) c

def recordedOthers (key : String) (c : ReplayCache) : List Presented → Nat
  | [] => 0
  | p :: ps => (if (c.present p).2.isOk && p.key != key then 1 else 0)
      + recordedOthers key (c.present p).1 ps

theorem WellFormed.run (hc : c.WellFormed) (ps : List Presented) : (c.run ps).WellFormed := by
  induction ps generalizing c with
  | nil => exact hc
  | cons p ps ih => exact ih (hc.record p.key p.expiresAtSecs p.now)

theorem empty_wellFormed : ReplayCache.empty.WellFormed := wellFormed_iff.2 .empty

def Tracks (c : ReplayCache) (key : String) (expiry : UInt64) (n : Nat) : Prop :=
  c.seen.lookup key = some expiry ∧
    ∃ ahead behind, c.order = ahead ++ key :: behind ∧ behind.length ≤ n

section
variable (ht : c.Tracks key expiry n)
include ht

theorem Tracks.prune (hc : c.WellFormed)
    (hn : now.toNat ≤ expiry.toNat) : (prune now c.seen c.order).Tracks key expiry n := by
  obtain ⟨hs, ahead, behind, ho, hln⟩ := ht
  have hl : expired c.seen now key = false := by
    rw [expired, hs]
    simpa using hn
  obtain ⟨hd, hlk⟩ := prune_spec now c.seen hc.nodup
  refine ⟨?_, ahead.dropWhile (expired c.seen now), behind, ?_, hln⟩
  · rw [hlk key, if_neg, hs]
    intro htk
    have hp := List.mem_takeWhile_imp htk
    rw [hl] at hp
    cases hp
  · rw [hd, ho, List.dropWhile_append]
    split
    · next he =>
      rw [List.isEmpty_iff.1 he, List.dropWhile_cons_of_neg (by simp [hl])]
      rfl
    · rfl

theorem Tracks.evict (hc : c.WellFormed)
    (hr : n + 1 < maxReplayEntries) : c.evict.Tracks key expiry n := by
  unfold ReplayCache.evict
  split
  · next hf =>
    obtain ⟨hs, ahead, behind, ho, hl⟩ := ht
    cases ahead with
    | nil =>
      rw [ho, List.nil_append, List.length_cons] at hf
      omega
    | cons evicted ahead =>
      have hne : key ≠ evicted := by
        rintro rfl
        have hn := hc.nodup
        rw [ho, List.cons_append, List.nodup_cons] at hn
        exact hn.1 (List.mem_append_right ahead List.mem_cons_self)
      rw [ho, List.cons_append]
      refine ⟨?_, ahead, behind, rfl, hl⟩
      rw [AList.lookup_erase_ne hne]
      exact hs
  · exact ht

theorem Tracks.push (hne : key ≠ oth) (e : UInt64) : (c.push oth e).Tracks key expiry (n + 1) := by
  obtain ⟨hs, ahead, behind, ho, hl⟩ := ht
  refine ⟨?_, ahead, behind ++ [oth], ?_, ?_⟩
  · exact (AList.lookup_insert_ne hne).trans hs
  · simp [ReplayCache.push, ho]
  · rw [List.length_append]
    exact Nat.succ_le_succ hl

theorem Tracks.present (hc : c.WellFormed) (hnw : p.now.toNat ≤ expiry.toNat)
    (hr : n + (if (c.present p).2.isOk && p.key != key then 1 else 0) < maxReplayEntries) :
    (c.present p).1.Tracks key expiry
      (n + if (c.present p).2.isOk && p.key != key then 1 else 0) := by
  have hp := ht.prune hc hnw
  have hw := hc.prune p.now
  unfold ReplayCache.present ReplayCache.record at hr ⊢
  dsimp only at hr ⊢
  split
  · exact hp
  · next hn =>
    -- a key that is remembered is not recorded again
    have hne : key ≠ p.key := by
      rintro rfl
      rw [hp.1] at hn
      exact hn rfl
    have ho : (p.key != key) = true := bne_iff_ne.2 hne.symm
    rw [if_neg hn, ho] at hr
    rw [ho]
    exact (hp.evict hw hr).push hne _

theorem Tracks.run (hc : c.WellFormed) (hcl : ∀ p ∈ ps, p.now.toNat ≤ expiry.toNat)
    (hr : n + c.recordedOthers key ps < maxReplayEntries) :
    (c.run ps).Tracks key expiry (n + c.recordedOthers key ps) := by
  induction ps generalizing c n with
  | nil => exact ht
  | cons p ps ih =>
    rw [recordedOthers, ← Nat.add_assoc] at hr ⊢
    have hs := ht.present hc (hcl p List.mem_cons_self) (by omega)
    exact ih hs (hc.record p.key p.expiresAtSecs p.now)
      (fun q hq => hcl q (List.mem_cons_of_mem p hq)) hr

end

theorem tracks_of_record (hok : (c.record key expiry now).2 = .ok ()) :
    (c.record key expiry now).1.Tracks key expiry 0 := by
  unfold ReplayCache.record at hok ⊢
  dsimp only at hok ⊢
  split at hok
  · cases hok
  · next hn =>
    rw [if_neg hn]
    exact ⟨AList.lookup_insert _, _, [], rfl, Nat.le_refl 0⟩

theorem run_append (c : ReplayCache) (ps qs : List Presented) :
    c.run (ps ++ qs) = (c.run ps).run qs := List.foldl_append

end ReplayCache

namespace OwnerMessage

def verify (p : Platform) : OwnerMessage → UInt64 → Except String Unit
  | .admission request => request.verify p
  | .deploy grant => grant.verify p
  | .update request => request.verify p
  | .command request => request.verify p
  | .list request => request.verify p

def expiresAtSecs : OwnerMessage → UInt64
  | .admission request => request.expiresAtSecs
  | .deploy grant => grant.expiresAtSecs
  | .update request => request.expiresAtSecs
  | .command request => request.expiresAtSecs
  | .list request => request.expiresAtSecs

def key : OwnerMessage → String
  | .admission request => replayKey "admission" request.namespaceId request.nonce
  | .deploy grant => replayKey "deploy" grant.namespaceId grant.nonce
  | .update request => replayKey "update" request.namespaceId request.nonce
  | .command request => replayKey "command" request.namespaceId request.nonce
  | .list request => replayKey "list" request.namespaceId request.nonce

def presentedAt (m : OwnerMessage) (now : UInt64) : Presented := ⟨m.key, m.expiresAtSecs, now⟩

end OwnerMessage

/-- A recorded message that comes again is refused exactly if it has not expired, or if it is still
queued and it or an entry ahead of it has not. -/
theorem replayed_message_refused_iff (m : OwnerMessage) (history between : List Presented)
    (now1 now2 : UInt64)
    (hfirst : ((ReplayCache.empty.run history).present (m.presentedAt now1)).2 = .ok ())
    (hclock : ∀ p ∈ between, p.now.toNat ≤ now2.toNat)
    (hfew : ((ReplayCache.empty.run history).present (m.presentedAt now1)).1.recordedOthers m.key
      between < maxReplayEntries) :
    let c := ReplayCache.empty.run (history ++ m.presentedAt now1 :: between)
    (c.present (m.presentedAt now2)).2 = .error "replayed request" ↔
      now2.toNat ≤ m.expiresAtSecs.toNat ∨
        ∃ ahead rest, c.order = ahead ++ m.key :: rest ∧
          ∃ k ∈ ahead ++ [m.key], ∃ e, c.seen.lookup k = some e ∧ now2.toNat ≤ e.toNat := by
  intro c
  have he := ReplayCache.empty_wellFormed
  have hc : c.WellFormed := he.run (history ++ m.presentedAt now1 :: between)
  refine (ReplayCache.record_refused_iff hc).trans ⟨.inr, ?_⟩
  rintro (hl | hq)
  · have hw := (he.run history).record m.key m.expiresAtSecs now1
    have hr : c = ((ReplayCache.empty.run history).present (m.presentedAt now1)).1.run between :=
      ReplayCache.run_append _ history (m.presentedAt now1 :: between)
    have htr := (ReplayCache.tracks_of_record hfirst).run hw
      (fun p hp => (hclock p hp).trans hl) (by rw [Nat.zero_add]; exact hfew)
    rw [hr]
    obtain ⟨hs, ahead, behind, ho, _⟩ := htr
    have hsl : m.key ∈ ahead ++ [m.key] :=
      List.mem_append_right ahead (List.mem_singleton_self m.key)
    exact ⟨ahead, behind, ho, m.key, hsl, m.expiresAtSecs, hs, hl⟩
  · exact hq

open Reference in
/-- An admission that comes again a minute after it was recorded, with another one in between. -/
theorem repeated_admission_refused :
    (((ReplayCache.empty.run [(OwnerMessage.admission (admission "a" "1" 1 1 1)).presentedAt 1000,
        (OwnerMessage.admission (admission "b" "2" 1 1 1)).presentedAt 1030]).present
      ((OwnerMessage.admission (admission "a" "1" 1 1 1)).presentedAt 1060)).2 =
        .error "replayed request") := by
  have hr := replayed_message_refused_iff (.admission (admission "a" "1" 1 1 1)) []
    [(OwnerMessage.admission (admission "b" "2" 1 1 1)).presentedAt 1030] 1000 1060
    (by decide +kernel) (by decide +kernel) (by decide +kernel)
  exact hr.2 (.inl (by decide +kernel))

open Reference in
/-- Past its expiry a message is still accepted for the tolerated clock skew, but the replay cache
has forgotten it. -/
theorem expired_admission_replayed :
    (OwnerMessage.admission (admission "a" "1" 1 1 1)).verify platform 1000 = .ok () ∧
      (OwnerMessage.admission (admission "a" "1" 1 1 1)).verify platform 1100 = .ok () ∧
      (ReplayCache.empty.present
        ((OwnerMessage.admission (admission "a" "1" 1 1 1)).presentedAt 1000)).2 = .ok () ∧
      ((ReplayCache.empty.run
          [(OwnerMessage.admission (admission "a" "1" 1 1 1)).presentedAt 1000]).present
        ((OwnerMessage.admission (admission "a" "1" 1 1 1)).presentedAt 1100)).2 = .ok () := by
  refine ⟨?_, ?_, ?_, ?_⟩ <;> rfl

end Podmesh
