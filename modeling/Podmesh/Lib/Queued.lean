import Mathlib.Data.List.TakeWhile
import Podmesh.Lib.Assoc

namespace Podmesh

theorem dropWhile_congr {p q : α → Bool} {l : List α} (h : ∀ a ∈ l, p a = q a) :
    l.dropWhile p = l.dropWhile q ∧ l.takeWhile p = l.takeWhile q := by
  induction l with
  | nil => exact ⟨rfl, rfl⟩
  | cons a l ih =>
    have hh : p a = q a := h a List.mem_cons_self
    obtain ⟨hd, ht⟩ := ih fun b hb => h b (List.mem_cons_of_mem a hb)
    rw [List.dropWhile_cons, List.dropWhile_cons, List.takeWhile_cons, List.takeWhile_cons, hh,
      hd, ht]
    exact ⟨rfl, rfl⟩

theorem takeWhile_dropWhile_disjoint {l : List α} (hn : l.Nodup) {p : α → Bool}
    (ht : a ∈ l.takeWhile p) : a ∉ l.dropWhile p := by
  rw [← List.takeWhile_append_dropWhile (p := p) (l := l)] at hn
  exact fun hd => (List.nodup_append.1 hn).2.2 a ht a hd rfl

/-- A finite map together with the order in which its keys came. -/
structure Queued (α : Type u) (V : Type v) where
  map : AList fun _ : α => V
  order : List α

namespace Queued
variable [DecidableEq α] {q : Queued α V}

omit [DecidableEq α] in
def empty : Queued α V := ⟨∅, []⟩

/-- Drops entries from the front, up to the first one that is not gone. -/
def pruneFront (gone : V → Bool) (map : AList fun _ : α => V) : List α → Queued α V
  | [] => ⟨map, []⟩
  | oldest :: rest =>
    match map.lookup oldest with
    | some v => if gone v then pruneFront gone (map.erase oldest) rest else ⟨map, oldest :: rest⟩
    | none => pruneFront gone map rest

def evict (q : Queued α V) : Queued α V :=
  match q.order with
  | oldest :: rest => ⟨q.map.erase oldest, rest⟩
  | [] => q

def trim (limit : Nat) (map : AList fun _ : α => V) : List α → Queued α V
  | [] => ⟨map, []⟩
  | oldest :: rest =>
    if limit < rest.length + 1 then trim limit (map.erase oldest) rest else ⟨map, oldest :: rest⟩

def push (q : Queued α V) (a : α) (v : V) : Queued α V := ⟨q.map.insert a v, q.order ++ [a]⟩

/-- Updates every value, then keeps the entries that pass a test. -/
def refine (f : V → V) (keep : V → Bool) (q : Queued α V) : Queued α V :=
  let map := Assoc.retain (fun _ => keep) (Assoc.mapValues f q.map)
  ⟨map, q.order.filter fun a => (map.lookup a).isSome⟩

structure WellFormed (q : Queued α V) : Prop where
  nodup : q.order.Nodup
  mem : ∀ a, a ∈ q.order ↔ (q.map.lookup a).isSome = true

/-- A key at the front is dropped by pruning. -/
def dropped (gone : V → Bool) (map : AList fun _ : α => V) (a : α) : Bool :=
  (map.lookup a).all gone

variable {order : List α}

/-- Pruning drops the leading entries that are gone, and only those. -/
theorem pruneFront_spec (gone : V → Bool) (map : AList fun _ : α => V) (hn : order.Nodup) :
    (pruneFront gone map order).order = order.dropWhile (dropped gone map) ∧
      ∀ a, (pruneFront gone map order).map.lookup a =
        if a ∈ order.takeWhile (dropped gone map) then none else map.lookup a := by
  induction order generalizing map with
  | nil => exact ⟨rfl, fun a => rfl⟩
  | cons oldest rest ih =>
    obtain ⟨hf, hr⟩ := List.nodup_cons.1 hn
    cases hl : map.lookup oldest with
    | none =>
      have hd : dropped gone map oldest = true := by
        rw [dropped, hl]
        rfl
      obtain ⟨ho, hlk⟩ := ih map hr
      rw [List.dropWhile_cons_of_pos hd, List.takeWhile_cons_of_pos hd]
      simp only [pruneFront, hl]
      refine ⟨ho, fun a => ?_⟩
      rw [hlk a]
      by_cases ha : a = oldest
      · subst ha
        simp [hl]
      · simp [ha]
    | some v =>
      by_cases hv : gone v = true
      · have hd : dropped gone map oldest = true := by
          rw [dropped, hl]
          exact hv
        -- the other entries do not notice that the oldest one is gone
        have hs : ∀ a ∈ rest, dropped gone (map.erase oldest) a = dropped gone map a := by
          intro a ha
          have hne : a ≠ oldest := by
            rintro rfl
            exact hf ha
          rw [dropped, dropped, AList.lookup_erase_ne hne]
        obtain ⟨hdr, ht⟩ := dropWhile_congr hs
        obtain ⟨ho, hlk⟩ := ih (map.erase oldest) hr
        rw [List.dropWhile_cons_of_pos hd, List.takeWhile_cons_of_pos hd]
        simp only [pruneFront, hl, if_pos hv]
        refine ⟨ho.trans hdr, fun a => ?_⟩
        rw [hlk a, ht]
        by_cases ha : a = oldest
        · subst ha
          simp
        · simp [ha, AList.lookup_erase_ne ha]
      · have hd : ¬dropped gone map oldest = true := by
          rw [dropped, hl]
          exact hv
        rw [List.dropWhile_cons_of_neg hd, List.takeWhile_cons_of_neg hd]
        simp only [pruneFront, hl, if_neg hv]
        exact ⟨trivial, fun a => by simp⟩

theorem evict_spec (q : Queued α V) :
    q.evict.order = q.order.tail ∧
      ∀ a, q.evict.map.lookup a = if q.order.head? = some a then none else q.map.lookup a := by
  rw [evict]
  split
  · next oldest rest ho =>
    refine ⟨by rw [ho, List.tail_cons], fun a => ?_⟩
    rw [ho, List.head?_cons]
    by_cases ha : oldest = a
    · rw [if_pos (by rw [ha]), ha, AList.lookup_erase]
    · rw [if_neg (by simpa using ha), AList.lookup_erase_ne (Ne.symm ha)]
  · next ho =>
    exact ⟨by rw [ho, List.tail_nil], fun a => by rw [ho]; rfl⟩

theorem trim_of_le (map : AList fun _ : α => V) (h : order.length ≤ limit) :
    trim limit map order = ⟨map, order⟩ := by
  cases order with
  | nil => rfl
  | cons oldest rest =>
    rw [List.length_cons] at h
    rw [trim, if_neg (Nat.not_lt.2 h)]

theorem trim_of_succ (map : AList fun _ : α => V)
    (h : order.length = limit + 1) : trim limit map order = evict ⟨map, order⟩ := by
  cases order with
  | nil => cases h
  | cons oldest rest =>
    rw [List.length_cons] at h
    rw [trim, if_pos (by omega), trim_of_le _ (by omega)]
    rfl

theorem length_trim_le (limit : Nat) (map : AList fun _ : α => V) (order : List α) :
    (trim limit map order).order.length ≤ limit := by
  induction order generalizing map with
  | nil => exact Nat.zero_le _
  | cons oldest rest ih =>
    rw [trim]
    split
    · exact ih _
    · next hle =>
      rw [List.length_cons]
      omega

theorem lookup_of_trim {limit : Nat} {map : AList fun _ : α => V}
    (h : (trim limit map order).map.lookup a = some v) : map.lookup a = some v := by
  induction order generalizing map with
  | nil => exact h
  | cons oldest rest ih =>
    rw [trim] at h
    split at h
    · exact (Assoc.lookup_of_erase (ih h)).2
    · exact h

namespace WellFormed

theorem empty : (Queued.empty : Queued α V).WellFormed := by
  refine ⟨List.nodup_nil, fun a => ?_⟩
  constructor
  · intro ha
    cases ha
  · intro ha
    cases ha

section
variable (h : q.WellFormed)
include h

theorem pruneFront (gone : V → Bool) : (pruneFront gone q.map q.order).WellFormed := by
  obtain ⟨ho, hl⟩ := pruneFront_spec gone q.map h.nodup
  refine ⟨?_, fun a => ?_⟩
  · rw [ho]
    exact h.nodup.sublist (List.dropWhile_sublist _)
  · rw [ho, hl a]
    split
    · next ht => simp [takeWhile_dropWhile_disjoint h.nodup ht]
    · next ht =>
      rw [← h.mem a]
      constructor
      · exact fun hd => List.dropWhile_subset _ hd
      · intro ha
        rw [← List.takeWhile_append_dropWhile (p := dropped gone q.map) (l := q.order)] at ha
        rcases List.mem_append.1 ha with ha | ha
        · exact absurd ha ht
        · exact ha

theorem evict : q.evict.WellFormed := by
  rw [Queued.evict]
  split
  · next oldest rest ho =>
    have hn := h.nodup
    rw [ho] at hn
    obtain ⟨hf, hr⟩ := List.nodup_cons.1 hn
    refine ⟨hr, fun a => ?_⟩
    have ha := h.mem a
    rw [ho, List.mem_cons] at ha
    by_cases he : a = oldest
    · subst he
      simp [hf]
    · rw [AList.lookup_erase_ne he, ← ha]
      simp [he]
  · exact h

theorem push (hn : q.map.lookup a = none) (v : V) : (q.push a v).WellFormed := by
  have hf : a ∉ q.order := by
    rw [h.mem a, hn]
    exact Bool.false_ne_true
  refine ⟨?_, fun b => ?_⟩
  · refine List.nodup_append.2 ⟨h.nodup, List.nodup_singleton a, ?_⟩
    rintro b hb c hc rfl
    cases List.mem_singleton.1 hc
    exact hf hb
  · simp only [Queued.push, List.mem_append, List.mem_singleton]
    by_cases hb : b = a
    · subst hb
      simp
    · rw [AList.lookup_insert_ne hb, h.mem b]
      simp [hb]

theorem replace (ho : q.map.lookup a = some w) (v : V) :
    (⟨q.map.insert a v, q.order⟩ : Queued α V).WellFormed := by
  refine ⟨h.nodup, fun b => ?_⟩
  rw [h.mem b]
  by_cases hb : b = a
  · subst hb
    simp [ho]
  · rw [AList.lookup_insert_ne hb]

theorem refine (f : V → V) (keep : V → Bool) : (q.refine f keep).WellFormed := by
  refine ⟨h.nodup.filter _, fun a => ?_⟩
  rw [Queued.refine, List.mem_filter]
  constructor
  · exact fun ha => ha.2
  · intro ha
    obtain ⟨v, hv⟩ := Option.isSome_iff_exists.1 ha
    obtain ⟨hm, _⟩ := Assoc.lookup_of_retain hv
    rw [Assoc.lookup_mapValues, Option.map_eq_some_iff] at hm
    obtain ⟨w, hw, _⟩ := hm
    exact ⟨(h.mem a).2 (Option.isSome_iff_exists.2 ⟨w, hw⟩), ha⟩

theorem size_eq : Assoc.size q.map = q.order.length := by
  have hk : q.map.keys.Perm q.order := by
    apply (List.perm_ext_iff_of_nodup q.map.nodupKeys h.nodup).2
    intro a
    rw [h.mem a, AList.lookup_isSome]
    exact Iff.rfl
  rw [← hk.length_eq, AList.keys, List.keys, List.length_map, Assoc.size]

end

end WellFormed

def Sorted [LE V] (q : Queued α V) : Prop :=
  q.order.Pairwise fun a b =>
    ∀ x y, q.map.lookup a = some x → q.map.lookup b = some y → x ≤ y

theorem Sorted.mono [LE V] {q' : Queued α V} (h : q.Sorted) (ho : q'.order.Sublist q.order)
    (hm : ∀ a v, q'.map.lookup a = some v → q.map.lookup a = some v) : q'.Sorted := by
  have hs := h.sublist ho
  apply hs.imp
  intro a b hab x y hx hy
  exact hab x y (hm a x hx) (hm b y hy)

theorem Sorted.push [LE V] (h : q.Sorted) (hw : q.WellFormed) (hn : q.map.lookup a = none)
    (hv : ∀ b x, q.map.lookup b = some x → x ≤ v) : (q.push a v).Sorted := by
  have hf : a ∉ q.order := by
    rw [hw.mem a, hn]
    exact Bool.false_ne_true
  have ho : ∀ b ∈ q.order, (q.push a v).map.lookup b = q.map.lookup b := by
    intro b hb
    apply AList.lookup_insert_ne
    rintro rfl
    exact hf hb
  refine List.pairwise_append.2 ⟨?_, List.pairwise_singleton _ _, ?_⟩
  · apply List.Pairwise.imp_of_mem _ h
    intro b c hb hc hbc x y hx hy
    rw [ho b hb] at hx
    rw [ho c hc] at hy
    exact hbc x y hx hy
  · intro b hb c hc x y hx hy
    cases List.mem_singleton.1 hc
    rw [ho b hb] at hx
    rw [Queued.push, AList.lookup_insert] at hy
    cases hy
    exact hv b x hx

theorem pruneFront_order_sublist (gone : V → Bool) (h : q.WellFormed) :
    (pruneFront gone q.map q.order).order.Sublist q.order := by
  rw [(pruneFront_spec gone q.map h.nodup).1]
  exact List.dropWhile_sublist _

theorem lookup_of_pruneFront (h : q.WellFormed)
    (ha : (pruneFront gone q.map q.order).map.lookup a = some v) : q.map.lookup a = some v := by
  rw [(pruneFront_spec gone q.map h.nodup).2 a] at ha
  split at ha
  · cases ha
  · exact ha

/-- In a sorted queue whose older values go first, pruning leaves exactly what is not gone. -/
theorem lookup_pruneFront [LE V] (h : q.WellFormed) (hs : q.Sorted)
    (hg : ∀ x y, x ≤ y → gone y = true → gone x = true) :
    (pruneFront gone q.map q.order).map.lookup a = some v ↔
      q.map.lookup a = some v ∧ gone v = false := by
  obtain ⟨map, order⟩ := q
  induction order generalizing map with
  | nil =>
    have hn : map.lookup a = none := by
      cases ha : map.lookup a with
      | none => rfl
      | some w => cases (h.mem a).2 (by rw [ha]; rfl)
    simp [pruneFront, hn]
  | cons oldest rest ih =>
    obtain ⟨w, hw⟩ := Option.isSome_iff_exists.1 ((h.mem oldest).1 List.mem_cons_self)
    obtain ⟨hh, ht⟩ := List.pairwise_cons.1 hs
    by_cases hgn : gone w = true
    · have hr : (⟨map.erase oldest, rest⟩ : Queued α V).WellFormed := h.evict
      have hsr : (⟨map.erase oldest, rest⟩ : Queued α V).Sorted :=
        Sorted.mono (q := ⟨map, oldest :: rest⟩) hs (List.sublist_cons_self _ _)
          fun b x hx => (Assoc.lookup_of_erase hx).2
      simp only [pruneFront, hw, if_pos hgn]
      rw [ih (map.erase oldest) hr hsr]
      constructor
      · rintro ⟨ha, hv⟩
        exact ⟨(Assoc.lookup_of_erase ha).2, hv⟩
      · rintro ⟨ha, hv⟩
        have hne : a ≠ oldest := by
          rintro rfl
          rw [hw] at ha
          cases ha
          rw [hgn] at hv
          cases hv
        exact ⟨(AList.lookup_erase_ne hne).trans ha, hv⟩
    · simp only [pruneFront, hw, if_neg hgn]
      constructor
      · intro ha
        refine ⟨ha, ?_⟩
        have hm : a ∈ oldest :: rest := (h.mem a).2 (by rw [ha]; rfl)
        rcases List.mem_cons.1 hm with rfl | hm
        · rw [hw] at ha
          cases ha
          exact Bool.eq_false_iff.2 hgn
        · apply Bool.eq_false_iff.2
          intro hv
          exact hgn (hg w v (hh a hm w v hw ha) hv)
      · exact fun ha => ha.1

end Queued
end Podmesh
