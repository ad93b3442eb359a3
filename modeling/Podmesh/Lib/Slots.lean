import Podmesh.Lib.Assoc

namespace Podmesh

variable [DecidableEq ι] [DecidableEq κ] {key : C → κ} {holds : C → Bool}
  {calls : AList fun _ : ι => C} {table : AList fun _ : κ => V}

/-- A bounded table has an entry for each call that took a slot and did not give it back, under the
key of the call, and no entry else. -/
structure Slots (key : C → κ) (holds : C → Bool) (calls : AList fun _ : ι => C)
    (table : AList fun _ : κ => V) : Prop where
  distinct : ∀ i j c d, calls.lookup i = some c → calls.lookup j = some d → key c = key d → i = j
  entry : ∀ i c, calls.lookup i = some c → holds c = true → (table.lookup (key c)).isSome = true
  owner : ∀ k v, table.lookup k = some v →
    ∃ i c, calls.lookup i = some c ∧ key c = k ∧ holds c = true

namespace Slots

theorem empty (key : C → κ) (holds : C → Bool) :
    Slots key holds (∅ : AList fun _ : ι => C) (∅ : AList fun _ : κ => V) where
  distinct := by
    intro _ _ _ _ h
    cases h
  entry := by
    intro _ _ h
    cases h
  owner := by
    intro _ _ h
    cases h

section
variable (h : Slots key holds calls table)
include h

theorem distinct_insert (hk : ∀ j d, calls.lookup j = some d → key d = key c → j = i) :
    ∀ j j' d d', (calls.insert i c).lookup j = some d → (calls.insert i c).lookup j' = some d' →
      key d = key d' → j = j' := by
  intro j j' d d' hj hj' he
  rcases Assoc.lookup_insert_cases hj with ⟨rfl, rfl⟩ | ⟨_, ho⟩
  · rcases Assoc.lookup_insert_cases hj' with ⟨rfl, rfl⟩ | ⟨_, ho'⟩
    · rfl
    · exact (hk j' d' ho' he.symm).symm
  · rcases Assoc.lookup_insert_cases hj' with ⟨rfl, rfl⟩ | ⟨_, ho'⟩
    · exact hk j d ho he
    · exact h.distinct j j' d d' ho ho' he

theorem key_of_lookup (hi : calls.lookup i = some c)
    (hk : key c' = key c) : ∀ j d, calls.lookup j = some d → key d = key c' → j = i := by
  intro j d hj he
  exact h.distinct j i d c hj hi (he.trans hk)

theorem arrive (hi : calls.lookup i = none) (hf : ∀ j d, calls.lookup j = some d → key d ≠ key c)
    (hc : holds c = false) : Slots key holds (calls.insert i c) table where
  distinct := by
    apply h.distinct_insert
    intro j d hj he
    exact absurd he (hf j d hj)
  entry := by
    intro j d hj hd
    rcases Assoc.lookup_insert_cases hj with ⟨rfl, rfl⟩ | ⟨_, hj⟩
    · rw [hc] at hd
      cases hd
    · exact h.entry j d hj hd
  owner := by
    intro k v hk
    obtain ⟨j, d, hj, hd⟩ := h.owner k v hk
    have hne : j ≠ i := by
      rintro rfl
      rw [hi] at hj
      cases hj
    exact ⟨j, d, (AList.lookup_insert_ne hne).trans hj, hd⟩

section
variable (hi : calls.lookup i = some c)
include hi

theorem move (hky : key c' = key c) (hhl : holds c' = holds c) :
    Slots key holds (calls.insert i c') table where
  distinct := h.distinct_insert (h.key_of_lookup hi hky)
  entry := by
    intro j d hj hd
    rcases Assoc.lookup_insert_cases hj with ⟨rfl, rfl⟩ | ⟨_, hj⟩
    · rw [hky]
      exact h.entry j c hi (hhl ▸ hd)
    · exact h.entry j d hj hd
  owner := by
    intro k v hk
    obtain ⟨j, d, hj, hd, hh⟩ := h.owner k v hk
    by_cases hji : j = i
    · subst hji
      rw [hi] at hj
      cases hj
      exact ⟨j, c', AList.lookup_insert _, hky.trans hd, hhl.trans hh⟩
    · exact ⟨j, d, (AList.lookup_insert_ne hji).trans hj, hd, hh⟩

theorem take (hky : key c' = key c) (hhl : holds c' = true) (v : V) :
    Slots key holds (calls.insert i c') (table.insert (key c) v) where
  distinct := h.distinct_insert (h.key_of_lookup hi hky)
  entry := by
    intro j d hj hd
    by_cases hk : key d = key c
    · rw [hk, AList.lookup_insert]
      rfl
    · rw [AList.lookup_insert_ne hk]
      rcases Assoc.lookup_insert_cases hj with ⟨_, rfl⟩ | ⟨_, hj⟩
      · exact absurd hky hk
      · exact h.entry j d hj hd
  owner := by
    intro k w hk
    rcases Assoc.lookup_insert_cases hk with ⟨rfl, _⟩ | ⟨hne, hk⟩
    · exact ⟨i, c', AList.lookup_insert _, hky, hhl⟩
    · obtain ⟨j, d, hj, hd, hh⟩ := h.owner k w hk
      have hji : j ≠ i := by
        rintro rfl
        rw [hi] at hj
        cases hj
        exact hne hd.symm
      exact ⟨j, d, (AList.lookup_insert_ne hji).trans hj, hd, hh⟩

theorem release (hky : key c' = key c) (hhl : holds c' = false) :
    Slots key holds (calls.insert i c') (table.erase (key c)) where
  distinct := h.distinct_insert (h.key_of_lookup hi hky)
  entry := by
    intro j d hj hd
    rcases Assoc.lookup_insert_cases hj with ⟨_, rfl⟩ | ⟨hji, hj⟩
    · rw [hhl] at hd
      cases hd
    · have hk : key d ≠ key c := fun he => hji (h.distinct j i d c hj hi he)
      rw [AList.lookup_erase_ne hk]
      exact h.entry j d hj hd
  owner := by
    intro k w hk
    obtain ⟨hne, hk⟩ := Assoc.lookup_of_erase hk
    obtain ⟨j, d, hj, hd, hh⟩ := h.owner k w hk
    have hji : j ≠ i := by
      rintro rfl
      rw [hi] at hj
      cases hj
      exact hne hd.symm
    exact ⟨j, d, (AList.lookup_insert_ne hji).trans hj, hd, hh⟩

end

theorem revalue {table' : AList fun _ : κ => W}
    (hky : ∀ k, (table'.lookup k).isSome = (table.lookup k).isSome) :
    Slots key holds calls table' where
  distinct := h.distinct
  entry := by
    intro i c hi hc
    rw [hky]
    exact h.entry i c hi hc
  owner := by
    intro k w hk
    have hs : (table.lookup k).isSome = true := by
      rw [← hky, hk]
      rfl
    obtain ⟨v, hv⟩ := Option.isSome_iff_exists.1 hs
    exact h.owner k v hv

theorem free (hi : calls.lookup i = some c)
    (hc : holds c = false) : table.lookup (key c) = none := by
  cases hk : table.lookup (key c) with
  | none => rfl
  | some v =>
    obtain ⟨j, d, hj, hd, hh⟩ := h.owner _ v hk
    have hji := h.distinct j i d c hj hi hd
    subst hji
    rw [hi] at hj
    cases hj
    rw [hc] at hh
    cases hh

end

def Unleaked (holds ended : C → Bool) (calls : AList fun _ : ι => C) : Prop :=
  ∀ i c, calls.lookup i = some c → ended c = true → holds c = false

theorem Unleaked.empty (holds ended : C → Bool) :
    Unleaked holds ended (∅ : AList fun _ : ι => C) := by
  intro _ _ h
  cases h

variable {ended : C → Bool}

theorem Unleaked.insert (h : Unleaked holds ended calls) (hc : ended c = true → holds c = false)
    (i : ι) : Unleaked holds ended (calls.insert i c) := by
  intro j d hj
  rcases Assoc.lookup_insert_cases hj with ⟨_, rfl⟩ | ⟨_, ho⟩
  · exact hc
  · exact h j d ho

theorem Unleaked.move (h : Unleaked holds ended calls) (hhl : holds c' = holds c)
    (hf : ended c' = true → holds c' = true → holds c = false) (i : ι) :
    Unleaked holds ended (calls.insert i c') := by
  apply h.insert
  intro he
  by_contra hh
  exact hh (hhl.trans (hf he (Bool.not_eq_false _ ▸ hh)))

/-- A call that has ended left nothing in the table, every entry belongs to a call that is still
running, and so there are no more entries than running calls. -/
structure Freed (key : C → κ) (ended : C → Bool) (calls : AList fun _ : ι => C)
    (table : AList fun _ : κ => V) : Prop where
  gone : ∀ i c, calls.lookup i = some c → ended c = true → table.lookup (key c) = none
  running : ∀ k v, table.lookup k = some v →
    ∃ i c, calls.lookup i = some c ∧ key c = k ∧ ended c = false
  bounded : Assoc.size table ≤ Assoc.size (Assoc.retain (fun _ c => !ended c) calls)

theorem freed (h : Slots key holds calls table)
    (hl : Unleaked holds ended calls) : Freed key ended calls table := by
  have hr : ∀ k v, table.lookup k = some v →
      ∃ i c, calls.lookup i = some c ∧ key c = k ∧ ended c = false := by
    intro k v hk
    obtain ⟨i, c, hi, hc, hh⟩ := h.owner k v hk
    refine ⟨i, c, hi, hc, ?_⟩
    by_contra he
    rw [Bool.not_eq_false] at he
    rw [hl i c hi he] at hh
    cases hh
  refine ⟨fun i c hi he => h.free hi (hl i c hi he), hr, ?_⟩
  -- the keys of the table are among those of the running calls
  have hky : table.keys ⊆
      (Assoc.retain (fun _ c => !ended c) calls).entries.map fun e => key e.2 := by
    intro k hk
    obtain ⟨v, hv⟩ := Option.isSome_iff_exists.1 (AList.lookup_isSome.2 hk)
    obtain ⟨i, c, hi, hc, he⟩ := hr k v hv
    apply List.mem_map.2
    refine ⟨⟨i, c⟩, List.mem_filter.2 ⟨AList.mem_lookup_iff.1 hi, ?_⟩, hc⟩
    exact congrArg not he
  have hln := (List.subperm_of_subset table.nodupKeys hky).length_le
  simpa [List.keys, Assoc.size] using hln

theorem not_freed (h : Slots key holds calls table) (hi : calls.lookup i = some c)
    (hen : ended c = true) (hh : holds c = true) : ¬Freed key ended calls table := by
  intro hf
  have he := h.entry i c hi hh
  rw [hf.gone i c hi hen] at he
  cases he

end Slots
end Podmesh
