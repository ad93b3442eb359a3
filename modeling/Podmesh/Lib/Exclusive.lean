import Podmesh.Lib.Assoc

namespace Podmesh

variable [DecidableEq ι] [DecidableEq κ] {guard : T → Option (κ × O)}
  {tasks : AList fun _ : ι => T} {table : AList fun _ : κ => O}

/-- A table of guards agrees with the tasks that hold them, and no guard is held twice. -/
structure Exclusive (guard : T → Option (κ × O)) (tasks : AList fun _ : ι => T)
    (table : AList fun _ : κ => O) : Prop where
  held : ∀ i t k o, tasks.lookup i = some t → guard t = some (k, o) → table.lookup k = some o
  unique : ∀ i j t u k o o', tasks.lookup i = some t → tasks.lookup j = some u →
    guard t = some (k, o) → guard u = some (k, o') → i = j
  owned : ∀ k o, table.lookup k = some o → ∃ i t, tasks.lookup i = some t ∧ guard t = some (k, o)

namespace Exclusive

theorem empty (guard : T → Option (κ × O)) :
    Exclusive guard (∅ : AList fun _ : ι => T) (∅ : AList fun _ : κ => O) where
  held := by
    intro _ _ _ _ h
    cases h
  unique := by
    intro _ _ _ _ _ _ _ h
    cases h
  owned := by
    intro _ _ h
    cases h

variable (h : Exclusive guard tasks table)
include h

theorem replace (hi : tasks.lookup i = some t)
    (ht : guard t' = guard t) : Exclusive guard (tasks.insert i t') table := by
  -- every task of the new table has a counterpart under the same name with the same guard
  have hb : ∀ j u, (tasks.insert i t').lookup j = some u →
      ∃ u', tasks.lookup j = some u' ∧ guard u = guard u' := by
    intro j u hj
    rcases Assoc.lookup_insert_cases hj with ⟨rfl, rfl⟩ | ⟨_, hj⟩
    · exact ⟨t, hi, ht⟩
    · exact ⟨u, hj, rfl⟩
  refine ⟨fun j u k o hj hu => ?_, fun j j' u v k o o' hj hj' hu hv => ?_, fun k o hk => ?_⟩
  · obtain ⟨u', hj', he⟩ := hb j u hj
    exact h.held j u' k o hj' (he ▸ hu)
  · obtain ⟨u', hl, he⟩ := hb j u hj
    obtain ⟨v', hl', he'⟩ := hb j' v hj'
    exact h.unique j j' u' v' k o o' hl hl' (he ▸ hu) (he' ▸ hv)
  · obtain ⟨j, u, hj, hu⟩ := h.owned k o hk
    by_cases hji : j = i
    · subst hji
      rw [hi] at hj
      cases hj
      exact ⟨j, t', AList.lookup_insert _, ht.trans hu⟩
    · exact ⟨j, u, (AList.lookup_insert_ne hji).trans hj, hu⟩

theorem idle (hi : ∀ t, tasks.lookup i = some t → guard t = none)
    (ht : guard t' = none) : Exclusive guard (tasks.insert i t') table := by
  have hb : ∀ j u k o, (tasks.insert i t').lookup j = some u → guard u = some (k, o) →
      tasks.lookup j = some u := by
    intro j u k o hj hu
    rcases Assoc.lookup_insert_cases hj with ⟨_, rfl⟩ | ⟨_, hj⟩
    · rw [ht] at hu
      cases hu
    · exact hj
  refine ⟨fun j u k o hj hu => h.held j u k o (hb j u k o hj hu) hu,
    fun j j' u v k o o' hj hj' hu hv =>
      h.unique j j' u v k o o' (hb j u k o hj hu) (hb j' v k o' hj' hv) hu hv, fun k o hk => ?_⟩
  obtain ⟨j, u, hj, hu⟩ := h.owned k o hk
  have hji : j ≠ i := by
    rintro rfl
    rw [hi u hj] at hu
    cases hu
  exact ⟨j, u, (AList.lookup_insert_ne hji).trans hj, hu⟩

theorem acquire (hi : ∀ t, tasks.lookup i = some t → guard t = none) (hk : table.lookup k = none)
    (ht : guard t' = some (k, o)) : Exclusive guard (tasks.insert i t') (table.insert k o) := by
  have ho : ∀ j u l p, tasks.lookup j = some u → guard u = some (l, p) → l ≠ k := by
    rintro j u l p hj hu rfl
    rw [h.held j u l p hj hu] at hk
    cases hk
  refine ⟨fun j u l p hj hu => ?_, fun j j' u v l p p' hj hj' hu hv => ?_, fun l p hl => ?_⟩
  · rcases Assoc.lookup_insert_cases hj with ⟨_, rfl⟩ | ⟨_, hj⟩
    · rw [ht] at hu
      cases hu
      exact AList.lookup_insert _
    · exact (AList.lookup_insert_ne (ho j u l p hj hu)).trans (h.held j u l p hj hu)
  · rcases Assoc.lookup_insert_cases hj with ⟨hji, rfl⟩ | ⟨_, hol⟩ <;>
      rcases Assoc.lookup_insert_cases hj' with ⟨hji', rfl⟩ | ⟨_, ho'⟩
    · rw [hji, hji']
    · rw [ht] at hu
      cases hu
      exact absurd rfl (ho j' v k p' ho' hv)
    · rw [ht] at hv
      cases hv
      exact absurd rfl (ho j u k p hol hu)
    · exact h.unique j j' u v l p p' hol ho' hu hv
  · rcases Assoc.lookup_insert_cases hl with ⟨rfl, rfl⟩ | ⟨_, hl⟩
    · exact ⟨i, t', AList.lookup_insert _, ht⟩
    · obtain ⟨j, u, hj, hu⟩ := h.owned l p hl
      have hji : j ≠ i := by
        rintro rfl
        rw [hi u hj] at hu
        cases hu
      exact ⟨j, u, (AList.lookup_insert_ne hji).trans hj, hu⟩

theorem release (hi : tasks.lookup i = some t)
    (ht : guard t = some (k, o)) : Exclusive guard (tasks.erase i) (table.erase k) := by
  have ho : ∀ j u l p, (tasks.erase i).lookup j = some u → guard u = some (l, p) → l ≠ k := by
    rintro j u l p hj hu rfl
    obtain ⟨hji, hj⟩ := Assoc.lookup_of_erase hj
    exact hji (h.unique j i u t l p o hj hi hu ht)
  refine ⟨fun j u l p hj hu => ?_, fun j j' u v l p p' hj hj' => ?_, fun l p hl => ?_⟩
  · obtain ⟨_, hj'⟩ := Assoc.lookup_of_erase hj
    exact (AList.lookup_erase_ne (ho j u l p hj hu)).trans (h.held j u l p hj' hu)
  · exact h.unique j j' u v l p p' (Assoc.lookup_of_erase hj).2 (Assoc.lookup_of_erase hj').2
  · obtain ⟨hlk, hl⟩ := Assoc.lookup_of_erase hl
    obtain ⟨j, u, hj, hu⟩ := h.owned l p hl
    have hji : j ≠ i := by
      rintro rfl
      rw [hi] at hj
      cases hj
      rw [ht] at hu
      cases hu
      exact hlk rfl
    exact ⟨j, u, (AList.lookup_erase_ne hji).trans hj, hu⟩

theorem yield (hi : tasks.lookup i = some t) (ht : guard t = some (k, o)) (ht' : guard t' = none) :
    Exclusive guard (tasks.insert i t') (table.erase k) := by
  have hr := h.release hi ht
  rw [← Assoc.insert_erase]
  apply hr.idle
  · intro u hu
    rw [AList.lookup_erase] at hu
    cases hu
  · exact ht'

theorem finish (hi : ∀ t, tasks.lookup i = some t → guard t = none) :
    Exclusive guard (tasks.erase i) table := by
  refine ⟨fun j u l p hj => h.held j u l p (Assoc.lookup_of_erase hj).2,
    fun j j' u v l p p' hj hj' =>
      h.unique j j' u v l p p' (Assoc.lookup_of_erase hj).2 (Assoc.lookup_of_erase hj').2,
    fun l p hl => ?_⟩
  obtain ⟨j, u, hj, hu⟩ := h.owned l p hl
  have hji : j ≠ i := by
    rintro rfl
    rw [hi u hj] at hu
    cases hu
  exact ⟨j, u, (AList.lookup_erase_ne hji).trans hj, hu⟩

end Exclusive
end Podmesh
