import Mathlib.Data.List.AList
import Mathlib.Algebra.Order.BigOperators.Group.List
import Mathlib.Algebra.Order.Ring.Nat
import Podmesh.Lib.Transition

namespace Podmesh

namespace Assoc
open AList (ext mem_lookup_iff)
variable [DecidableEq α]

def total (f : α → V → Nat) (m : AList fun _ : α => V) : Nat :=
  (m.entries.map fun e => f e.1 e.2).sum

def size (m : AList fun _ : α => V) : Nat := m.entries.length

def retain (p : α → V → Bool) (m : AList fun _ : α => V) : AList fun _ : α => V :=
  ⟨m.entries.filter fun e => p e.1 e.2, m.nodupKeys.sublist List.filter_sublist⟩

def mapValues (f : V → W) (m : AList fun _ : α => V) : AList fun _ : α => W :=
  ⟨m.entries.map (Sigma.map id fun _ => f), List.NodupKeys.map₂ (fun _ => f) m.entries m.nodupKeys⟩

omit [DecidableEq α] in
@[simp] theorem total_empty (f : α → V → Nat) : total f ∅ = 0 := rfl

omit [DecidableEq α] in
@[simp] theorem size_empty : size (∅ : AList fun _ : α => V) = 0 := rfl

omit [DecidableEq α] in
theorem size_eq_total : size m = total (fun _ _ => 1) m := by
  simp [size, total]

variable {m : AList fun _ : α => V} {f : α → V → Nat}

theorem total_le (h : ∀ a v, m.lookup a = some v → f a v ≤ g a v) : total f m ≤ total g m := by
  refine List.sum_le_sum fun e he => ?_
  exact h e.1 e.2 (mem_lookup_iff.2 he)

private theorem entries_erase : (m.erase a).entries = m.entries.kerase a := rfl

theorem total_insert (f : α → V → Nat) (m : AList fun _ : α => V) (a : α) (v : V) :
    total f (m.insert a v) = f a v + total f (m.erase a) := by
  simp only [total, AList.entries_insert, entries_erase, List.map_cons, List.sum_cons]

theorem total_of_lookup (f : α → V → Nat)
    (h : m.lookup a = some v) : total f m = f a v + total f (m.erase a) := by
  have hm : (⟨a, v⟩ : Sigma fun _ : α => V) ∈ m.entries := mem_lookup_iff.1 h
  obtain ⟨w, l₁, l₂, _, he, hk⟩ :=
    List.exists_of_kerase (List.mem_keys_of_mem hm)
  have hw : w = v := by
    have hm' : (⟨a, w⟩ : Sigma fun _ : α => V) ∈ m.entries := by rw [he]; simp
    have h' := mem_lookup_iff.2 hm'
    rw [h] at h'
    exact (Option.some.inj h').symm
  subst hw
  simp only [total, entries_erase, hk]
  rw [he]
  simp only [List.map_append, List.map_cons, List.sum_append, List.sum_cons]
  omega

theorem erase_of_lookup_none (h : m.lookup a = none) : m.erase a = m := by
  apply ext
  exact List.kerase_of_notMem_keys (AList.lookup_eq_none.1 h)

theorem forall_lookup {P : V → Prop} :
    (∀ a v, m.lookup a = some v → P v) ↔ ∀ e ∈ m.entries, P e.2 := by
  constructor
  · intro h e he
    exact h e.1 e.2 (mem_lookup_iff.2 he)
  · intro h a v hv
    exact h ⟨a, v⟩ (mem_lookup_iff.1 hv)

theorem insert_erase : (m.erase a).insert a v = m.insert a v := by
  apply ext
  have he : List.kerase a (m.erase a).entries = (m.erase a).entries :=
    List.kerase_of_notMem_keys (List.notMem_keys_kerase a m.nodupKeys)
  exact congrArg (⟨a, v⟩ :: ·) he

theorem total_insert_new (f : α → V → Nat) (v : V)
    (h : m.lookup a = none) : total f (m.insert a v) = f a v + total f m := by
  rw [total_insert, erase_of_lookup_none h]

theorem total_insert_replace (f : α → V → Nat) (w : V)
    (h : m.lookup a = some v) : total f (m.insert a w) + f a v = total f m + f a w := by
  rw [total_insert, total_of_lookup f h]
  omega

theorem total_erase_le (f : α → V → Nat) (m : AList fun _ : α => V) (a : α) :
    total f (m.erase a) ≤ total f m := by
  cases h : m.lookup a with
  | none => rw [erase_of_lookup_none h]
  | some v => rw [total_of_lookup f h]; omega

omit [DecidableEq α] in
theorem total_retain_le : total f (retain p m) ≤ total f m :=
  (List.Sublist.map _ List.filter_sublist).sum_le_sum fun _ _ => Nat.zero_le _

theorem lookup_retain : (retain p m).lookup a = (m.lookup a).filter (p a) := by
  ext v
  rw [Option.filter_eq_some_iff]
  constructor
  · intro h
    obtain ⟨hm, hp⟩ := List.mem_filter.1 (mem_lookup_iff.1 h)
    exact ⟨mem_lookup_iff.2 hm, hp⟩
  · rintro ⟨h, hp⟩
    exact mem_lookup_iff.2 (List.mem_filter.2 ⟨mem_lookup_iff.1 h, hp⟩)

theorem size_retain_eq_iff :
    size (retain p m) = size m ↔ ∀ a v, m.lookup a = some v → p a v = true := by
  rw [size, size, retain, List.length_filter_eq_length_iff]
  constructor
  · intro h a v hv
    exact h ⟨a, v⟩ (mem_lookup_iff.1 hv)
  · intro h e he
    exact h e.1 e.2 (mem_lookup_iff.2 he)

theorem lookup_of_retain (h : (retain p m).lookup a = some v) :
    m.lookup a = some v ∧ p a v = true := by
  rw [lookup_retain] at h
  exact Option.filter_eq_some_iff.1 h

theorem lookup_mapValues (f : V → W) (m : AList fun _ : α => V) (a : α) :
    (mapValues f m).lookup a = (m.lookup a).map f := by
  ext w
  rw [Option.map_eq_some_iff]
  constructor
  · intro h
    obtain ⟨⟨b, v⟩, hm, he⟩ := List.mem_map.1 (mem_lookup_iff.1 h)
    cases he
    exact ⟨v, mem_lookup_iff.2 hm, rfl⟩
  · rintro ⟨v, hv, rfl⟩
    exact mem_lookup_iff.2 (List.mem_map.2 ⟨⟨a, v⟩, mem_lookup_iff.1 hv, rfl⟩)

theorem lookup_of_erase (h : (m.erase a).lookup b = some v) : b ≠ a ∧ m.lookup b = some v := by
  by_cases hab : b = a
  · subst hab
    rw [AList.lookup_erase] at h
    cases h
  · rw [AList.lookup_erase_ne hab] at h
    exact ⟨hab, h⟩

theorem lookup_insert_cases
    (h : (m.insert a v).lookup b = some w) : (b = a ∧ w = v) ∨ (b ≠ a ∧ m.lookup b = some w) := by
  by_cases hab : b = a
  · subst hab
    rw [AList.lookup_insert] at h
    exact .inl ⟨rfl, (Option.some.inj h).symm⟩
  · rw [AList.lookup_insert_ne hab] at h
    exact .inr ⟨hab, h⟩

theorem total_split (f : α → V → Nat) (m : AList fun _ : α => V) (a : α) :
    total f m = (m.lookup a).elim 0 (f a) + total f (m.erase a) := by
  cases h : m.lookup a with
  | none => rw [erase_of_lookup_none h, Option.elim_none, Nat.zero_add]
  | some v => exact total_of_lookup f h

variable {g : α → W → Nat}

theorem total_mono (m : AList fun _ : α => V) (m' : AList fun _ : α => W)
    (h : ∀ a, (m.lookup a).elim 0 (f a) ≤ (m'.lookup a).elim 0 (g a)) : total f m ≤ total g m' := by
  induction m using AList.insertRec generalizing m' with
  | H0 => exact Nat.zero_le _
  | IH a v m hm ih =>
    have hn : m.lookup a = none := AList.lookup_eq_none.2 hm
    have hr : total f m ≤ total g (m'.erase a) := by
      refine ih (m'.erase a) fun b => ?_
      by_cases hba : b = a
      · subst hba
        rw [hn]
        exact Nat.zero_le _
      · have hb := h b
        rw [AList.lookup_insert_ne hba] at hb
        rwa [AList.lookup_erase_ne hba]
    have hs := h a
    rw [AList.lookup_insert, Option.elim_some] at hs
    rw [total_insert_new f v hn, total_split g m' a]
    omega

theorem total_eq (m : AList fun _ : α => V) (m' : AList fun _ : α => W)
    (h : ∀ a, (m.lookup a).elim 0 (f a) = (m'.lookup a).elim 0 (g a)) : total f m = total g m' :=
  Nat.le_antisymm (total_mono m m' fun a => Nat.le_of_eq (h a))
    (total_mono m' m fun a => Nat.le_of_eq (h a).symm)

variable {m' : AList fun _ : α => V}

theorem total_erase_congr (ht : total f m = total f m') (ha : m.lookup a = m'.lookup a) :
    total f (m.erase a) = total f (m'.erase a) := by
  rw [total_split f m a, total_split f m' a, ha] at ht
  omega

theorem total_insert_congr (v : V) (ht : total f m = total f m') (ha : m.lookup a = m'.lookup a) :
    total f (m.insert a v) = total f (m'.insert a v) := by
  rw [total_insert, total_insert, total_erase_congr ht ha]

theorem size_insert_congr (v : V) (hs : size m = size m')
    (ha : m.lookup a = m'.lookup a) : size (m.insert a v) = size (m'.insert a v) := by
  rw [size_eq_total, size_eq_total] at hs ⊢
  exact total_insert_congr v hs ha

theorem total_le_of_lookup (m : AList fun _ : α => V) (m' : AList fun _ : α => W)
    (h : ∀ a v, m.lookup a = some v → ∃ w, m'.lookup a = some w ∧ f a v ≤ g a w) :
    total f m ≤ total g m' := by
  refine total_mono m m' fun a => ?_
  cases hv : m.lookup a with
  | none => exact Nat.zero_le _
  | some v =>
    obtain ⟨w, hw, hle⟩ := h a v hv
    rw [hw]
    exact hle

theorem size_le_of_lookup {m' : AList fun _ : α => W}
    (h : ∀ a v, m.lookup a = some v → (m'.lookup a).isSome) : size m ≤ size m' := by
  rw [size_eq_total, size_eq_total]
  refine total_le_of_lookup m m' fun a v hv => ?_
  obtain ⟨w, hw⟩ := Option.isSome_iff_exists.1 (h a v hv)
  exact ⟨w, hw, Nat.le_refl 1⟩

theorem size_insert_le (m : AList fun _ : α => V) (a : α) (v : V) :
    size (m.insert a v) ≤ size m + 1 := by
  have h := total_insert (fun _ _ => 1) m a v
  have h' := total_erase_le (fun _ _ => 1) m a
  rw [size_eq_total, size_eq_total]
  omega

theorem size_erase_of_lookup (h : m.lookup a = some v) : size m = size (m.erase a) + 1 := by
  rw [size_eq_total, size_eq_total, total_of_lookup _ h, Nat.add_comm]

/-- A table that each step can extend by the next key is filled by a run. -/
theorem exists_reach_filled (step : S → A → Option S) (ok : S → A → Prop) (start : S)
    (table : S → AList fun _ : α => V) (key : Nat → α) (value : Nat → V)
    (hk : ∀ m < limit, ∀ n < limit, key m = key n → m = n) (hst : table start = ∅)
    (hsp : ∀ n < limit, ∀ s, size (table s) = n → ∃ a s', ok s a ∧ step s a = some s' ∧
      table s' = (table s).insert (key n) (value n)) :
    ∃ s, Reach step ok start s ∧ size (table s) = limit ∧
      ∀ a v, (table s).lookup a = some v → ∃ m < limit, a = key m ∧ v = value m := by
  suffices h : ∀ n ≤ limit, ∃ s, Reach step ok start s ∧ size (table s) = n ∧
      ∀ a v, (table s).lookup a = some v → ∃ m < n, a = key m ∧ v = value m from
    h limit (Nat.le_refl limit)
  intro n hn
  induction n with
  | zero =>
    refine ⟨start, .start, by rw [hst]; rfl, fun a v h => ?_⟩
    rw [hst] at h
    cases h
  | succ n ih =>
    obtain ⟨s, hr, hsz, hf⟩ := ih (Nat.le_of_succ_le hn)
    obtain ⟨a, s', ha, hs, ht⟩ := hsp n hn s hsz
    have hnw : (table s).lookup (key n) = none := by
      rw [Option.eq_none_iff_forall_ne_some]
      intro v hv
      obtain ⟨m, hm, he, _⟩ := hf _ _ hv
      exact absurd hm (hk n hn m (Nat.lt_trans hm hn) he ▸ Nat.lt_irrefl n)
    refine ⟨s', .next hr ha hs, ?_, ?_⟩
    · rw [ht, size_eq_total, total_insert_new _ _ hnw, ← size_eq_total, hsz, Nat.add_comm]
    · intro b v hv
      rw [ht] at hv
      rcases lookup_insert_cases hv with ⟨rfl, rfl⟩ | ⟨_, hv⟩
      · exact ⟨n, Nat.lt_succ_self n, rfl, rfl⟩
      · obtain ⟨m, hm, h⟩ := hf _ _ hv
        exact ⟨m, Nat.lt_succ_of_lt hm, h⟩

end Assoc
end Podmesh
