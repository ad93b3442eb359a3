import Podmesh.Agent.Plan

namespace Podmesh

namespace ResourceUsage

theorem plus_get (u : ResourceUsage) (cpu memory storage : Nat) (d : Dim) :
    (u.plus cpu memory storage).get d =
      saturatingAdd u64Max (u.get d) ((⟨cpu, memory, storage⟩ : ResourceUsage).get d) := by
  cases d <;> rfl

theorem fitsWithin_iff (u : ResourceUsage) (cpu memory storage : Nat) :
    u.fitsWithin cpu memory storage = true ↔
      ∀ d, u.get d ≤ (⟨cpu, memory, storage⟩ : ResourceUsage).get d := by
  simp only [fitsWithin, Bool.and_eq_true, decide_eq_true_eq]
  constructor
  · rintro ⟨⟨hc, hm⟩, hs⟩ d
    cases d with
    | cpu => exact hc
    | memory => exact hm
    | storage => exact hs
  · intro hd
    exact ⟨⟨hd .cpu, hd .memory⟩, hd .storage⟩

theorem foldl_get (amount : E → Dim → Nat) (add : ResourceUsage → E → ResourceUsage)
    (ha : ∀ u e d, (add u e).get d = saturatingAdd u64Max (u.get d) (amount e d))
    (l : List E) (u : ResourceUsage) (d : Dim) (hu : u.get d ≤ u64Max) :
    (l.foldl add u).get d = min (u.get d + (l.map fun e => amount e d).sum) u64Max := by
  have hf : (l.foldl add u).get d =
      l.foldl (fun acc e => saturatingAdd u64Max acc (amount e d)) (u.get d) := by
    clear hu
    induction l generalizing u with
    | nil => rfl
    | cons e l ih => rw [List.foldl_cons, List.foldl_cons, ih, ha]
  rw [hf]
  have hm : u.get d = min (u.get d) u64Max := by omega
  calc l.foldl (fun acc e => saturatingAdd u64Max acc (amount e d)) (u.get d)
      = l.foldl (fun acc e => saturatingAdd u64Max acc (amount e d)) (min (u.get d) u64Max) := by
        rw [← hm]
    _ = min (u.get d + (l.map fun e => amount e d).sum) u64Max :=
        foldl_saturatingAdd (fun e => amount e d) l (u.get d)

end ResourceUsage

theorem Config.fits_iff (cfg : Config) (u : ResourceUsage) :
    cfg.fits u = true ↔ ∀ d, u.get d ≤ cfg.capacity d := by
  rw [Config.fits, ResourceUsage.fitsWithin_iff]
  constructor <;> intro hd d
  · have h := hd d
    cases d <;> exact h
  · have h := hd d
    cases d <;> exact h

namespace WorkloadState

theorem addWorkload_get (u : ResourceUsage) (w : StoredWorkload) (d : Dim) :
    (addWorkload u w).get d = saturatingAdd u64Max (u.get d) (w.amount d) := by
  cases d <;> rfl

theorem zero_get : ResourceUsage.zero.get d = 0 := by
  cases d <;> rfl

theorem reservedUsage_get (s : WorkloadState) (d : Dim) :
    s.reservedUsage.get d = min (s.reservedTotal d) u64Max := by
  have hf := ResourceUsage.foldl_get (fun (e : Sigma fun _ : String => Reservation) => e.2.amount)
    (fun u e => addReservation u e.2) (fun _ _ d => by cases d <;> rfl)
    s.reservations.entries .zero d (by rw [zero_get]; exact Nat.zero_le _)
  rw [zero_get, Nat.zero_add] at hf
  exact hf

theorem activeUsage_get (s : WorkloadState) (d : Dim) :
    s.activeUsage.get d = min (s.activeTotal d) u64Max := by
  have hf := ResourceUsage.foldl_get
    (fun (e : Sigma fun _ : String => StoredWorkload) => e.2.amount)
    (fun u e => addWorkload u e.2) (fun u e d => addWorkload_get u e.2 d)
    s.active.entries .zero d (by rw [zero_get]; exact Nat.zero_le _)
  rw [zero_get, Nat.zero_add] at hf
  exact hf

theorem usage_get (s : WorkloadState) (d : Dim) (hc : s.reservedTotal .cpu ≤ u32Max) :
    s.usage.get d = min (s.activeTotal d + s.reservedTotal d) u64Max := by
  have hr := s.reservedUsage_get d
  have ha := s.activeUsage_get d
  cases d with
  | cpu | memory | storage =>
    simp only [usage, ResourceUsage.get, ResourceUsage.plus, saturatingAdd] at hr ha ⊢
    rw [ha, hr]
    omega

theorem total_retain_ne (f : String → StoredWorkload → Nat) (act : ActiveMap) (wid : String) :
    Assoc.total f (Assoc.retain (fun k _ => decide (k ≠ wid)) act) =
      Assoc.total f (act.erase wid) := by
  have hl (k : String) : (Assoc.retain (fun k _ => decide (k ≠ wid)) act).lookup k =
      (act.erase wid).lookup k := by
    rw [Assoc.lookup_retain]
    by_cases hk : k = wid
    · subst hk
      cases act.lookup k <;> simp
    · rw [AList.lookup_erase_ne hk]
      cases act.lookup k <;> simp [hk]
  refine Nat.le_antisymm ?_ ?_ <;>
    exact Assoc.total_le_of_lookup _ _ fun k w hk => ⟨w, hl k ▸ hk, Nat.le_refl _⟩

theorem usageWithout_get (s : WorkloadState) (wid : String) (d : Dim) :
    (s.usageWithout wid).get d =
      min (s.reservedTotal d +
        Assoc.total (fun _ w => w.amount d) (s.active.erase wid)) u64Max := by
  have hr := s.reservedUsage_get d
  have hf : s.usageWithout wid =
      (Assoc.retain (fun k _ => decide (k ≠ wid)) s.active).entries.foldl
        (fun u e => addWorkload u e.2) s.reservedUsage := by
    simp [usageWithout, Assoc.retain, List.foldl_filter]
  have hfl := ResourceUsage.foldl_get
    (fun (e : Sigma fun _ : String => StoredWorkload) => e.2.amount)
    (fun u e => addWorkload u e.2) (fun u e d => addWorkload_get u e.2 d)
    (Assoc.retain (fun k _ => decide (k ≠ wid)) s.active).entries s.reservedUsage d
    (by rw [hr]; exact Nat.min_le_right _ _)
  have ht := total_retain_ne (fun _ w => w.amount d) s.active wid
  rw [Assoc.total] at ht
  rw [hf, hfl, hr, ht]
  omega

end WorkloadState
end Podmesh
