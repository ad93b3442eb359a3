import Mathlib.Data.List.Basic

namespace Podmesh

/-- What is written down about one register: its changes, and the swaps that were confirmed. -/
inductive Entry (C V : Type) where
  | change (cause : C) (before after : V)
  | answer (expected requested : V)

abbrev Journal (C V : Type) := List (Entry C V)

def Entry.isAnswer : Entry C V → Bool
  | .change _ _ _ => false
  | .answer _ _ => true

namespace Journal
variable {C V : Type}

/-- The changes take the register from `u` to `v`, each from where the last one left it. -/
def Runs : V → Journal C V → V → Prop
  | u, [], v => u = v
  | u, .change _ before after :: l, v => u = before ∧ Runs after l v
  | u, .answer _ _ :: l, v => Runs u l v

/-- Every confirmed swap directly follows the change it confirms. -/
def Answered (swap : C → Prop) (l : Journal C V) : Prop :=
  ∀ A e r B, l = A ++ .answer e r :: B → ∃ A' c, swap c ∧ A = A' ++ [.change c e r]

variable {l : Journal C V}

theorem runs_append : Runs u (l ++ l') w ↔ ∃ v, Runs u l v ∧ Runs v l' w := by
  induction l generalizing u with
  | nil => exact ⟨fun h => ⟨u, rfl, h⟩, fun ⟨v, hu, h⟩ => by cases hu; exact h⟩
  | cons x l ih =>
    cases x with
    | change c bef after =>
      constructor
      · rintro ⟨hu, h⟩
        obtain ⟨v, hl, hl'⟩ := ih.1 h
        exact ⟨v, ⟨hu, hl⟩, hl'⟩
      · rintro ⟨v, ⟨hu, hl⟩, hl'⟩
        exact ⟨hu, ih.2 ⟨v, hl, hl'⟩⟩
    | answer e r => exact ih

theorem Runs.answer (h : Runs u l v) (e r : V) : Runs u (l ++ [.answer e r]) v :=
  runs_append.2 ⟨v, h, rfl⟩

theorem Runs.sets (h : Runs u l v) (hne : u ≠ v) : ∃ c before, Entry.change c before v ∈ l := by
  induction l generalizing u with
  | nil => exact absurd h hne
  | cons x l ih =>
    cases x with
    | change c before after =>
      by_cases ha : after = v
      · subst ha
        exact ⟨c, before, List.mem_cons_self⟩
      · obtain ⟨c', before', hm⟩ := ih h.2 ha
        exact ⟨c', before', List.mem_cons_of_mem _ hm⟩
    | answer e r =>
      obtain ⟨c', before', hm⟩ := ih h hne
      exact ⟨c', before', List.mem_cons_of_mem _ hm⟩

theorem snoc_eq_append_cons (hl : l ++ [x] = A ++ y :: B) :
    (B = [] ∧ A = l ∧ y = x) ∨ ∃ B', B = B' ++ [x] ∧ l = A ++ y :: B' := by
  rcases List.eq_nil_or_concat B with rfl | ⟨B', z, rfl⟩
  · obtain ⟨hA, hx⟩ := List.append_inj' hl rfl
    exact .inl ⟨rfl, hA.symm, (List.singleton_inj.1 hx).symm⟩
  · have hl' : l ++ [x] = (A ++ y :: B') ++ [z] := by
      rw [hl]
      simp
    obtain ⟨hA, hx⟩ := List.append_inj' hl' rfl
    cases List.singleton_inj.1 hx
    exact .inr ⟨B', List.concat_eq_append, hA⟩

namespace Answered
variable {swap : C → Prop} {l : Journal C V}

theorem nil : Answered swap ([] : Journal C V) := by
  intro A e r B hl
  cases A <;> cases hl

theorem change (hl : Answered swap l) (c : C) (bef after : V) :
    Answered swap (l ++ [.change c bef after]) := by
  intro A e r B he
  rcases snoc_eq_append_cons he with ⟨_, _, hen⟩ | ⟨B', _, hr⟩
  · cases hen
  · exact hl A e r B' hr

theorem answer (hl : Answered swap (l ++ [.change c e r])) (hc : swap c) :
    Answered swap (l ++ [.change c e r] ++ [.answer e r]) := by
  intro A e' r' B he
  rcases snoc_eq_append_cons he with ⟨_, hA, hen⟩ | ⟨B', _, hr⟩
  · cases hen
    exact ⟨l, c, hc, hA⟩
  · exact hl A e' r' B' hr

end Answered

/-- Between two confirmed swaps away from one value the register was set to that value. -/
theorem Runs.set_between (h : Runs u (A ++ .answer e r :: (B ++ .answer e r' :: D)) v)
    (ha : Answered swap (A ++ .answer e r :: (B ++ .answer e r' :: D))) (hne : r ≠ e) :
    ∃ c before, Entry.change c before e ∈ B := by
  obtain ⟨A', c, _, hA⟩ := ha A e r _ rfl
  obtain ⟨B', c', _, hB⟩ := ha (A ++ .answer e r :: B) e r' D (by simp)
  -- the second swap happened after the first one was confirmed
  obtain ⟨B₀, rfl⟩ : ∃ B₀, B = B₀ ++ [.change c' e r'] := by
    rcases snoc_eq_append_cons hB.symm with ⟨_, _, he⟩ | ⟨B₀, hB₀, _⟩
    · cases he
    · exact ⟨B₀, hB₀⟩
  subst hA
  obtain ⟨x, hf, hr⟩ := runs_append.1 h
  obtain ⟨_, _, _, hx⟩ := runs_append.1 hf
  obtain ⟨y, hm, _⟩ := runs_append.1 (hr : Runs x (B₀ ++ [.change c' e r'] ++ _) v)
  obtain ⟨z, hb, hz, _⟩ := runs_append.1 hm
  have hx' : r = x := hx
  subst hx' hz
  obtain ⟨c₀, before, hmm⟩ := hb.sets hne
  exact ⟨c₀, before, List.mem_append_left _ hmm⟩

end Journal

end Podmesh
