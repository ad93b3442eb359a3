import Mathlib.Data.List.ReduceOption
import Mathlib.Data.List.Sort

namespace Podmesh.Selection

variable {α τ κ : Type}

/-- Gives out elements one at a time: at each time the first that is alive then, and no element a
second time. -/
def handOut (alive : τ → α → Bool) : List α → List τ → List (Option α)
  | _, [] => []
  | rest, t :: times => rest.find? (alive t) :: handOut alive (rest.eraseP (alive t)) times

def Ascending [LT κ] (key : α → κ) (l : List α) : Prop := l.Pairwise fun a b => key a < key b

variable {l : List α} {key : α → κ}

theorem Ascending.nodup [Preorder κ] (h : Ascending key l) : l.Nodup :=
  List.Pairwise.imp (fun hlt heq => absurd (congrArg key heq) hlt.ne) h

theorem ascending_insertionSort [LinearOrder κ]
    (h : (l.map key).Nodup) : Ascending key (l.insertionSort fun a b => key a ≤ key b) := by
  have : Std.Total fun a b : α => key a ≤ key b := ⟨fun a b => le_total (key a) (key b)⟩
  have : IsTrans α fun a b => key a ≤ key b := ⟨fun a b c => le_trans⟩
  have hp := List.perm_insertionSort (fun a b => key a ≤ key b) l
  have hd := List.pairwise_map.1 ((hp.map key).nodup_iff.2 h)
  have hs := List.pairwise_insertionSort (fun a b => key a ≤ key b) l
  exact (hs.and hd).imp fun hab => lt_of_le_of_ne hab.1 hab.2

theorem Ascending.find_least [LT κ] (h : Ascending key l) (hf : l.find? p = some a) (hb : b ∈ l)
    (hp : p b = true) : b = a ∨ key a < key b := by
  obtain ⟨_, before, after, rfl, hbf⟩ := List.find?_eq_some_iff_append.1 hf
  obtain ⟨_, hs, _⟩ := List.pairwise_append.1 h
  rcases List.mem_append.1 hb with hb | hb
  · have hn := hbf b hb
    rw [hp] at hn
    cases hn
  · rcases List.mem_cons.1 hb with heq | hb
    · exact .inl heq
    · exact .inr ((List.pairwise_cons.1 hs).1 b hb)

theorem Ascending.eraseP [LT κ] (h : Ascending key l) (p : α → Bool) : Ascending key (l.eraseP p) :=
  List.Pairwise.sublist List.eraseP_sublist h

theorem mem_eraseP_iff (hl : l.Nodup) (hf : l.find? p = some a) :
    b ∈ l.eraseP p ↔ b ∈ l ∧ b ≠ a := by
  obtain ⟨ha, before, after, rfl, hbf⟩ := List.find?_eq_some_iff_append.1 hf
  have he : (before ++ a :: after).eraseP p = before ++ after := by
    rw [List.eraseP_append_right, List.eraseP_cons_of_pos ha]
    intro c hc
    simpa using hbf c hc
  have hn : a ∉ before ++ after := (List.nodup_middle.1 hl).notMem
  rw [he]
  constructor
  · intro hb
    refine ⟨?_, fun heq => hn (heq ▸ hb)⟩
    rcases List.mem_append.1 hb with hb | hb
    · exact List.mem_append_left _ hb
    · exact List.mem_append_right _ (List.mem_cons_of_mem a hb)
  · intro ⟨hb, hne⟩
    rcases List.mem_append.1 hb with hb | hb
    · exact List.mem_append_left _ hb
    · rcases List.mem_cons.1 hb with heq | hb
      · exact absurd heq hne
      · exact List.mem_append_right _ hb

variable {alive : τ → α → Bool} {times : List τ}

theorem mem_handOut
    (h : some a ∈ handOut alive l times) : a ∈ l ∧ ∃ t ∈ times, alive t a = true := by
  induction times generalizing l with
  | nil => cases h
  | cons t times ih =>
    rcases List.mem_cons.1 h with hf | hl
    · exact ⟨List.mem_of_find?_eq_some hf.symm, t, List.mem_cons_self, List.find?_some hf.symm⟩
    · obtain ⟨hm, t', ht', ha⟩ := ih hl
      exact ⟨List.mem_of_mem_eraseP hm, t', List.mem_cons_of_mem t ht', ha⟩

theorem handOut_nodup (hl : l.Nodup) (times : List τ) :
    (handOut alive l times).reduceOption.Nodup := by
  induction times generalizing l with
  | nil => exact List.nodup_nil
  | cons t times ih =>
    have ht := ih (hl.sublist (List.eraseP_sublist (p := alive t)))
    rw [handOut]
    cases hf : l.find? (alive t) with
    | none =>
      rw [List.reduceOption_cons_of_none]
      exact ht
    | some a =>
      rw [List.reduceOption_cons_of_some]
      refine List.nodup_cons.2 ⟨?_, ht⟩
      intro ha
      have hm := (mem_handOut (List.reduceOption_mem_iff.1 ha)).1
      exact ((mem_eraseP_iff hl hf).1 hm).2 rfl

/-- Where nothing comes alive again, what is given out of an ascending list ascends. -/
theorem handOut_ascending [Preorder κ] [LE τ] (hl : Ascending key l)
    (ha : ∀ t t' a, t ≤ t' → alive t' a = true → alive t a = true)
    (ht : times.Pairwise (· ≤ ·)) : Ascending key (handOut alive l times).reduceOption := by
  induction times generalizing l with
  | nil => exact List.Pairwise.nil
  | cons t times ih =>
    obtain ⟨hlt, ht⟩ := List.pairwise_cons.1 ht
    have htl := ih (hl.eraseP (alive t)) ht
    rw [handOut]
    cases hf : l.find? (alive t) with
    | none =>
      rw [List.reduceOption_cons_of_none]
      exact htl
    | some a =>
      rw [List.reduceOption_cons_of_some]
      refine List.pairwise_cons.2 ⟨?_, htl⟩
      intro b hb
      obtain ⟨hm, t', ht', hb'⟩ := mem_handOut (List.reduceOption_mem_iff.1 hb)
      obtain ⟨hbl, hne⟩ := (mem_eraseP_iff hl.nodup hf).1 hm
      -- what is alive later was alive when `a` was chosen
      have hbt := ha t t' b (hlt t' ht') hb'
      exact (hl.find_least hf hbl hbt).resolve_left hne

theorem handOut_exhausts (hl : l.Nodup) (h : handOut alive l (times ++ [t]) = answers ++ [none])
    (ha : a ∈ l) (hal : alive t a = true) : some a ∈ answers := by
  induction times generalizing l answers with
  | nil =>
    cases answers with
    | nil =>
      have hn : l.find? (alive t) = none := (List.cons.inj h).1
      exact absurd hal (List.find?_eq_none.1 hn a ha)
    | cons b answers =>
      have hln := congrArg List.length (List.cons.inj h).2
      simp [handOut] at hln
  | cons t' times ih =>
    cases answers with
    | nil =>
      have hln := congrArg List.length (List.cons.inj h).2
      cases times with
      | nil | cons => simp [handOut] at hln
    | cons b answers =>
      obtain ⟨hh, ht⟩ := List.cons.inj h
      by_cases hg : b = some a
      · rw [hg]
        exact List.mem_cons_self
      · have hlf : a ∈ l.eraseP (alive t') := by
          cases hf : l.find? (alive t') with
          | none =>
            rw [List.eraseP_of_forall_not fun c hc => List.find?_eq_none.1 hf c hc]
            exact ha
          | some c =>
            refine (mem_eraseP_iff hl hf).2 ⟨ha, fun heq => hg ?_⟩
            rw [← hh, hf, heq]
        exact List.mem_cons_of_mem b (ih (hl.sublist List.eraseP_sublist) ht hlf)

end Podmesh.Selection
