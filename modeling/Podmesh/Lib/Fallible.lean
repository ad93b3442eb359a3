import Mathlib.Tactic.Common

namespace Podmesh

def ensure (condition : Bool) (message : String) : Except String Unit :=
  if condition then .ok () else .error message

@[simp] theorem ensure_ok : ensure c m = .ok u ↔ c = true := by
  cases c <;> simp [ensure]

theorem bind_ok {x : Except ε α} {f : α → Except ε β} :
    (x >>= f) = .ok r ↔ ∃ a, x = .ok a ∧ f a = .ok r := by
  cases x <;> simp [bind, Except.bind]

theorem unit_bind_ok {x : Except ε Unit} {f : Unit → Except ε β} :
    (x >>= f) = .ok r ↔ x = .ok () ∧ f () = .ok r := by
  cases x <;> simp [bind, Except.bind]

theorem ite_bind_ok {c : Prop} [Decidable c] {x : Except ε Unit} {f : Except ε β} :
    (if c then x >>= fun _ => f else f) = .ok r ↔ (c → x = .ok ()) ∧ f = .ok r := by
  split <;> simp [unit_bind_ok, *]

theorem isOk_map (f : α → β) (x : Except ε α) : (x.map f).isOk = x.isOk := by
  cases x <;> rfl

theorem exists_of_isOk {x : Except ε α} (h : x.isOk = true) : ∃ a, x = .ok a := by
  cases x with
  | error e => cases h
  | ok a => exact ⟨a, rfl⟩

theorem ok_of_isOk {x : Except ε Unit} (h : x.isOk = true) : x = .ok () := by
  obtain ⟨_, rfl⟩ := exists_of_isOk h
  rfl

def orError (value : Option α) (message : String) : Except String α :=
  match value with
  | some a => .ok a
  | none => .error message

theorem orError_ok : orError value msg = .ok a ↔ value = some a := by
  cases value <;> simp [orError]

def withContext (message : String) (x : Except String α) : Except String α :=
  x.mapError fun _ => message

@[simp] theorem withContext_ok : withContext m x = .ok a ↔ x = .ok a := by
  cases x <;> simp [withContext, Except.mapError]

def forEach (f : α → Except ε Unit) : List α → Except ε Unit
  | [] => .ok ()
  | a :: as => do
    f a
    forEach f as

variable {l : List α}

theorem forEach_ok {f : α → Except ε Unit} : forEach f l = .ok () ↔ ∀ a ∈ l, f a = .ok () := by
  induction l with
  | nil => simp [forEach]
  | cons a l ih => rw [forEach, unit_bind_ok, ih, List.forall_mem_cons]

theorem foldlM_ok {f : β → α → Except ε β} (I : β → Prop)
    (hf : ∀ a ∈ l, ∀ b b', I b → f b a = .ok b' → I b') (hb : I b)
    (h : l.foldlM f b = .ok b') : I b' := by
  induction l generalizing b with
  | nil =>
    cases h
    exact hb
  | cons a l ih =>
    obtain ⟨b₁, hfr, hr⟩ := bind_ok.1 h
    obtain ⟨ha, hl⟩ := List.forall_mem_cons.1 hf
    exact ih hl (ha b b₁ hb hfr) hr

theorem foldlM_ok_mem {f : β → α → Except ε β} (h : l.foldlM f b = .ok b')
    (ha : a ∈ l) : ∃ x y, f x a = .ok y := by
  induction l generalizing b with
  | nil => cases ha
  | cons a' l ih =>
    obtain ⟨b₁, hf, hr⟩ := bind_ok.1 h
    rcases List.mem_cons.1 ha with rfl | hm
    · exact ⟨b, b₁, hf⟩
    · exact ih hr hm

/-- Code that changes a state in place: an error leaves what was written before it. -/
abbrev Locked (σ : Type) := ExceptT String (StateM σ)

namespace Locked

def exec (x : Locked σ α) (s : σ) : Except String α × σ := StateT.run (ExceptT.run x) s

@[simp] theorem exec_pure (a : α) (s : σ) : exec (pure a) s = (.ok a, s) := rfl

@[simp] theorem exec_throw (e : String) (s : σ) : exec (throw e : Locked σ α) s = (.error e,
  s) := rfl

@[simp] theorem exec_modify : exec (modify f) s = (.ok ⟨⟩, f s) := rfl

@[simp] theorem exec_get_bind : exec (get >>= f) s = exec (f s) s := rfl

@[simp] theorem exec_liftExcept (x : Except String α) (s : σ) :
    exec (liftExcept x : Locked σ α) s = (x, s) := by
  cases x <;> rfl

theorem exec_bind_ok (f : α → Locked σ β) (h : exec x s = (.ok a, s')) :
    exec (x >>= f) s = exec (f a) s' := by
  simp only [exec, ExceptT.run, StateT.run] at h
  simp [exec, ExceptT.run, bind, ExceptT.bind, ExceptT.mk, ExceptT.bindCont, StateT.bind,
    StateT.run, h]

theorem exec_bind_error (f : α → Locked σ β) (h : exec x s = (.error e, s')) :
    exec (x >>= f) s = (.error e, s') := by
  simp only [exec, ExceptT.run, StateT.run] at h
  simp [exec, ExceptT.run, bind, ExceptT.bind, ExceptT.mk, ExceptT.bindCont, StateT.bind,
    StateT.run, h]
  rfl

/-- Checks that each either fail without a write or pass and establish `P` establish it for every
element of a list. -/
theorem exec_forM_check {f : α → Locked σ PUnit} {P : α → Prop}
    (h : ∀ a, (∃ e, exec (f a) s = (.error e, s)) ∨ exec (f a) s = (.ok ⟨⟩, s) ∧ P a) :
    (∃ e, exec (l.forM f) s = (.error e, s)) ∨ exec (l.forM f) s = (.ok ⟨⟩, s) ∧ ∀ a ∈ l, P a := by
  induction l with
  | nil => exact .inr ⟨rfl, fun a ha => by cases ha⟩
  | cons a l ih =>
    rw [List.forM]
    rcases h a with ⟨e, he⟩ | ⟨hok, hP⟩
    · exact .inl ⟨e, exec_bind_error _ he⟩
    · rw [exec_bind_ok _ hok]
      rcases ih with ⟨e, he⟩ | ⟨hr, hal⟩
      · exact .inl ⟨e, he⟩
      · exact .inr ⟨hr, List.forall_mem_cons.2 ⟨hP, hal⟩⟩

theorem exec_forM_modify (g : σ → α → σ) (l : List α) (s : σ) :
    exec (l.forM fun a => modify fun s => g s a) s = (.ok ⟨⟩, l.foldl g s) := by
  induction l generalizing s with
  | nil => rfl
  | cons a l ih =>
    have hf : exec (modify fun s => g s a) s = (.ok ⟨⟩, g s a) := rfl
    rw [List.forM, exec_bind_ok _ hf, ih, List.foldl_cons]

end Locked
end Podmesh
