import Podmesh.Lib.Fallible

namespace Podmesh

namespace Locked

def attempt (x : Locked σ α) : Locked σ (Except String α) :=
  ExceptT.mk (do
    let result ← ExceptT.run x
    return .ok result)

theorem exec_attempt : exec (attempt x) s = (.ok (exec x s).1, (exec x s).2) := rfl

/-- Replaces the message of an error by the context in which it came up. -/
def context (message : String) (x : Locked σ α) : Locked σ α := do
  match ← attempt x with
  | .ok a => return a
  | .error _ => MonadExcept.throw message

/-- From a state with `P` the computation keeps the invariant `I`, also when it fails; an answer
comes with `Q`. -/
def Keeps (I P : σ → Prop) (x : Locked σ α) (Q : α → σ → Prop) : Prop :=
  ∀ s, I s → P s → I (exec x s).2 ∧ ∀ a, (exec x s).1 = .ok a → Q a (exec x s).2

namespace Keeps
variable {I P : σ → Prop} {Q : α → σ → Prop}

theorem pure (h : ∀ s, I s → P s → Q a s) : Keeps I P (Pure.pure a) Q := by
  intro s hI hP
  refine ⟨hI, fun b hb => ?_⟩
  cases hb
  exact h s hI hP

theorem throw : Keeps I P (throw e : Locked σ α) Q := by
  intro s hI _
  refine ⟨hI, fun b hb => ?_⟩
  cases hb

theorem modify {f : σ → σ} {Q : PUnit → σ → Prop} (hI : ∀ s, I s → P s → I (f s))
    (hQ : ∀ s, I s → P s → Q ⟨⟩ (f s)) : Keeps I P (modify f) Q := by
  intro s hs hP
  rw [exec_modify]
  refine ⟨hI s hs hP, fun a _ => ?_⟩
  exact hQ s hs hP

variable {x : Locked σ α}

theorem bind {f : α → Locked σ β} {R : α → σ → Prop} {Q : β → σ → Prop}
    (hx : Keeps I P x R) (hf : ∀ a, Keeps I (R a) (f a) Q) : Keeps I P (x >>= f) Q := by
  intro s hI hP
  obtain ⟨hk, ha⟩ := hx s hI hP
  cases hr : exec x s with
  | mk r s' =>
    rw [hr] at hk ha
    cases r with
    | error e =>
      rw [exec_bind_error f hr]
      refine ⟨hk, fun b hb => ?_⟩
      cases hb
    | ok a =>
      rw [exec_bind_ok f hr]
      exact hf a s' hk (ha a rfl)

theorem lift_bind {x : Except String α} {f : α → Locked σ β} {Q : β → σ → Prop}
    (h : ∀ a, x = .ok a → Keeps I P (f a) Q) : Keeps I P (liftExcept x >>= f) Q := by
  intro s hI hP
  cases x with
  | error e =>
    rw [exec_bind_error f (exec_liftExcept (.error e) s)]
    refine ⟨hI, fun b hb => ?_⟩
    cases hb
  | ok a =>
    rw [exec_bind_ok f (exec_liftExcept (.ok a) s)]
    exact h a rfl s hI hP

theorem get_bind (h : ∀ s, I s → P s → Keeps I (· = s) (f s) Q) : Keeps I P (get >>= f) Q := by
  intro s hI hP
  rw [exec_get_bind]
  exact h s hI hP s hI rfl

theorem attempt {R : α → σ → Prop} {Q : Except String α → σ → Prop}
    (hx : Keeps I P x R) (hok : ∀ a s, I s → R a s → Q (.ok a) s)
    (he : ∀ e s, I s → Q (.error e) s) : Keeps I P (attempt x) Q := by
  intro s hI hP
  obtain ⟨hk, ha⟩ := hx s hI hP
  rw [exec_attempt]
  refine ⟨hk, fun r hr => ?_⟩
  cases hr
  cases hrs : (exec x s).1 with
  | error e => exact he e _ hk
  | ok a => exact hok a _ hk (ha a hrs)

theorem mono (hx : Keeps I P x Q) (hP : ∀ s, I s → P' s → P s) (hQ : ∀ a s, I s → Q a s → Q' a s) :
    Keeps I P' x Q' := by
  intro s hI hs
  obtain ⟨hk, han⟩ := hx s hI (hP s hI hs)
  exact ⟨hk, fun a ha => hQ a _ hk (han a ha)⟩

theorem any (x : Locked σ α) : Keeps (fun _ => True) (fun _ => True) x fun _ _ => True :=
  fun _ _ _ => ⟨trivial, fun _ _ => trivial⟩

theorem forM {f : α → Locked σ PUnit} {l : List α}
    (h : ∀ a ∈ l, Keeps I (fun _ => True) (f a) fun _ _ => True) :
    Keeps I P (l.forM f) fun _ _ => True := by
  induction l generalizing P with
  | nil => exact .pure fun _ _ _ => trivial
  | cons a l ih =>
    obtain ⟨hf, hr⟩ := List.forall_mem_cons.1 h
    rw [List.forM]
    exact (hf.mono (fun _ _ _ => trivial) fun _ _ _ hQ => hQ).bind fun _ => ih hr

theorem context (hx : Keeps I P x Q) : Keeps I P (context m x) Q := by
  refine (hx.attempt (fun a s _ hQ => hQ) (fun e s _ => trivial) :
    Keeps I P _ fun r s => match r with | .ok a => Q a s | .error _ => True).bind fun r => ?_
  cases r with
  | ok a => exact .pure fun s _ hQ => hQ
  | error e => exact .throw

end Keeps
end Locked
end Podmesh
