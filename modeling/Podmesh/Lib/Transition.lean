import Mathlib.Tactic.Common

namespace Podmesh

/-- The states reached from `init` by transitions that each meet the step condition `ok`. -/
inductive Reach (step : S → A → Option S) (ok : S → A → Prop) (init : S) : S → Prop
  | start : Reach step ok init init
  | next : Reach step ok init s → ok s a → step s a = some s' → Reach step ok init s'

def always (_ : S) (_ : A) : Prop := True

instance (s : S) (a : A) : Decidable (always s a) := .isTrue trivial

namespace Reach
variable {step : S → A → Option S} {ok : S → A → Prop} {init : S}

theorem invariant (I : S → Prop) (h0 : I init)
    (hs : ∀ s a s', Reach step ok init s → I s → ok s a → step s a = some s' → I s') :
    Reach step ok init s → I s := by
  intro h
  induction h with
  | start => exact h0
  | next hr ha he ih => exact hs _ _ _ hr ih ha he

theorem mono (hok : ∀ s a, ok s a → ok' s a) (h : Reach step ok init s) :
    Reach step ok' init s := by
  induction h with
  | start => exact .start
  | next _ ha he ih => exact .next ih (hok _ _ ha) he

theorem toAlways (h : Reach step ok init s) : Reach step always init s :=
  h.mono fun _ _ _ => trivial

theorem trans (h : Reach step ok init s) (h' : Reach step ok s t) : Reach step ok init t := by
  induction h' with
  | start => exact h
  | next _ ha he ih => exact .next ih ha he

end Reach

/-- Executes a list of actions; an action that is refused or does not meet the condition `ok` stops
the run with no state. -/
def runWhile (step : S → A → Option S) (ok : S → A → Bool) : S → List A → Option S
  | s, [] => some s
  | s, a :: as => if ok s a then (step s a).bind fun s' => runWhile step ok s' as else none

theorem reach_of_runWhile (h : runWhile step ok s as = some t) :
    Reach step (fun s a => ok s a = true) s t := by
  induction as generalizing s with
  | nil =>
    cases h
    exact .start
  | cons a as ih =>
    rw [runWhile] at h
    split at h
    · next ha =>
      obtain ⟨s', he, hr⟩ := Option.bind_eq_some_iff.1 h
      have hf : Reach step (fun s a => ok s a = true) s s' := .next .start ha he
      exact hf.trans (ih hr)
    · cases h

/-- What the end of a run is found to meet, when the run is executed, is met by a reachable state. -/
theorem exists_reach_of_run (step : S → A → Option S) (ok : S → A → Prop) (s : S) (as : List A)
    (P : S → Prop) [∀ s a, Decidable (ok s a)] [DecidablePred P]
    (h : ((runWhile step (fun s a => decide (ok s a)) s as).any fun t => decide (P t)) = true) :
    ∃ t, Reach step ok s t ∧ P t := by
  obtain ⟨t, ht, hp⟩ := (Option.any_eq_true _ _).1 h
  exact ⟨t, (reach_of_runWhile ht).mono fun _ _ ha => of_decide_eq_true ha, of_decide_eq_true hp⟩

/-- Repeats a step until it has nothing left to do or the fuel is used up. -/
def drive (next : S → Option S) : Nat → S → S
  | 0, s => s
  | fuel + 1, s =>
    match next s with
    | some s' => drive next fuel s'
    | none => s

/-- With enough fuel, a step that comes closer to its end each time reaches it. -/
theorem drive_settles {next : S → Option S} {I F : S → Prop} {rank : S → Nat}
    (hst : ∀ s, I s → ∃ s', next s = some s' ∧ (F s' ∨ I s' ∧ rank s' < rank s))
    (he : ∀ s, F s → next s = none) (hs : I s) (hf : rank s < fuel) : F (drive next fuel s) := by
  induction fuel generalizing s with
  | zero => exact absurd hf (Nat.not_lt_zero _)
  | succ fuel ih =>
    obtain ⟨s', hn, hF | ⟨hI, hr⟩⟩ := hst s hs
    · simp only [drive, hn]
      cases fuel with
      | zero => exact hF
      | succ fuel =>
        simp only [drive, he s' hF]
        exact hF
    · simp only [drive, hn]
      exact ih hI (by omega)

end Podmesh
