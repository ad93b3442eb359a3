import Mathlib.Tactic.Common

namespace Podmesh.Biscuit

inductive Term where
  | str (value : String)
  | int (value : Int)
  deriving DecidableEq

structure Fact where
  name : String
  terms : List Term
  deriving DecidableEq

inductive Pattern where
  | value (term : Term)
  | var (index : Nat)
  deriving DecidableEq

structure Atom where
  name : String
  args : List Pattern
  deriving DecidableEq

abbrev Binding := Nat → Option Term

def Binding.free : Binding := fun _ => none

def Binding.set (b : Binding) (x : Nat) (t : Term) : Binding :=
  fun y => if y = x then some t else b y

def Binding.Extends (b b' : Binding) : Prop := ∀ x t, b x = some t → b' x = some t

theorem Binding.Extends.refl (b : Binding) : b.Extends b := by
  intro _ _ h
  exact h

theorem Binding.Extends.trans {b c d : Binding} (h : b.Extends c) (h' : c.Extends d) :
    b.Extends d := by
  intro x t hx
  exact h' x t (h x t hx)

theorem Binding.extends_set {b : Binding} (hx : b x = none) (t : Term) : b.Extends (b.set x t) := by
  intro y u hy
  have hne : y ≠ x := by
    rintro rfl
    rw [hx] at hy
    cases hy
  rw [Binding.set, if_neg hne]
  exact hy

def Pattern.eval (b : Binding) : Pattern → Option Term
  | .value term => some term
  | .var index => b index

theorem Pattern.eval_extends {b b' : Binding} (h : b.Extends b') {p : Pattern}
    (hp : p.eval b = some t) : p.eval b' = some t := by
  cases p with
  | value term => exact hp
  | var index => exact h index t hp

def Pattern.unify (b : Binding) (t : Term) : Pattern → Option Binding
  | .value term => if term = t then some b else none
  | .var index =>
    match b index with
    | some bound => if bound = t then some b else none
    | none => some (b.set index t)

theorem Pattern.unify_sound {b b' : Binding} {p : Pattern} (h : p.unify b t = some b') :
    b.Extends b' ∧ p.eval b' = some t := by
  cases p with
  | value term =>
    simp only [unify] at h
    split at h
    · next ht =>
      cases h
      exact ⟨.refl b, congrArg some ht⟩
    · cases h
  | var index =>
    simp only [unify] at h
    split at h
    · next bound hb =>
      split at h
      · next ht =>
        cases h
        exact ⟨.refl b, hb.trans (congrArg some ht)⟩
      · cases h
    · next hb =>
      cases h
      exact ⟨Binding.extends_set hb t, if_pos rfl⟩

theorem Pattern.unify_complete {b c : Binding} {p : Pattern} (hb : b.Extends c)
    (hp : p.eval c = some t) : ∃ b', p.unify b t = some b' ∧ b'.Extends c := by
  cases p with
  | value term =>
    cases hp
    exact ⟨b, if_pos rfl, hb⟩
  | var index =>
    cases hi : b index with
    | some bound =>
      have hbn := hb index bound hi
      rw [show c index = some t from hp] at hbn
      cases hbn
      exact ⟨b, by simp [unify, hi], hb⟩
    | none =>
      refine ⟨b.set index t, by simp [unify, hi], ?_⟩
      intro y u hy
      rw [Binding.set] at hy
      split at hy
      · next he =>
        cases hy
        subst he
        exact hp
      · exact hb y u hy

def unifyArgs : List Pattern → List Term → Binding → Option Binding
  | [], [], b => some b
  | p :: ps, t :: ts, b => (p.unify b t).bind (unifyArgs ps ts)
  | _, _, _ => none

theorem unifyArgs_sound (h : unifyArgs ps ts b = some b') :
    b.Extends b' ∧ ps.map (Pattern.eval b') = ts.map some := by
  induction ps generalizing ts b with
  | nil =>
    cases ts with
    | nil =>
      cases h
      exact ⟨.refl _, rfl⟩
    | cons t ts => cases h
  | cons p ps ih =>
    cases ts with
    | nil => cases h
    | cons t ts =>
      obtain ⟨c, hc, hr⟩ := Option.bind_eq_some_iff.1 h
      obtain ⟨hbc, hp⟩ := Pattern.unify_sound hc
      obtain ⟨hc', hps⟩ := ih hr
      refine ⟨hbc.trans hc', ?_⟩
      rw [List.map_cons, List.map_cons, hps, Pattern.eval_extends hc' hp]

theorem unifyArgs_complete {b c : Binding} (hb : b.Extends c)
    (h : ps.map (Pattern.eval c) = ts.map some) :
    ∃ b', unifyArgs ps ts b = some b' ∧ b'.Extends c := by
  induction ps generalizing ts b with
  | nil =>
    cases ts with
    | nil => exact ⟨b, rfl, hb⟩
    | cons t ts => cases h
  | cons p ps ih =>
    cases ts with
    | nil => cases h
    | cons t ts =>
      rw [List.map_cons, List.map_cons, List.cons.injEq] at h
      obtain ⟨b₁, hb₁, he⟩ := Pattern.unify_complete hb h.1
      obtain ⟨b', hb', he'⟩ := ih he h.2
      exact ⟨b', by rw [unifyArgs, hb₁]; exact hb', he'⟩

def Atom.unify (a : Atom) (f : Fact) (b : Binding) : Option Binding :=
  if a.name = f.name then unifyArgs a.args f.terms b else none

def Atom.Is (a : Atom) (b : Binding) (f : Fact) : Prop :=
  a.name = f.name ∧ a.args.map (Pattern.eval b) = f.terms.map some

theorem Atom.Is.extends {a : Atom} {b b' : Binding} (h : a.Is b f) (hb : b.Extends b') :
    a.Is b' f := by
  obtain ⟨hn, ha⟩ := h
  refine ⟨hn, ?_⟩
  apply List.ext_getElem
  · simpa using congrArg List.length ha
  · intro i hi hi'
    have hg := List.getElem_of_eq ha (by simpa using hi)
    rw [List.getElem_map, List.getElem_map] at hg ⊢
    exact Pattern.eval_extends hb hg

/-- Looks for facts that match the atoms in order, under one binding that passes the guard. -/
def search (guard : Binding → Bool) (facts : List Fact) : List Atom → Binding → Bool
  | [], b => guard b
  | a :: as, b => facts.any fun f => (a.unify f b).any (search guard facts as)

theorem search_sound {guard : Binding → Bool} (h : search guard facts as b = true) :
    ∃ b', b.Extends b' ∧ guard b' = true ∧ ∀ a ∈ as, ∃ f ∈ facts, a.Is b' f := by
  induction as generalizing b with
  | nil => exact ⟨b, .refl b, h, fun a ha => (by cases ha)⟩
  | cons a as ih =>
    obtain ⟨f, hf, hr⟩ := List.any_eq_true.1 h
    obtain ⟨c, hc, hr⟩ := (Option.any_eq_true _ _).1 hr
    obtain ⟨b', hc', hg, has⟩ := ih hr
    unfold Atom.unify at hc
    split at hc
    · next hn =>
      obtain ⟨hbc, har⟩ := unifyArgs_sound hc
      refine ⟨b', hbc.trans hc', hg, ?_⟩
      intro a' ha'
      rcases List.mem_cons.1 ha' with rfl | ha'
      · exact ⟨f, hf, Atom.Is.extends ⟨hn, har⟩ hc'⟩
      · exact has a' ha'
    · cases hc

theorem search_complete (hb : b.Extends c) (has : ∀ a ∈ as, ∃ f ∈ facts, a.Is c f) :
    search (fun _ => true) facts as b = true := by
  induction as generalizing b with
  | nil => rfl
  | cons a as ih =>
    obtain ⟨f, hf, hn, ha⟩ := has a List.mem_cons_self
    obtain ⟨b', hb', he⟩ := unifyArgs_complete hb ha
    have hr := ih he fun a' ha' => has a' (List.mem_cons_of_mem _ ha')
    rw [search, List.any_eq_true]
    refine ⟨f, hf, ?_⟩
    rw [Atom.unify, if_pos hn, hb']
    exact hr

structure Query where
  atoms : List Atom
  guard : Binding → Bool

def Query.holds (q : Query) (facts : List Fact) : Bool := search q.guard facts q.atoms .free

theorem Query.holds_sound {q : Query} (h : q.holds facts = true) :
    ∃ b, q.guard b = true ∧ ∀ a ∈ q.atoms, ∃ f ∈ facts, a.Is b f := by
  obtain ⟨b, _, hg, ha⟩ := search_sound h
  exact ⟨b, hg, ha⟩

def Query.all (atoms : List Atom) : Query := ⟨atoms, fun _ => true⟩

theorem Query.all_holds {atoms : List Atom} : (Query.all atoms).holds facts = true ↔
    ∃ b, ∀ a ∈ atoms, ∃ f ∈ facts, a.Is b f := by
  constructor
  · intro h
    obtain ⟨b, _, hb⟩ := Query.holds_sound h
    exact ⟨b, hb⟩
  · rintro ⟨b, hb⟩
    apply search_complete _ hb
    intro x t hx
    cases hx

/-- A block states facts and demands checks of the facts it can see. -/
structure Block where
  facts : List Fact
  checks : List (List Fact → Bool)

structure Token where
  authority : Block
  appended : List Block

namespace Token

/-- What policies and the checks of the authority block see: the facts of that block and those of
the authorizer, and nothing that a holder stated. -/
def trusted (t : Token) (given : List Fact) : List Fact := t.authority.facts ++ given

def checksPass (t : Token) (given : List Fact) : Bool :=
  t.authority.checks.all (fun check => check (t.trusted given)) &&
    t.appended.all fun block => block.checks.all fun check =>
      check (t.trusted given ++ block.facts)

def authorize (t : Token) (given : List Fact) (policy : Query) : Bool :=
  t.checksPass given && policy.holds (t.trusted given)

end Token

end Podmesh.Biscuit
