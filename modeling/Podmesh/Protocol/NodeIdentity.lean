import Podmesh.Lib.Transition

/-!
`load_or_initialize_iroh_secret` keeps the secret key of a node in a file of the key directory. The
file and the marker beside it are written under a temporary name and appear by a hard link. An
action is what one call does up to its next access to a file that other calls may change. The
directory exists and a write does not fail.
-/

namespace Podmesh.NodeIdentity

abbrev Secret := { bytes : List UInt8 // bytes.length = 32 }

/-- `.{file}.tmp-{pid}-{sequence}`, where the file is that of the key or the marker. -/
structure TempName where
  isKey : Bool
  pid : Nat
  sequence : Nat
deriving DecidableEq

structure Files where
  key : Option (List UInt8)
  marker : Bool
  temps : TempName → Option (List UInt8)

/-- The file that `atomic_create` is to create. After the marker, a call returns `answer` or what it
reads from the key file. -/
inductive Target where
  | key (secret : Secret)
  | marker (answer : Option Secret)

inductive Phase where
  | start
  | read
  | lookMarker
  | allot (target : Target)
  | create (target : Target) (sequence : Nat)
  | write (target : Target) (sequence : Nat)
  | link (target : Target) (sequence : Nat)
  | remove (target : Target) (sequence : Nat) (created : Bool)
  | discard (target : Target) (sequence : Nat)
  | reread

inductive Outcome where
  | proceed (phase : Phase)
  | done (result : Option Secret)

namespace Target

def contents : Target → List UInt8
  | .key secret => secret.1
  | .marker _ => "initialized\n".toList.map fun c => c.toNat.toUInt8

def isKey : Target → Bool
  | .key _ => true
  | .marker _ => false

def temp (t : Target) (pid sequence : Nat) : TempName := ⟨t.isKey, pid, sequence⟩

def isIn (f : Files) : Target → Bool
  | .key _ => f.key.isSome
  | .marker _ => f.marker

end Target

namespace Files

def setTemp (f : Files) (name : TempName) (contents : Option (List UInt8)) : Files :=
  { f with temps := Function.update f.temps name contents }

def commit (f : Files) (contents : List UInt8) : Target → Files
  | .key _ => { f with key := some contents }
  | .marker _ => { f with marker := true }

def readSecret (f : Files) : Option Secret :=
  f.key.bind fun bytes => if h : bytes.length = 32 then some ⟨bytes, h⟩ else none

end Files

def Target.next (created : Bool) : Target → Outcome
  | .key secret => .proceed (.allot (.marker (if created then some secret else none)))
  | .marker (some secret) => .done (some secret)
  | .marker none => .proceed .reread

namespace Phase

/-- The next action of a call of the process `pid`; `sequence` is the counter of the process and
`fresh` the secret that is generated if one is. -/
def advance (pid sequence : Nat) (fresh : Secret) (f : Files) : Phase → Files × Outcome
  | .start => (f, .proceed (if f.key.isSome then .read else .lookMarker))
  | .read =>
    match f.readSecret with
    | some secret => (f, .proceed (.allot (.marker (some secret))))
    | none => (f, .done none)
  | .lookMarker => (f, .proceed (if f.marker then .reread else .allot (.key fresh)))
  | .allot t => (f, .proceed (.create t sequence))
  | .create t n =>
    if (f.temps (t.temp pid n)).isSome then (f, .proceed (.discard t n))
    else (f.setTemp (t.temp pid n) (some []), .proceed (.write t n))
  | .write t n =>
    (f.setTemp (t.temp pid n) ((f.temps (t.temp pid n)).map fun _ => t.contents),
      .proceed (.link t n))
  | .link t n =>
    match f.temps (t.temp pid n) with
    | none => (f, .done none)
    | some contents =>
      if t.isIn f then (f, .proceed (.remove t n false))
      else (f.commit contents t, .proceed (.remove t n true))
  | .remove t n created =>
    if (f.temps (t.temp pid n)).isNone then (f, .done none)
    else (f.setTemp (t.temp pid n) none, t.next created)
  | .discard t n => (f.setTemp (t.temp pid n) none, .done none)
  | .reread => (f, .done f.readSecret)

def number : Phase → Option Nat
  | .create _ n | .write _ n | .link _ n | .remove _ n _ | .discard _ n => some n
  | _ => none

def isAllot : Phase → Bool
  | .allot _ => true
  | _ => false

end Phase

namespace Outcome

def phase : Outcome → Option Phase
  | .proceed phase => some phase
  | .done _ => none

def results : Outcome → List (Option Secret)
  | .proceed _ => []
  | .done result => [result]

end Outcome

/-- `sequence` has the counter of each process. A call is named by the id of its process and a
number. -/
structure State where
  files : Files
  sequence : Nat → Nat
  calls : Nat × Nat → Option Phase
  results : List (Option Secret)

/-- After a crash, `pid` is the id of a new process. -/
inductive Action where
  | crash (pid : Nat)
  | call (c : Nat × Nat)
  | proceed (c : Nat × Nat) (fresh : Secret)

namespace State

def initial : State := ⟨⟨none, false, fun _ => none⟩, fun _ => 0, fun _ => none, []⟩

def advanced (s : State) (c : Nat × Nat) (phase : Phase) (r : Files × Outcome) : State where
  files := r.1
  sequence := Function.update s.sequence c.1 (s.sequence c.1 + phase.isAllot.toNat)
  calls := Function.update s.calls c r.2.phase
  results := s.results ++ r.2.results

def step (s : State) : Action → Option State
  | .crash pid => some { s with
      sequence := Function.update s.sequence pid 0
      calls := fun c => if c.1 = pid then none else s.calls c }
  | .call c =>
    if (s.calls c).isNone then some { s with calls := Function.update s.calls c (some .start) }
    else none
  | .proceed c fresh => (s.calls c).map fun phase =>
    s.advanced c phase (phase.advance c.1 (s.sequence c.1) fresh s.files)

end State

/-- The key is whole and comes before the marker. -/
structure Files.Sound (f : Files) : Prop where
  key : ∀ k, f.key = some k → k.length = 32
  marker : f.marker = true → ∃ k, f.key = some k

/-- Files are only added to the directory, but for the temporary ones that `own` names. -/
structure Files.Extends (f f' : Files) (own : TempName → Prop) : Prop where
  key : ∀ k, f.key = some k → f'.key = some k
  temps : ∀ name, ¬own name → f'.temps name = f.temps name

def Target.Holds (f : Files) : Target → Prop
  | .key _ => True
  | .marker answer => ∃ k, f.key = some k ∧ ∀ a, answer = some a → k = a.1

def Phase.Holds (f : Files) (pid : Nat) : Phase → Prop
  | .allot t | .create t _ => t.Holds f
  | .write t n => t.Holds f ∧ f.temps (t.temp pid n) ≠ none
  | .link t n => t.Holds f ∧ f.temps (t.temp pid n) = some t.contents
  | .remove t _ created =>
    t.Holds f ∧ ∀ secret, t = .key secret → ∃ k, f.key = some k ∧ (created = true → k = secret.1)
  | _ => True

def Outcome.Holds (f : Files) (pid : Nat) : Outcome → Prop
  | .proceed phase => phase.Holds f pid
  | .done result => ∀ a, result = some a → f.key = some a.1

section
variable {f f' : Files} {own : TempName → Prop}

theorem Files.readSecret_eq_some : f.readSecret = some a ↔ f.key = some a.1 := by
  simp only [readSecret, Option.bind_eq_some_iff]
  constructor
  · rintro ⟨k, hk, ha⟩
    split at ha
    · cases ha
      exact hk
    · cases ha
  · exact fun hk => ⟨a.1, hk, dif_pos a.2⟩

theorem Target.Holds.extend (he : f.Extends f' own) {t : Target} (h : t.Holds f) : t.Holds f' := by
  cases t with
  | key => trivial
  | marker answer =>
    obtain ⟨k, hk, ha⟩ := h
    exact ⟨k, he.key k hk, ha⟩

/-- What a call relies on is left alone by the actions of calls with other temporary files. -/
theorem Phase.Holds.extend (he : f.Extends f' own) {phase : Phase}
    (hn : ∀ b n, phase.number = some n → ¬own ⟨b, pid, n⟩) (h : phase.Holds f pid) :
    phase.Holds f' pid := by
  cases phase with
  | allot t | create t n => exact Target.Holds.extend he h
  | write t n | link t n =>
    refine ⟨h.1.extend he, ?_⟩
    rw [he.temps (t.temp pid n) (hn _ n rfl)]
    exact h.2
  | remove t n created =>
    refine ⟨h.1.extend he, fun secret ht => ?_⟩
    obtain ⟨k, hk, hc⟩ := h.2 secret ht
    exact ⟨k, he.key k hk, hc⟩
  | _ => trivial

theorem Files.setTemp_self : (f.setTemp name c).temps name = c :=
  Function.update_self _ _ _

theorem Files.Extends.setTemp (h : own name) : f.Extends (f.setTemp name c) own := by
  refine ⟨fun _ hk => hk, fun name' hn => Function.update_of_ne ?_ _ _⟩
  rintro rfl
  exact hn h

theorem Files.Extends.refl : f.Extends f own := ⟨fun _ hk => hk, fun _ _ => rfl⟩

theorem Phase.advance_spec (hf : f.Sound) {phase : Phase} (h : phase.Holds f pid)
    (hr : phase.advance pid q fresh f = (f', outcome)) :
    f'.Sound ∧ f.Extends f' (fun name => name.pid = pid ∧ phase.number = some name.sequence) ∧
      outcome.Holds f' pid := by
  have hs {name c} : (f.setTemp name c).Sound := ⟨hf.key, hf.marker⟩
  cases phase with
  | start | lookMarker =>
    cases hr
    refine ⟨hf, .refl, ?_⟩
    dsimp only [Outcome.Holds]
    split <;> trivial
  | read =>
    rw [advance] at hr
    split at hr <;> cases hr
    · next a ha =>
      refine ⟨hf, .refl, a.1, Files.readSecret_eq_some.1 ha, fun b hb => ?_⟩
      cases hb
      rfl
    · exact ⟨hf, .refl, fun _ h => by cases h⟩
  | reread =>
    cases hr
    exact ⟨hf, .refl, fun a ha => Files.readSecret_eq_some.1 ha⟩
  | allot t =>
    cases hr
    exact ⟨hf, .refl, h⟩
  | create t n =>
    rw [advance] at hr
    split at hr <;> cases hr
    · exact ⟨hf, .refl, trivial⟩
    · refine ⟨hs, .setTemp ⟨rfl, rfl⟩, h, ?_⟩
      rw [Files.setTemp_self]
      exact Option.some_ne_none _
  | write t n =>
    cases hr
    refine ⟨hs, .setTemp ⟨rfl, rfl⟩, h.1, ?_⟩
    obtain ⟨c, hc⟩ := Option.ne_none_iff_exists'.1 h.2
    rw [Files.setTemp_self, hc]
    rfl
  | link t n =>
    rw [advance, h.2] at hr
    cases t with
    | key secret =>
      cases hk : f.key <;> rw [Target.isIn, hk] at hr <;> cases hr
      · refine ⟨⟨fun k h => ?_, fun _ => ⟨_, rfl⟩⟩, ⟨fun k h => ?_, fun _ _ => rfl⟩, trivial,
          fun a ha => ⟨_, rfl, fun _ => ?_⟩⟩
        · cases h
          exact secret.2
        · rw [hk] at h
          cases h
        · cases ha
          rfl
      · exact ⟨hf, .refl, trivial, fun a _ => ⟨_, hk, fun hc => by cases hc⟩⟩
    | marker answer =>
      obtain ⟨k, hk, ha⟩ := h.1
      cases hm : f.marker <;> rw [Target.isIn, hm] at hr <;> cases hr
      · exact ⟨⟨hf.key, fun _ => ⟨k, hk⟩⟩, ⟨fun _ h => h, fun _ _ => rfl⟩, ⟨k, hk, ha⟩,
          fun _ ht => by cases ht⟩
      · exact ⟨hf, .refl, ⟨k, hk, ha⟩, fun _ ht => by cases ht⟩
  | remove t n created =>
    dsimp only [advance] at hr
    split at hr <;> cases hr
    · exact ⟨hf, .refl, fun _ h => by cases h⟩
    · refine ⟨hs, .setTemp ⟨rfl, rfl⟩, ?_⟩
      cases t with
      | key secret =>
        obtain ⟨k, hk, hc⟩ := h.2 secret rfl
        refine ⟨k, hk, fun a ha => ?_⟩
        cases created with
        | true =>
          cases ha
          exact hc rfl
        | false => cases ha
      | marker answer =>
        obtain ⟨k, hk, ha⟩ := h.1
        cases answer with
        | none => trivial
        | some a =>
          intro b hb
          cases hb
          rw [← ha a rfl]
          exact hk
  | discard t n =>
    cases hr
    exact ⟨hs, .setTemp ⟨rfl, rfl⟩, fun _ h => by cases h⟩

theorem Phase.advance_number {phase : Phase}
    (hr : phase.advance pid q fresh f = (f', .proceed phase')) (hn : phase'.number = some n) :
    phase.number = some n ∨ phase.isAllot = true ∧ n = q := by
  cases phase with
  | allot t =>
    cases hr
    exact .inr ⟨rfl, (Option.some.inj hn).symm⟩
  | write t m =>
    cases hr
    exact .inl hn
  | start | lookMarker =>
    cases hr
    split at hn <;> cases hn
  | create | read | link | remove =>
    dsimp only [advance, Target.next] at hr
    repeat' split at hr
    all_goals cases hr
    all_goals first | exact .inl hn | cases hn
  | reread | discard => cases hr

end

namespace State
variable {s s' : State}

structure Sound (s : State) : Prop where
  files : s.files.Sound
  results : ∀ a, some a ∈ s.results → s.files.key = some a.1
  calls : ∀ c p, s.calls c = some p → p.Holds s.files c.1
  counted : ∀ c p n, s.calls c = some p → p.number = some n → n < s.sequence c.1
  apart : ∀ c d p p' n, s.calls c = some p → s.calls d = some p' → c.1 = d.1 →
    p.number = some n → p'.number = some n → c = d

theorem Sound.of_calls (h : s.Sound) (hf : s'.files = s.files) (hr : s'.results = s.results)
    (hc : ∀ c p, s'.calls c = some p →
      p = .start ∨ s.calls c = some p ∧ s'.sequence c.1 = s.sequence c.1) : s'.Sound := by
  have hn {c p n} (hp : s'.calls c = some p) (hn : p.number = some n) :
      s.calls c = some p ∧ s'.sequence c.1 = s.sequence c.1 := by
    refine (hc c p hp).resolve_left ?_
    rintro rfl
    cases hn
  refine ⟨hf ▸ h.files, hf ▸ hr ▸ h.results, fun c p hp => ?_, fun c p n hp he => ?_,
    fun c d p p' n hp hp' hcd he he' => ?_⟩
  · rw [hf]
    obtain rfl | ⟨hp, _⟩ := hc c p hp
    · trivial
    · exact h.calls c p hp
  · rw [(hn hp he).2]
    exact h.counted c p n (hn hp he).1 he
  · exact h.apart c d p p' n (hn hp he).1 (hn hp' he').1 hcd he he'

theorem Sound.advanced (h : s.Sound) (hc : s.calls c = some phase)
    (hr : phase.advance c.1 (s.sequence c.1) fresh s.files = (f, outcome)) :
    (s.advanced c phase (f, outcome)).Sound := by
  obtain ⟨hf, he, ho⟩ := Phase.advance_spec h.files (h.calls c phase hc) hr
  have hcl {d p} (hd : (s.advanced c phase (f, outcome)).calls d = some p) :
      d = c ∧ outcome = .proceed p ∨ d ≠ c ∧ s.calls d = some p := by
    dsimp only [State.advanced] at hd
    rw [Function.update_apply] at hd
    split at hd
    · next hdc =>
      refine .inl ⟨hdc, ?_⟩
      cases outcome <;> cases hd
      rfl
    · next hdc => exact .inr ⟨hdc, hd⟩
  -- The call has the number it had, or the counter, which no other call has.
  have hot {d p p' n} (hp : outcome = .proceed p) (hn : p.number = some n) (hne : d ≠ c)
      (hd : s.calls d = some p') (hdc : d.1 = c.1) : p'.number ≠ some n := by
    intro hn'
    obtain hn | ⟨_, rfl⟩ := Phase.advance_number (hp ▸ hr) hn
    · exact hne (h.apart d c p' phase n hd hc hdc hn' hn)
    · exact Nat.lt_irrefl _ (hdc ▸ h.counted d p' _ hd hn')
  refine ⟨hf, fun a ha => ?_, fun d p hd => ?_, fun d p n hd hn => ?_,
    fun d e p p' n hd hp hde hn hn' => ?_⟩
  · rcases List.mem_append.1 ha with ha | ha
    · exact he.key _ (h.results a ha)
    · cases outcome with
      | proceed => cases ha
      | done result => exact ho a (List.mem_singleton.1 ha).symm
  · obtain ⟨rfl, rfl⟩ | ⟨hne, hd⟩ := hcl hd
    · exact ho
    · exact (h.calls d p hd).extend he fun b n hn how =>
        hne (h.apart d c p phase n hd hc how.1 hn how.2)
  · have hle : s.sequence d.1 ≤ (s.advanced c phase (f, outcome)).sequence d.1 := by
      dsimp only [State.advanced]
      rw [Function.update_apply]
      split
      · next hdc =>
        rw [hdc]
        exact Nat.le_add_right _ _
      · exact Nat.le_refl _
    obtain ⟨rfl, rfl⟩ | ⟨_, hd⟩ := hcl hd
    · obtain hn | ⟨ha, rfl⟩ := Phase.advance_number hr hn
      · exact Nat.lt_of_lt_of_le (h.counted d phase n hc hn) hle
      · dsimp only [State.advanced]
        rw [Function.update_self, ha]
        exact Nat.lt_succ_self _
    · exact Nat.lt_of_lt_of_le (h.counted d p n hd hn) hle
  · obtain ⟨rfl, hpo⟩ | ⟨hdc, hds⟩ := hcl hd <;> obtain ⟨rfl, hpo'⟩ | ⟨hec, hes⟩ := hcl hp
    · rfl
    · exact absurd hn' (hot hpo hn hec hes hde.symm)
    · exact absurd hn (hot hpo' hn' hdc hds hde)
    · exact h.apart d e p p' n hds hes hde hn hn'

theorem Sound.step (h : s.Sound) (hs : s.step a = some s') : s'.Sound := by
  cases a with
  | crash pid =>
    cases hs
    refine h.of_calls rfl rfl fun c p hc => ?_
    obtain ⟨hp, hc⟩ := Option.ite_none_left_eq_some.1 hc
    exact .inr ⟨hc, Function.update_of_ne hp _ _⟩
  | call c =>
    obtain ⟨_, hs⟩ := Option.ite_none_right_eq_some.1 hs
    cases hs
    refine h.of_calls rfl rfl fun d p hd => ?_
    dsimp only at hd
    rw [Function.update_apply] at hd
    split at hd
    · exact .inl (Option.some.inj hd).symm
    · exact .inr ⟨hd, rfl⟩
  | proceed c fresh =>
    obtain ⟨phase, hc, rfl⟩ := Option.map_eq_some_iff.1 hs
    exact h.advanced hc rfl

theorem Sound.initial : initial.Sound :=
  ⟨⟨fun _ h => (by cases h), fun h => (by cases h)⟩, fun _ h => (by cases h),
    fun _ _ h => (by cases h), fun _ _ _ h => (by cases h), fun _ _ _ _ _ h => (by cases h)⟩

def alone (c : Nat × Nat) (fresh : Secret) (_ : State) (a : Action) : Prop :=
  a = .call c ∨ a = .proceed c fresh

/-- The state `s` but for what the call `c` changes on its way. -/
def during (s : State) (c : Nat × Nat) (f : Files) (q : Nat) (phase : Phase) : State :=
  { s with
    files := f
    sequence := Function.update s.sequence c.1 q
    calls := Function.update s.calls c (some phase) }

variable {c : Nat × Nat} {f f' : Files} {phase : Phase}

theorem during_step (hr : phase.advance c.1 q fresh f = (f', .proceed phase')) :
    Reach step (alone c fresh) (s.during c f q phase)
      (s.during c f' (q + phase.isAllot.toNat) phase') := by
  refine .next .start (.inr rfl) ?_
  simp [step, during, advanced, hr, Outcome.phase, Outcome.results]

theorem during_done (hr : phase.advance c.1 q fresh f = (f', .done result)) :
    ∃ t, Reach step (alone c fresh) (s.during c f q phase) t ∧
      t.results = s.results ++ [result] := by
  refine ⟨(s.during c f q phase).advanced c phase (f', .done result),
    .next .start (.inr rfl) ?_, rfl⟩
  simp [step, during, hr]

def runAlone (pid : Nat) (fresh : Secret) : Nat → Nat → Files → Phase → Option (Option Secret)
  | 0, _, _, _ => none
  | fuel + 1, q, f, phase =>
    match phase.advance pid q fresh f with
    | (_, .done result) => some result
    | (f, .proceed phase') => runAlone pid fresh fuel (q + phase.isAllot.toNat) f phase'

theorem reach_of_runAlone (h : runAlone c.1 fresh fuel q f phase = some result) :
    ∃ t, Reach step (alone c fresh) (s.during c f q phase) t ∧
      t.results = s.results ++ [result] := by
  induction fuel generalizing q f phase with
  | zero => cases h
  | succ fuel ih =>
    rw [runAlone] at h
    split at h
    · next hr =>
      cases h
      exact during_done hr
    · next hr =>
      obtain ⟨t, ht, hres⟩ := ih h
      exact ⟨t, (during_step hr).trans ht, hres⟩

theorem reach_alone (hc : s.calls c = none)
    (h : runAlone c.1 fresh fuel (s.sequence c.1) s.files .start = some result) :
    ∃ t, Reach step (alone c fresh) s t ∧ t.results = s.results ++ [result] := by
  have hs : Reach step (alone c fresh) s (s.during c s.files (s.sequence c.1) .start) := by
    refine .next .start (.inl rfl) ?_
    simp [step, during, hc]
  obtain ⟨t, ht, hres⟩ := reach_of_runAlone h
  exact ⟨t, hs.trans ht, hres⟩

theorem recovers (h : f.Sound) (hk : f.temps ⟨true, pid, q⟩ = none)
    (hm : f.temps ⟨false, pid, q⟩ = none) (hm' : f.temps ⟨false, pid, q + 1⟩ = none) :
    ∃ a, runAlone pid fresh 12 q f .start = some (some a) := by
  cases hfk : f.key with
  | some k =>
    have hr := Files.readSecret_eq_some (f := f) (a := ⟨k, h.key k hfk⟩)
    rw [hfk] at hr
    refine ⟨⟨k, h.key k hfk⟩, ?_⟩
    cases hfm : f.marker <;>
    simp [runAlone, Phase.advance, Phase.isAllot, Target.temp, Target.isKey, Target.isIn,
      Target.next, Files.setTemp, Files.commit, hfk, hr.2 rfl, hm, hfm]
  | none =>
    have hfm : f.marker = false := by
      rw [Bool.eq_false_iff]
      intro hfm
      obtain ⟨k, hk'⟩ := h.marker hfm
      rw [hfk] at hk'
      cases hk'
    refine ⟨fresh, ?_⟩
    simp [runAlone, Phase.advance, Phase.isAllot, Target.temp, Target.isKey, Target.isIn,
      Target.next, Files.setTemp, Files.commit, hfk, hfm, hk, hm']

end State

/-- All calls that succeed return the same secret, whatever crashes. A call that runs alone succeeds
if no temporary file has a name that it is to use. -/
theorem iroh_identity_agrees_and_recovers (hr : Reach State.step always .initial s) :
    (∀ a b, some a ∈ s.results → some b ∈ s.results → a = b) ∧
    ∀ c fresh, s.calls c = none → s.files.temps ⟨true, c.1, s.sequence c.1⟩ = none →
      s.files.temps ⟨false, c.1, s.sequence c.1⟩ = none →
      s.files.temps ⟨false, c.1, s.sequence c.1 + 1⟩ = none →
      ∃ t a, Reach State.step (State.alone c fresh) s t ∧ t.results = s.results ++ [some a] := by
  have h : s.Sound := hr.invariant _ .initial fun _ _ _ _ h _ hs => h.step hs
  refine ⟨fun a b ha hb => Subtype.ext ?_, fun c fresh hc hk hm hm' => ?_⟩
  · have hk := h.results b hb
    rw [h.results a ha] at hk
    exact Option.some.inj hk
  · obtain ⟨a, ha⟩ := State.recovers h.files hk hm hm'
    obtain ⟨t, ht, hres⟩ := State.reach_alone hc ha
    exact ⟨t, a, ht, hres⟩

def sampleSecret : Secret := ⟨List.replicate 32 7, by decide⟩

/-- A process crashes before it has written the key. -/
def crashRun : List Action :=
  [.call (1, 0), .proceed (1, 0) sampleSecret, .proceed (1, 0) sampleSecret,
    .proceed (1, 0) sampleSecret, .proceed (1, 0) sampleSecret, .crash 1]

/-- A process with another id succeeds after the crash. -/
theorem iroh_identity_agrees_and_recovers_other_pid :
    ∃ s, Reach State.step always .initial s ∧ s.files.temps ⟨true, 1, 0⟩ = some [] ∧
      ∃ t a, Reach State.step (State.alone (2, 0) sampleSecret) s t ∧
        t.results = s.results ++ [some a] := by
  obtain ⟨s, hr, hl, hc, hk, hm, hm'⟩ := exists_reach_of_run State.step always .initial crashRun
    (fun s => s.files.temps ⟨true, 1, 0⟩ = some [] ∧ s.calls (2, 0) = none ∧
      s.files.temps ⟨true, 2, s.sequence 2⟩ = none ∧
      s.files.temps ⟨false, 2, s.sequence 2⟩ = none ∧
      s.files.temps ⟨false, 2, s.sequence 2 + 1⟩ = none) (by decide +kernel)
  exact ⟨s, hr, hl, (iroh_identity_agrees_and_recovers hr).2 (2, 0) sampleSecret hc hk hm hm'⟩

/-- A process with the same id finds the temporary file and fails. -/
theorem reused_pid_fails :
    ∃ s, Reach State.step always .initial s ∧ s.calls (1, 0) = none ∧
      ∃ t, Reach State.step (State.alone (1, 0) sampleSecret) s t ∧
        t.results = s.results ++ [none] := by
  obtain ⟨s, hr, hc, ha⟩ := exists_reach_of_run State.step always .initial crashRun
    (fun s => s.calls (1, 0) = none ∧
      State.runAlone 1 sampleSecret 5 (s.sequence 1) s.files .start = some none)
    (by decide +kernel)
  exact ⟨s, hr, hc, State.reach_alone hc ha⟩

end Podmesh.NodeIdentity
