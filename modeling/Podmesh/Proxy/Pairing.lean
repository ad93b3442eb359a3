import Podmesh.Protocol.IdentityAuthority
import Podmesh.Proxy.Connections

namespace Podmesh
open AList (lookup_insert lookup_insert_ne)

theorem LinkPhase.locked_of_torn {phase : LinkPhase} (h : phase.torn = true) :
    phase.locked = true := by
  cases phase <;> first | rfl | cases h

namespace Links
variable {p : TokenPlatform} {w w' : Links} {id : Nat} {link : Link}

/-- The connection map and the session map agree, except for the one connection that the holder of
the lock is inserting or removing. -/
structure Paired (w : Links) : Prop where
  holder : ∀ id link, w.tasks.lookup id = some link → link.phase.locked = true → w.lock = some id
  torn : ∀ id link, w.tasks.lookup id = some link → link.phase.torn = true →
    w.connections.lookup link.remote = some link.stableId ∧ w.sessions.lookup link.remote = none
  current : ∀ id link, w.tasks.lookup id = some link → link.phase = .removing →
    w.connections.lookup link.remote = some link.stableId
  agree : ∀ e, (∀ id link, w.tasks.lookup id = some link → link.phase.torn = true →
    link.remote ≠ e) → w.connections.lookup e = (w.sessions.lookup e).map TenantSession.stableId

theorem Paired.empty : Paired .empty where
  holder := by
    intro _ _ h
    cases h
  torn := by
    intro _ _ h
    cases h
  current := by
    intro _ _ h
    cases h
  agree := by
    intro _ _
    rfl

theorem Paired.untorn (h : Paired w) (hlc : w.lock = none) (hlink : w.tasks.lookup i = some link) :
    link.phase.locked = false := by
  cases hl : link.phase.locked with
  | false => rfl
  | true =>
    have := h.holder i link hlink hl
    rw [hlc] at this
    cases this

theorem Paired.free (h : Paired w) (hlc : w.lock = none) (e : String) :
    w.connections.lookup e = (w.sessions.lookup e).map TenantSession.stableId := by
  apply h.agree
  intro id link hlink ht
  have hl := h.untorn hlc hlink
  rw [LinkPhase.locked_of_torn ht] at hl
  cases hl

theorem Paired.holder_unique (h : Paired w) (hlink : w.tasks.lookup i = some link)
    (hl : link.phase.locked = true) (hln' : w.tasks.lookup j = some link')
    (hl' : link'.phase.locked = true) : j = i := by
  have hi := h.holder i link hlink hl
  rw [h.holder j link' hln' hl'] at hi
  cases hi
  rfl

theorem Paired.move (h : Paired w) (hlink : ∀ old, w.tasks.lookup i = some old →
    old.phase.locked = false) (hl : link.phase.locked = false) :
    Paired { w with tasks := w.tasks.insert i link } := by
  have hb : ∀ j l, (w.tasks.insert i link).lookup j = some l → l.phase.locked = true →
      w.tasks.lookup j = some l := by
    intro j l hj hlc
    rcases Assoc.lookup_insert_cases hj with ⟨_, rfl⟩ | ⟨_, hj⟩
    · rw [hl] at hlc
      cases hlc
    · exact hj
  constructor
  · intro j l hj hlc
    exact h.holder j l (hb j l hj hlc) hlc
  · intro j l hj ht
    exact h.torn j l (hb j l hj (LinkPhase.locked_of_torn ht)) ht
  · intro j l hj hr
    exact h.current j l (hb j l hj (by rw [hr]; rfl)) hr
  · intro e he
    apply h.agree
    intro j l hj ht
    have hji : j ≠ i := by
      rintro rfl
      have := hlink l hj
      rw [LinkPhase.locked_of_torn ht] at this
      cases this
    exact he j l ((lookup_insert_ne hji).trans hj) ht

theorem Paired.of_unlocked (hlc : ∀ j l, w.tasks.lookup j = some l → l.phase.locked = false)
    (ha : ∀ e, w.connections.lookup e = (w.sessions.lookup e).map TenantSession.stableId) :
    Paired w where
  holder := by
    intro j l hj hl
    rw [hlc j l hj] at hl
    cases hl
  torn := by
    intro j l hj ht
    have hl := LinkPhase.locked_of_torn ht
    rw [hlc j l hj] at hl
    cases hl
  current := by
    intro j l hj hr
    have hl := hlc j l hj
    rw [hr] at hl
    cases hl
  agree := by
    intro e _
    exact ha e

theorem Paired.of_torn (i : Nat) (link : Link) (hlink : w.tasks.lookup i = some link) (htr : link.phase.torn = true)
    (hlo : w.lock = some i)
    (hlc : ∀ j l, w.tasks.lookup j = some l → l.phase.locked = true → j = i)
    (hc : w.connections.lookup link.remote = some link.stableId)
    (hss : w.sessions.lookup link.remote = none)
    (ha : ∀ e, e ≠ link.remote →
      w.connections.lookup e = (w.sessions.lookup e).map TenantSession.stableId) :
    Paired w where
  holder := by
    intro j l hj hl
    rw [hlc j l hj hl]
    exact hlo
  torn := by
    intro j l hj ht
    cases hlc j l hj (LinkPhase.locked_of_torn ht)
    rw [hlink] at hj
    cases hj
    exact ⟨hc, hss⟩
  current := by
    intro j l hj hr
    cases hlc j l hj (by rw [hr]; rfl)
    rw [hlink] at hj
    cases hj
    exact hc
  agree := by
    intro e he
    exact ha e (he i link hlink htr).symm

section
variable (h : Paired w)
include h

section
variable (hlink : w.tasks.lookup i = some link)
include hlink

section
variable (hl : link.phase.locked = true)
include hl

theorem Paired.sole (link' : Link) (hj : (w.tasks.insert i link').lookup j = some l)
    (hlc : l.phase.locked = true) : j = i := by
  rcases Assoc.lookup_insert_cases hj with ⟨hji, _⟩ | ⟨_, hj⟩
  · exact hji
  · exact h.holder_unique hlink hl hj hlc

theorem Paired.released (hl' : link'.phase.locked = false)
    (hj : (w.tasks.insert i link').lookup j = some l) : l.phase.locked = false := by
  cases hlc : l.phase.locked with
  | false => rfl
  | true =>
    cases h.sole hlink hl link' hj hlc
    rw [lookup_insert] at hj
    cases hj
    rw [hl'] at hlc
    cases hlc

theorem Paired.agree_of_ne (he : e ≠ link.remote) :
    w.connections.lookup e = (w.sessions.lookup e).map TenantSession.stableId := by
  apply h.agree
  intro j l hj ht heq
  cases h.holder_unique hlink hl hj (LinkPhase.locked_of_torn ht)
  rw [hlink] at hj
  cases hj
  exact he heq.symm

end

end

theorem Paired.enter (hlo : w.lock = none) (hf : w.connections.lookup link.remote = none) :
    Paired { w.move i link .inserted with
      connections := w.connections.insert link.remote link.stableId
      lock := some i } := by
  have hss : w.sessions.lookup link.remote = none := by
    have ha := h.free hlo link.remote
    rw [hf] at ha
    exact Option.map_eq_none_iff.1 ha.symm
  apply Paired.of_torn i { link with phase := .inserted } (lookup_insert _) rfl rfl
  · intro j l hj hlc
    rcases Assoc.lookup_insert_cases hj with ⟨hji, _⟩ | ⟨_, hj⟩
    · exact hji
    · rw [h.untorn hlo hj] at hlc
      cases hlc
  · exact lookup_insert _
  · exact hss
  · intro e he
    exact (lookup_insert_ne he).trans (h.free hlo e)

theorem Paired.start (hlink : w.tasks.lookup i = some link)
    (hp : link.phase = .inserted) : Paired { w.move i link .serving with
      sessions := w.sessions.insert link.remote ⟨link.stableId, none⟩, lock := none } := by
  obtain ⟨hc, _⟩ := h.torn i link hlink (by rw [hp]; rfl)
  have hl : link.phase.locked = true := by rw [hp]; rfl
  apply Paired.of_unlocked
  · intro j l hj
    exact h.released hlink hl rfl hj
  · intro e
    by_cases he : e = link.remote
    · subst he
      rw [lookup_insert]
      exact hc
    · rw [lookup_insert_ne he]
      exact h.agree_of_ne hlink hl he

theorem Paired.cleanup (hlo : w.lock = none)
    (hc : w.connections.lookup link.remote = some link.stableId) :
    Paired { w.move i link .removing with lock := some i } := by
  have hb : ∀ j l, (w.move i link .removing).tasks.lookup j = some l → l.phase.locked = true →
      j = i ∧ l = { link with phase := .removing } := by
    intro j l hj hlc
    rcases Assoc.lookup_insert_cases hj with ⟨hji, hl⟩ | ⟨_, hj⟩
    · exact ⟨hji, hl⟩
    · rw [h.untorn hlo hj] at hlc
      cases hlc
  constructor
  · intro j l hj hlc
    rw [(hb j l hj hlc).1]
  · intro j l hj ht
    obtain ⟨_, rfl⟩ := hb j l hj (LinkPhase.locked_of_torn ht)
    cases ht
  · intro j l hj hr
    obtain ⟨_, rfl⟩ := hb j l hj (by rw [hr]; rfl)
    exact hc
  · intro e _
    exact h.free hlo e

theorem Paired.removeSession (hlink : w.tasks.lookup i = some link)
    (hp : link.phase = .removing) : Paired { w.move i link .removed with
      sessions := w.sessions.removeIfCurrent link.remote link.stableId } := by
  have hl : link.phase.locked = true := by rw [hp]; rfl
  have hc := h.current i link hlink hp
  -- while the task is removing, no connection is torn
  have ha : ∀ e, w.connections.lookup e =
      (w.sessions.lookup e).map TenantSession.stableId := by
    intro e
    apply h.agree
    intro j l hj ht
    cases h.holder_unique hlink hl hj (LinkPhase.locked_of_torn ht)
    rw [hlink] at hj
    cases hj
    rw [hp] at ht
    cases ht
  obtain ⟨ses, hss, hid⟩ := Option.map_eq_some_iff.1 ((ha _).symm.trans hc)
  rw [TenantSessions.removeIfCurrent_eq hss hid]
  apply Paired.of_torn i { link with phase := .removed } (lookup_insert _) rfl
  · exact h.holder i link hlink hl
  · intro j l hj hlc
    exact h.sole hlink hl _ hj hlc
  · exact hc
  · exact AList.lookup_erase _ _
  · intro e he
    exact (ha e).trans (by rw [AList.lookup_erase_ne he])

theorem Paired.removeConnection (hlink : w.tasks.lookup i = some link)
    (hp : link.phase = .removed) : Paired { w.move i link (.ended none) with
      connections := w.connections.erase link.remote, lock := none } := by
  have hl : link.phase.locked = true := by rw [hp]; rfl
  obtain ⟨_, hss⟩ := h.torn i link hlink (by rw [hp]; rfl)
  apply Paired.of_unlocked
  · intro j l hj
    exact h.released hlink hl rfl hj
  · intro e
    change (w.connections.erase link.remote).lookup e = (w.sessions.lookup e).map _
    by_cases he : e = link.remote
    · subst he
      rw [AList.lookup_erase, hss]
      rfl
    · rw [AList.lookup_erase_ne he]
      exact h.agree_of_ne hlink hl he

theorem Paired.proveBound (hss : w.sessions.lookup e = some ses) :
    Paired { w with sessions := w.sessions.insert e ⟨ses.stableId, ten⟩ } where
  holder := h.holder
  torn := by
    intro j l hj ht
    obtain ⟨hc, hn⟩ := h.torn j l hj ht
    have hne : l.remote ≠ e := by
      rintro rfl
      rw [hss] at hn
      cases hn
    exact ⟨hc, (lookup_insert_ne hne).trans hn⟩
  current := h.current
  agree := by
    intro e' he'
    have ha := h.agree e' he'
    by_cases he : e' = e
    · subst he
      rw [ha, hss, lookup_insert]
      rfl
    · rw [ha, lookup_insert_ne he]

end

theorem removeIfCurrent_regular (h : Regular w (.removeIfCurrent rem sid)) :
    w.sessions.removeIfCurrent rem sid = w.sessions := by
  cases hss : w.sessions.lookup rem with
  | none => simp [TenantSessions.removeIfCurrent, hss]
  | some ses => simp [TenantSessions.removeIfCurrent, hss, h ses hss]

theorem Paired.step (h : Paired w) (ha : Regular w a) (hs : step p w a = some w') : Paired w' := by
  cases step_cases hs with
  | connected hn =>
    apply h.move _ rfl
    intro old ho
    rw [hn] at ho
    cases ho
  | moved hlink hl hl' =>
    apply h.move _ hl'
    intro old ho
    rw [hlink] at ho
    cases ho
    exact hl
  | entered _ _ hlc hf => exact h.enter hlc hf
  | started hlink hp => exact h.start hlink hp
  | duplicate hlink hp hh =>
    exact absurd (h.torn _ _ hlink (by rw [hp]; rfl)).2 hh
  | removing _ hlc hc => exact h.cleanup hlc hc
  | removedSession hlink hp => exact h.removeSession hlink hp
  | removedConnection hlink hp => exact h.removeConnection hlink hp
  | proved hss => exact h.proveBound hss
  | unproved => exact h
  | forgot =>
    rw [removeIfCurrent_regular ha]
    exact h

theorem reach_paired (h : Reach (Links.step p) Regular .empty w) : Paired w := by
  apply Reach.invariant Paired Paired.empty _ h
  intro w a w' _ ih ha hs
  exact ih.step ha hs

inductive TasksStep (w w' : Links) : LinkAction → Prop
  | same (htasks : w'.tasks = w.tasks) : TasksStep w w' a
  | moved {id : Nat} {link : Link} {phase : LinkPhase} (hlink : w.tasks.lookup id = some link)
    (htasks : w'.tasks = w.tasks.insert id { link with phase := phase })
    (hpast : link.phase.past = true → phase.past = true) : TasksStep w w' a
  | connected {id : Nat} (hnew : w.tasks.lookup id = none)
    (htasks : w'.tasks = w.tasks.insert id ⟨remote, stableId, .arriving⟩) :
    TasksStep w w' (.connect id remote stableId)

section
variable (hs : step p w a = some w')
include hs

theorem tasks_step : TasksStep w w' a := by
  cases step_cases hs with
  | connected hn => exact .connected hn rfl
  | moved hlink _ _ hp => exact .moved hlink rfl fun _ => hp
  | entered hlink hph =>
    refine .moved hlink rfl fun hp => ?_
    rw [hph] at hp
    cases hp
  | started hlink | duplicate hlink | removing hlink | removedSession hlink
  | removedConnection hlink => exact .moved hlink rfl fun _ => rfl
  | proved | unproved | forgot => exact .same rfl

theorem task_step (hlink : w.tasks.lookup i = some link) :
    ∃ link', w'.tasks.lookup i = some link' ∧ link'.remote = link.remote ∧
      link'.stableId = link.stableId ∧ (link.phase.past = true → link'.phase.past = true) := by
  cases tasks_step hs with
  | same ht =>
    rw [ht]
    exact ⟨link, hlink, rfl, rfl, fun h => h⟩
  | @moved _ id _ _ ho ht hp =>
    rw [ht]
    by_cases hi : i = id
    · subst hi
      rw [hlink] at ho
      cases ho
      exact ⟨_, lookup_insert _, rfl, rfl, hp⟩
    · exact ⟨link, (lookup_insert_ne hi).trans hlink, rfl, rfl, fun h => h⟩
  | @connected _ _ id hn ht =>
    have hi : i ≠ id := by
      rintro rfl
      rw [hn] at hlink
      cases hlink
    rw [ht]
    exact ⟨link, (lookup_insert_ne hi).trans hlink, rfl, rfl, fun h => h⟩

theorem task_of_step (hlink : w'.tasks.lookup i = some link) :
    (∃ old, w.tasks.lookup i = some old ∧ old.remote = link.remote ∧ old.stableId = link.stableId) ∨
    a = .connect i link.remote link.stableId := by
  cases tasks_step hs with
  | same ht => exact .inl ⟨link, ht ▸ hlink, rfl, rfl⟩
  | moved ho ht =>
    rw [ht] at hlink
    rcases Assoc.lookup_insert_cases hlink with ⟨rfl, rfl⟩ | ⟨_, hlink⟩
    · exact .inl ⟨_, ho, rfl, rfl⟩
    · exact .inl ⟨link, hlink, rfl, rfl⟩
  | connected _ ht =>
    rw [ht] at hlink
    rcases Assoc.lookup_insert_cases hlink with ⟨rfl, rfl⟩ | ⟨_, hlink⟩
    · exact .inr rfl
    · exact .inl ⟨link, hlink, rfl, rfl⟩

theorem session_of_step (hss : w'.sessions.lookup e = some session) :
    (∃ old, w.sessions.lookup e = some old ∧ old.stableId = session.stableId ∧
      (session.tenant = old.tenant ∨ ∃ ten ident, session.tenant = some ten ∧
        ten.identity p = .ok ident ∧ ∀ t, old.tenant = some t → t.Renews p ten)) ∨
    ∃ i link, w.tasks.lookup i = some link ∧ link.phase = .inserted ∧ link.remote = e ∧
      session = ⟨link.stableId, none⟩ ∧
      ∃ link', w'.tasks.lookup i = some link' ∧ link'.remote = e ∧
        link'.stableId = link.stableId ∧ link'.phase.past = true := by
  -- most steps leave the session as it is
  have hk : w.sessions.lookup e = some session →
      ∃ old, w.sessions.lookup e = some old ∧ old.stableId = session.stableId ∧
        (session.tenant = old.tenant ∨ ∃ ten ident, session.tenant = some ten ∧
          ten.identity p = .ok ident ∧ ∀ t, old.tenant = some t → t.Renews p ten) := by
    intro h
    exact ⟨session, h, rfl, .inl rfl⟩
  have her : ∀ rem sid,
      (w.sessions.removeIfCurrent rem sid).lookup e = some session →
      w.sessions.lookup e = some session := by
    intro rem sid h
    unfold TenantSessions.removeIfCurrent at h
    split at h
    · exact (Assoc.lookup_of_erase h).2
    · exact h
  cases step_cases hs with
  | connected | moved | entered | duplicate | removing | removedConnection | unproved =>
    exact .inl (hk hss)
  | started hlink hp =>
    rcases Assoc.lookup_insert_cases hss with ⟨he, rfl⟩ | ⟨_, hss⟩
    · exact .inr ⟨_, _, hlink, hp, he.symm, rfl, _, lookup_insert _, he.symm, rfl, rfl⟩
    · exact .inl (hk hss)
  | removedSession | forgot => exact .inl (hk (her _ _ hss))
  | proved ho hi hr =>
    rcases Assoc.lookup_insert_cases hss with ⟨rfl, rfl⟩ | ⟨_, hss⟩
    · exact .inl ⟨_, ho, rfl, .inr ⟨_, _, rfl, hi, hr⟩⟩
    · exact .inl (hk hss)

end

structure Begun (p : TokenPlatform) (w : Links) : Prop where
  distinct : ∀ i j link link', w.tasks.lookup i = some link → w.tasks.lookup j = some link' →
    link.stableId = link'.stableId → i = j
  owned : ∀ e session, w.sessions.lookup e = some session → ∃ i link,
    w.tasks.lookup i = some link ∧ link.remote = e ∧ link.stableId = session.stableId ∧
      link.phase.past = true
  readable : ∀ e session tenant, w.sessions.lookup e = some session →
    session.tenant = some tenant → ∃ identity, tenant.identity p = .ok identity

theorem Begun.step (h : Begun p w) (ha : Regular w a) (hs : step p w a = some w') : Begun p w' where
  distinct := by
    intro i j link link' hi hj hid
    rcases task_of_step hs hi with ⟨old, ho, _, hi₁⟩ | rfl <;>
      rcases task_of_step hs hj with ⟨old', ho', _, hi₂⟩ | hc
    · exact h.distinct i j old old' ho ho' (hi₁.trans (hid.trans hi₂.symm))
    · subst hc
      exact absurd (hi₁.trans hid) (ha i old ho)
    · exact absurd (hi₂.trans hid.symm) (ha j old' ho')
    · exact (LinkAction.connect.inj hc).1
  owned := by
    intro e ses hss
    rcases session_of_step hs hss with ⟨old, ho, hid, _⟩ |
      ⟨i, link, hlink, _, _, rfl, link', hl', hr, hid, hp⟩
    · obtain ⟨i, link, hlink, hr, hi', hp⟩ := h.owned e old ho
      obtain ⟨link', hl', hr', hi'', hp'⟩ := task_step hs hlink
      exact ⟨i, link', hl', hr'.trans hr, hi''.trans (hi'.trans hid), hp' hp⟩
    · exact ⟨i, link', hl', hr, hid, hp⟩
  readable := by
    intro e ses ten hss ht
    rcases session_of_step hs hss with ⟨old, ho, _, hsm | ⟨ten', identity, hn,
      hin, _⟩⟩ | ⟨_, _, _, _, _, rfl, _⟩
    · exact h.readable e old ten ho (hsm ▸ ht)
    · rw [hn] at ht
      cases ht
      exact ⟨identity, hin⟩
    · cases ht

theorem reach_begun (h : Reach (Links.step p) Regular .empty w) : Begun p w := by
  apply Reach.invariant (Begun p) _ _ h
  · constructor
    · intro _ _ _ _ h
      cases h
    · intro _ _ h
      cases h
    · intro _ _ _ h
      cases h
  · intro w a w' _ ih ha hs
    exact ih.step ha hs

/-- What the session with a stable id has proved since, given that its task has started it. -/
def Holds (p : TokenPlatform) (e : String) (stableId : Nat) (tenant : ProvenTenant) (w : Links) :
    Prop :=
  (∃ i link, w.tasks.lookup i = some link ∧ link.stableId = stableId ∧ link.phase.past = true) ∧
    ∀ session, w.sessions.lookup e = some session → session.stableId = stableId →
      ∃ tenant', session.tenant = some tenant' ∧ tenant.Renews p tenant'

theorem Holds.step (h : Holds p e sid ten w) (hw : Begun p w)
    (hs : Links.step p w a = some w') : Holds p e sid ten w' := by
  obtain ⟨⟨i, link, hlink, hid, hp⟩, hss⟩ := h
  constructor
  · obtain ⟨link', hl', _, hi', hp'⟩ := task_step hs hlink
    exact ⟨i, link', hl', hi'.trans hid, hp' hp⟩
  · intro ses hse hsd
    rcases session_of_step hs hse with ⟨old, hol, ho, hc⟩ |
      ⟨j, link', hl', hi, _, rfl, _⟩
    · obtain ⟨ten', ht', hr⟩ := hss old hol (ho.trans hsd)
      rcases hc with hsm | ⟨new, _, hn, _, hrn⟩
      · exact ⟨ten', hsm.trans ht', hr⟩
      · exact ⟨new, hn, hr.trans (hrn ten' ht')⟩
    · -- the task of the stable id is past the start of its session
      have hij : i = j := hw.distinct i j link link' hlink hl' (hid.trans hsd.symm)
      subst hij
      rw [hlink] at hl'
      cases hl'
      rw [hi] at hp
      cases hp

theorem holds_of_session (hw : Begun p w) (hss : w.sessions.lookup e = some ⟨sid, some ten⟩) :
    Holds p e sid ten w := by
  constructor
  · obtain ⟨i, link, hlink, _, hid, hp⟩ := hw.owned e _ hss
    exact ⟨i, link, hlink, hid, hp⟩
  · intro ses hlk _
    rw [hss] at hlk
    cases hlk
    obtain ⟨ident, hi⟩ := hw.readable e _ ten hss rfl
    exact ⟨ten, rfl, .refl hi⟩

/-- Outside the lock the connection map and the session map agree; what a connection proved is only
renewed as long as it lasts; and a call with another stable id does not touch it. -/
theorem connections_and_sessions_move_together (p : TokenPlatform)
    (h : Reach (step p) Regular .empty w) :
    (w.lock = none → ∀ e,
      w.connections.lookup e = (w.sessions.lookup e).map TenantSession.stableId) ∧
    (∀ w' e stableId tenant proved, Reach (step p) Regular w w' →
      w.sessions.lookup e = some ⟨stableId, some tenant⟩ →
      w'.sessions.lookup e = some ⟨stableId, proved⟩ →
      ∃ tenant', proved = some tenant' ∧ tenant.Renews p tenant') ∧
    (∀ e session stableId, w.sessions.lookup e = some session → session.stableId ≠ stableId →
      w.sessions.proven e stableId = none ∧
      (∀ tenant now, step p w (.proveBound e stableId tenant now) = some w) ∧
      step p w (.removeIfCurrent e stableId) = some w) := by
  refine ⟨?_, ?_, ?_⟩
  · intro hlc e
    exact (reach_paired h).free hlc e
  · intro w' e stableId tenant proved h' hss hs'
    have hen : Holds p e stableId tenant w' := by
      apply Reach.invariant (Holds p e stableId tenant) (holds_of_session (reach_begun h) hss)
        _ h'
      intro v a v' hv ih _ hs
      exact ih.step (reach_begun (h.trans hv)) hs
    exact hen.2 _ hs' rfl
  · intro e session stableId hss hid
    obtain ⟨hp, hpr, hr⟩ := TenantSessions.stale_operation (p := p) hss hid
    refine ⟨hp, ?_, ?_⟩
    · intro tenant now
      obtain ⟨error, he⟩ := hpr tenant now
      simp [step, Links.proveBound, he]
    · simp [step, hr]

open IdentityReference in
/-- A connection that proves its tenant, while a second one of the same endpoint is refused. -/
theorem connections_and_sessions_sample : ∃ w,
    Reach (step (platform narrowed)) Regular .empty w ∧ w.lock = none ∧
      w.sessions.lookup identity.claims.endpointId =
        some ⟨7, some ⟨scope.tenantOwner, scope.manifestId, [1]⟩⟩ ∧
      w.connections.lookup identity.claims.endpointId = some 7 := by
  obtain ⟨w, hr, hlc, hss⟩ := exists_reach_of_run (step (platform narrowed)) Regular .empty
    [.connect 0 identity.claims.endpointId 7, .connect 1 identity.claims.endpointId 8,
      .task 0 .enter, .task 0 .start, .task 1 .enter,
      .proveBound identity.claims.endpointId 7 ⟨scope.tenantOwner, scope.manifestId, [1]⟩ 100,
      .proveBound identity.claims.endpointId 8 ⟨scope.tenantOwner, scope.manifestId, [1]⟩ 100]
    (fun w => w.lock = none ∧ w.sessions.lookup identity.claims.endpointId =
      some ⟨7, some ⟨scope.tenantOwner, scope.manifestId, [1]⟩⟩) (by decide +kernel)
  refine ⟨w, hr, hlc, hss, ?_⟩
  rw [(connections_and_sessions_move_together (platform narrowed) hr).1 hlc, hss]
  rfl

end Links
end Podmesh
