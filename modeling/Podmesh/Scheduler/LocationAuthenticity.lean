import Podmesh.Scheduler.LocationQueries

namespace Podmesh

namespace Locations

def AnsweredFor (r : PeerControlRelay) (w : Locations) (agent peer : Bytes) : Prop :=
  ∃ before after id bytes installed queryId named sender call,
    Reach (step r) always .empty before ∧
    step r before (.answer id peer bytes installed) = some after ∧
    Reach (step r) always after w ∧
    r.locationAnswer installed bytes = some (queryId, named) ∧
    before.registry.pending.lookup queryId = some sender ∧
    before.calls.lookup sender = some call ∧
    call.queryId = queryId ∧ call.agent = agent

def Named (r : PeerControlRelay) (w : Locations) : LocationAction → Prop
  | .answer _ _ bytes installed =>
    ∀ answer ∈ r.locationAnswer installed bytes,
      ∀ sender ∈ w.registry.pending.lookup answer.1, ∀ call ∈ w.calls.lookup sender,
        call.agent = answer.2
  | .query _ _ _ _ _ | .call _ _ | .remember _ _ | .forget _ => True

instance (r : PeerControlRelay) (w : Locations) (a : LocationAction) : Decidable (Named r w a) :=
  match a with
  | .answer _ _ bytes installed =>
    inferInstanceAs (Decidable (∀ answer ∈ r.locationAnswer installed bytes,
      ∀ sender ∈ w.registry.pending.lookup answer.1, ∀ call ∈ w.calls.lookup sender,
        call.agent = answer.2))
  | .query _ _ _ _ _ | .call _ _ | .remember _ _ | .forget _ => inferInstanceAs (Decidable True)

def Authentic (r : PeerControlRelay) (w : Locations) : Prop :=
  ∀ agent entry, w.registry.cache.lookup agent = some entry →
    AnsweredFor r w agent entry.holder

/-- No answer to a query gives another agent a location that it did not have. -/
def Confined (r : PeerControlRelay) (w : Locations) : Prop :=
  ∀ id now answer call w', w.answers.lookup id = some answer →
    w.calls.lookup answer.sender = some call → step r w (.remember id now) = some w' →
    ∀ agent, agent ≠ call.agent →
      w'.registry.cache.lookup agent = w.registry.cache.lookup agent ∨
      w'.registry.cache.lookup agent = none

def SameQuestions (w w' : Locations) : Prop :=
  ∀ id call, w.calls.lookup id = some call →
    ∃ call', w'.calls.lookup id = some call' ∧ call'.agent = call.agent ∧
      call'.queryId = call.queryId

theorem SameQuestions.refl (w : Locations) : SameQuestions w w :=
  fun _ call hc => ⟨call, hc, rfl, rfl⟩

theorem sameQuestions_insert {w w' : Locations} {id : Nat} {call' : LocationQueryCall}
    (hcl : w'.calls = w.calls.insert id call')
    (hs : ∀ call, w.calls.lookup id = some call →
      call'.agent = call.agent ∧ call'.queryId = call.queryId) : SameQuestions w w' := by
  intro i call hc
  rw [hcl]
  by_cases hi : i = id
  · subst hi
    exact ⟨call', AList.lookup_insert _, hs call hc⟩
  · exact ⟨call, (AList.lookup_insert_ne hi).trans hc, rfl, rfl⟩

theorem sameQuestions_step (hs : step r w a = some w') : SameQuestions w w' := by
  cases step_cases hs with
  | started hn =>
    apply sameQuestions_insert rfl
    intro call hc
    rw [hn] at hc
    cases hc
  | moved hc | began hc | finished hc =>
    apply sameQuestions_insert rfl
    intro call' hc'
    rw [hc] at hc'
    cases hc'
    exact ⟨rfl, rfl⟩
  | heard | ignored | forgot => exact .refl _
  | @learned now id answer ha =>
    cases hc : w.calls.lookup answer.sender with
    | none =>
      intro i call hi
      simp only [learn, hc]
      exact ⟨call, hi, rfl, rfl⟩
    | some call =>
      have hcl : (w.learn id answer now).calls =
          w.calls.insert answer.sender { call with answer := some answer.peer } := by
        simp [learn, hc]
      apply sameQuestions_insert hcl
      intro call' hc'
      rw [hc] at hc'
      cases hc'
      exact ⟨rfl, rfl⟩

def Sent (w : Locations) : Prop :=
  ∀ queryId sender, w.registry.pending.lookup queryId = some sender →
    ∃ call, w.calls.lookup sender = some call ∧ call.queryId = queryId

theorem Sent.of_pending (h : Sent w) (hq : SameQuestions w w')
    (hp : ∀ qid sender, w'.registry.pending.lookup qid = some sender →
      w.registry.pending.lookup qid = some sender) : Sent w' := by
  intro qid sender hs
  obtain ⟨call, hc, hid⟩ := h qid sender (hp qid sender hs)
  obtain ⟨call', hc', _, hi'⟩ := hq sender call hc
  exact ⟨call', hc', hi'.trans hid⟩

theorem Sent.step (h : Sent w) (hs : step r w a = some w') : Sent w' := by
  have hq := sameQuestions_step hs
  cases step_cases hs with
  | finished => exact h.of_pending hq fun _ _ hp => (Assoc.lookup_of_erase hp).2
  | began hcl =>
    intro qid sender hsn
    rcases Assoc.lookup_insert_cases hsn with ⟨rfl, rfl⟩ | ⟨_, ho⟩
    · exact ⟨_, AList.lookup_insert _, rfl⟩
    · obtain ⟨c, hc, hid⟩ := h qid sender ho
      obtain ⟨c', hc', _, hi'⟩ := hq sender c hc
      exact ⟨c', hc', hi'.trans hid⟩
  | _ =>
    exact h.of_pending hq fun _ _ hp => hp

theorem AnsweredFor.step (h : AnsweredFor r w ag peer) (hs : step r w a = some w') :
    AnsweredFor r w' ag peer := by
  obtain ⟨bef, after, id, bytes, installed, queryId, named, sender, call, hb, ha, haf, hr⟩ := h
  exact ⟨bef, after, id, bytes, installed, queryId, named, sender, call, hb, ha,
    .next haf trivial hs, hr⟩

structure Genuine (r : PeerControlRelay) (w : Locations) (answer : LocationAnswer) : Prop where
  answered : AnsweredFor r w answer.agent answer.peer
  asked : ∃ call, w.calls.lookup answer.sender = some call ∧ call.agent = answer.agent

theorem Genuine.step (h : Genuine r w answer) (hs : Locations.step r w a = some w') :
    Genuine r w' answer := by
  obtain ⟨call, hc, ha⟩ := h.asked
  obtain ⟨call', hc', ha', _⟩ := sameQuestions_step hs answer.sender call hc
  exact ⟨h.answered.step hs, call', hc', ha'.trans ha⟩

structure Truthful (r : PeerControlRelay) (w : Locations) : Prop where
  sent : Sent w
  genuine : ∀ id answer, w.answers.lookup id = some answer → Genuine r w answer
  authentic : Authentic r w

theorem Truthful.empty (r : PeerControlRelay) : Truthful r .empty where
  sent := by
    intro _ _ h
    cases h
  genuine := by
    intro _ _ h
    cases h
  authentic := by
    intro _ _ h
    cases h

theorem Truthful.genuine_step (h : Truthful r w) (hr : Reach (Locations.step r) always .empty w)
    (ha : Named r w a) (hs : Locations.step r w a = some w') (id : Nat) (answer : LocationAnswer)
    (han : w'.answers.lookup id = some answer) : Genuine r w' answer := by
  cases step_cases hs with
  | @heard installed bytes queryId agent sender _ n _ ho hp =>
    rcases Assoc.lookup_insert_cases han with ⟨_, rfl⟩ | ⟨_, hol⟩
    · obtain ⟨call, hc, hid⟩ := h.sent queryId sender hp
      have hag : call.agent = agent := ha _ ho sender hp call hc
      exact ⟨⟨w, _, n, bytes, installed, queryId, agent, sender, call, hr, hs, .start, ho,
        hp, hc, hid, hag⟩, call, hc, hag⟩
    · exact (h.genuine id answer hol).step hs
  | @learned _ n old hol =>
    rcases Assoc.lookup_insert_cases han with ⟨_, rfl⟩ | ⟨_, hot⟩
    · have hg := (h.genuine n old hol).step hs
      exact ⟨hg.answered, hg.asked⟩
    · exact (h.genuine id answer hot).step hs
  | _ =>
    exact (h.genuine id answer han).step hs

theorem Truthful.authentic_step (h : Truthful r w) (hs : Locations.step r w a = some w') :
    Authentic r w' := by
  intro ag entry he
  cases step_cases hs with
  | forgot => exact (h.authentic ag entry (Assoc.lookup_of_erase he).2).step hs
  | @learned _ n ans ha =>
    rcases LocationState.lookup_of_remember he with ⟨rfl, rfl⟩ | ho
    · exact (h.genuine n ans ha).answered.step hs
    · exact (h.authentic ag entry ho).step hs
  | _ =>
    exact (h.authentic ag entry he).step hs

theorem reach_truthful (h : Reach (step r) (Named r) .empty w) : Truthful r w := by
  apply Reach.invariant (Truthful r) (.empty r) _ h
  intro w a w' hr ih ha hs
  exact ⟨ih.sent.step hs, ih.genuine_step hr.toAlways ha hs, ih.authentic_step hs⟩

theorem Truthful.confined (h : Truthful r w) : Confined r w := by
  intro id now ans call w' ha hc hs ag hne
  obtain ⟨call', hc', hag⟩ := (h.genuine id ans ha).asked
  rw [hc] at hc'
  cases hc'
  cases step_cases hs with
  | learned hf =>
    rw [ha] at hf
    cases hf
    cases he : (w.learn id ans now).registry.cache.lookup ag with
    | none => exact .inr rfl
    | some entry =>
      rcases LocationState.lookup_of_remember he with ⟨heq, _⟩ | ho
      · exact absurd (heq.trans hag.symm) hne
      · exact .inl ho.symm

theorem not_confined_of_misnamed {id : Nat} (ha : w.answers.lookup id = some ans)
    (hn : ans.remembered = false) (hcl : w.calls.lookup ans.sender = some call)
    (hag : ans.agent ≠ call.agent) (hc : w.registry.cache.lookup ans.agent = none)
    (hr : w.registry.order.length < maxCachedLocations) : ¬Confined r w := by
  intro hcn
  have hs : step r w (.remember id 0) = some (w.learn id ans 0) := by
    simp only [step, ha, hn]
    rfl
  have hp : (w.learn id ans 0).registry.cache.lookup ans.agent =
      some ⟨ans.peer, 0⟩ := by
    rw [learn, LocationState.remember_of_room hc hr]
    exact AList.lookup_insert _
  have ho := hcn id 0 ans call _ ha hcl hs ans.agent hag
  rw [hp, hc] at ho
  rcases ho with ho | ho <;> cases ho

/-- As long as each answer to a pending query names the agent of that query, every cached location
was answered to a pending query for its agent, and no answer to a query for one agent gives a
location to another. An answer that names another agent does so, wherever that agent is not cached
and the cache has room. -/
theorem locations_authentic_of_named (r : PeerControlRelay) :
    (∀ w, Reach (step r) (Named r) .empty w → Authentic r w ∧ Confined r w) ∧
    (∀ w id answer call, w.answers.lookup id = some answer → answer.remembered = false →
      w.calls.lookup answer.sender = some call → answer.agent ≠ call.agent →
      w.registry.cache.lookup answer.agent = none →
      w.registry.order.length < maxCachedLocations → ¬Confined r w) := by
  constructor
  · intro w h
    exact ⟨(reach_truthful h).authentic, (reach_truthful h).confined⟩
  · intro w id answer call ha hn hcl hag hc hr
    exact not_confined_of_misnamed ha hn hcl hag hc hr

def answeredQuery (asked named : Bytes) : List LocationAction :=
  [.query 0 asked "q" 100 true, .call 0 .begin, .answer 0 [7] named true]

theorem locations_authentic_sample : ∃ w, Reach (step sampleRelay) (Named sampleRelay) .empty w ∧
    (w.registry.cache.lookup (sampleAgent 1)).any (·.holder == [7]) = true ∧
    Authentic sampleRelay w ∧ Confined sampleRelay w := by
  obtain ⟨w, hn, hw⟩ := exists_reach_of_run (step sampleRelay) (Named sampleRelay) .empty
    (answeredQuery (sampleAgent 1) (sampleAgent 1) ++ [.remember 0 5])
    (fun w => (w.registry.cache.lookup (sampleAgent 1)).any (·.holder == [7])) (by decide +kernel)
  exact ⟨w, hn, hw, (locations_authentic_of_named sampleRelay).1 w hn⟩

theorem sameQuestions_reach (h : Reach (step r) ok w w') : SameQuestions w w' := by
  induction h with
  | start => exact .refl w
  | next _ _ hs ih =>
    intro id call hc
    obtain ⟨mid, hm, ha, hid⟩ := ih id call hc
    obtain ⟨last, hl, ha', hi'⟩ := sameQuestions_step hs id mid hm
    exact ⟨last, hl, ha'.trans ha, hi'.trans hid⟩

theorem not_answeredFor (h : ∀ id call, w.calls.lookup id = some call → call.agent ≠ ag) :
    ¬AnsweredFor r w ag peer := by
  rintro ⟨bef, after, id, bytes, installed, queryId, named, sender, call, _, hs, ha, _, _,
    hc, _, hag⟩
  obtain ⟨mid, hmd, hm, _⟩ := sameQuestions_step hs sender call hc
  obtain ⟨last, hls, hl, _⟩ := sameQuestions_reach ha sender mid hmd
  exact h sender last hls (hl.trans (hm.trans hag))

/-- A scheduler answers the query for one agent with the name of another, for which nobody asked,
and its location is cached. -/
theorem answer_plants_other_location : ∃ w w',
    Reach (step sampleRelay) always .empty w ∧ ¬Confined sampleRelay w ∧
    Reach (step sampleRelay) always w w' ∧ ¬Authentic sampleRelay w' := by
  obtain ⟨w, hr, ⟨ans, han, hnw, hn, call, hca, has⟩, hc, ho, w', hs, he, hcl⟩ :=
    exists_reach_of_run (step sampleRelay) always .empty
      (answeredQuery (sampleAgent 1) (sampleAgent 2))
      (fun w => (∃ ans, w.answers.lookup 0 = some ans ∧ ans.remembered = false ∧
          ans.agent = sampleAgent 2 ∧
          ∃ call, w.calls.lookup ans.sender = some call ∧ call.agent = sampleAgent 1) ∧
        w.registry.cache.lookup (sampleAgent 2) = none ∧ w.registry.order = [] ∧
        ∃ w', step sampleRelay w (.remember 0 5) = some w' ∧
          (w'.registry.cache.lookup (sampleAgent 2)).isSome ∧
          ∀ e ∈ w'.calls.entries, e.2.agent ≠ sampleAgent 2) (by decide +kernel)
  obtain ⟨entry, he⟩ := Option.isSome_iff_exists.1 he
  refine ⟨w, w', hr, ?_, .next .start trivial hs, ?_⟩
  · apply not_confined_of_misnamed han hnw hca
    · rw [hn, has]
      decide
    · rw [hn, hc]
    · rw [ho]
      decide
  · intro ha
    have hl : ∀ id call, w'.calls.lookup id = some call → call.agent ≠ sampleAgent 2 :=
      Assoc.forall_lookup.2 hcl
    exact not_answeredFor hl (ha _ entry he)

end Locations
end Podmesh
