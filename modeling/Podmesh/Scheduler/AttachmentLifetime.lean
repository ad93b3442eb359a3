import Podmesh.Scheduler.Attachments

namespace Podmesh

/-- A call stands for the session that it registered and nobody removed. -/
def AcceptOnce.guard (call : AcceptOnce) : Option (Bytes × AttachmentSession) :=
  call.phase.standing.map fun session => (call.remoteId, session)

theorem AttachmentManager.attached_of_register {m : AttachmentManager} {sessions : AttachedSessions}
    (h : m.register sessions eid ses =
      .error "agent already has an active scheduler attachment") :
    ∃ s, sessions.lookup eid = some s := by
  cases hs : sessions.lookup eid with
  | some s => exact ⟨s, rfl⟩
  | none =>
    -- the other refusal has a text of its own
    simp only [register, hs, Option.isNone_none, ensure, if_true, bind, Except.bind] at h
    by_cases hl : Assoc.size sessions < m.maxAttachedAgents
    · simp [hl, pure, Except.pure] at h
    · simp [hl] at h

namespace AcceptPhase

variable {phase : AcceptPhase} {standing : AttachmentSession}

theorem session_of_standing (h : phase.standing = some standing) :
    phase.session = some standing := by
  unfold AcceptPhase.standing at h
  split at h
  · cases h
  · exact h

theorem failed_of_standing (h : phase.standing = some standing) (he : phase.ended = true) :
    phase.failed = true := by
  cases phase with
  | returned registered res =>
    cases res with
    | ok _ => cases h
    | error e =>
      cases h
      rfl
  | _ => cases he

end AcceptPhase

namespace Attachments
variable {m : AttachmentManager} {w w' : Attachments} {a : AttachmentAction}

/-- The map holds exactly the standing sessions of the calls, under generations of their own. -/
structure Tracked (w : Attachments) : Prop where
  exclusive : Exclusive AcceptOnce.guard w.calls w.sessions
  distinct : ∀ i j call call' session session', w.calls.lookup i = some call →
    w.calls.lookup j = some call' → call.phase.session = some session →
    call'.phase.session = some session' → session.generation = session'.generation → i = j

theorem Tracked.empty : Tracked .empty where
  exclusive := .empty _
  distinct := by
    intro _ _ _ _ _ _ h
    cases h

theorem mem_generations (hc : w.calls.lookup i = some call)
    (hs : call.phase.session = some ses) : ses.generation ∈ w.generations := by
  have hm := AList.mem_lookup_iff.1 hc
  exact List.mem_filterMap.2 ⟨_, hm, by rw [hs]; rfl⟩

section
variable (h : Tracked w)
include h

theorem Tracked.distinct_insert (hcl : ∀ ses, call.phase.session = some ses →
      (∃ old, w.calls.lookup i = some old ∧ old.phase.session = some ses) ∨
        ses.generation ∉ w.generations) :
    ∀ j k c d s t, (w.calls.insert i call).lookup j = some c →
      (w.calls.insert i call).lookup k = some d → c.phase.session = some s →
      d.phase.session = some t → s.generation = t.generation → j = k := by
  have hc : ∀ j c s, w.calls.lookup j = some c → c.phase.session = some s →
      ∀ t, call.phase.session = some t → s.generation = t.generation → j = i := by
    intro j c s hj hs t ht he
    rcases hcl t ht with ⟨old, ho, holds⟩ | hf
    · exact h.distinct j i c old s t hj ho hs holds he
    · rw [← he] at hf
      exact absurd (mem_generations hj hs) hf
  intro j k c d s t hj hk hs ht he
  rcases Assoc.lookup_insert_cases hj with ⟨rfl, rfl⟩ | ⟨_, hj'⟩ <;>
    rcases Assoc.lookup_insert_cases hk with ⟨rfl, rfl⟩ | ⟨_, hk'⟩
  · rfl
  · exact (hc k d t hk' ht s hs he.symm).symm
  · exact hc j c s hj' hs t ht he
  · exact h.distinct j k c d s t hj' hk' hs ht he

theorem Tracked.held (hc : w.calls.lookup i = some call) (hs : call.phase.standing = some session) :
    w.sessions.lookup call.remoteId = some session := by
  apply h.exclusive.held i call _ _ hc
  rw [AcceptOnce.guard, hs]
  rfl

theorem Tracked.owned (hs : w.sessions.lookup e = some session) :
    ∃ i call, w.calls.lookup i = some call ∧ call.remoteId = e ∧
      call.phase.standing = some session := by
  obtain ⟨i, call, hc, hg⟩ := h.exclusive.owned e session hs
  obtain ⟨s, hst, he⟩ := Option.map_eq_some_iff.1 hg
  cases he
  exact ⟨i, call, hc, rfl, hst⟩

theorem Tracked.remove_eq (hc : w.calls.lookup i = some call)
    (hp : call.phase = .removing session) :
    AttachmentManager.remove w.sessions call.remoteId session.generation =
      w.sessions.erase call.remoteId := by
  have hh : w.sessions.lookup call.remoteId = some session := h.held hc (by rw [hp]; rfl)
  simp [AttachmentManager.remove, hh]

theorem Tracked.step (hf : FreshGeneration w a) (hs : step m w a = some w') : Tracked w' := by
  cases step_cases hs with
  | moved hc hss hst =>
    constructor
    · apply h.exclusive.replace hc
      simp [AcceptOnce.guard, hst]
    · apply h.distinct_insert
      intro s hs
      exact .inl ⟨_, hc, hss ▸ hs⟩
  | accepted hn =>
    constructor
    · apply h.exclusive.idle
      · intro old ho
        rw [hn] at ho
        cases ho
      · rfl
    · apply h.distinct_insert
      intro s hs
      cases hs
  | registered hc hp hfr =>
    constructor
    · apply h.exclusive.acquire _ hfr rfl
      intro old ho
      rw [hc] at ho
      cases ho
      rw [AcceptOnce.guard, hp]
      rfl
    · apply h.distinct_insert
      intro s hs
      cases hs
      exact .inr hf
  | @removed _ ses _ hc hp =>
    constructor
    · rw [h.remove_eq hc hp]
      apply h.exclusive.yield hc _ rfl
      · exact ses
      · rw [AcceptOnce.guard, hp]
        rfl
    · apply h.distinct_insert
      intro s hs
      cases hs
      exact .inl ⟨_, hc, by rw [hp]; rfl⟩

end

theorem reach_tracked (h : Reach (Attachments.step m) FreshGeneration .empty w) : Tracked w := by
  apply Reach.invariant Tracked Tracked.empty _ h
  intro w a w' _ ih ha hs
  exact ih.step ha hs

structure Lifetime (m : AttachmentManager) (w : Attachments) : Prop where
  /-- The session of a call that returned is gone. -/
  gone : ∀ id call session result, w.calls.lookup id = some call →
    call.phase = .returned (some session) result →
    ∀ e s, w.sessions.lookup e = some s → s.generation ≠ session.generation
  /-- A session disappears only in a step of the call that registered it. -/
  kept : ∀ a w', FreshGeneration w a → step m w a = some w' → ∀ e s,
    w.sessions.lookup e = some s → w'.sessions.lookup e ≠ some s →
    ∃ call, w.calls.lookup a.id = some call ∧ call.remoteId = e ∧ call.phase.session = some s
  /-- An agent whose earlier attempts have ended is not taken for attached. -/
  readmitted : ∀ id call agentAddr generation, w.calls.lookup id = some call →
    call.phase = .registering agentAddr →
    (∀ other call', w.calls.lookup other = some call' → call'.remoteId = call.remoteId →
      call'.phase.session.isSome = true → call'.phase.ended = true) →
    m.register w.sessions call.remoteId ⟨generation, call.connection, agentAddr⟩ ≠
      .error "agent already has an active scheduler attachment"

theorem Tracked.kept (h : Tracked w) (hs : Attachments.step m w a = some w')
    (ho : w.sessions.lookup e = some s) (hn : w'.sessions.lookup e ≠ some s) :
    ∃ call, w.calls.lookup a.id = some call ∧ call.remoteId = e ∧ call.phase.session = some s := by
  cases step_cases hs with
  | moved | accepted => exact absurd ho hn
  | @registered call _ _ _ hc hp hf =>
    have hne : e ≠ call.remoteId := by
      rintro rfl
      rw [hf] at ho
      cases ho
    exact absurd ((AList.lookup_insert_ne hne).trans ho) hn
  | @removed call session _ hc hp =>
    rw [h.remove_eq hc hp] at hn
    by_cases he : e = call.remoteId
    · subst he
      have hh : w.sessions.lookup call.remoteId = some session :=
        h.held hc (by rw [hp]; rfl)
      rw [hh] at ho
      cases ho
      exact ⟨call, hc, rfl, by rw [hp]; rfl⟩
    · exact absurd ((AList.lookup_erase_ne he).trans ho) hn

def Delivered (w : Attachments) : Prop :=
  ∀ id call, w.calls.lookup id = some call → call.phase.failed = false

theorem Tracked.lifetime (h : Tracked w) (hd : Delivered w) : Lifetime m w where
  gone := by
    intro id call ses res hc hp e s hs he
    obtain ⟨i, call', hc', _, hst⟩ := h.owned hs
    -- the map entry belongs to the returned call itself, which then must have failed
    have hi : i = id := h.distinct i id call' call s ses hc' hc
      (AcceptPhase.session_of_standing hst) (by rw [hp]; rfl) he
    subst hi
    rw [hc] at hc'
    cases hc'
    have hf := AcceptPhase.failed_of_standing hst (by rw [hp]; rfl)
    rw [hd i call hc] at hf
    cases hf
  kept := by
    intro a w' _ hs e s ho hn
    exact h.kept hs ho hn
  readmitted := by
    intro id call agentAddr gen hc hp hen hr
    obtain ⟨s, hs⟩ := AttachmentManager.attached_of_register hr
    obtain ⟨i, call', hc', hrm, hst⟩ := h.owned hs
    have hss := AcceptPhase.session_of_standing hst
    have hed := hen i call' hc' hrm (by rw [hss]; rfl)
    have hf := AcceptPhase.failed_of_standing hst hed
    rw [hd i call' hc'] at hf
    cases hf

theorem Tracked.not_lifetime (h : Tracked w) (hc : w.calls.lookup i = some call)
    (hf : call.phase.failed = true) : ¬ Lifetime m w := by
  intro hl
  cases hph : call.phase with
  | returned registered res =>
    rw [hph] at hf
    unfold AcceptPhase.failed at hf
    split at hf
    · next session e hp =>
      cases hp
      have hh : w.sessions.lookup call.remoteId = some session :=
        h.held hc (by rw [hph]; rfl)
      exact hl.gone i call session _ hc hph _ session hh rfl
    · cases hf
  | _ =>
    rw [hph] at hf
    cases hf

theorem Delivered.step (h : Delivered w) (hd : Delivers m w a)
    (hs : Attachments.step m w a = some w') : Delivered w' := by
  have hi : ∀ i call, call.phase.failed = false → ∀ id call',
      (w.calls.insert i call).lookup id = some call' → call'.phase.failed = false := by
    intro i call hf id call' hc'
    rcases Assoc.lookup_insert_cases hc' with ⟨_, rfl⟩ | ⟨_, ho⟩
    · exact hf
    · exact h id call' ho
  cases step_cases hs with
  | moved _ _ _ hif => exact hi _ _ (hif.1 hd)
  | _ => exact hi _ _ rfl

theorem failed_of_not_delivers (hd : ¬ Delivers m w a) (hs : Attachments.step m w a = some w') :
    ∃ call, w'.calls.lookup a.id = some call ∧ call.phase.failed = true := by
  cases step_cases hs with
  | moved _ _ _ hi =>
    rw [hi] at hd
    exact ⟨_, AList.lookup_insert _, Bool.eq_true_of_not_eq_false hd⟩
  | _ => exact absurd trivial hd

/-- The attachment map keeps its promise in every state of a run exactly as long as every call that
registered also gets its acknowledgement across; a session that is not kept is removed by its own
call in every run. -/
theorem attachment_lifetime_iff (m : AttachmentManager) :
    (∀ w, Reach (step m) (fun w a => FreshGeneration w a ∧ Delivers m w a) .empty w →
      Lifetime m w) ∧
    (∀ w a w', Reach (step m) FreshGeneration .empty w → FreshGeneration w a →
      step m w a = some w' → ¬ Delivers m w a → ¬ Lifetime m w') ∧
    (∀ w a w' e s, Reach (step m) FreshGeneration .empty w → step m w a = some w' →
      w.sessions.lookup e = some s → w'.sessions.lookup e ≠ some s →
      ∃ call, w.calls.lookup a.id = some call ∧ call.remoteId = e ∧
        call.phase.session = some s) := by
  refine ⟨?_, ?_, ?_⟩
  · intro w h
    have ht : Tracked w := reach_tracked (h.mono fun _ _ ha => ha.1)
    have hd : Delivered w := by
      apply Reach.invariant Delivered _ _ h
      · intro id call hc
        cases hc
      · intro w a w' _ ih ha hs
        exact ih.step ha.2 hs
    exact ht.lifetime hd
  · intro w a w' h hfr hs hdl
    obtain ⟨call, hc, hf⟩ := failed_of_not_delivers hdl hs
    exact (reach_tracked (.next h hfr hs)).not_lifetime hc hf
  · intro w a w' e s h hs ho hn
    exact (reach_tracked h).kept hs ho hn

def sampleManager : AttachmentManager where
  maxAttachedAgents := 4
  relayIssuer := none
  helloFromBytes bytes _ := .ok {
    version := 1, endpointId := bytes, relayUrl := none, directAddresses := [], signingPubkey := ""
    issuedAtSecs := 0, expiresAtSecs := 0, signature := "" }
  endpointAddr _ _ := .ok "agent"
  encodeAck _ := .ok [1]

def attachAttempt (id : Nat) (generation : String) : List AttachmentAction :=
  [.accept id [7] id, .hello id (.ok [7]) 100 100, .register id generation,
    .acknowledge id 100 100]

/-- An attempt that runs to its end leaves no session, so that the next one is let in. -/
theorem attachment_lifetime_sample : ∃ w, Reach (step sampleManager)
      (fun w a => FreshGeneration w a ∧ Delivers sampleManager w a) .empty w ∧
    (w.calls.lookup 0).any (·.phase.ended) = true ∧
    (w.calls.lookup 1).any (fun call => call.phase.session.isSome && !call.phase.ended) = true ∧
    Lifetime sampleManager w := by
  obtain ⟨w, hr, hf, hs⟩ := exists_reach_of_run (step sampleManager)
    (fun w a => FreshGeneration w a ∧ Delivers sampleManager w a) .empty
    (attachAttempt 0 "g0" ++ [.write 0 (.ok ()) (.ok ()), .close 0, .remove 0] ++
      attachAttempt 1 "g1")
    (fun w => (w.calls.lookup 0).any (·.phase.ended) ∧
      (w.calls.lookup 1).any fun call => call.phase.session.isSome && !call.phase.ended) (by decide)
  exact ⟨w, hr, hf, hs, (attachment_lifetime_iff sampleManager).1 w hr⟩

/-- The stream of an agent breaks before its acknowledgement is written; the agent connects again
and is refused, although no call of it is running. -/
theorem failed_attachment_blocks_agent : ∃ w, Reach (step sampleManager) FreshGeneration .empty w ∧
    (w.calls.lookup 0).any (·.phase.failed) = true ∧
    (w.sessions.lookup [7]).any (·.generation == "g0") = true ∧
    (w.calls.lookup 1).any (fun call => match call.phase with
      | .returned none (.error e) => e == "agent already has an active scheduler attachment"
      | _ => false) = true :=
  exists_reach_of_run _ _ _
    (attachAttempt 0 "g0" ++ [.write 0 (.error "write agent attachment acknowledgement") (.ok ())] ++
      (attachAttempt 1 "g1").take 3) _ (by decide)

end Attachments
end Podmesh
