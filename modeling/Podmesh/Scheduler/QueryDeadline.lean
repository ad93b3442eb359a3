import Podmesh.Scheduler.BestFit

namespace Podmesh

namespace QueryState

variable {s : QueryState}

theorem lookup_dropped {l : List (Sigma fun _ : String => PendingQuery)}
    (h : qid ∈ l.keys ∨ s.pending.lookup qid = none) :
    (l.foldl (fun state e => state.drop e.1 e.2.criteria) s).pending.lookup qid = none := by
  induction l generalizing s with
  | nil => simpa using h
  | cons e l ih =>
    apply ih
    by_cases he : qid = e.1
    · subst he
      exact .inr (AList.lookup_erase _ _)
    · rcases h with h | h
      · exact .inl ((List.mem_cons.1 h).resolve_left he)
      · exact .inr ((AList.lookup_erase_ne he).trans h)

theorem not_overdue_of_cleanup (hi : s.Indexed)
    (h : (s.cleanupLocked nowSecs).pending.lookup qid = some q) : q.overdue nowSecs = false :=
      by
  by_contra ho
  have hm := AList.mem_lookup_iff.1 ((hi.cleanup nowSecs).old qid q h)
  have he : (⟨qid, q⟩ : Sigma fun _ : String => PendingQuery) ∈
      s.pending.entries.filter fun e => e.2.overdue nowSecs :=
    List.mem_filter.2 ⟨hm, by simpa using ho⟩
  have hd := lookup_dropped (s := s) (.inl (List.mem_keys_of_mem he))
  rw [cleanupLocked, hd] at h
  cases h

/-- Only the first check of an offer is about the deadline. -/
theorem checkOffer_late_iff (q : PendingQuery) (offer : CapacityOffer) (ep : Bytes) :
    checkOffer q offer ep nowSecs = .error "capacity offer arrived after query deadline" ↔
      q.query.expiresAtSecs.toNat < nowSecs.toNat := by
  rw [checkOffer, ← Nat.not_le, ← decide_eq_false_iff_not]
  generalize decide (q.query.expiresAtSecs.toNat ≥ nowSecs.toNat) = inTime
  generalize (!q.criteria.excludedEndpointIds.contains ep) = included
  generalize (_ && _ && _ : Bool) = enough
  generalize List.all _ _ = capable
  cases inTime <;> cases included <;> cases enough <;> cases capable <;>
    simp [ensure, bind, Except.bind]

theorem submitOffer_late_iff (hq : s.pending.lookup offer.queryId = some q)
    (hk : q.overdue nowSecs = false) (hs : checkSender p offer ep nowSecs = .ok ()) :
    (s.submitOffer p limits offer ep nowSecs).1 =
        .error "capacity offer arrived after query deadline" ↔
      q.query.expiresAtSecs.toNat < nowSecs.toNat := by
  rw [← checkOffer_late_iff q offer ep]
  simp only [submitOffer, hs, recordOffer, lookup_cleanup hq hk]
  cases checkOffer q offer ep nowSecs with
  | error e => simp
  | ok _ =>
    dsimp only
    split
    · simp
    · split <;> simp

theorem openQuery_pending (h : s.openQuery p limits c crit tgt = (.ok begun, state)) :
    ∃ q, state.pending.lookup begun.query.queryId = some q ∧ begun.newlyCreated = true ∧
      c.nowSecs.toNat ≤ q.query.expiresAtSecs.toNat := by
  rw [openQuery] at h
  split at h
  · cases h
  split at h
  · cases h
  next query hq =>
    cases h
    refine ⟨_, AList.lookup_insert _, rfl, ?_⟩
    obtain ⟨_, _, hs⟩ := bind_ok.1 hq
    obtain ⟨_, _, rfl⟩ := CapacityQuery.sign_ok hs
    have hn := c.nowSecs.toNat_lt
    rw [UInt64.toNat_ofNat', saturatingAdd, u64Max]
    omega

/-- The query that `begin` returns is pending. Its deadline may have passed by one second if the
call joined it. -/
theorem begin_pending (h : s.begin p limits c = (.ok begun, state)) (hi : s.Indexed)
    (hn : ∀ qid q, s.pending.lookup qid = some q → q.query.queryId = qid) :
    ∃ q, state.pending.lookup begun.query.queryId = some q ∧ q.overdue c.nowSecs = false ∧
      (q.query.expiresAtSecs.toNat < c.nowSecs.toNat ↔
        begun.newlyCreated = false ∧ begun.query.expiresAtSecs.toNat + 1 = c.nowSecs.toNat) := by
  have ho {crit tgt} (h : (s.cleanupLocked c.nowSecs).openQuery p limits c crit
      tgt = (.ok begun, state)) : ∃ q, state.pending.lookup begun.query.queryId = some q ∧
        q.overdue c.nowSecs = false ∧ (q.query.expiresAtSecs.toNat < c.nowSecs.toNat ↔
          begun.newlyCreated = false ∧ begun.query.expiresAtSecs.toNat + 1 = c.nowSecs.toNat) := by
    obtain ⟨q, hq, hnw, hop⟩ := openQuery_pending h
    have hm := c.nowSecs.toNat_lt
    refine ⟨q, hq, ?_, by simp [hnw, hop]⟩
    rw [PendingQuery.overdue, decide_eq_false_iff_not, saturatingAdd, u64Max]
    omega
  rw [QueryState.begin] at h
  split at h
  · cases h
  rw [joinQuery] at h
  split at h
  · exact ho h
  split at h
  · exact ho h
  rename_i qid _ _ q hq
  · cases h
    have hk := not_overdue_of_cleanup hi hq
    have hid := hn qid q ((hi.cleanup c.nowSecs).old qid q hq)
    subst hid
    refine ⟨_, AList.lookup_insert _, hk, ?_⟩
    rw [PendingQuery.overdue, decide_eq_false_iff_not, saturatingAdd, u64Max] at hk
    simp only [true_and]
    omega

end QueryState

namespace Placement

def lateBegin : BeginCall := { sampleBegin with nowSecs := 111, queryId := "second" }

def lateOffer : CapacityOffer :=
  { sampleOffer with issuedAtSecs := 111, expiresAtSecs := 120, agentEndpoint :=
    { sampleEndpoint 2 with issuedAtSecs := 111, expiresAtSecs := 120 } }

/-- A query is opened at second 100 for ten seconds; a caller at second 111 joins it. -/
def joinedLate : Except String BegunQuery × QueryState :=
  (QueryState.empty.begin samplePlatform sampleLimits sampleBegin).2.begin samplePlatform
    sampleLimits lateBegin

end Placement
end Podmesh
