import Podmesh.Agent.Invariant

namespace Podmesh

variable {h : Host} {i : Input} {n : Node}

theorem Store.Change.survives {s s' : Store} (hc : s.Change s')
    (hb : s'.enrollments.lookup k = some b) :
    s.enrollments.lookup k = some b ∧
      (s'.workloads.lookup k = none → s.workloads.lookup k = none) := by
  cases hc with
  | same => exact ⟨hb, id⟩
  | saved w =>
    refine ⟨hb, fun hn => ?_⟩
    by_cases hk : k = w.grant.workloadId
    · subst hk
      rw [Store.save, AList.lookup_insert] at hn
      cases hn
    · rwa [Store.save, AList.lookup_insert_ne hk] at hn
  | removed wid =>
    obtain ⟨hne, hb⟩ := Assoc.lookup_of_erase hb
    refine ⟨hb, fun hn => ?_⟩
    rwa [Store.remove, AList.lookup_erase_ne hne] at hn
  | unbound wid => exact ⟨(Assoc.lookup_of_erase hb).2, id⟩

def Host.binding (h : Host) (stored : StoredWorkload) (encoded : Bytes) (report : ConnectorReport) :
    EnrollmentBinding :=
  ⟨stored.grant.workloadId, h.platform.blake3Hex [encoded], report.endpointId,
    report.signingPublicKeyB64⟩

theorem saveBinding_store (n : Node) (i : Input) (binding : EnrollmentBinding)
    (existing : Option EnrollmentBinding) :
    (if existing = some binding then (n, .ok ())
        else n.write i (·.saveEnrollment binding)).1.store = n.store ∨
      (if existing = some binding then (n, .ok ())
        else n.write i (·.saveEnrollment binding)).1.store = n.store.saveEnrollment binding := by
  split
  · exact .inl rfl
  · unfold Node.write
    split
    · exact .inr rfl
    · exact .inl rfl

theorem enrollInspect_store (h : Host) (i : Input) (n : Node) (st : StoredWorkload)
    (del : EnrollmentDelegation) :
    (enrollInspect h i n st del).1.store = n.store ∨ ∃ report encoded,
      i.report = .ok report ∧ h.platform.encodeDelegation del = .ok encoded ∧
        (enrollInspect h i n st del).1.store =
          n.store.saveEnrollment (h.binding st encoded report) := by
  unfold enrollInspect
  dsimp only
  split
  · exact .inl rfl
  · next report digest hc =>
    simp only [bind_ok, pure, Except.pure, Except.ok.injEq, Prod.mk.injEq] at hc
    obtain ⟨told, hr, encoded, he, _, _, rfl, rfl⟩ := hc
    split
    · exact .inl rfl
    · have hsv := saveBinding_store n i (h.binding st encoded told)
        (n.store.enrollments.lookup st.grant.workloadId)
      split
      · exact hsv.imp_right fun hs => ⟨told, encoded, hr, he, hs⟩
      · split <;> exact hsv.imp_right fun hs => ⟨told, encoded, hr, he, hs⟩

end Podmesh
