import Podmesh.Podctl.Reference
import Podmesh.Podctl.Sections

namespace Podmesh

namespace Podctl

open Locked

variable {c : Client} {i : Input}

namespace ListEntry

def complete (c : Client) (request : WorkloadListRequest) (entry : ListEntry) : Bool :=
  match entry.decoded with
  | .ok (.ok response) => (response.verify c.platform).isOk
      && response.requestId == request.requestId
      && hexEncode response.agentEndpoint.endpointId == entry.agentEndpointId
  | _ => false

def ignored (c : Client) (entry : ListEntry) : Bool :=
  match entry.decoded with
  | .ok (.ok response) => !(response.verify c.platform).isOk
  | .ok (.error _) => true
  | .error _ => false

theorem ignored_of_complete {entry : ListEntry} (h : entry.complete c req = true) :
    entry.ignored c = false := by
  unfold complete at h
  split at h
  · next resp hd =>
    simp only [Bool.and_eq_true] at h
    simp [ignored, hd, h.1.1]
  · cases h

theorem complete_of_read (h : c.recoverEntry catalogs req r entry = .ok r')
    (hi : entry.ignored c = false) : entry.complete c req = true := by
  obtain ⟨decrypted, hd, h⟩ := bind_ok.1 h
  cases decrypted with
  | error e => simp [ignored, hd] at hi
  | ok resp =>
    have hv : (resp.verify c.platform).isOk = true := by
      simpa [ignored, hd] using hi
    dsimp only at h
    rw [if_pos hv] at h
    obtain ⟨hr, h⟩ := unit_bind_ok.1 h
    obtain ⟨he, _⟩ := unit_bind_ok.1 h
    simp [complete, hd, hv, ensure_ok.1 hr, ensure_ok.1 he]

end ListEntry

theorem reconcileWorkloads_reads :
    Keeps (fun _ => True) (fun _ => True) (c.reconcileWorkloads i req reply) fun _ _ =>
      ∀ entry ∈ reply.answered, entry.ignored c = false → entry.complete c req = true := by
  refine .get_bind fun o _ _ => .lift_bind fun r hr => ?_
  have hrd : ∀ entry ∈ reply.answered, entry.ignored c = false →
      entry.complete c req = true := by
    intro entry he hi
    obtain ⟨x, y, hxy⟩ := foldlM_ok_mem hr he
    exact ListEntry.complete_of_read hxy hi
  refine Keeps.mono (Keeps.forM fun catalog _ o _ _ => ?_) (fun _ _ _ => trivial)
    fun _ _ _ _ => hrd
  exact ⟨trivial, fun _ _ => trivial⟩

def Policy.keeping (deploymentId : String) : Policy where
  trust _ := True
  may _ _ := True
  kept k := k = deploymentId
  readies := True

theorem Policy.keeping_within {o : Owner} (h : deploymentId ∈ o.catalogs) :
    o.Within (.keeping deploymentId) where
  catalogs _ _ _ _ _ := trivial
  seals _ _ := ⟨"", trivial⟩
  kept _ hk := hk ▸ h

theorem afterListing_fresh (intent : Intent) (req : WorkloadListRequest) (reply : ListReply) :
    Keeps (fun _ => True) (fun _ => True) (c.afterListing i (some intent) req (.ok reply))
      fun _ o => c.deploymentId intent.workloadName ∉ o.catalogs → reply.isPartial = false ∧
        ∀ entry ∈ reply.answered, entry.ignored c = false → entry.complete c req = true := by
  refine .lift_bind fun r hr => ?_
  cases hr
  refine reconcileWorkloads_reads.bind fun _ => ?_
  refine .get_bind fun o _ hrd => .lift_bind fun existing he => .lift_bind fun _ hc => ?_
  intro o' _ ho
  subst ho
  refine ⟨trivial, fun next _ hf => ⟨?_, hrd⟩⟩
  have hl := (loadIfExists_ok he).1
  cases existing with
  | none => simpa using ensure_ok.1 hc
  | some catalog =>
    -- a catalog that was there is still there
    have hm : c.deploymentId intent.workloadName ∈ o'.catalogs :=
      AList.lookup_isSome.1 (by rw [← hl]; rfl)
    have hk : Stays (.keeping (c.deploymentId intent.workloadName))
        (c.continueApply i intent (some catalog)) (Next.Within _) :=
      continueApply_stays trivial fun _ _ _ _ => trivial
    exact absurd ((hk o' (Policy.keeping_within hm) trivial).1.kept _ rfl) hf

/-- For every key directory and every reply of a scheduler: a run that goes on without a catalog for
its deployment was told of no unreachable agent or scheduler, and then every listed agent gave an
answer that decrypts, verifies and matches the request exactly if no answer was ignored. -/
theorem fresh_deployment_complete_iff {s s' : Session} {intent : Intent}
    {reply : Except String ListReply} (hrun : s.run = some (.listing (some intent) request))
    (h : s.step c (.answer (.listed reply) i) = some s') (hgoes : s'.run = some stage)
    (hfresh : c.deploymentId intent.workloadName ∉ s'.owner.catalogs) :
    ∃ r, reply = .ok r ∧ r.unreachableAgents = [] ∧ r.unreachableSchedulers = [] ∧
      ((∀ entry ∈ r.answered, entry.complete c request = true) ↔
        ∀ entry ∈ r.answered, entry.ignored c = false) := by
  simp only [Session.step, hrun, Option.bind_some, Client.resume, Option.map_some,
    Option.some.injEq] at h
  cases reply with
  | error e =>
    have her : (c.afterListing i (some intent) request (.error e)).exec s.owner =
        (.error e, s.owner) := exec_bind_error _ (exec_liftExcept _ _)
    rw [Session.advance, her] at h
    rw [← h] at hgoes
    cases hgoes
  | ok r =>
    have ha := (afterListing_fresh (c := c) (i := i) intent request r s.owner trivial trivial).2
    unfold Session.advance at h
    split at h
    · next next owner hex =>
      rw [hex] at ha
      rw [← h] at hfresh
      obtain ⟨hc, hr⟩ := ha _ rfl hfresh
      simp only [ListReply.isPartial, Bool.or_eq_false_iff, Bool.not_eq_false',
        List.isEmpty_iff] at hc
      refine ⟨r, rfl, hc.1, hc.2, fun hal entry he => ?_, fun hal entry he => ?_⟩
      · exact ListEntry.ignored_of_complete (hal entry he)
      · exact hr entry he (hal entry he)
    · rw [← h] at hgoes
      cases hgoes
    · rw [← h] at hgoes
      cases hgoes

end Podctl

namespace Reference
open Podctl

def unreadable : ListEntry := ⟨hexEncode (key 5), .ok (.error "decrypt")⟩

def goesOn (answered : List ListEntry) (s : Session) : Bool :=
  match s.run with
  | some (.listing (some intent) _) =>
    (s.step client (.answer (.listed (.ok ⟨answered, [], []⟩)) (podctlInput "next"))).any fun s' =>
      s'.run.isSome && (s'.owner.catalogs.lookup (client.deploymentId intent.workloadName)).isNone
  | _ => false

theorem of_goesOn (h : goesOn answered s = true) :
    ∃ s' intent request stage, s.run = some (.listing (some intent) request) ∧
      s.step client (.answer (.listed (.ok ⟨answered, [], []⟩)) (podctlInput "next")) = some s' ∧
      s'.run = some stage ∧ client.deploymentId intent.workloadName ∉ s'.owner.catalogs := by
  unfold goesOn at h
  split at h
  · next intent request hr =>
    obtain ⟨s', hst, hs'⟩ := (Option.any_eq_true _ _).1 h
    obtain ⟨hsm, hn⟩ := Bool.and_eq_true_iff.1 hs'
    obtain ⟨stage, hs⟩ := Option.isSome_iff_exists.1 hsm
    exact ⟨s', intent, request, stage, hr, hst, hs,
      AList.lookup_eq_none.1 (Option.isNone_iff_eq_none.1 hn)⟩
  · cases h

end Reference

namespace Podctl
open Reference

theorem fresh_deployment_complete_iff_sample :
    ∃ s s' intent request stage, Reach (Session.step client) always .fresh s ∧
      s.run = some (.listing (some intent) request) ∧
      s.step client (.answer (.listed (.ok ⟨[listEntry 9 "list" []], [], []⟩)) (podctlInput "next")) =
        some s' ∧ s'.run = some stage ∧
      client.deploymentId intent.workloadName ∉ s'.owner.catalogs ∧
      ((∀ entry ∈ [listEntry 9 "list" []], entry.complete client request = true) ↔
        ∀ entry ∈ [listEntry 9 "list" []], entry.ignored client = false) := by
  obtain ⟨s, hr, hg⟩ := exists_reach_of_run (Session.step client) always .fresh
    [.apply ⟨utf8Bytes "Pod/a\n", false⟩ (podctlInput "list")]
    (goesOn [listEntry 9 "list" []] · = true) (by decide +kernel)
  obtain ⟨s', intent, request, stage, hrn, hst, hs, hf⟩ := of_goesOn hg
  obtain ⟨r, hok, _, _, hi⟩ := fresh_deployment_complete_iff hrn hst hs hf
  cases hok
  exact ⟨s, s', intent, request, stage, hr, hrn, hst, hs, hf, hi⟩

/-- An agent whose answer cannot be decrypted is left out, and the deployment starts. -/
theorem unreadable_answer_starts_deployment :
    ∃ s s' intent request stage, Reach (Session.step client) always .fresh s ∧
      s.run = some (.listing (some intent) request) ∧
      s.step client (.answer (.listed (.ok ⟨[unreadable], [], []⟩)) (podctlInput "next")) = some s' ∧
      s'.run = some stage ∧ client.deploymentId intent.workloadName ∉ s'.owner.catalogs ∧
      ¬∀ entry ∈ [unreadable], entry.complete client request = true := by
  obtain ⟨s, hr, hg⟩ := exists_reach_of_run (Session.step client) always .fresh
    [.apply ⟨utf8Bytes "Pod/a\n", false⟩ (podctlInput "list")] (goesOn [unreadable] · = true)
    (by decide +kernel)
  obtain ⟨s', intent, request, stage, hrn, hst, hs, hf⟩ := of_goesOn hg
  refine ⟨s, s', intent, request, stage, hr, hrn, hst, hs, hf, fun ha => ?_⟩
  have hc := ha unreadable (List.mem_singleton.2 rfl)
  simp [ListEntry.complete, unreadable] at hc

end Podctl
end Podmesh
