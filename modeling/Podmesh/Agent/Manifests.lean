import Podmesh.Agent.Guarded

namespace Podmesh

variable {h : Host} {i : Input} {n : Node}

def concerns (h : Host) (deploys : Option WorkloadDeployment) (deletes : Option String)
    (name : String) : Bool :=
  deploys.any (fun d => h.runtime.targetId d == .ok name) || deletes == some name

section
variable (hc : PodChange h deploys deletes effective pods pods')
include hc

theorem PodChange.away
    (hd : ∀ d, deploys = some d → effective = true → h.runtime.targetId d ≠ .ok name)
    (hx : deletes ≠ some name) : pods'.lookup name = pods.lookup name := by
  cases hc with
  | none => rfl
  | @deployed d _ _ hdp he ht =>
    apply AList.lookup_insert_ne
    rintro rfl
    exact hd d hdp he ht
  | deleted hdl =>
    apply AList.lookup_erase_ne
    rintro rfl
    exact hx hdl

theorem PodChange.untouched
    (hn : concerns h deploys deletes name = false) : pods'.lookup name = pods.lookup name := by
  apply hc.away
  · rintro d rfl _ ht
    rw [concerns, Option.any_some, ht, beq_self_eq_true, Bool.true_or] at hn
    cases hn
  · rintro rfl
    rw [concerns, beq_self_eq_true, Bool.or_true] at hn
    cases hn

theorem PodChange.shrinks
    (hd : ∀ d, deploys = some d → effective = true → h.runtime.targetId d ≠ .ok name)
    (hp : pods'.lookup name = some pod) : pods.lookup name = some pod := by
  cases hc with
  | none => exact hp
  | @deployed d _ _ hdp he ht =>
    rcases Assoc.lookup_insert_cases hp with ⟨rfl, _⟩ | ⟨_, hp⟩
    · exact absurd ht (hd d hdp he)
    · exact hp
  | deleted => exact (Assoc.lookup_of_erase hp).2

end

theorem PodChange.shrinks_of_none (hc : PodChange h deploys deletes effective pods pods')
    (hd : deploys = .none) (name : String) (pod : Pod) (hp : pods'.lookup name = some pod) :
    pods.lookup name = some pod := by
  apply hc.shrinks _ hp
  intro d hdp
  rw [hd] at hdp
  cases hdp

theorem PodChange.idle (hc : PodChange h .none .none effective pods pods') : pods' = pods := by
  cases hc with
  | none => rfl
  | deployed hd => cases hd
  | deleted hx => cases hx

theorem runtimeDeploy_runs (hok : (runtimeDeploy h i d n).2 = .ok rid) :
    ∃ id pod, h.runtime.targetId d = .ok id ∧ pod.manifest = d.manifest ∧
      (runtimeDeploy h i d n).1.pods = n.pods.insert id pod := by
  unfold runtimeDeploy at hok ⊢
  cases hid : h.runtime.targetId d with
  | error e =>
    rw [hid] at hok
    cases hok
  | ok id =>
    rw [hid] at hok
    refine ⟨id, ⟨d.manifest, i.podEndpointId, i.podSigningKey⟩, rfl, rfl, ?_⟩
    apply (runtimeCall_cases i n.pods _).2
    dsimp only at hok
    generalize (runtimeCall i n.pods _).2 = res at hok ⊢
    cases res with
    | error e => cases hok
    | ok r => exact ⟨r, rfl⟩

theorem poll_change (h : Host) (i : Input) (n : Node) (t : Task) :
    PodChange h t.deploys t.deletes i.effective n.pods (poll h i n t).1.pods := by
  obtain ⟨⟨e, hds, hc⟩, hdp, _⟩ := poll_outcome h i n t
  cases hd : t.deploys with
  | some d =>
    rw [hdp d hd]
    exact runtimeDeploy_change h i d n _
  | none =>
    rw [hds.pods]
    generalize (poll h i n t).2 = after at hc
    cases hc with
    | deployFailed | deployUnsaved | deploySaved | updateAbandoned | updateFailed
    | updateSaved | rollbackFailed | rollbackSaved => cases hd
    | cleanupFailed hx | deleteCleanupFailed hx | deleteStopped hx | deleteRemoving _ hx
    | deleteRestoring hx => exact hx.change rfl
    | cleanupDone | deleteCleanupDone => exact .deleted rfl
    | _ => exact .none

def Task.commits : Task → Bool
  | .deployCommit _ _ | .updateCommit _ _ _ _ | .rollbackInsert _ _ _ => true
  | _ => false

theorem poll_runs (hd : t.deploys = some d) (hn : (poll h i n t).2 = .next t')
    (hc : t'.commits = true) :
    ∃ tgt pod, h.runtime.targetId d = .ok tgt ∧ pod.manifest = d.manifest ∧
      (poll h i n t).1.pods = n.pods.insert tgt pod := by
  cases t with
  | deployRuntime now st dep =>
    cases hd
    rw [(poll_outcome h i n _).deploys _ rfl]
    simp only [poll] at hn
    unfold deployRuntime at hn
    split at hn
    · cases hn
      cases hc
    · next n' rid hok => exact runtimeDeploy_runs (congrArg Prod.snd hok)
  | updateRuntime now req exe act dep =>
    cases hd
    rw [(poll_outcome h i n _).deploys _ rfl]
    simp only [poll] at hn
    unfold updateRuntime at hn
    split at hn
    · split at hn
      · cases hn
      · cases hn
        cases hc
    · next n' rid hok => exact runtimeDeploy_runs (congrArg Prod.snd hok)
  | rollbackRuntime req act dep error =>
    cases hd
    rw [(poll_outcome h i n _).deploys _ rfl]
    simp only [poll] at hn
    unfold rollbackRuntime at hn
    split at hn
    · cases hn
    · next n' rid hok => exact runtimeDeploy_runs (congrArg Prod.snd hok)
  | _ => cases hd

theorem restore_change (h : Host) (i : Input) (n : Node) (t : RestoreTask) :
    PodChange h t.deploys t.deletes i.effective n.pods (restoreContinue h i n t).1.pods := by
  obtain ⟨⟨disk, pods, hn, hc⟩, hdp, _⟩ := restoreContinue_result h i n t
  cases hd : t.deploys with
  | some d =>
    rw [hdp d hd]
    exact runtimeDeploy_change h i d n _
  | none =>
    rw [hn.pods]
    generalize (restoreContinue h i n t).2 = rst at hc
    cases hc with
    | updateFailed | updateDone | redeployFailed | redeployUnsaved | redeployDone => cases hd
    | cleanupFailed hx | deleteFailed hx | undone hx => exact hx.change rfl
    | cleanupDone | deleteDone => exact .deleted rfl
    | statusKept | statusGone => exact .none

end Podmesh
