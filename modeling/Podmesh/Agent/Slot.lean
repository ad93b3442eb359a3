import Podmesh.Agent.Inversion

namespace Podmesh

structure Slot where
  memory : Option StoredWorkload
  disk : Option (Option StoredWorkload)
  quarantined : Bool

def Node.slot (n : Node) (workloadId : String) : Slot :=
  ⟨n.state.active.lookup workloadId, n.store.workloads.lookup workloadId,
    decide (workloadId ∈ n.state.quarantined)⟩

def Slot.holding (m : StoredWorkload) (r : Option StoredWorkload) : Slot := ⟨some m, r.map some, false⟩

def Edit.at (workloadId : String) : Edit V → Option V → Option V
  | .keep, v => v
  | .put key v, w => if workloadId = key then some v else w
  | .drop key, w => if workloadId = key then none else w

@[simp] theorem Edit.at_keep : Edit.keep.at wid v = v := rfl

theorem Edit.at_cases {e : Edit V} (he : e.at k old = some v) :
    (∃ key, e = .put key v) ∨ old = some v := by
  cases e with
  | keep => exact .inr he
  | put key v' =>
    simp only [Edit.at] at he
    split at he
    · cases he
      exact .inl ⟨key, rfl⟩
    · exact .inr he
  | drop key =>
    simp only [Edit.at] at he
    split at he
    · cases he
    · exact .inr he

@[simp] theorem Edit.at_put : (Edit.put wid v).at wid w = some v := if_pos rfl

@[simp] theorem Edit.at_drop : (Edit.drop wid).at wid w = none := if_pos rfl

theorem Edit.lookup_apply (e : Edit V) (m : AList fun _ : String => V) (wid : String) :
    (e.apply m).lookup wid = e.at wid (m.lookup wid) := by
  cases e with
  | keep => rfl
  | put key | drop key =>
    by_cases hk : wid = key
    · subst hk
      simp [Edit.apply, Edit.at]
    · simp [Edit.apply, Edit.at, hk, AList.lookup_insert_ne hk, AList.lookup_erase_ne hk]

def Slot.after (s : Slot) (e : Effect) (workloadId : String) : Slot :=
  ⟨e.memory.at workloadId s.memory, e.disk.at workloadId s.disk, s.quarantined⟩

theorem Node.Does.slot {n n' : Node} (hd : n.Does n' e) (workloadId : String) :
    n'.slot workloadId = (n.slot workloadId).after e workloadId := by
  simp [Node.slot, Slot.after, hd.active, hd.workloads, hd.quarantined, Edit.lookup_apply]

structure StoredWorkload.Bound (workloadId : String) (r : StoredWorkload) : Prop where
  key : r.grant.workloadId = workloadId
  update : ∀ previous id request, r.phase = .updating previous id request →
    request.grant.workloadId = workloadId ∧
      request.grant.namespaceId = request.namespaceId ∧ r.amount = request.amount

inductive Slot.Sound (workloadId : String) : Slot → Prop
  | empty : Sound workloadId ⟨none, none, false⟩
  /-- A record that cannot be read keeps its workload out of memory. -/
  | unreadable : Sound workloadId ⟨none, some none, true⟩
  | holding {m : StoredWorkload} {r : Option StoredWorkload} : m.Bound workloadId →
      (∀ r', r = some r' → r'.Bound workloadId) → Sound workloadId (.holding m r)

structure UpdateOrigin (request : UpdateRequest) (active : StoredWorkload) : Prop where
  grantKey : request.grant.workloadId = request.workloadId
  grantNamespace : request.grant.namespaceId = request.namespaceId
  key : active.grant.workloadId = request.workloadId
  phase : active.phase = .active
  deleting : active.deleting = false
  named : active.runtimeId ≠ ""

/-- What a waiting operation may rely on, as long as it holds the guard of its workload. -/
def Task.Holds (s : Slot) : Task → Prop
  | .deployRuntime _ stored _ => s = .holding stored (some stored) ∧ stored.phase = .creating
  | .deployFail stored _ _ =>
    s = .holding { stored with phase := .creating } (some { stored with phase := .creating })
  | .deployCleanup stored _ _ => (∃ uncertain, stored.phase = .cleanupPending uncertain) ∧
    (s = .holding stored (some stored) ∨
      s = .holding stored (some { stored with phase := .creating }))
  | .deployRemove stored _ => s = .holding stored none
  | .deployCommit _ stored =>
    s = .holding { stored with phase := .creating } (some stored) ∧ stored.phase = .active
  | .updateLock _ request _ _ => request.grant.workloadId = request.workloadId ∧
    request.grant.namespaceId = request.namespaceId
  | .updateRuntime _ request _ active _ | .rollbackRuntime request active _ _ =>
    UpdateOrigin request active ∧
      s = .holding (transitioning request active) (some (transitioning request active))
  | .rollbackInsert request active _ => UpdateOrigin request active ∧
    s = .holding (transitioning request active) (some active)
  | .updateCommit _ request active updated => UpdateOrigin request active ∧
    s = .holding (transitioning request active) (some updated) ∧ updated.phase = .active ∧
      updated.grant = request.grant ∧ updated.amount = request.amount
  | .deleteCleanup _ _ active _ => active.needsCleanup = true ∧ ∃ r, s = .holding active r
  | .deleteMark _ _ active => active.needsCleanup = false ∧ active.isUpdating = false ∧
    ∃ r, s = .holding active r
  | .deleteUnmark _ active _ => active.needsCleanup = false ∧ active.isUpdating = false ∧
    ∃ r, s = .holding { active with deleting := true } r
  | .deleteRuntime _ _ active => active.needsCleanup = false ∧ active.isUpdating = false ∧
    s = .holding { active with deleting := true } (some { active with deleting := true })
  | .deleteRemove _ _ _ => ∃ m, s = .holding m none
  | .deleteRestore _ _ active _ => active.needsCleanup = false ∧ active.isUpdating = false ∧
    s = .holding { active with deleting := true } (some active)
  | _ => True

def Edit.Within (workloadId : String) : Edit V → Prop
  | .keep => True
  | .put key _ => key = workloadId
  | .drop key => key = workloadId

theorem Edit.Within.elsewhere {e : Edit V} (h : e.Within wid) (hne : oth ≠ wid)
    (v : Option V) : e.at oth v = v := by
  cases e with
  | keep => rfl
  | put key w | drop key =>
    cases h
    exact if_neg hne

structure Kept (n : Node) (workloadId : String) (t : Task) (e : Effect) (after : After) :
    Prop where
  memory : e.memory.Within workloadId
  disk : e.disk.Within workloadId
  mutations : e.mutations = n.mutations
  sound : ((n.slot workloadId).after e workloadId).Sound workloadId
  next : ∀ t', after = .next t' → t'.guard = t.guard ∧
    t'.Holds ((n.slot workloadId).after e workloadId)

theorem Slot.Sound.memory_bound (hs : Slot.Sound wid s) (hm : s.memory = some m) :
    m.Bound wid ∧ ∃ r, s = .holding m r := by
  cases hs with
  | empty | unreadable => cases hm
  | @holding _ r hb =>
    cases hm
    exact ⟨hb, r, rfl⟩

theorem Slot.Sound.holding_iff :
    Slot.Sound workloadId (.holding m r) ↔
      m.Bound workloadId ∧ ∀ r', r = some r' → r'.Bound workloadId := by
  constructor
  · intro hs
    generalize hsl : Slot.holding m r = s at hs
    cases hs with
    | empty | unreadable => cases hsl
    | @holding _ r' hm hr =>
      simp only [Slot.holding, Slot.mk.injEq, Option.some.injEq] at hsl
      obtain ⟨rfl, hrr, _⟩ := hsl
      have hr' : r = r' := Option.map_injective (Option.some_injective _) hrr
      exact ⟨hm, hr' ▸ hr⟩
  · rintro ⟨hm, hr⟩
    exact .holding hm hr

theorem StoredWorkload.Bound.of_phase {r : StoredWorkload} {phase : StoredWorkloadPhase}
    (hr : r.Bound wid) (hp : ∀ prev id req, phase ≠ .updating prev id req) :
    StoredWorkload.Bound wid { r with phase } :=
  ⟨hr.key, fun prev id req h => absurd h (hp prev id req)⟩

theorem bound_transitioning (ho : UpdateOrigin req act) :
    StoredWorkload.Bound req.workloadId (transitioning req act) := by
  refine ⟨ho.key, fun prev id req' hp => ?_⟩
  cases hp
  exact ⟨ho.grantKey, ho.grantNamespace, by funext d; cases d <;> rfl⟩

end Podmesh
