import Podmesh.Podctl.AnswerBinding

namespace Podmesh

namespace Podctl

open Locked

variable {c : Client} {i : Input} {u : Updating}

structure Replica where
  deploymentId : String
  replicaIndex : UInt32
  deriving DecidableEq

def Client.replica (c : Client) (plan : Plan) (placement : ReplicaPlacement) : Replica :=
  ⟨c.deploymentId plan.workloadName, placement.replicaIndex⟩

def Stage.sends (c : Client) : Stage → Option Replica
  | .updating u placement _ _ => some (c.replica u.plan placement)
  | _ => none

def Stage.settles (c : Client) : Stage → Action → Option Replica
  | .readying u, .answer (.ready (.ok ())) _ =>
    u.catalog.replicas[u.index]?.map (c.replica u.plan)
  | _, _ => none

/-- An update that was sent comes to nothing: its answer is lost or does not confirm it, the
confirmation is not written, the connector does not become ready, or the run is killed. -/
def Stage.fails (c : Client) (owner : Owner) : Stage → Action → Bool
  | .updating u placement update expiresAtSecs, .answer (.updated response) i =>
    match response >>= c.confirmUpdate i u.plan placement update expiresAtSecs with
    | .ok updated =>
      !((c.save i { u.catalog with replicas := u.catalog.replicas.set u.index updated }).exec
        owner).1.isOk
    | .error _ => true
  | .readying _, .answer (.ready r) _ => !r.isOk
  | .updating _ _ _ _, .crash | .readying _, .crash => true
  | _, _ => false

/-- An update, with the replicas that were updated earlier and are not settled, and whether an
earlier update came to nothing. -/
structure Send where
  replica : Replica
  unsettled : List Replica
  failedBefore : Bool
  deriving DecidableEq

structure Rollout where
  session : Session
  unsettled : List Replica
  failed : Bool
  sends : List Send

namespace Rollout

def start (owner : Owner) : Rollout := ⟨⟨owner, none, none⟩, [], false, []⟩

def note (session : Session) (unsettled : List Replica) (failed : Bool) (sends : List Send) :
    Option Replica → Rollout
  | some replica =>
    ⟨session, replica :: unsettled, failed, ⟨replica, unsettled, failed⟩ :: sends⟩
  | none => ⟨session, unsettled, failed, sends⟩

def step (c : Client) (r : Rollout) (a : Action) : Option Rollout :=
  (r.session.step c a).map fun session =>
    note session
      (r.unsettled.filter fun x => r.session.run.bind (·.settles c a) != some x)
      (r.failed || r.session.run.any (·.fails c r.session.owner a)) r.sends
      (session.run.bind (·.sends c))

end Rollout

/-- Allows everything but to come to wait for a connector, which only a confirmed update does. -/
def Policy.unready : Policy where
  trust _ := True
  may _ _ := True
  kept _ := False
  readies := False

theorem Owner.within_unready (o : Owner) : o.Within .unready :=
  ⟨fun _ _ _ _ _ => trivial, fun _ _ => ⟨"", trivial⟩, fun _ hk => hk.elim⟩

theorem Session.within_ended (owner : Owner) (r : Option (Except String Outcome)) :
    Session.Within .unready ⟨owner, none, r⟩ :=
  ⟨owner.within_unready, fun stage hs => by cases hs⟩

theorem updateNext_unready (u : Updating) : Stays .unready (c.updateNext i u) (Next.Within .unready) :=
  updateNext_stays ⟨trivial, fun _ _ => trivial⟩

def Apart : Option Stage → Prop
  | some (.updating _ _ _ _) | some (.readying _) => False
  | _ => True

theorem Apart.within (h : Apart (some stage)) : stage.Within .unready := by
  cases stage with
  | updating | readying => exact h.elim
  | listing => exact fun _ _ => trivial
  | selecting => exact ⟨trivial, fun _ _ => trivial⟩
  | admitting | deploying => exact ⟨⟨trivial, fun _ _ => trivial⟩, trivial⟩
  | bootstrapping => trivial

theorem Apart.action {s s' : Session} (h : Apart s.run) (hs : s.step c a = some s') :
    a.Within c .unready := by
  unfold Action.Within
  split
  · exact fun _ _ => trivial
  · exact fun _ _ _ _ _ _ => trivial
  · exact fun _ _ _ _ => trivial
  · obtain ⟨stage, hst, hs⟩ := Option.bind_eq_some_iff.1 hs
    obtain ⟨x, hx, _⟩ := Option.map_eq_some_iff.1 hs
    rw [hst] at h
    cases stage with
    | updating => exact h
    | _ => cases hx
  · trivial

theorem Apart.step {s s' : Session} (h : Apart s.run) (hs : s.step c a = some s') :
    s'.Within .unready := by
  refine Session.Within.step ⟨s.owner.within_unready, fun stage hst => ?_⟩ (h.action hs) hs
  rw [hst] at h
  exact h.within

theorem Apart.quiet (h : Apart run) (c : Client) (owner : Owner) (a : Action) :
    run.bind (·.settles c a) = none ∧ run.any (·.fails c owner a) = false := by
  cases run with
  | none => exact ⟨rfl, rfl⟩
  | some stage =>
    cases stage with
    | updating | readying => exact h.elim
    | _ => exact ⟨rfl, rfl⟩

theorem afterUpdate_confirmed (h : (resp >>= c.confirmUpdate i u.plan pl update exp) = .ok upd)
    (owner : Owner) :
    let catalog := { u.catalog with replicas := u.catalog.replicas.set u.index upd }
    ((c.afterUpdate i u pl update exp resp).exec owner).1 =
      ((c.save i catalog).exec owner).1.map fun _ => .wait (.readying { u with catalog }) := by
  rw [Client.afterUpdate, h]
  dsimp only
  cases hs : (c.save i { u.catalog with
      replicas := u.catalog.replicas.set u.index upd }).exec owner with
  | mk res owner' =>
    cases res with
    | error e => exact congrArg Prod.fst (exec_bind_error _ hs)
    | ok _ => exact congrArg Prod.fst (exec_bind_ok _ hs)

theorem Session.step_running {s s' : Session} (hr : s.run = some stage)
    (hs : s.step c a = some s') : (a = .crash ∧ s' = { s with run := none, returned := none }) ∨
      ∃ answer i x, a = .answer answer i ∧ c.resume i stage answer = some x ∧ s' = s.advance x := by
  cases a with
  | crash =>
    obtain ⟨_, hs⟩ := Option.ite_none_right_eq_some.1 hs
    exact .inl ⟨rfl, (Option.some.inj hs).symm⟩
  | answer answer i =>
    simp only [Session.step, hr, Option.bind_some] at hs
    obtain ⟨x, hx, hs⟩ := Option.map_eq_some_iff.1 hs
    exact .inr ⟨answer, i, x, rfl, hx, hs.symm⟩
  | apply | list =>
    obtain ⟨hn, _⟩ := Option.ite_none_right_eq_some.1 hs
    rw [hr] at hn
    cases hn

namespace Rollout

/-- What is unsettled at a wait: the update under way, and otherwise only what came to nothing. -/
def Expects (c : Client) (failed : Bool) (unsettled : List Replica) : Option Stage → Prop
  | some (.updating u placement _ _) => failed = false ∧
    u.catalog.replicas[u.index]? = some placement ∧ unsettled = [c.replica u.plan placement]
  | some (.readying u) => failed = false ∧ ∃ placement,
    u.catalog.replicas[u.index]? = some placement ∧ unsettled = [c.replica u.plan placement]
  | _ => failed = true ↔ unsettled ≠ []

variable {session : Session} {unsettled : List Replica} {failed : Bool} {sends : List Send}

theorem Expects.apart (h : Expects c failed unsettled run) (ha : Apart run) :
    failed = true ↔ unsettled ≠ [] := by
  cases run with
  | none => exact h
  | some stage =>
    cases stage with
    | updating | readying => exact ha.elim
    | _ => exact h

def Send.Gated (s : Send) : Prop := s.unsettled = [] ∧ s.failedBefore = false

inductive Sound (c : Client) (r : Rollout) : Prop
  | gated : (∀ s ∈ r.sends, Send.Gated s) → Expects c r.failed r.unsettled r.session.run →
      Sound c r
  | broken : r.failed = true → (∃ s ∈ r.sends, s.unsettled ≠ []) →
      (∃ s ∈ r.sends, s.failedBefore = true) → Sound c r

theorem Sound.note (hs : session.Within .unready) (hsn : ∀ s ∈ sends, Send.Gated s)
    (hu : failed = true ↔ unsettled ≠ []) :
    Sound c (note session unsettled failed sends (session.run.bind (·.sends c))) := by
  obtain ⟨owner, run, returned⟩ := session
  cases run with
  | none => exact .gated hsn hu
  | some stage =>
    have hst := hs.run stage rfl
    cases stage with
    | updating u pl update exp =>
      cases failed with
      | true => exact .broken rfl ⟨_, List.mem_cons_self, hu.1 rfl⟩ ⟨_, List.mem_cons_self, rfl⟩
      | false =>
        have hn : unsettled = [] := by simpa using hu
        subst hn
        exact .gated (List.forall_mem_cons.2 ⟨⟨rfl, rfl⟩, hsn⟩) ⟨rfl, hst.2.2, rfl⟩
    | readying u => exact hst.2.elim
    | _ => exact .gated hsn hu

theorem Sound.stays_broken (hu : ∃ s ∈ sends, s.unsettled ≠ [])
    (hf : ∃ s ∈ sends, s.failedBefore = true) (sent : Option Replica) :
    Sound c (.note session unsettled true sends sent) := by
  obtain ⟨s, hs, hu⟩ := hu
  obtain ⟨t, ht, hf⟩ := hf
  cases sent with
  | none => exact .broken rfl ⟨s, hs, hu⟩ ⟨t, ht, hf⟩
  | some replica =>
    exact .broken rfl ⟨s, List.mem_cons_of_mem _ hs, hu⟩ ⟨t, List.mem_cons_of_mem _ ht, hf⟩

theorem Sound.updated {s : Session} (hi : u.catalog.replicas[u.index]? = some pl)
    (hs : ∀ s ∈ sends, Send.Gated s) (resp : Except String UpdateResponse) :
    Sound c (.note (s.advance (c.afterUpdate i u pl update exp resp)) [c.replica u.plan pl]
      (Stage.fails c s.owner (.updating u pl update exp) (.answer (.updated resp) i)) sends
      ((s.advance (c.afterUpdate i u pl update exp resp)).run.bind
        (·.sends c))) := by
  rw [Stage.fails]
  cases hc : (resp >>= c.confirmUpdate i u.plan pl update exp) with
  | error e =>
    refine .note (Session.advance_within s.owner.within_unready ?_) hs (by simp)
    rw [Client.afterUpdate, hc]
    exact updateNext_unready _
  | ok updated =>
    have hx := afterUpdate_confirmed hc s.owner
    dsimp only at hx ⊢
    cases hsv : ((c.save i { u.catalog with
        replicas := u.catalog.replicas.set u.index updated }).exec s.owner).1 with
    | error e =>
      rw [hsv] at hx
      rw [Session.advance_error hx]
      exact .note (Session.within_ended _ _) hs (by simp [Except.isOk, Except.toBool])
    | ok saved =>
      rw [hsv] at hx
      rw [Session.advance_wait hx]
      obtain ⟨r, _, hr⟩ := bind_ok.1 hc
      refine .gated hs ⟨rfl, updated, ?_, ?_⟩
      · exact List.getElem?_set_self (List.getElem?_eq_some_iff.1 hi).1
      · show [c.replica u.plan pl] = [c.replica u.plan updated]
        rw [Client.replica, Client.replica, (confirmUpdate_same (P := .unready) hr).1]

theorem Sound.readied {s : Session} (hi : u.catalog.replicas[u.index]? = some pl)
    (hs : ∀ s ∈ sends, Send.Gated s) (r : Except String Unit) :
    Sound c (.note (s.advance (liftExcept r >>= fun _ => c.updateNext i u))
      ([c.replica u.plan pl].filter fun x =>
        Stage.settles c (.readying u) (.answer (.ready r) i) != some x) (!r.isOk) sends
      ((s.advance (liftExcept r >>= fun _ => c.updateNext i u)).run.bind (·.sends c))) := by
  refine .note (Session.advance_within s.owner.within_unready ?_) hs ?_
  · exact .lift_bind fun _ _ => updateNext_unready u
  · cases r with
    | error e => simp [Stage.settles, Except.isOk, Except.toBool]
    | ok done => simp [Stage.settles, hi, Except.isOk, Except.toBool]

theorem Sound.step {r r' : Rollout} (h : r.Sound c) (hs : r.step c a = some r') : r'.Sound c := by
  obtain ⟨session, hst, rfl⟩ := Option.map_eq_some_iff.1 hs
  cases h with
  | broken hfl hu hf =>
    rw [hfl, Bool.true_or]
    exact .stays_broken hu hf _
  | gated hsn he =>
    by_cases ha : Apart r.session.run
    · obtain ⟨hse, hfa⟩ := ha.quiet c r.session.owner a
      refine .note (ha.step hst) hsn ?_
      have hk : (r.unsettled.filter fun x => none != some x) = r.unsettled :=
        List.filter_eq_self.2 fun _ _ => rfl
      rw [hfa, Bool.or_false, hse, hk]
      exact he.apart ha
    · obtain ⟨⟨owner, run, returned⟩, unsettled, failed, sends⟩ := r
      cases run with
      | none => exact absurd trivial ha
      | some stage =>
        cases stage with
        | updating u placement update exp =>
          obtain ⟨rfl, hi, rfl⟩ := he
          rcases Session.step_running rfl hst with ⟨rfl, rfl⟩ | ⟨ans, i, x, rfl, hx, rfl⟩
          · exact .note (Session.within_ended _ _) hsn ⟨fun _ => List.cons_ne_nil _ _, fun _ => rfl⟩
          · cases ans with
            | updated resp =>
              cases hx
              exact .updated hi hsn resp
            | _ => cases hx
        | readying u =>
          obtain ⟨rfl, placement, hi, rfl⟩ := he
          rcases Session.step_running rfl hst with ⟨rfl, rfl⟩ | ⟨ans, i, x, rfl, hx, rfl⟩
          · exact .note (Session.within_ended _ _) hsn ⟨fun _ => List.cons_ne_nil _ _, fun _ => rfl⟩
          · cases ans with
            | ready res =>
              cases hx
              exact .readied hi hsn res
            | _ => cases hx
        | _ => exact absurd trivial ha

end Rollout

end Podctl

namespace Reference
open Podctl

def rollingClient : Client :=
  { client with
    yaml := { yaml with
      deserialize := fun text => (yaml.deserialize text).map (·.map (Yaml.modify "metadata" fun
        | .mapping entries => .mapping (entries ++ [(.string "annotations",
            .mapping [(.string replicasAnnotation, .string "2")])])
        | metadata => metadata)) } }

def rolled (file : String) : Podctl.Action :=
  .apply ⟨utf8Bytes file, true⟩ (podctlInput "update")

def rollingStart : List Podctl.Action :=
  [rolled "Pod/a\n", .answer (.listed (.ok ⟨[], [], []⟩)) (podctlInput "listed"),
    .answer (.offered (.ok (offer 9))) (podctlInput "first"),
    .answer (.admitted (.ok (reservation 9 "first" "a" 0))) (podctlInput "grant"),
    .answer (.deployed (.ok (receipt 9 "a" 0))) (podctlInput "save"),
    .answer (.offered (.ok (offer 8))) (podctlInput "second"),
    .answer (.admitted (.ok (reservation 8 "second" "a" 1))) (podctlInput "grant"),
    .answer (.deployed (.ok (receipt 8 "a" 1))) (podctlInput "save"),
    .answer (.bootstrapped (.ok ())) (podctlInput "end"), rolled "Deployment/a\n"]

def rolledRevision : String := platform.revisionId (utf8Bytes "Deployment/a\n")

def rolledTo (n : UInt8) (replicaIndex : UInt32) : UpdateResponse where
  version := agentProtocolVersion
  requestId := "update"
  expectedRevisionId := (receipt n "a" replicaIndex).revisionId
  requestedRevisionId := rolledRevision
  outcome := .applied
  reason := ""
  receipt := { receipt n "a" replicaIndex with revisionId := rolledRevision }
  respondedAtSecs := 1000
  signature := signedBy n

def confirmed (n : UInt8) (replicaIndex : UInt32) : Podctl.Action :=
  .answer (.updated (.ok (rolledTo n replicaIndex))) (podctlInput "update")

def readied (r : Except String Unit) : Podctl.Action := .answer (.ready r) (podctlInput "update")

end Reference

namespace Podctl
open Reference

end Podctl
end Podmesh
