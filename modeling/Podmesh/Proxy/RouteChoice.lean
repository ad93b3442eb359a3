import Mathlib.Data.Prod.Lex
import Mathlib.Data.List.Rotate
import Podmesh.Proxy.Routes

namespace Podmesh

def SidecarRoute.matches (path : String) (host : Option String) (route : SidecarRoute) : Bool :=
  route.serves (String.ofList (path.toList.takeWhile (· ≠ '?'))) host

/-- Host-scoped before host-less, then the longest path, then the lowest port. -/
def SidecarRoute.rank (route : SidecarRoute) : Bool ×ₗ ℕ ×ₗ ℕᵒᵈ :=
  toLex (route.hostName.isSome,
    toLex (route.pathPrefix.utf8ByteSize, OrderDual.toDual route.port.toNat))

theorem routeOrder_gt_iff (a b : SidecarRoute) : routeOrder a b = .gt ↔ b.rank < a.rank := by
  simp only [SidecarRoute.rank, routeOrder, Ordering.then_eq_gt, Prod.Lex.toLex_lt_toLex,
    compare_gt_iff_gt, compare_eq_iff_eq, OrderDual.toDual_lt_toDual]
  simp [eq_comm]

/-- The fold that picks a route ends with a route of the greatest rank it saw. -/
theorem best_route (kept : SidecarRoute) (routes : List SidecarRoute) :
    ∃ best ∈ kept :: routes, (∀ route ∈ kept :: routes, route.rank ≤ best.rank) ∧
      routes.foldl (fun best route => match best with
        | none => some route
        | some kept => if routeOrder kept route = .gt then some kept else some route)
        (some kept) = some best := by
  induction routes generalizing kept with
  | nil => exact ⟨kept, List.mem_cons_self, by simp, rfl⟩
  | cons route routes ih =>
    by_cases hgt : routeOrder kept route = .gt
    · obtain ⟨best, hmm, hm, hf⟩ := ih kept
      have hlt := (routeOrder_gt_iff kept route).1 hgt
      refine ⟨best, by grind, ?_, by simpa [hgt] using hf⟩
      simp only [List.forall_mem_cons] at hm ⊢
      exact ⟨hm.1, hlt.le.trans hm.1, hm.2⟩
    · obtain ⟨best, hmm, hm, hf⟩ := ih route
      have hle := not_lt.1 (mt (routeOrder_gt_iff kept route).2 hgt)
      refine ⟨best, List.mem_cons_of_mem kept hmm, ?_, by simpa [hgt] using hf⟩
      simp only [List.forall_mem_cons] at hm ⊢
      exact ⟨hle.trans hm.1, hm⟩

theorem port_of_rank {a b : SidecarRoute} (h : a.rank = b.rank) : a.port = b.port := by
  simp only [SidecarRoute.rank, toLex_inj, Prod.mk.injEq, OrderDual.toDual_inj] at h
  exact UInt16.toNat_inj.1 h.2.2

def BestRoute (routes : List SidecarRoute) (path : String) (host : Option String)
    (best : SidecarRoute) : Prop :=
  best ∈ routes ∧ best.matches path host = true ∧
    ∀ route ∈ routes, route.matches path host = true → route.rank ≤ best.rank

theorem selectRoutePort_cases (routes : List SidecarRoute) (path : String) (host : Option String) :
    (selectRoutePort routes path host = none ∧ ∀ route ∈ routes, route.matches path host = false) ∨
    ∃ best, BestRoute routes path host best ∧
      selectRoutePort routes path host = some best.port := by
  have hmm (route : SidecarRoute) :
      route ∈ routes.filter (SidecarRoute.matches path host) ↔
        route ∈ routes ∧ route.matches path host = true := List.mem_filter
  have hs : selectRoutePort routes path host =
      Option.map SidecarRoute.port ((routes.filter (SidecarRoute.matches path host)).foldl
        (fun best route => match best with
          | none => some route
          | some kept => if routeOrder kept route = .gt then some kept else some route) none) := rfl
  cases hl : routes.filter (SidecarRoute.matches path host) with
  | nil =>
    rw [hl] at hs
    refine .inl ⟨hs, fun route hr => ?_⟩
    by_contra hne
    have := (hmm route).2 ⟨hr, by simpa using hne⟩
    simp [hl] at this
  | cons kept rest =>
    obtain ⟨best, hb, hmx, hf⟩ := best_route kept rest
    rw [hl] at hs hmm
    obtain ⟨hin, hm⟩ := (hmm best).1 hb
    refine .inr ⟨best, ⟨hin, hm, ?_⟩, hs.trans (congrArg _ hf)⟩
    intro route hr hsr
    exact hmx route ((hmm route).2 ⟨hr, hsr⟩)

theorem selectRoutePort_some_iff (routes : List SidecarRoute) (path : String)
    (host : Option String) (port : UInt16) :
    selectRoutePort routes path host = some port ↔
      ∃ best, BestRoute routes path host best ∧ best.port = port := by
  rcases selectRoutePort_cases routes path host with ⟨hn, ha⟩ | ⟨best, hb, hs⟩
  · constructor
    · intro h
      simp [hn] at h
    · rintro ⟨best, ⟨hmm, hm, -⟩, -⟩
      simp [ha best hmm] at hm
  · constructor
    · intro h
      exact ⟨best, hb, Option.some.inj (hs.symm.trans h)⟩
    · rintro ⟨oth, ⟨hmm, hm, hmx⟩, rfl⟩
      rw [hs, port_of_rank]
      apply le_antisymm
      · exact hmx best hb.1 hb.2.1
      · exact hb.2.2 oth hmm hm

/-- Which port a request is routed to depends on the set of the routes only. -/
theorem selectRoutePort_of_members (routes other : List SidecarRoute)
    (hsame : ∀ route, route ∈ other ↔ route ∈ routes) (path : String) (host : Option String) :
    selectRoutePort other path host = selectRoutePort routes path host ∧
      (∀ port, selectRoutePort routes path host = some port ↔
        ∃ best, BestRoute routes path host best ∧ best.port = port) ∧
      (selectRoutePort routes path host = none ↔
        ∀ route ∈ routes, route.matches path host = false) := by
  refine ⟨?_, selectRoutePort_some_iff routes path host, ?_⟩
  · apply Option.ext
    intro port
    simp [selectRoutePort_some_iff, BestRoute, hsame]
  · rcases selectRoutePort_cases routes path host with ⟨hn, ha⟩ | ⟨best, hb, hs⟩
    · exact ⟨fun _ => ha, fun _ => hn⟩
    · constructor
      · intro h
        simp [hs] at h
      · intro h
        exact absurd hb.2.1 (by simp [h best hb.1])

def sampleRoutes : List SidecarRoute := [⟨"", "/", 80⟩, ⟨"", "/api", 81⟩, ⟨"a.io", "/", 82⟩]

theorem selectRoutePort_of_members_reversed :
    selectRoutePort (sampleRoutes.reverse ++ sampleRoutes) "/api?x" (some "A.io") =
      selectRoutePort sampleRoutes "/api?x" (some "A.io") ∧
    selectRoutePort sampleRoutes "/api?x" (some "A.io") = some 82 :=
  ⟨(selectRoutePort_of_members sampleRoutes _ (by simp) "/api?x" (some "A.io")).1,
    by decide +kernel⟩

structure RouteRequest where
  manifestId : String
  path : String
  host : Option String
  deriving DecidableEq

namespace RouteTable

def serve (table : RouteTable) (request : RouteRequest) : List RouteTarget × RouteTable :=
  table.select request.manifestId request.path request.host

def served (table : RouteTable) (requests : List RouteRequest) : RouteTable :=
  requests.foldl (fun table request => (table.serve request).2) table

def eligible (table : RouteTable) (request : RouteRequest) : List RouteTarget :=
  match table.byManifest.lookup request.manifestId with
  | none => []
  | some entry => candidates entry request.path request.host

def moves (table : RouteTable) (manifestId : String) (request : RouteRequest) : Bool :=
  request.manifestId == manifestId && !(table.eligible request).isEmpty

section
variable (table : RouteTable)
include table

theorem lookup_serve (req : RouteRequest) (manifestId : String) :
    (table.serve req).2.byManifest.lookup manifestId =
      (table.byManifest.lookup manifestId).map fun entry =>
        if table.moves manifestId req then
          { entry with cursor := (entry.cursor + 1) % 2 ^ 64 }
        else entry := by
  obtain he | ⟨entry, he⟩ :=
    Option.eq_none_or_eq_some (table.byManifest.lookup req.manifestId)
  · simp [serve, select, moves, eligible, he]
  · by_cases hem : candidates entry req.path req.host = []
    · simp [serve, select, moves, eligible, he, hem]
    · by_cases hm : manifestId = req.manifestId
      · subst hm
        simp [serve, select, moves, eligible, he, hem]
      · simp [serve, select, moves, he, hem, AList.lookup_insert_ne hm, Ne.symm hm]

theorem eligible_serve (req other : RouteRequest) :
    (table.serve req).2.eligible other = table.eligible other := by
  simp only [eligible, lookup_serve]
  cases table.byManifest.lookup other.manifestId with
  | none => rfl
  | some entry =>
    simp only [Option.map_some]
    split <;> rfl

theorem moves_serve : (table.serve req).2.moves manifestId = table.moves manifestId := by
  funext oth
  simp [moves, eligible_serve]

theorem eligible_served (reqs : List RouteRequest)
    (other : RouteRequest) : (table.served reqs).eligible other = table.eligible other := by
  induction reqs generalizing table with
  | nil => rfl
  | cons req reqs ih => exact (ih _).trans (eligible_serve table req other)

end

/-- The cursor counts the requests that moved it, up to its width. -/
theorem lookup_served {table : RouteTable} (he : table.byManifest.lookup mid = some entry)
    (hlt : entry.cursor < 2 ^ 64) (reqs : List RouteRequest) :
    (table.served reqs).byManifest.lookup mid = some { entry with
      cursor := (entry.cursor + reqs.countP (table.moves mid)) % 2 ^ 64 } := by
  induction reqs generalizing table entry with
  | nil =>
    rw [List.countP_nil, Nat.add_zero, Nat.mod_eq_of_lt hlt]
    exact he
  | cons req reqs ih =>
    have hs := lookup_serve table req mid
    rw [he, Option.map_some] at hs
    by_cases hm : table.moves mid req
    · rw [if_pos hm] at hs
      have hr := ih hs (Nat.mod_lt _ (by decide))
      rw [moves_serve] at hr
      rw [List.countP_cons_of_pos hm]
      refine hr.trans ?_
      simp [Nat.add_assoc, Nat.add_comm 1]
    · rw [if_neg hm] at hs
      have hr := ih hs hlt
      rw [moves_serve] at hr
      rw [List.countP_cons_of_neg hm]
      exact hr

theorem serve_eq {table : RouteTable} (req : RouteRequest)
    (he : table.byManifest.lookup req.manifestId = some entry) :
    (table.serve req).1 =
      (table.eligible req).rotate (entry.cursor % (table.eligible req).length) := by
  simp only [serve, select, eligible, he]
  cases hem : candidates entry req.path req.host with
  | nil => rfl
  | cons tgt targets => rfl

theorem nodup_eligible (table : RouteTable) (req : RouteRequest) :
    ((table.eligible req).map RouteTarget.replicaIndex).Nodup := by
  unfold eligible
  split
  · simp
  · rename_i entry he
    have hp := List.perm_insertionSort
      (fun a b : Σ _ : UInt32, Backend => a.1.toNat ≤ b.1.toNat) entry.backends.entries
    have hk := (hp.map Sigma.fst).nodup_iff.2 entry.backends.nodupKeys
    apply List.pairwise_map.2
    apply List.Pairwise.filterMap _ _ (List.pairwise_map.1 hk)
    intro a b hne tgt ht oth ho
    obtain ⟨_, -, rfl⟩ := Option.map_eq_some_iff.1 ht
    obtain ⟨_, -, rfl⟩ := Option.map_eq_some_iff.1 ho
    exact hne

def firstReplica (table : RouteTable) (request : RouteRequest) : Option UInt32 :=
  (table.serve request).1.head?.map RouteTarget.replicaIndex

theorem firstReplica_eq (table : RouteTable) {req : RouteRequest}
    (he : table.byManifest.lookup req.manifestId = some entry)
    (hp : 0 < (table.eligible req).length) :
    table.firstReplica req = ((table.eligible req).map RouteTarget.replicaIndex)[
      entry.cursor % (table.eligible req).length]? := by
  rw [firstReplica, serve_eq req he, List.head?_rotate (Nat.mod_lt _ hp), List.getElem?_map]

/-- Two equal requests start at different replicas exactly when the requests to the same workload
between them have not brought its cursor, modulo their candidates, back to where it was. -/
theorem rotation_spreads_iff (table : RouteTable) (request : RouteRequest)
    (between : List RouteRequest) (entry : SidecarRouteEntry)
    (hentry : table.byManifest.lookup request.manifestId = some entry)
    (hmany : 2 ≤ (table.eligible request).length) :
    ((table.served (request :: between)).firstReplica request ≠ table.firstReplica request ↔
      (entry.cursor + 1 + between.countP (table.moves request.manifestId)) % 2 ^ 64 %
          (table.eligible request).length ≠ entry.cursor % (table.eligible request).length) ∧
    ∀ (requests : List RouteRequest) (other : RouteRequest),
      ((table.served requests).serve other).1 ~r table.eligible other := by
  constructor
  · have hm : table.moves request.manifestId request = true := by
      have : table.eligible request ≠ [] := List.length_pos_iff.1 (by omega)
      simpa [moves] using this
    have hsr := lookup_serve table request request.manifestId
    rw [hentry, Option.map_some, if_pos hm] at hsr
    have ha := lookup_served hsr (Nat.mod_lt _ (by decide)) between
    rw [moves_serve] at ha
    have hk := eligible_served table (request :: between) request
    have hp : 0 < (table.eligible request).length := by omega
    have hs := firstReplica_eq (table.served (request :: between)) ha
      (hk ▸ hp)
    rw [hk] at hs
    rw [hs, firstReplica_eq table hentry hp, not_iff_not]
    have hin (k : Nat) : k % (table.eligible request).length <
        ((table.eligible request).map RouteTarget.replicaIndex).length := by
      simpa using Nat.mod_lt k hp
    rw [List.getElem?_eq_getElem (hin _), List.getElem?_eq_getElem (hin _), Option.some_inj,
      (nodup_eligible table request).getElem_inj_iff, Nat.mod_add_mod]
  · intro requests other
    rw [← eligible_served table requests other]
    cases ho : (table.served requests).byManifest.lookup other.manifestId with
    | none => simp [serve, select, eligible, ho, List.IsRotated.refl]
    | some entry =>
      rw [serve_eq other ho]
      exact List.IsRotated.forall _ _

def sampleReplica (index : UInt32) : SidecarRegistration where
  version := sidecarRegistrationVersion
  ownerPubkey := "owner"
  workloadName := "web"
  manifestId := "web"
  replicaIndex := index
  replicaCount := 2
  routes := [⟨"", "/", 80⟩]
  sidecarPeerId := "peer"

def sampleTable : RouteTable :=
  ((empty.register (sampleReplica 0) 1 8).2.register (sampleReplica 1) 1 8).2

/-- A request for another path in between moves the shared cursor: the next request starts at the
replica of the one before. -/
theorem rotation_shared_cursor :
    2 ≤ (sampleTable.eligible ⟨"web", "/", none⟩).length ∧
      (sampleTable.served [⟨"web", "/", none⟩, ⟨"web", "/x", none⟩]).firstReplica
          ⟨"web", "/", none⟩ = some 0 ∧
      sampleTable.firstReplica ⟨"web", "/", none⟩ = some 0 := by
  decide +kernel

theorem rotation_spreads_consecutive : ∃ entry,
    sampleTable.byManifest.lookup "web" = some entry ∧
      ((sampleTable.served [⟨"web", "/", none⟩]).firstReplica ⟨"web", "/", none⟩ ≠
          sampleTable.firstReplica ⟨"web", "/", none⟩ ↔
        (entry.cursor + 1 + 0) % 2 ^ 64 % (sampleTable.eligible ⟨"web", "/", none⟩).length ≠
          entry.cursor % (sampleTable.eligible ⟨"web", "/", none⟩).length) := by
  have hs : (sampleTable.byManifest.lookup "web").isSome := by decide +kernel
  obtain ⟨entry, he⟩ := Option.isSome_iff_exists.1 hs
  exact ⟨entry, he, (rotation_spreads_iff sampleTable ⟨"web", "/", none⟩ [] entry he
    (by decide +kernel)).1⟩

end RouteTable
end Podmesh
