import Podmesh.Lib.Assoc
import Podmesh.Lib.Fallible

namespace Podmesh

/-- Bound on stored pins, matched to the configured peer URL limit. -/
def maxPeerPins : Nat := 16

structure PeerPin where
  endpointId : String
  signingPubkey : String
  deriving DecidableEq

abbrev PinMap := AList fun _ : String => PeerPin

/-- The characters with the Unicode property `White_Space`, which `trim` removes. -/
def isWhiteSpace (c : Char) : Bool :=
  let n := c.toNat
  9 ≤ n && n ≤ 13 || 0x2000 ≤ n && n ≤ 0x200a ||
    [0x20, 0x85, 0xa0, 0x1680, 0x2028, 0x2029, 0x202f, 0x205f, 0x3000].contains n

def normalizeUrl (url : String) : String :=
  let trimmed := (url.toList.dropWhile isWhiteSpace).reverse.dropWhile isWhiteSpace
  String.ofList (trimmed.dropWhile (· == '/')).reverse

/-- The content of a file; `none` cannot be decoded. -/
abbrev PinFile := Option PinMap

structure Persist where
  url : String
  observed : PeerPin
  snapshot : PinMap
  written : Bool

/-- The pins in memory, the two files of the key directory, the calls that persist, and the pins for
which a call has returned `Ok`. -/
structure PeerPins where
  path : String
  pins : PinMap
  file : Option PinFile
  temporary : Option PinFile
  calls : AList fun _ : Nat => Persist
  accepted : List (String × PeerPin)

inductive PinAction where
  | accept (id : Nat) (url : String) (observed : PeerPin)
  /-- A write that fails leaves anything, or nothing, under the temporary name. -/
  | write (id : Nat) (failed : Option (Option PinFile))
  | rename (id : Nat) (ok : Bool)

namespace PeerPins

def load (path : String) (file : Option PinFile) (configured : List (String × PeerPin)) :
    Except String PinMap := do
  let stored ← match file with
    | some (some pins) => pure pins
    | some none => throw s!"decode peer pins {path}"
    | none => pure ∅
  let pins := configured.foldl (fun pins c => pins.insert c.1 c.2) stored
  ensure (Assoc.size pins ≤ maxPeerPins) s!"at most {maxPeerPins} scheduler peer pins are supported"
  return pins

/-- The part of `accept` that runs under the lock. -/
def accept (self : PeerPins) (id : Nat) (url : String) (observed : PeerPin) :
    Except String PeerPins :=
  match self.pins.lookup url with
  | some pinned =>
    if pinned = observed then .ok { self with accepted := (url, observed) :: self.accepted }
    else .error s!"scheduler peer {url} now presents endpoint {observed.endpointId} with signing key {observed.signingPubkey}, but it is pinned to endpoint {pinned.endpointId} with signing key {pinned.signingPubkey}; delete {self.path} only if you rebuilt that scheduler's key directory on purpose"
  | none =>
    if Assoc.size self.pins < maxPeerPins then
      let pins := self.pins.insert url observed
      .ok { self with pins, calls := self.calls.insert id ⟨url, observed, pins, false⟩ }
    else .error s!"at most {maxPeerPins} scheduler peer pins are supported"

/-- `persist` is two steps, since its files are shared by the calls that run at once. -/
def step (self : PeerPins) : PinAction → Option PeerPins
  | .accept id url observed =>
    if (self.calls.lookup id).isNone then
      some ((self.accept id (normalizeUrl url) observed).toOption.getD self)
    else none
  | .write id failed =>
    match self.calls.lookup id, failed with
    | some ⟨url, observed, snapshot, false⟩, none => some { self with
        temporary := some (some snapshot)
        calls := self.calls.insert id ⟨url, observed, snapshot, true⟩ }
    | some ⟨_, _, _, false⟩, some left =>
      some { self with temporary := left, calls := self.calls.erase id }
    | _, _ => none
  | .rename id ok =>
    match self.calls.lookup id, self.temporary, ok with
    | some ⟨url, observed, _, true⟩, some content, true => some { self with
        file := some content
        temporary := none
        calls := self.calls.erase id
        accepted := (url, observed) :: self.accepted }
    | some ⟨_, _, _, true⟩, _, _ => some { self with calls := self.calls.erase id }
    | _, _, _ => none

def start (path : String) (file : Option PinFile) (pins : PinMap) : PeerPins :=
  ⟨path, pins, file, none, ∅, []⟩

/-- The pin that a load of the directory without configured pins yields for a url. -/
def saved (self : PeerPins) (url : String) : Option PeerPin :=
  (load self.path self.file []).toOption.bind (AList.lookup url)

/-- No call begins while another one persists, and neither a write nor a rename fails. -/
def orderly (self : PeerPins) : PinAction → Bool
  | .accept _ _ _ => self.calls.keys == []
  | .write _ failed => failed.isNone
  | .rename _ ok => ok

theorem load_stored (path : String) (h : Assoc.size stored ≤ maxPeerPins) :
    load path (some (some stored)) [] = .ok stored := by
  simp [load, h, ensure, bind, Except.bind, pure, Except.pure]

structure Pending (s : PeerPins) (stored : PinMap) (call : Persist) : Prop where
  snapshot : call.snapshot = s.pins
  pins : s.pins = stored.insert call.url call.observed
  unstored : stored.lookup call.url = none
  size : Assoc.size s.pins ≤ maxPeerPins
  written : call.written = true → s.temporary = some (some s.pins)

inductive Ahead (s : PeerPins) (stored : PinMap) : Prop
  | idle (hkeys : s.calls.keys = []) (hpins : s.pins = stored)
  | persisting (id : Nat) (call : Persist) (hkeys : s.calls.keys = [id])
      (hcall : s.calls.lookup id = some call) (hpending : Pending s stored call)

theorem Ahead.pending (h : Ahead s st) (hl : s.calls.lookup key = some call) :
    s.calls.keys = [key] ∧ Pending s st call := by
  have hm : key ∈ s.calls.keys :=
    AList.mem_keys.1 (AList.lookup_isSome.1 (Option.isSome_of_eq_some hl))
  cases h with
  | idle hk =>
    rw [hk] at hm
    cases hm
  | persisting id oth hk hc hp =>
    rw [hk, List.mem_singleton] at hm
    subst hm
    cases hc.symm.trans hl
    exact ⟨hk, hp⟩

structure Kept (s : PeerPins) (stored : PinMap) : Prop where
  file : load s.path s.file [] = .ok stored
  accepted : ∀ url pin, (url, pin) ∈ s.accepted → stored.lookup url = some pin
  ahead : Ahead s stored

theorem Kept.saved (h : Kept s st) (url : String) : s.saved url = st.lookup url := by
  rw [PeerPins.saved, h.file]
  rfl

theorem kept_accept (h : Kept s stored) (hi : s.calls.keys = [])
    (ha : s.accept key url observed = .ok s') : Kept s' stored := by
  have hp : s.pins = stored := by
    cases h.ahead with
    | idle _ hp => exact hp
    | persisting id call hk =>
      rw [hi] at hk
      cases hk
  rw [accept] at ha
  split at ha
  · next pinned hpn =>
    split at ha
    · next heq =>
      cases ha
      refine { h with accepted := ?_, ahead := .idle hi hp }
      intro url' pin hm
      rcases List.mem_cons.1 hm with hl | ho
      · cases hl
        rw [← hp, hpn, heq]
      · exact h.accepted url' pin ho
    · cases ha
  · next hn =>
    split at ha
    · next hr =>
      cases ha
      refine { h with ahead := .persisting key _ ?_ (AList.lookup_insert _) ?_ }
      · rw [AList.keys_insert, hi]
        rfl
      · exact {
          snapshot := rfl
          pins := by rw [hp]
          unstored := hp ▸ hn
          size := Nat.le_trans (Assoc.size_insert_le _ _ _) hr
          written := fun hw => by cases hw }
    · cases ha

theorem kept_step (h : Kept s st) (ho : s.orderly a = true) (hs : s.step a = some s') :
    ∃ st', Kept s' st' ∧ ∀ url pin, st.lookup url = some pin → st'.lookup url = some pin := by
  cases a with
  | accept key url observed =>
    rw [step] at hs
    split at hs
    · cases hs
      refine ⟨st, ?_, fun _ _ hol => hol⟩
      cases hr : s.accept key (normalizeUrl url) observed with
      | error e => exact h
      | ok t => exact kept_accept h (eq_of_beq ho) hr
    · cases hs
  | write key failed =>
    dsimp only [step] at hs
    split at hs
    · next url observed snap hc =>
      cases hs
      obtain ⟨hk, hp⟩ := h.ahead.pending hc
      refine ⟨st, { h with ahead := .persisting key _ ?_ (AList.lookup_insert _) ?_ },
        fun _ _ hol => hol⟩
      · rw [AList.keys_insert, hk, List.erase_cons_head]
      · exact { hp with written := fun _ => by rw [← hp.snapshot] }
    · cases ho
    · cases hs
  | rename key ok =>
    dsimp only [step] at hs
    split at hs
    · next url observed snap content hc ht =>
      cases hs
      obtain ⟨hk, hp⟩ := h.ahead.pending hc
      cases ht.symm.trans (hp.written rfl)
      have hkp : ∀ url' pin, st.lookup url' = some pin → s.pins.lookup url' = some pin := by
        intro url' pin hol
        rw [hp.pins, AList.lookup_insert_ne, hol]
        rintro rfl
        cases hol.symm.trans hp.unstored
      refine ⟨s.pins, ⟨load_stored _ hp.size, ?_, .idle ?_ rfl⟩, hkp⟩
      · intro url' pin hm
        rcases List.mem_cons.1 hm with hl | hol
        · cases hl
          rw [hp.pins]
          exact AList.lookup_insert _
        · exact hkp url' pin (h.accepted url' pin hol)
      · rw [AList.keys_erase, hk, List.erase_cons_head]
    · next hc hf =>
      cases ho
      have ht := (h.ahead.pending hc).2.written rfl
      exact (hf _ ht rfl).elim
    · cases hs

theorem pins_step {s s' : PeerPins} {a : PinAction} (hs : s.step a = some s')
    (h : s.pins.lookup url = some pin) : s'.pins.lookup url = some pin := by
  cases a with
  | accept key presented observed =>
    rw [step] at hs
    split at hs
    · cases hs
      rw [accept]
      split
      · split <;> exact h
      · next hn =>
        split
        · refine (AList.lookup_insert_ne ?_).trans h
          rintro rfl
          cases hn.symm.trans h
        · exact h
    · cases hs
  | write | rename =>
    dsimp only [step] at hs
    split at hs <;> cases hs <;> exact h

/-- No step of any run replaces or drops a pin in memory. From a load without configured pins on,
while calls come one after another and no write or rename fails, every accepted pin is stored and no
step replaces or drops a stored one. -/
theorem accepted_pins_durable (path : String) (file : Option PinFile) (pins : PinMap)
    (hload : load path file [] = .ok pins) :
    (∀ s s' a url pin, step s a = some s' → s.pins.lookup url = some pin →
      s'.pins.lookup url = some pin) ∧
    ∀ s, Reach step (fun s a => orderly s a = true) (start path file pins) s →
      (∀ url pin, (url, pin) ∈ s.accepted → s.saved url = some pin) ∧
      ∀ a s', s.orderly a = true → s.step a = some s' →
        ∀ url pin, s.saved url = some pin → s'.saved url = some pin := by
  refine ⟨fun s s' a url pin hs h => pins_step hs h, ?_⟩
  intro s hr
  have hke : ∃ stored, Kept s stored := by
    apply Reach.invariant (fun s => ∃ stored, Kept s stored) _ _ hr
    · exact ⟨pins, hload, fun _ _ hm => (List.not_mem_nil hm).elim, .idle rfl rfl⟩
    · intro s a s' _ hi ho hs
      obtain ⟨stored, hi⟩ := hi
      obtain ⟨stored', hi', _⟩ := kept_step hi ho hs
      exact ⟨stored', hi'⟩
  obtain ⟨stored, hk⟩ := hke
  constructor
  · intro url pin hm
    rw [hk.saved]
    exact hk.accepted url pin hm
  · intro a s' ho hs url pin hsv
    obtain ⟨stored', hk', hkp⟩ := kept_step hk ho hs
    rw [hk'.saved]
    exact hkp url pin (hk.saved url ▸ hsv)

theorem accepted_pins_durable_first_sight :
    ∃ s, Reach step (fun s a => orderly s a = true) (start "" none ∅) s ∧
      s.accepted = [("u", ⟨"e", "k"⟩)] ∧ s.saved "u" = some ⟨"e", "k"⟩ := by
  obtain ⟨s, hr, hs⟩ := exists_reach_of_run step (orderly · · = true) (start "" none ∅)
    [.accept 0 "u/" ⟨"e", "k"⟩, .write 0 none, .rename 0 true]
    (·.accepted = [("u", ⟨"e", "k"⟩)]) (by decide +kernel)
  refine ⟨s, hr, hs, ((accepted_pins_durable "" none ∅ rfl).2 s hr).1 _ _ ?_⟩
  rw [hs]
  exact List.mem_singleton_self _

/-- The pin of a failed write is accepted from memory; and the call that is last to rename its
snapshot drops the pin that a later call has stored. -/
theorem accepted_pins_lost :
    (runWhile step (fun _ _ => true) (start "" none ∅)
      [.accept 0 "u" ⟨"e", "k"⟩, .write 0 (some none), .accept 1 "u" ⟨"e", "k"⟩]).any
        (fun s => s.accepted == [("u", ⟨"e", "k"⟩)] && s.saved "u" == none) = true ∧
    (runWhile step (fun _ _ => true) (start "" none ∅)
      [.accept 0 "u" ⟨"e", "k"⟩, .accept 1 "v" ⟨"f", "l"⟩, .write 1 none, .rename 1 true,
        .write 0 none, .rename 0 true]).any
        (fun s => s.accepted.contains ("v", ⟨"f", "l"⟩) && s.saved "v" == none) = true := by
  decide +kernel

end PeerPins
end Podmesh
