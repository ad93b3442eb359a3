import Podmesh.Lib.Fallible
import Podmesh.Lib.Text

/-!
`validate_vip_routes` reads the routing table that the kernel prints. An address or a mask is
printed as the number that its bytes are on a little-endian machine.
-/

namespace Podmesh

open Text

def isHexDigit (c : Char) : Bool :=
  ('0' ≤ c && c ≤ '9') || ('A' ≤ c && c ≤ 'F') || ('a' ≤ c && c ≤ 'f')

def hexValue (c : Char) : Nat :=
  if c ≤ '9' then c.toNat - 48 else if c ≤ 'F' then c.toNat - 55 else c.toNat - 87

/-- `u32::from_str_radix` with radix 16. -/
def fromStrRadix (text : List Char) : Option (BitVec 32) :=
  let digits := match text with
    | '+' :: rest => rest
    | _ => text
  let value := digits.foldl (fun value c => value * 16 + hexValue c) 0
  if !digits.isEmpty && digits.all isHexDigit && value < 2 ^ 32 then some (.ofNat 32 value) else none

def toLeBytes (w : BitVec 32) : List Nat := [0, 1, 2, 3].map fun i => w.toNat / 256 ^ i % 256

def fromBeBytes (bytes : List Nat) : BitVec 32 :=
  .ofNat 32 (bytes.foldl (fun value b => value * 256 + b) 0)

def vip : BitVec 32 := 0xc6120000

def vipMask : BitVec 32 := 0xffffff00

def checkVipRoute (line : List Char) : Except String Unit :=
  let fields := words isWhitespace line
  if fields.length < 8 then .ok () else do
    let network ← orError (fromStrRadix (fields.getD 1 [])) "invalid route destination"
    let mask ← orError (fromStrRadix (fields.getD 7 [])) "invalid route mask"
    let network := fromBeBytes (toLeBytes network)
    let mask := fromBeBytes (toLeBytes mask)
    if mask = 0 then .ok () else
      ensure (network &&& mask != vip &&& mask && network &&& vipMask != vip)
        "service VIP range conflicts with a workload route"

def validateVipRoutes (routes : List Char) : Except String Unit :=
  forEach checkVipRoute ((lines routes).drop 1)

def upperDigit (n : Nat) : Char := Char.ofNat (if n < 10 then 48 + n else 55 + n)

/-- A word as the kernel prints it. -/
def hexWord (w : BitVec 32) : List Char :=
  [7, 6, 5, 4, 3, 2, 1, 0].map fun i => upperDigit (w.toNat / 16 ^ i % 16)

structure Route where
  destination : BitVec 32
  length : Fin 33

namespace Route

def mask (r : Route) : BitVec 32 := BitVec.allOnes 32 <<< (32 - r.length.val)

def Contains (r : Route) (address : BitVec 32) : Prop :=
  address &&& r.mask = r.destination &&& r.mask

/-- A line of at least eight columns, of which the second is the destination and the eighth the
mask. -/
def Printed (line : List Char) (r : Route) : Prop :=
  8 ≤ (words isWhitespace line).length ∧ ∃ network mask,
    (words isWhitespace line).getD 1 [] = hexWord network ∧
    (words isWhitespace line).getD 7 [] = hexWord mask ∧
    fromBeBytes (toLeBytes network) = r.destination ∧ fromBeBytes (toLeBytes mask) = r.mask

/-- The two comparisons cover a mask that is shorter and one that is longer than that of the range. -/
theorem clear_iff (r : Route) :
    (r.destination &&& r.mask != vip &&& r.mask && r.destination &&& vipMask != vip) = true ↔
      ¬∃ address, r.Contains address ∧ address &&& vipMask = vip := by
  simp only [Bool.and_eq_true, bne_iff_ne]
  constructor
  · rintro ⟨hm, hv⟩ ⟨address, hin, hr⟩
    have hc : ∀ length : Fin 33, Route.mask ⟨0, length⟩ &&& vipMask = Route.mask ⟨0, length⟩ ∨
        Route.mask ⟨0, length⟩ &&& vipMask = vipMask := by decide
    obtain hs | hl : r.mask &&& vipMask = r.mask ∨ r.mask &&& vipMask = vipMask :=
      hc r.length
    · apply hm
      rw [← hin, ← hs, BitVec.and_comm r.mask, ← BitVec.and_assoc, ← BitVec.and_assoc, hr]
      rfl
    · apply hv
      rw [← hl, ← BitVec.and_assoc, ← hin, BitVec.and_assoc, hl, hr]
  · intro hf
    exact ⟨fun heq => hf ⟨vip, heq.symm, rfl⟩, fun heq => hf ⟨_, rfl, heq⟩⟩

end Route

theorem upperDigit_value (n : Fin 16) :
    isHexDigit (upperDigit n) = true ∧ hexValue (upperDigit n) = n := by
  revert n
  decide

theorem fromStrRadix_hexWord (w : BitVec 32) : fromStrRadix (hexWord w) = some w := by
  have hd (i : Nat) := upperDigit_value ⟨w.toNat / 16 ^ i % 16, Nat.mod_lt _ (by decide)⟩
  have hv : (hexWord w).foldl (fun value c => value * 16 + hexValue c) 0 = w.toNat := by
    have hlt := w.isLt
    simp only [hexWord, List.map_cons, List.map_nil, List.foldl_cons, List.foldl_nil, hd]
    omega
  have hh : (hexWord w).all isHexDigit = true := by
    simp only [hexWord, List.map_cons, List.map_nil, List.all_cons, List.all_nil, hd, Bool.and_self]
  unfold fromStrRadix
  split
  · next rest h =>
    rw [h] at hh
    cases hh
  · dsimp only
    rw [hv, hh]
    simp [hexWord, w.isLt]

theorem checkVipRoute_ok {r : Route} (h : r.Printed line) : checkVipRoute line = .ok () ↔
    (r.mask ≠ 0 → ¬∃ address, r.Contains address ∧ address &&& vipMask = vip) := by
  obtain ⟨hl, network, mask, hn, hms, hd, hm⟩ := h
  simp only [checkVipRoute, if_neg (Nat.not_lt.2 hl), hn, hms, fromStrRadix_hexWord,
    orError, bind, Except.bind, hd, hm]
  split
  · next hz => simp [hz]
  · next hne =>
    rw [ensure_ok, r.clear_iff]
    exact (imp_iff_right hne).symm

/-- A table with a header and the lines of the routes is accepted exactly if no address of the
service range is in a route with a mask. -/
theorem vip_routes_exact {routes : List Route} (hlines : lines text = header :: body)
    (hroutes : List.Forall₂ Route.Printed body routes) :
    validateVipRoutes text = .ok () ↔ ∀ r ∈ routes, r.mask ≠ 0 →
      ¬∃ address, r.Contains address ∧ address &&& vipMask = vip := by
  rw [validateVipRoutes, hlines, List.drop_one, List.tail_cons, forEach_ok]
  clear hlines
  induction hroutes with
  | nil => simp
  | cons h _ ih => rw [List.forall_mem_cons, List.forall_mem_cons, checkVipRoute_ok h, ih]

def privateTable : List Char := "Iface\neth0 0000000A 0 1 0 0 0 000000FF 0\n".toList

theorem vip_routes_exact_private : validateVipRoutes privateTable = .ok () ∧
    ¬∃ address, (Route.mk 0x0a000000 8).Contains address ∧ address &&& vipMask = vip := by
  have hl : lines privateTable =
      ["Iface".toList, "eth0 0000000A 0 1 0 0 0 000000FF 0".toList] := by decide +kernel
  have hp : Route.Printed "eth0 0000000A 0 1 0 0 0 000000FF 0".toList ⟨0x0a000000, 8⟩ :=
    ⟨by decide +kernel, 0xa, 0xff, by decide +kernel, by decide +kernel, by decide, by decide⟩
  have hok : validateVipRoutes privateTable = .ok () := by decide +kernel
  exact ⟨hok, (vip_routes_exact hl (.cons hp .nil)).1 hok _ (List.mem_singleton.2 rfl)
    (by decide)⟩

end Podmesh
