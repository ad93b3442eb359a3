import Podmesh.Lib.Fallible
import Podmesh.Lib.Rego

namespace Podmesh

/-- A YAML value; a mapping lists its entries in order and a node may carry a local tag. -/
inductive Yaml where
  | null
  | bool (b : Bool)
  | number (n : Number)
  | nonFinite
  | string (s : String)
  | sequence (items : List Yaml)
  | mapping (entries : List (Yaml × Yaml))
  | tagged (tag : String) (value : Yaml)

namespace Yaml

def untag : Yaml → Yaml
  | .tagged _ value => untag value
  | y => y

def isNull (y : Yaml) : Bool :=
  match y.untag with
  | .null => true
  | _ => false

def asStr (y : Yaml) : Option String :=
  match y.untag with
  | .string s => some s
  | _ => none

def asU64 (y : Yaml) : Option Nat :=
  match y.untag with
  | .number (.int i) => if 0 ≤ i then some i.toNat else none
  | _ => none

def asSequence (y : Yaml) : Option (List Yaml) :=
  match y.untag with
  | .sequence items => some items
  | _ => none

def asMapping (y : Yaml) : Option (List (Yaml × Yaml)) :=
  match y.untag with
  | .mapping entries => some entries
  | _ => none

def isKey (key : String) : Yaml → Bool
  | .string s => s == key
  | _ => false

def lookup (key : String) : List (Yaml × Yaml) → Option Yaml
  | [] => none
  | (k, v) :: rest =>
    match lookup key rest with
    | some w => some w
    | none => if k.isKey key then some v else none

def get (y : Yaml) (key : String) : Option Yaml := y.asMapping.bind (lookup key)

def keyText : Yaml → Except String String
  | .string s => .ok s
  | .bool b => .ok (if b then "true" else "false")
  | .number n => .ok n.text
  | .nonFinite => .error "float key must be finite (got NaN or +/-inf)"
  | _ => .error "key must be a string"

mutual
/-- Conversion to JSON: a tag becomes the only key of an object. -/
def toJson : Yaml → Except String Json
  | .null => .ok .null
  | .bool b => .ok (.bool b)
  | .number n => .ok (.number n)
  | .nonFinite => .ok .null
  | .string s => .ok (.string s)
  | .sequence items => do
    let items ← itemsToJson items
    return .array items
  | .mapping entries => do
    let fields ← entriesToJson entries
    return .object fields
  | .tagged tag value => do
    let value ← toJson value
    return .object [(tag, value)]
def itemsToJson : List Yaml → Except String (List Json)
  | [] => .ok []
  | y :: rest => do
    let j ← toJson y
    let js ← itemsToJson rest
    return j :: js
def entriesToJson : List (Yaml × Yaml) → Except String (List (String × Json))
  | [] => .ok []
  | (k, v) :: rest => do
    let name ← keyText k
    let j ← toJson v
    let fields ← entriesToJson rest
    return if fields.any (·.1 == name) then fields else (name, j) :: fields
end

mutual
def ofJson : Json → Yaml
  | .null => .null
  | .bool b => .bool b
  | .number n => .number n
  | .string s => .string s
  | .array items => .sequence (ofItems items)
  | .object fields => .mapping (ofFields fields)
def ofItems : List Json → List Yaml
  | [] => []
  | j :: rest => ofJson j :: ofItems rest
def ofFields : List (String × Json) → List (Yaml × Yaml)
  | [] => []
  | (k, j) :: rest => (.string k, ofJson j) :: ofFields rest
end

mutual
def tagFree : Yaml → Bool
  | .sequence items => itemsTagFree items
  | .mapping entries => entriesTagFree entries
  | .tagged _ _ => false
  | _ => true
def itemsTagFree : List Yaml → Bool
  | [] => true
  | y :: rest => tagFree y && itemsTagFree rest
def entriesTagFree : List (Yaml × Yaml) → Bool
  | [] => true
  | (k, v) :: rest => tagFree k && tagFree v && entriesTagFree rest
end

mutual
def same : Yaml → Yaml → Bool
  | .null, .null => true
  | .bool b, .bool b' => b == b'
  | .number n, .number n' => n == n'
  | .nonFinite, .nonFinite => true
  | .string s, .string s' => s == s'
  | .sequence items, .sequence items' => sameItems items items'
  | .mapping entries, .mapping entries' => sameEntries entries entries'
  | .tagged tag value, .tagged tag' value' => tag == tag' && same value value'
  | _, _ => false
def sameItems : List Yaml → List Yaml → Bool
  | [], [] => true
  | y :: rest, y' :: rest' => same y y' && sameItems rest rest'
  | _, _ => false
def sameEntries : List (Yaml × Yaml) → List (Yaml × Yaml) → Bool
  | [], [] => true
  | (k, v) :: rest, (k', v') :: rest' => same k k' && same v v' && sameEntries rest rest'
  | _, _ => false
end

mutual
theorem same_self : ∀ y : Yaml, same y y = true
  | .null => rfl
  | .bool _ => beq_self_eq_true _
  | .number _ => beq_self_eq_true _
  | .nonFinite => rfl
  | .string _ => beq_self_eq_true _
  | .sequence items => sameItems_self items
  | .mapping entries => sameEntries_self entries
  | .tagged _ value => by rw [same, beq_self_eq_true, same_self value]; rfl
theorem sameItems_self : ∀ items : List Yaml, sameItems items items = true
  | [] => rfl
  | y :: rest => by rw [sameItems, same_self y, sameItems_self rest]; rfl
theorem sameEntries_self : ∀ entries : List (Yaml × Yaml), sameEntries entries entries = true
  | [] => rfl
  | (k, v) :: rest => by rw [sameEntries, same_self k, same_self v, sameEntries_self rest]; rfl
end

mutual
theorem eq_of_same : ∀ {y y' : Yaml}, same y y' = true → y = y' := by
  intro y y' h
  cases y with
  | null | nonFinite => cases y' <;> first | rfl | cases h
  | bool b =>
    cases y' with
    | bool b' => rw [eq_of_beq (show (b == b') = true from h)]
    | _ => cases h
  | number n =>
    cases y' with
    | number n' => rw [eq_of_beq (show (n == n') = true from h)]
    | _ => cases h
  | string s =>
    cases y' with
    | string s' => rw [eq_of_beq (show (s == s') = true from h)]
    | _ => cases h
  | sequence items =>
    cases y' with
    | sequence items' => rw [eq_of_sameItems (show sameItems items items' = true from h)]
    | _ => cases h
  | mapping entries =>
    cases y' with
    | mapping entries' => rw [eq_of_sameEntries (show sameEntries entries entries' = true from h)]
    | _ => cases h
  | tagged tag value =>
    cases y' with
    | tagged tag' value' =>
      simp only [same, Bool.and_eq_true, beq_iff_eq] at h
      rw [h.1, eq_of_same h.2]
    | _ => cases h
theorem eq_of_sameItems : ∀ {items items' : List Yaml}, sameItems items items' = true →
    items = items'
  | [], [], _ => rfl
  | y :: rest, y' :: rest', h => by
    simp only [sameItems, Bool.and_eq_true] at h
    rw [eq_of_same h.1, eq_of_sameItems h.2]
theorem eq_of_sameEntries : ∀ {entries entries' : List (Yaml × Yaml)},
    sameEntries entries entries' = true → entries = entries'
  | [], [], _ => rfl
  | (k, v) :: rest, (k', v') :: rest', h => by
    simp only [sameEntries, Bool.and_eq_true] at h
    rw [eq_of_same h.1.1, eq_of_same h.1.2, eq_of_sameEntries h.2]
end

instance : DecidableEq Yaml := fun y y' =>
  decidable_of_iff (same y y' = true) ⟨eq_of_same, fun h => h ▸ same_self y⟩

end Yaml
end Podmesh
