import Mathlib.Data.List.Nodup
import Podmesh.Lib.Yaml

namespace Podmesh

open Rego

/-! Conversion of YAML values to JSON and back: what a reader of one finds in the other. -/

variable {key : String}

namespace Yaml

mutual
def strip : Yaml → Yaml
  | .sequence items => .sequence (stripItems items)
  | .mapping entries => .mapping (stripEntries entries)
  | .tagged _ value => strip value
  | y => y
def stripItems : List Yaml → List Yaml
  | [] => []
  | y :: rest => strip y :: stripItems rest
def stripEntries : List (Yaml × Yaml) → List (Yaml × Yaml)
  | [] => []
  | (k, v) :: rest => (k, strip v) :: stripEntries rest
end

mutual
theorem strip_of_tagFree : ∀ {y : Yaml}, y.tagFree = true → y.strip = y
  | .null, _ | .bool _, _ | .number _, _ | .nonFinite, _ | .string _, _ => rfl
  | .sequence _, h => congrArg Yaml.sequence (stripItems_of_tagFree h)
  | .mapping _, h => congrArg Yaml.mapping (stripEntries_of_tagFree h)
theorem stripItems_of_tagFree : ∀ {items : List Yaml}, itemsTagFree items = true →
    stripItems items = items
  | [], _ => rfl
  | y :: rest, h => by
    simp only [itemsTagFree, Bool.and_eq_true] at h
    simp [stripItems, strip_of_tagFree h.1, stripItems_of_tagFree h.2]
theorem stripEntries_of_tagFree : ∀ {entries : List (Yaml × Yaml)},
    entriesTagFree entries = true → stripEntries entries = entries
  | [], _ => rfl
  | (k, v) :: rest, h => by
    simp only [entriesTagFree, Bool.and_eq_true] at h
    simp [stripEntries, strip_of_tagFree h.1.2, stripEntries_of_tagFree h.2]
end

theorem untag_strip (y : Yaml) : y.strip.untag = y.strip := by
  cases y with
  | tagged _ value => exact untag_strip value
  | _ => rfl

theorem untag_of_tagFree {y : Yaml} (h : y.tagFree = true) : y.untag = y := by
  rw [← strip_of_tagFree h]
  exact untag_strip y

theorem tagFree_lookup (h : entriesTagFree entries = true) (hv : lookup key entries = some v) :
    v.tagFree = true := by
  induction entries with
  | nil => cases hv
  | cons e rest ih =>
    obtain ⟨k, w⟩ := e
    simp only [entriesTagFree, Bool.and_eq_true] at h
    simp only [lookup] at hv
    cases hr : lookup key rest with
    | some u =>
      rw [hr] at hv ih
      exact ih h.2 hv
    | none =>
      rw [hr] at hv
      by_cases hk : k.isKey key = true
      · rw [hk] at hv
        cases hv
        exact h.1.2
      · rw [Bool.not_eq_true] at hk
        rw [hk] at hv
        cases hv

theorem tagFree_get {y : Yaml} (h : y.tagFree = true) (hv : y.get key = some v) :
    v.tagFree = true := by
  obtain ⟨entries, he, hl⟩ := Option.bind_eq_some_iff.1 hv
  simp only [asMapping, untag_of_tagFree h] at he
  cases y with
  | mapping entries' =>
    cases he
    exact tagFree_lookup h hl
  | _ => cases he

theorem lookup_stripEntries (key : String) (entries : List (Yaml × Yaml)) :
    lookup key (stripEntries entries) = (lookup key entries).map strip := by
  induction entries with
  | nil => rfl
  | cons e rest ih =>
    obtain ⟨k, v⟩ := e
    simp only [stripEntries, lookup, ih]
    cases lookup key rest with
    | some w => rfl
    | none => by_cases hk : k.isKey key <;> simp [hk]

theorem asMapping_strip (y : Yaml) : y.strip.asMapping = y.asMapping.map stripEntries := by
  cases y with
  | tagged _ value => exact asMapping_strip value
  | _ => rfl

theorem get_strip (y : Yaml) (key : String) : y.strip.get key = (y.get key).map strip := by
  simp only [get, asMapping_strip]
  cases y.asMapping with
  | none => rfl
  | some entries => exact lookup_stripEntries key entries

mutual
theorem toJson_strip : ∀ {y : Yaml} {j : Json}, toJson y = .ok j → ∃ j', toJson y.strip = .ok j'
  | .null, _, _ | .bool _, _, _ | .number _, _, _ | .nonFinite, _, _ | .string _, _, _ => ⟨_, rfl⟩
  | .sequence items, _, h => by
    obtain ⟨js, hi, _⟩ := bind_ok.1 h
    obtain ⟨js', hjs⟩ := itemsToJson_strip hi
    exact ⟨.array js', by simp only [strip, toJson, hjs]; rfl⟩
  | .mapping entries, _, h => by
    obtain ⟨fields, he, _⟩ := bind_ok.1 h
    obtain ⟨fields', hf⟩ := entriesToJson_strip he
    exact ⟨.object fields', by simp only [strip, toJson, hf]; rfl⟩
  | .tagged _ value, _, h => by
    obtain ⟨j, hv, _⟩ := bind_ok.1 h
    simp only [strip]
    exact toJson_strip hv
theorem itemsToJson_strip : ∀ {items : List Yaml} {js : List Json}, itemsToJson items = .ok js →
    ∃ js', itemsToJson (stripItems items) = .ok js'
  | [], _, _ => ⟨_, rfl⟩
  | y :: rest, _, h => by
    obtain ⟨j, hy, h⟩ := bind_ok.1 h
    obtain ⟨js, hr, _⟩ := bind_ok.1 h
    obtain ⟨j', hj⟩ := toJson_strip hy
    obtain ⟨js', hjs⟩ := itemsToJson_strip hr
    exact ⟨j' :: js', by simp only [stripItems, itemsToJson, hj, hjs]; rfl⟩
theorem entriesToJson_strip : ∀ {entries : List (Yaml × Yaml)} {fields : List (String × Json)},
    entriesToJson entries = .ok fields →
      ∃ fields', entriesToJson (stripEntries entries) = .ok fields'
  | [], _, _ => ⟨_, rfl⟩
  | (k, v) :: rest, _, h => by
    obtain ⟨name, hn, h⟩ := bind_ok.1 h
    obtain ⟨j, hv, h⟩ := bind_ok.1 h
    obtain ⟨fields, hr, _⟩ := bind_ok.1 h
    obtain ⟨j', hj⟩ := toJson_strip hv
    obtain ⟨fields', hf⟩ := entriesToJson_strip hr
    exact ⟨_, by simp only [stripEntries, entriesToJson, hn, hj, hf]; rfl⟩
end

/-- The key is a word that no number and no Boolean has as its text. -/
def isWord (key : String) : Bool :=
  key.toList.head?.any (fun c => !c.isDigit && c != '-') && key != "true" && key != "false"

end Yaml

theorem head_repr (m : Nat) : ∃ c, m.repr.toList.head? = some c ∧ c.isDigit = true := by
  rw [Nat.toList_repr]
  cases hd : Nat.toDigits 10 m with
  | nil => exact absurd hd Nat.toDigits_ne_nil
  | cons c rest =>
    have hc : c ∈ Nat.toDigits 10 m := hd ▸ List.mem_cons_self
    exact ⟨c, rfl, Nat.isDigit_of_mem_toDigits (by decide) (by decide) hc⟩

theorem head_toString (i : Int) :
    ∃ c, (toString i).toList.head? = some c ∧ (c.isDigit = true ∨ c = '-') := by
  rw [Int.toString_eq_repr, Int.repr_eq_if]
  split
  · obtain ⟨c, hc, hd⟩ := head_repr i.toNat
    exact ⟨c, hc, .inl hd⟩
  · exact ⟨'-', by simp, .inr rfl⟩

theorem Number.head_text (n : Number) :
    ∃ c, n.text.toList.head? = some c ∧ (c.isDigit = true ∨ c = '-') := by
  cases n with
  | int i => exact head_toString i
  | float q =>
    obtain ⟨c, hc, hd⟩ := head_toString q.num
    refine ⟨c, ?_, hd⟩
    simp only [Number.text, String.toList_append, List.append_assoc]
    rw [List.head?_append, hc]
    rfl

variable {fields : List (String × Json)}

namespace Yaml

theorem eq_string_of_keyText (hk : isWord key = true)
    (h : keyText k = .ok key) : k = .string key := by
  simp only [isWord, Bool.and_eq_true, bne_iff_ne] at hk
  cases k with
  | string s =>
    simp only [keyText, Except.ok.injEq] at h
    rw [h]
  | bool b =>
    simp only [keyText, Except.ok.injEq] at h
    cases b with
    | true => exact absurd h.symm hk.1.2
    | false => exact absurd h.symm hk.2
  | number n =>
    simp only [keyText, Except.ok.injEq] at h
    obtain ⟨c, hc, hd⟩ := n.head_text
    rw [h] at hc
    simp only [hc, Option.any_some, Bool.and_eq_true, Bool.not_eq_true', bne_iff_ne] at hk
    rcases hd with hd | hd
    · rw [hk.1.1.1] at hd
      cases hd
    · exact absurd hd hk.1.1.2
  | nonFinite | null => cases h
  | sequence items => cases h
  | mapping entries => cases h
  | tagged tag value => cases h

theorem isSome_lookup : fields.any (·.1 == name) = (fields.lookup name).isSome := by
  induction fields with
  | nil => rfl
  | cons e rest ih =>
    obtain ⟨k, v⟩ := e
    rw [List.any_cons, List.lookup_cons, ih]
    by_cases hk : name = k
    · subst hk
      simp
    · rw [beq_false_of_ne hk, beq_false_of_ne (Ne.symm hk)]
      rfl

theorem lookup_entriesToJson (hky : isWord key = true) (h : entriesToJson entries = .ok fields) :
    (lookup key entries = none ∧ fields.lookup key = none) ∨
      ∃ v j, lookup key entries = some v ∧ toJson v = .ok j ∧ fields.lookup key = some j := by
  induction entries generalizing fields with
  | nil =>
    cases h
    exact .inl ⟨rfl, rfl⟩
  | cons e rest ih =>
    obtain ⟨k, v⟩ := e
    simp only [entriesToJson, bind_ok] at h
    obtain ⟨name, hn, j, hj, fields', hr, h⟩ := h
    cases h
    rcases ih hr with ⟨hnn, hf⟩ | ⟨w, jw, hw, hjw, hf⟩
    · by_cases hk : name = key
      · subst hk
        have hs := eq_string_of_keyText hky hn
        subst hs
        right
        refine ⟨v, j, by simp [lookup, hnn, isKey], hj, ?_⟩
        simp [isSome_lookup, hf]
      · have hnt : k.isKey key = false := by
          cases k with
          | string s =>
            simp only [keyText, Except.ok.injEq] at hn
            simp only [isKey, beq_eq_false_iff_ne]
            rwa [hn]
          | _ => rfl
        left
        refine ⟨by simp [lookup, hnn, hnt], ?_⟩
        split
        · exact hf
        · rw [List.lookup_cons, beq_false_of_ne (Ne.symm hk)]
          exact hf
    · right
      refine ⟨w, jw, by simp [lookup, hw], hjw, ?_⟩
      by_cases hk : name = key
      · subst hk
        simp [isSome_lookup, hf]
      · split
        · exact hf
        · rw [List.lookup_cons, beq_false_of_ne (Ne.symm hk)]
          exact hf

theorem ref_of_get (hk : isWord key = true) (hr : y.untag = y) (hj : toJson y = .ok j)
    (hv : y.get key = some v) : ∃ w, toJson v = .ok w ∧ ref j key = some w := by
  obtain ⟨entries, he, hl⟩ := Option.bind_eq_some_iff.1 hv
  simp only [asMapping, hr] at he
  cases y with
  | mapping entries' =>
    cases he
    obtain ⟨fields, hf, h⟩ := bind_ok.1 hj
    cases h
    rcases lookup_entriesToJson hk hf with ⟨hn, _⟩ | ⟨v', w, hv', hw, hrf⟩
    · rw [hn] at hl
      cases hl
    · rw [hv'] at hl
      cases hl
      exact ⟨w, hw, hrf⟩
  | _ => cases he

end Yaml

mutual
/-- No object inside the value has two fields of one name. -/
def Json.WellFormed : Json → Prop
  | .array items => ItemsWellFormed items
  | .object fields => (fields.map (·.1)).Nodup ∧ FieldsWellFormed fields
  | _ => True
def Json.ItemsWellFormed : List Json → Prop
  | [] => True
  | j :: rest => WellFormed j ∧ ItemsWellFormed rest
def Json.FieldsWellFormed : List (String × Json) → Prop
  | [] => True
  | (_, j) :: rest => WellFormed j ∧ FieldsWellFormed rest
end

theorem Json.itemsWellFormed_iff : ItemsWellFormed items ↔ ∀ j ∈ items, j.WellFormed := by
  induction items with
  | nil => simp [ItemsWellFormed]
  | cons j rest ih => simp [ItemsWellFormed, ih]

theorem Json.fieldsWellFormed_iff : FieldsWellFormed fields ↔ ∀ e ∈ fields, e.2.WellFormed := by
  induction fields with
  | nil => simp [FieldsWellFormed]
  | cons e rest ih => simp [FieldsWellFormed, ih]

namespace Yaml

mutual
theorem wellFormed_toJson : ∀ {y : Yaml} {j : Json}, toJson y = .ok j → j.WellFormed
  | .null, _, h | .bool _, _, h | .number _, _, h | .nonFinite, _, h | .string _, _, h => by
    cases h
    trivial
  | .sequence items, _, h => by
    obtain ⟨js, hi, h⟩ := bind_ok.1 h
    cases h
    exact wellFormed_itemsToJson hi
  | .mapping entries, _, h => by
    obtain ⟨fields, he, h⟩ := bind_ok.1 h
    cases h
    exact wellFormed_entriesToJson he
  | .tagged _ value, _, h => by
    obtain ⟨j, hv, h⟩ := bind_ok.1 h
    cases h
    exact ⟨List.nodup_singleton _, wellFormed_toJson hv, trivial⟩
theorem wellFormed_itemsToJson : ∀ {items : List Yaml} {js : List Json},
    itemsToJson items = .ok js → Json.ItemsWellFormed js
  | [], _, h => by
    cases h
    trivial
  | y :: rest, _, h => by
    obtain ⟨j, hy, h⟩ := bind_ok.1 h
    obtain ⟨js, hr, h⟩ := bind_ok.1 h
    cases h
    exact ⟨wellFormed_toJson hy, wellFormed_itemsToJson hr⟩
theorem wellFormed_entriesToJson : ∀ {entries : List (Yaml × Yaml)}
    {fields : List (String × Json)}, entriesToJson entries = .ok fields →
      (fields.map (·.1)).Nodup ∧ Json.FieldsWellFormed fields
  | [], _, h => by
    cases h
    exact ⟨List.nodup_nil, trivial⟩
  | (k, v) :: rest, _, h => by
    obtain ⟨name, hn, h⟩ := bind_ok.1 h
    obtain ⟨j, hv, h⟩ := bind_ok.1 h
    obtain ⟨fields, hr, h⟩ := bind_ok.1 h
    have hf := wellFormed_entriesToJson hr
    cases h
    split
    · exact hf
    · next hnw =>
      have hm : name ∉ fields.map (·.1) := by simpa using hnw
      exact ⟨List.nodup_cons.2 ⟨hm, hf.1⟩, wellFormed_toJson hv, hf.2⟩
end

mutual
theorem toJson_ofJson : ∀ {j : Json}, j.WellFormed → toJson (ofJson j) = .ok j
  | .null, _ | .bool _, _ | .number _, _ | .string _, _ => rfl
  | .array _, h => by
    simp only [ofJson, toJson, itemsToJson_ofItems h]
    rfl
  | .object _, h => by
    simp only [ofJson, toJson, entriesToJson_ofFields h.1 h.2]
    rfl
theorem itemsToJson_ofItems : ∀ {items : List Json}, Json.ItemsWellFormed items →
    itemsToJson (ofItems items) = .ok items
  | [], _ => rfl
  | j :: rest, h => by
    simp only [ofItems, itemsToJson, toJson_ofJson h.1, itemsToJson_ofItems h.2]
    rfl
theorem entriesToJson_ofFields : ∀ {fields : List (String × Json)}, (fields.map (·.1)).Nodup →
    Json.FieldsWellFormed fields → entriesToJson (ofFields fields) = .ok fields
  | [], _, _ => rfl
  | (k, j) :: rest, hn, h => by
    obtain ⟨hnw, hr⟩ := List.nodup_cons.1 hn
    have ha : rest.any (·.1 == k) = false := by
      rw [List.any_eq_false]
      intro e he hk
      exact hnw (List.mem_map.2 ⟨e, he, eq_of_beq hk⟩)
    simp only [ofFields, entriesToJson, keyText, toJson_ofJson h.1, entriesToJson_ofFields hr h.2]
    change Except.ok (if rest.any (·.1 == k) then rest else (k, j) :: rest) = _
    rw [ha]
    rfl
end

theorem ofItems_eq_map : ofItems items = items.map ofJson := by
  induction items with
  | nil => rfl
  | cons j rest ih => rw [ofItems, List.map_cons, ih]

theorem ofFields_append : ofFields (fields ++ fields') = ofFields fields ++ ofFields fields' := by
  induction fields with
  | nil => rfl
  | cons e rest ih =>
    rw [List.cons_append, ofFields, ofFields, ih, List.cons_append]

theorem untag_ofJson (j : Json) : (ofJson j).untag = ofJson j := by
  cases j <;> rfl

end Yaml
end Podmesh
