import Podmesh.Lib.YamlJson
import Podmesh.Manifest.Sidecar

namespace Podmesh

open Rego

/-! The resource defaults as an edit of JSON values. A document that was made from a JSON value is
edited as YAML; these are the same edits on the value itself, and what each leaves alone. -/

variable {fields : List (String × Json)}

namespace Json

def modify (key : String) (f : Json → Json) : Json → Json
  | .object fields => .object (fields.map fun e => if e.1 = key then (e.1, f e.2) else e)
  | j => j

def ensureKey : Json → String → Json → Json
  | .object fields, key, default =>
    if (fields.lookup key).isSome then .object fields else .object (fields ++ [(key, default)])
  | j, _, _ => j

def mapItems (f : Json → Json) : Json → Json
  | .array items => .array (items.map f)
  | j => j

def adjust : List String → (Json → Json) → Json → Json
  | [], f => f
  | key :: path, f => modify key (adjust path f)

def ensureQuantities (cpu memory storage : String) (j : Json) : Json :=
  ((j.ensureKey "cpu" (.string cpu)).ensureKey "memory" (.string memory)).ensureKey
    "ephemeral-storage" (.string storage)

def injectResourceDefaults (container : Json) : Json :=
  (container.ensureKey "resources" (.object [])).modify "resources" fun resources =>
    (((resources.ensureKey "limits" (.object [])).modify "limits"
      (ensureQuantities "100m" "128Mi" "1Gi")).ensureKey "requests" (.object [])).modify "requests"
        (ensureQuantities "50m" "64Mi" "512Mi")

def injectSpecDefaults (spec : Json) : Json :=
  (spec.modify "containers" (mapItems injectResourceDefaults)).modify "initContainers"
    (mapItems injectResourceDefaults)

theorem lookup_map_modify :
    (fields.map fun e => if e.1 = key then (e.1, f e.2) else e).lookup k =
      if k = key then (fields.lookup k).map f else fields.lookup k := by
  induction fields with
  | nil => simp
  | cons e rest ih =>
    obtain ⟨name, v⟩ := e
    rw [List.map_cons, List.lookup_cons]
    by_cases hn : name = key
    · subst hn
      rw [if_pos rfl, List.lookup_cons, ih]
      by_cases hk : k = name
      · subst hk
        simp
      · simp [hk, beq_false_of_ne hk]
    · rw [if_neg hn, List.lookup_cons, ih]
      by_cases hk : k = name
      · subst hk
        simp [hn]
      · simp [beq_false_of_ne hk]

theorem ref_modify : ref (j.modify key f) key = (ref j key).map f := by
  cases j with
  | object fields =>
    simp only [modify, ref]
    rw [lookup_map_modify, if_pos rfl]
  | _ => rfl

theorem ref_modify_of_ne (f : Json → Json) (j : Json) (h : k ≠ key) :
    ref (j.modify key f) k = ref j k := by
  cases j with
  | object fields =>
    simp only [modify, ref]
    rw [lookup_map_modify, if_neg h]
  | _ => rfl

theorem ref_ensureKey_of_ne (default j : Json) (h : k ≠ key) :
    ref (j.ensureKey key default) k = ref j k := by
  cases j with
  | object fields =>
    simp only [ensureKey]
    split
    · rfl
    · simp only [ref]
      rw [List.lookup_append]
      simp [List.lookup_cons, beq_false_of_ne h]
  | _ => rfl

theorem ref_injectResourceDefaults (con : Json) (h : k ≠ "resources") :
    ref con.injectResourceDefaults k = ref con k := by
  rw [injectResourceDefaults, ref_modify_of_ne _ _ h, ref_ensureKey_of_ne _ _ h]

theorem pointer_adjust (path : List String) (f : Json → Json) (j : Json) :
    pointer path (adjust path f j) = (pointer path j).map f := by
  induction path generalizing j with
  | nil => rfl
  | cons key path ih =>
    simp only [pointer, adjust, ref_modify]
    cases ref j key with
    | none => rfl
    | some w => exact ih w

theorem modify_modify (key : String) (f g : Json → Json) (j : Json) :
    (j.modify key f).modify key g = j.modify key fun v => g (f v) := by
  cases j with
  | object fields =>
    simp only [modify, List.map_map]
    congr 1
    apply List.map_congr_left
    intro e _
    by_cases he : e.1 = key <;> simp [he]
  | _ => rfl

theorem adjust_adjust (path : List String) (f g : Json → Json) (j : Json) :
    adjust path g (adjust path f j) = adjust path (fun v => g (f v)) j := by
  induction path generalizing j with
  | nil => rfl
  | cons key path ih =>
    simp only [adjust, modify_modify]
    congr 1
    funext v
    exact ih v

theorem ref_ensureKey_of_some (default : Json) (key : String) (h : ref j k = some v) :
    ref (j.ensureKey key default) k = some v := by
  cases j with
  | object fields =>
    simp only [ref] at h
    simp only [ensureKey]
    split
    · exact h
    · simp only [ref]
      rw [List.lookup_append, h]
      rfl
  | _ => cases h

theorem map_modify_of_lookup_none (f : Json → Json) (h : fields.lookup key = none) :
    (fields.map fun e => if e.1 = key then (e.1, f e.2) else e) = fields := by
  have hid : ∀ e ∈ fields, (if e.1 = key then (e.1, f e.2) else e) = id e := by
    intro e he
    have hne := List.lookup_eq_none_iff.1 h e he
    rw [bne_iff_ne] at hne
    rw [if_neg (Ne.symm hne)]
    rfl
  rw [List.map_congr_left hid, List.map_id]

theorem keys_map_modify (key : String) (f : Json → Json) (fields : List (String × Json)) :
    (fields.map fun e => if e.1 = key then (e.1, f e.2) else e).map (·.1) = fields.map (·.1) := by
  rw [List.map_map]
  apply List.map_congr_left
  intro e _
  simp only [Function.comp]
  split <;> rfl

end Json

/-- On documents made from JSON, the edit of the document is the edit of the JSON value. -/
def ActsAs (edit : Yaml → Yaml) (f : Json → Json) : Prop :=
  ∀ j : Json, j.WellFormed → edit (Yaml.ofJson j) = Yaml.ofJson (f j) ∧ (f j).WellFormed

theorem ActsAs.comp (hg : ActsAs edit' g) (hf : ActsAs edit f) :
    ActsAs (fun y => edit' (edit y)) (fun j => g (f j)) := by
  intro j hj
  obtain ⟨he, hw⟩ := hf j hj
  simp only [he]
  exact hg (f j) hw

variable {edit : Yaml → Yaml} {f : Json → Json}

namespace Yaml

theorem lookup_eq_none_of_notMem (h : key ∉ fields.map (·.1)) : fields.lookup key = none := by
  rw [List.lookup_eq_none_iff]
  intro e he
  rw [bne_iff_ne]
  intro heq
  exact h (List.mem_map.2 ⟨e, he, heq.symm⟩)

theorem lookup_ofFields (h : (fields.map (·.1)).Nodup)
    (key : String) : lookup key (ofFields fields) = (fields.lookup key).map ofJson := by
  induction fields with
  | nil => rfl
  | cons e rest ih =>
    obtain ⟨k, j⟩ := e
    obtain ⟨hn, hr⟩ := List.nodup_cons.1 h
    simp only [ofFields, lookup, ih hr, List.lookup_cons, isKey]
    by_cases hk : k = key
    · subst hk
      simp [lookup_eq_none_of_notMem hn]
    · simp only [beq_false_of_ne hk, beq_false_of_ne (Ne.symm hk)]
      cases rest.lookup key <;> rfl

theorem get_ofJson (h : j.WellFormed) (key : String) :
    (ofJson j).get key = (ref j key).map ofJson := by
  cases j with
  | object fields => exact lookup_ofFields h.1 key
  | _ => rfl

theorem asStr_ofJson : (ofJson j).asStr = some s ↔ j = .string s := by
  cases j with
  | string t => simp [ofJson, asStr, untag]
  | _ => simp [ofJson, asStr, untag]

theorem kind_ofJson (h : j.WellFormed) :
    (ofJson j).kind = some k ↔ ref j "kind" = some (.string k) := by
  rw [kind, get_ofJson h]
  cases ref j "kind" with
  | none => simp
  | some v => simp [asStr_ofJson]

theorem modifyEntries_ofFields (hf : ActsAs edit f) (h : (fields.map (·.1)).Nodup)
    (hw : Json.FieldsWellFormed fields) (key : String) :
    modifyEntries key edit (ofFields fields) =
      ofFields (fields.map fun e => if e.1 = key then (e.1, f e.2) else e) := by
  induction fields with
  | nil => rfl
  | cons e rest ih =>
    obtain ⟨k, j⟩ := e
    obtain ⟨hnw, hr⟩ := List.nodup_cons.1 h
    simp only [ofFields, modifyEntries, lookup_ofFields hr, Option.isSome_map, List.map_cons,
      ih hr hw.2, isKey, beq_iff_eq]
    by_cases hk : k = key
    · subst hk
      have hn := lookup_eq_none_of_notMem hnw
      simp only [hn, Json.map_modify_of_lookup_none f hn]
      simp [(hf j hw.1).1]
    · split
      · rfl
      · next hn =>
        rw [Option.not_isSome_iff_eq_none] at hn
        rw [Json.map_modify_of_lookup_none f hn]

end Yaml

namespace ActsAs

theorem modify (h : ActsAs edit f) (key : String) :
    ActsAs (Yaml.modify key edit) (Json.modify key f) := by
  intro j hj
  cases j with
  | object fields =>
    refine ⟨congrArg Yaml.mapping (Yaml.modifyEntries_ofFields h hj.1 hj.2 key), ?_, ?_⟩
    · rw [Json.keys_map_modify]
      exact hj.1
    · rw [Json.fieldsWellFormed_iff]
      intro e he
      obtain ⟨e', he', rfl⟩ := List.mem_map.1 he
      have hw := Json.fieldsWellFormed_iff.1 hj.2 e' he'
      split
      · exact (h e'.2 hw).2
      · exact hw
  | array items => exact ⟨rfl, hj⟩
  | _ => exact ⟨rfl, trivial⟩

theorem ensureKey {default : Json} (h : default.WellFormed) (key : String) :
    ActsAs (fun y => y.ensureKey key (Yaml.ofJson default)) (fun j => j.ensureKey key default) := by
  intro j hj
  cases j with
  | object fields =>
    simp only [Yaml.ofJson, Yaml.ensureKey, Json.ensureKey, Yaml.lookup_ofFields hj.1,
      Option.isSome_map]
    split
    · exact ⟨rfl, hj⟩
    · next hn =>
      rw [Option.not_isSome_iff_eq_none] at hn
      refine ⟨by rw [Yaml.ofJson, Yaml.ofFields_append]; rfl, ?_, ?_⟩
      · rw [List.map_append]
        apply List.Nodup.append hj.1 (List.nodup_singleton _)
        intro name hnm hk
        rw [List.mem_singleton] at hk
        subst hk
        obtain ⟨e, he, rfl⟩ := List.mem_map.1 hnm
        have hne := List.lookup_eq_none_iff.1 hn e he
        rw [bne_self_eq_false] at hne
        cases hne
      · rw [Json.fieldsWellFormed_iff, List.forall_mem_append]
        refine ⟨Json.fieldsWellFormed_iff.1 hj.2, ?_⟩
        rw [List.forall_mem_singleton]
        exact h
  | array items => exact ⟨rfl, hj⟩
  | _ => exact ⟨rfl, trivial⟩

theorem mapItems (h : ActsAs edit f) : ActsAs (Yaml.mapItems edit) (Json.mapItems f) := by
  intro j hj
  cases j with
  | array items =>
    have him := Json.itemsWellFormed_iff.1 hj
    constructor
    · simp only [Yaml.ofJson, Yaml.mapItems, Json.mapItems, Yaml.ofItems_eq_map, List.map_map]
      congr 1
      apply List.map_congr_left
      intro item hi
      exact (h item (him item hi)).1
    · apply Json.itemsWellFormed_iff.2
      intro item hi
      obtain ⟨item', hi', rfl⟩ := List.mem_map.1 hi
      exact (h item' (him item' hi')).2
  | object fields => exact ⟨rfl, hj⟩
  | _ => exact ⟨rfl, trivial⟩

theorem ensureQuantities (cpu memory storage : String) :
    ActsAs (Podmesh.ensureQuantities cpu memory storage)
      (Json.ensureQuantities cpu memory storage) := by
  have hc := ActsAs.ensureKey (show (Json.string cpu).WellFormed from trivial) "cpu"
  have hm := ActsAs.ensureKey (show (Json.string memory).WellFormed from trivial) "memory"
  have hs :=
    ActsAs.ensureKey (show (Json.string storage).WellFormed from trivial) "ephemeral-storage"
  exact hs.comp (hm.comp hc)

theorem injectResourceDefaults :
    ActsAs Podmesh.injectResourceDefaults Json.injectResourceDefaults := by
  have ho : (Json.object []).WellFormed := ⟨List.nodup_nil, trivial⟩
  have he := ActsAs.ensureKey ho
  have hl := (ensureQuantities "100m" "128Mi" "1Gi").modify "limits"
  have hrq := (ensureQuantities "50m" "64Mi" "512Mi").modify "requests"
  have hr := hrq.comp ((he "requests").comp (hl.comp (he "limits")))
  exact (hr.modify "resources").comp (he "resources")

end ActsAs

/-! The documents that carry a pod. -/

theorem podSpecPath_congr (h : ref j' "kind" = ref j "kind") : podSpecPath j' = podSpecPath j := by
  simp only [podSpecPath, h]

theorem podSpecPath_eq_cons (j : Json) : ∃ rest, podSpecPath j = "spec" :: rest := by
  unfold podSpecPath
  split <;> exact ⟨_, rfl⟩

theorem Json.ref_adjust_podSpecPath (f : Json → Json) (j : Json) (h : k ≠ "spec") :
    ref (adjust (podSpecPath j) f j) k = ref j k := by
  obtain ⟨rest, hp⟩ := podSpecPath_eq_cons j
  rw [hp, adjust, ref_modify_of_ne _ _ h]

theorem mutateContainers_ofJson (he : ActsAs edit f)
    (hj : j.WellFormed) (hk : ref j "kind" = some (.string kind))
    (hs : supportedPodKinds.contains kind = true) (field : String) :
    mutateContainers field edit (Yaml.ofJson j) =
        Yaml.ofJson (Json.adjust (podSpecPath j) (Json.modify field (Json.mapItems f)) j) ∧
      (Json.adjust (podSpecPath j) (Json.modify field (Json.mapItems f)) j).WellFormed := by
  have hd := (Yaml.kind_ofJson hj).2 hk
  have hl := he.mapItems.modify field
  simp only [supportedPodKinds, List.contains_iff_mem, List.mem_cons, List.not_mem_nil,
    or_false] at hs
  rcases hs with rfl | rfl
  · have hp : podSpecPath j = ["spec"] := by simp [podSpecPath, hk, isText]
    rw [mutateContainers, hd, hp]
    exact hl.modify "spec" j hj
  · have hp : podSpecPath j = ["spec", "template", "spec"] := by
      simp [podSpecPath, hk, isText]
    rw [mutateContainers, hd, hp]
    exact ((hl.modify "spec").modify "template").modify "spec" j hj

theorem mutateDocumentDefaults_ofJson (hj : j.WellFormed) (hk : ref j "kind" = some (.string kind))
    (hs : supportedPodKinds.contains kind = true) :
    mutateDocumentDefaults (Yaml.ofJson j) =
        Yaml.ofJson (Json.adjust (podSpecPath j) Json.injectSpecDefaults j) ∧
      (Json.adjust (podSpecPath j) Json.injectSpecDefaults j).WellFormed := by
  obtain ⟨hf, hw⟩ := mutateContainers_ofJson ActsAs.injectResourceDefaults hj hk
    hs "containers"
  have hk' := Json.ref_adjust_podSpecPath
    (Json.modify "containers" (Json.mapItems Json.injectResourceDefaults)) j
    (show "kind" ≠ "spec" by decide)
  have hsc := mutateContainers_ofJson ActsAs.injectResourceDefaults hw
    (hk'.trans hk) hs "initContainers"
  rw [podSpecPath_congr hk', Json.adjust_adjust, ← hf] at hsc
  exact hsc

end Podmesh
