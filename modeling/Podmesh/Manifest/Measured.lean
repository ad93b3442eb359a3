import Mathlib.Algebra.Group.Prod
import Podmesh.Agent.Reference
import Podmesh.Manifest.Injection

namespace Podmesh
open Yaml (get_ofJson ofJson)

open Rego

def defaultSidecarCpuMilli : Nat := 100
def defaultSidecarMemoryBytes : Nat := 128 * 1024 * 1024
def defaultSidecarStorageBytes : Nat := 1024 * 1024 * 1024

/-- What podctl reserves: the measured limits and those of the sidecar to come. -/
def ManifestResources.withDefaultSidecar (self : ManifestResources) :
    Except String ManifestResources := do
  let cpuMilli ← checkedAdd u32Max self.cpuMilli.toNat defaultSidecarCpuMilli
    "CPU limit overflow after sidecar injection"
  let memoryBytes ← checkedAdd u64Max self.memoryBytes.toNat defaultSidecarMemoryBytes
    "memory limit overflow after sidecar injection"
  let storageBytes ← checkedAdd u64Max self.storageBytes.toNat defaultSidecarStorageBytes
    "storage limit overflow after sidecar injection"
  return { cpuMilli := cpuMilli.toUInt32, memoryBytes := memoryBytes.toUInt64,
           storageBytes := storageBytes.toUInt64 }

/-! The measured limits as a sum over the containers. -/

abbrev Amounts := Nat × Nat × Nat

def sidecarAmounts : Amounts :=
  (defaultSidecarCpuMilli, defaultSidecarMemoryBytes, defaultSidecarStorageBytes)

def Measured.amounts (total : Measured) : Amounts :=
  (total.cpuMilli, total.memoryBytes, total.storageBytes)

def ManifestResources.ofAmounts (amounts : Amounts) : ManifestResources where
  cpuMilli := amounts.1.toUInt32
  memoryBytes := amounts.2.1.toUInt64
  storageBytes := amounts.2.2.toUInt64

def limitOf (container : Yaml) (key : String) : Except String String := do
  let limits ← orError ((container.get "resources").bind (·.get "limits"))
    "container resource limits are required"
  requiredQuantity limits key

structure Charged (container : Yaml) (amounts : Amounts) : Prop where
  cpu : limitOf container "cpu" >>= parseCpu = .ok amounts.1
  memory : limitOf container "memory" >>= parseBytes = .ok amounts.2.1
  storage : limitOf container "ephemeral-storage" >>= parseBytes = .ok amounts.2.2

theorem Charged.unique (h : Charged con x) (h' : Charged con y) : x = y := by
  apply Prod.ext
  · exact Except.ok.inj (h.cpu.symm.trans h'.cpu)
  · apply Prod.ext
    · exact Except.ok.inj (h.memory.symm.trans h'.memory)
    · exact Except.ok.inj (h.storage.symm.trans h'.storage)

theorem limitOf_bind (hl : (con.get "resources").bind (·.get "limits") = some limits) :
    (limitOf con key >>= f) = (requiredQuantity limits key >>= f) := by
  simp only [limitOf, hl, orError]
  rfl

theorem checkedAdd_ok : checkedAdd limit a b msg = .ok c ↔ a + b ≤ limit ∧ a + b = c := by
  rw [checkedAdd, unit_bind_ok, ensure_ok, decide_eq_true_eq]
  simp [pure, Except.pure]

theorem measureContainer_ok (h : measureContainer total con = .ok total') :
    ∃ x, Charged con x ∧ total'.amounts = total.amounts + x ∧
      total'.containerCount = total.containerCount + 1 := by
  obtain ⟨limits, hl, h⟩ := bind_ok.1 h
  obtain ⟨cpu, hcp, h⟩ := bind_ok.1 h
  obtain ⟨cpuMilli, hc, h⟩ := bind_ok.1 h
  obtain ⟨memory, hmm, h⟩ := bind_ok.1 h
  obtain ⟨memoryBytes, hm, h⟩ := bind_ok.1 h
  obtain ⟨storage, hst, h⟩ := bind_ok.1 h
  obtain ⟨storageBytes, hs, h⟩ := bind_ok.1 h
  cases h
  obtain ⟨_, rfl⟩ := checkedAdd_ok.1 hc
  obtain ⟨_, rfl⟩ := checkedAdd_ok.1 hm
  obtain ⟨_, rfl⟩ := checkedAdd_ok.1 hs
  have hl := orError_ok.1 hl
  refine ⟨(cpu, memory, storage), ⟨?_, ?_, ?_⟩, rfl, rfl⟩
  · rw [limitOf_bind hl]
    exact hcp
  · rw [limitOf_bind hl]
    exact hmm
  · rw [limitOf_bind hl]
    exact hst

theorem measureContainers_ok {ctrs : List Yaml} (h : measureContainers total ctrs = .ok total') :
    ∃ xs, List.Forall₂ Charged ctrs xs ∧ total'.amounts = total.amounts + xs.sum := by
  induction ctrs generalizing total with
  | nil =>
    cases h
    exact ⟨[], .nil, (add_zero _).symm⟩
  | cons con rest ih =>
    obtain ⟨total₁, hf, h⟩ := bind_ok.1 h
    obtain ⟨x, hx, ha, _⟩ := measureContainer_ok hf
    obtain ⟨xs, hxs, hs⟩ := ih h
    refine ⟨x :: xs, .cons hx hxs, ?_⟩
    rw [hs, ha, List.sum_cons, add_assoc]

theorem measureDocuments_ok (h : measureDocuments docs = .ok rsc) :
    ∃ xs, List.Forall₂ Charged (measuredContainers docs) xs ∧ rsc = .ofAmounts xs.sum := by
  simp only [measureDocuments, bind_ok] at h
  obtain ⟨total, ht, _, -, _, -, h⟩ := h
  cases h
  obtain ⟨xs, hxs, hs⟩ := measureContainers_ok ht
  refine ⟨xs, hxs, ?_⟩
  have hz : (⟨0, 0, 0, 0⟩ : Measured).amounts = 0 := rfl
  rw [hz, zero_add] at hs
  rw [← hs]
  rfl

theorem withDefaultSidecar_ok (h : (ManifestResources.ofAmounts x).withDefaultSidecar = .ok rsc) :
    rsc = .ofAmounts (x + sidecarAmounts) := by
  obtain ⟨cpu, hc, h⟩ := bind_ok.1 h
  obtain ⟨memory, hm, h⟩ := bind_ok.1 h
  obtain ⟨storage, hs, h⟩ := bind_ok.1 h
  cases h
  obtain ⟨_, rfl⟩ := checkedAdd_ok.1 hc
  obtain ⟨_, rfl⟩ := checkedAdd_ok.1 hm
  obtain ⟨_, rfl⟩ := checkedAdd_ok.1 hs
  simp only [ManifestResources.ofAmounts, sidecarAmounts, Prod.fst_add, Prod.snd_add,
    ManifestResources.mk.injEq]
  refine ⟨?_, ?_, ?_⟩
  · apply UInt32.toNat_inj.1
    simp
  · apply UInt64.toNat_inj.1
    simp
  · apply UInt64.toNat_inj.1
    simp

/-! The limits of a container that was made from JSON. -/

def limit (container : Json) (key : String) : Option Json :=
  pointer ["resources", "limits", key] container

theorem limit_eq_some : limit con key = some v ↔
    ∃ rsc limits, ref con "resources" = some rsc ∧
      ref rsc "limits" = some limits ∧ ref limits key = some v := by
  simp only [limit, pointer, Option.bind_eq_some_iff]
  constructor
  · rintro ⟨rsc, hr, limits, hl, w, hw, hv⟩
    cases hv
    exact ⟨rsc, limits, hr, hl, hw⟩
  · rintro ⟨rsc, limits, hr, hl, hv⟩
    exact ⟨rsc, hr, limits, hl, v, hv, rfl⟩

theorem requiredQuantity_ok : requiredQuantity limits key = .ok quantity ↔
    (limits.get key).bind Yaml.asStr = some quantity := by
  unfold requiredQuantity
  split
  · next q hq => simp [hq]
  · next hq => simp [hq]

theorem limitOf_ofJson (h : con.WellFormed) :
    limitOf (ofJson con) key = .ok quantity ↔ limit con key = some (.string quantity) := by
  rw [limitOf, bind_ok, limit_eq_some]
  simp only [orError_ok, requiredQuantity_ok, Option.bind_eq_some_iff, get_ofJson h,
    Option.map_eq_some_iff]
  constructor
  · rintro ⟨_, ⟨_, ⟨rsc, hr, rfl⟩, hl⟩, v, hv, hq⟩
    have hw := h.ref hr
    rw [get_ofJson hw, Option.map_eq_some_iff] at hl
    obtain ⟨limits, hl, rfl⟩ := hl
    rw [get_ofJson (hw.ref hl), Option.map_eq_some_iff] at hv
    obtain ⟨j, hj, rfl⟩ := hv
    rw [Yaml.asStr_ofJson] at hq
    subst hq
    exact ⟨rsc, limits, hr, hl, hj⟩
  · rintro ⟨rsc, limits, hr, hl, hv⟩
    have hw := h.ref hr
    refine ⟨ofJson limits, ⟨_, ⟨rsc, hr, rfl⟩, ?_⟩, .string quantity, ?_, rfl⟩
    · rw [get_ofJson hw, hl]
      rfl
    · rw [get_ofJson (hw.ref hl), hv]
      rfl

theorem limit_injectResourceDefaults (h : limit con key = some v) :
    limit con.injectResourceDefaults key = some v := by
  obtain ⟨rsc, limits, hr, hl, hv⟩ := limit_eq_some.1 h
  rw [limit_eq_some, Json.injectResourceDefaults, Json.ref_modify,
    Json.ref_ensureKey_of_some _ _ hr]
  refine ⟨_, limits.ensureQuantities "100m" "128Mi" "1Gi", rfl, ?_, ?_⟩
  · rw [Json.ref_modify_of_ne _ _ (by decide), Json.ref_ensureKey_of_ne _ _ (by decide),
      Json.ref_modify, Json.ref_ensureKey_of_some _ _ hl]
    rfl
  · apply Json.ref_ensureKey_of_some
    apply Json.ref_ensureKey_of_some
    exact Json.ref_ensureKey_of_some _ _ hv

theorem limit_of_no_resources (ho : isObject con = true) (h : ref con "resources" = none) :
    limit con.injectResourceDefaults "cpu" = some (.string "100m") ∧
      limit con.injectResourceDefaults "memory" = some (.string "128Mi") ∧
      limit con.injectResourceDefaults "ephemeral-storage" = some (.string "1Gi") := by
  have he : ref (con.ensureKey "resources" (.object [])) "resources" =
      some (.object []) := by
    cases con with
    | object fields =>
      simp only [ref] at h
      simp only [Json.ensureKey, h, Option.isSome_none, if_neg Bool.false_ne_true, ref]
      rw [List.lookup_append, h]
      rfl
    | _ => cases ho
  simp only [limit_eq_some, Json.injectResourceDefaults, Json.ref_modify, he]
  exact ⟨⟨_, _, rfl, rfl, rfl⟩, ⟨_, _, rfl, rfl, rfl⟩, ⟨_, _, rfl, rfl, rfl⟩⟩

theorem Charged.defaults (h : Charged (ofJson con) x) (hw : con.WellFormed) :
    Charged (ofJson con.injectResourceDefaults) x := by
  have hw' := (ActsAs.injectResourceDefaults con hw).2
  have hk : ∀ {α} {f : String → Except String α} {key a},
      (limitOf (ofJson con) key >>= f) = .ok a →
      (limitOf (ofJson con.injectResourceDefaults) key >>= f) = .ok a := by
    intro α f key a hf
    obtain ⟨quantity, hq, hf⟩ := bind_ok.1 hf
    apply bind_ok.2 ⟨quantity, _, hf⟩
    rw [limitOf_ofJson hw']
    exact limit_injectResourceDefaults ((limitOf_ofJson hw).1 hq)
  exact ⟨hk h.cpu, hk h.memory, hk h.storage⟩

theorem charged_sidecar :
    Charged (ofJson (sidecarContainer image blob metrics).injectResourceDefaults)
      sidecarAmounts := by
  have hw := wellFormed_sidecarContainer image blob metrics
  have hw' := (ActsAs.injectResourceDefaults _ hw).2
  have hn : ref (sidecarContainer image blob metrics) "resources" = none := by
    cases metrics with
    | none => rfl
    | some listen => rfl
  obtain ⟨hc, hm, hs⟩ := limit_of_no_resources rfl hn
  refine ⟨?_, ?_, ?_⟩
  · exact bind_ok.2 ⟨_, (limitOf_ofJson hw').2 hc, by decide⟩
  · exact bind_ok.2 ⟨_, (limitOf_ofJson hw').2 hm, by decide⟩
  · exact bind_ok.2 ⟨_, (limitOf_ofJson hw').2 hs, by decide⟩

theorem forall₂_defaults {ctrs : List Json} (hw : ∀ c ∈ ctrs, c.WellFormed)
    (h : List.Forall₂ Charged (ctrs.map ofJson) xs) :
    List.Forall₂ Charged ((ctrs.map Json.injectResourceDefaults).map ofJson) xs := by
  induction ctrs generalizing xs with
  | nil => exact h
  | cons con rest ih =>
    obtain ⟨hf, hr⟩ := List.forall_mem_cons.1 hw
    cases h with
    | cons hx hxs => exact .cons (hx.defaults hf) (ih hr hxs)

theorem charges_unique (h : List.Forall₂ Charged l xs) (h' : List.Forall₂ Charged l ys) :
    xs = ys := by
  have hu : Relator.RightUnique Charged := fun _ _ _ hx hy => hx.unique hy
  exact List.right_unique_forall₂' hu h h'

theorem sum_charges {ctrs others : List Json}
    (hw : ∀ c ∈ ctrs ++ others, c.WellFormed)
    (h : List.Forall₂ Charged ((ctrs ++ others).map ofJson) xs)
    (ho : Charged (ofJson one.injectResourceDefaults) x)
    (h' : List.Forall₂ Charged (((ctrs ++ [one] ++ others).map
      Json.injectResourceDefaults).map ofJson) ys) : ys.sum = xs.sum + x := by
  induction ctrs generalizing xs ys with
  | nil =>
    cases h' with
    | cons hy hys =>
      rw [hy.unique ho, charges_unique hys (forall₂_defaults hw h), List.sum_cons, add_comm]
  | cons con rest ih =>
    obtain ⟨hf, hr⟩ := List.forall_mem_cons.1 hw
    cases h with
    | cons hx hxs =>
      cases h' with
      | cons hy hys =>
        rw [hy.unique (hx.defaults hf), List.sum_cons, List.sum_cons, ih hr hxs hys, add_assoc]

/-! The containers of a pod document. -/

theorem asSequence_ofJson (j : Json) :
    ((ofJson j).asSequence).getD [] = (PodSecurity.items (some j)).map ofJson := by
  cases j with
  | array items => simp [ofJson, Yaml.asSequence, Yaml.untag, Yaml.ofItems_eq_map,
      PodSecurity.items]
  | _ => rfl

theorem get_bind_ofJson (hw : value.WellFormed) (key : String) (f : Yaml → Option α) :
    ((ofJson value).get key).bind f = (ref value key).bind fun v => f (ofJson v) := by
  rw [get_ofJson hw, Option.bind_map]
  rfl

theorem containers_ofJson (hw : value.WellFormed)
    (hk : ref value "kind" = some (.string kind)) (field : String) :
    containers (ofJson value) field = (pointer (podSpecPath value) value).bind fun spec =>
      ((ofJson spec).get field).bind Yaml.asSequence := by
  have hd := (Yaml.kind_ofJson hw).2 hk
  simp only [containers, hd, Option.bind_eq_bind, Option.bind_some]
  by_cases hpd : kind = "Pod"
  · have hp : podSpecPath value = ["spec"] := by simp [podSpecPath, hk, isText, hpd]
    rw [if_pos hpd, hp, get_bind_ofJson hw]
    simp only [pointer]
    cases ref value "spec" <;> rfl
  · have hp : podSpecPath value = ["spec", "template", "spec"] := by
      simp [podSpecPath, hk, isText, hpd]
    rw [if_neg hpd, hp, get_bind_ofJson hw]
    cases ho : ref value "spec" with
    | none => simp [pointer, ho]
    | some outer =>
      have hw := hw.ref ho
      simp only [pointer, ho, Option.bind_some]
      rw [get_bind_ofJson hw]
      cases ht : ref outer "template" with
      | none => rfl
      | some template =>
        have hw := hw.ref ht
        simp only [Option.bind_some]
        rw [get_ofJson hw]
        cases ref template "spec" <;> rfl

theorem Json.WellFormed.pointer (h : j.WellFormed) (hv : pointer path j = some v) :
    v.WellFormed := by
  induction path generalizing j with
  | nil =>
    cases hv
    exact h
  | cons key path ih =>
    obtain ⟨w, hw, hv⟩ := Option.bind_eq_some_iff.1 hv
    exact ih (h.ref hw) hv

theorem measuredContainers_ofJson (hw : value.WellFormed)
    (hk : ref value "kind" = some (.string kind))
    (hs : pointer (podSpecPath value) value = some spec) :
    measuredContainers [ofJson value] = (PodSecurity.listed spec).map ofJson := by
  have hl : ∀ field, (containers (ofJson value) field).getD [] =
      (PodSecurity.items (ref spec field)).map ofJson := by
    intro field
    rw [containers_ofJson hw hk, hs, Option.bind_some, get_bind_ofJson (hw.pointer hs)]
    cases ref spec field with
    | none => rfl
    | some v => exact asSequence_ofJson v
  simp [measuredContainers, containerFields, hl, listed_eq]

theorem measuredContainers_of_no_spec (hw : value.WellFormed) (h : hasPodSpec value = false) :
    measuredContainers [ofJson value] = [] := by
  have hn : pointer (podSpecPath value) value = none := by
    rw [hasPodSpec, Option.isSome_eq_false_iff, Option.isNone_iff_eq_none] at h
    exact h
  have hl : ∀ field, containers (ofJson value) field = none := by
    intro field
    cases hd : (ofJson value).kind with
    | none => simp [containers, hd]
    | some kind =>
      rw [containers_ofJson hw ((Yaml.kind_ofJson hw).1 hd), hn]
      rfl
  simp [measuredContainers, hl]

theorem measuredContainers_append :
    measuredContainers (docs ++ docs') = measuredContainers docs ++ measuredContainers docs' := by
  simp [measuredContainers]

/-- The documents of the manifest, converted to JSON and back, are the same. -/
def YamlLib.Survives (lib : YamlLib) (manifest : Bytes) : Prop :=
  ∀ docs, lib.documents manifest = some docs → ∀ d ∈ docs, ∀ j, d.toJson = .ok j →
    ofJson j = d

theorem YamlLib.survives_lettered (first second third : Yaml)
    (h : ∀ d ∈ [first, second, third], ∀ j, d.toJson = .ok j → ofJson j = d)
    (manifest : Bytes) : (lettered first second third).Survives manifest := by
  intro docs hdc d hd
  obtain ⟨text, _, hp⟩ := Option.bind_eq_some_iff.1 hdc
  cases hp
  obtain ⟨c, _, hc⟩ := List.mem_filterMap.1 (List.mem_of_mem_filter hd)
  apply h d
  unfold letter at hc
  split at hc
  · cases hc
    exact List.mem_cons_self
  · split at hc
    · cases hc
      exact List.mem_cons_of_mem _ List.mem_cons_self
    · split at hc
      · cases hc
        exact List.mem_cons_of_mem _ (List.mem_cons_of_mem _ List.mem_cons_self)
      · cases hc

theorem measuredContainers_of_others (h : ∀ d ∈ docs, ∃ j, d.toJson = .ok j ∧ hasPodSpec j = false)
    (hbc : ∀ d ∈ docs, ∀ j, d.toJson = .ok j → ofJson j = d) : measuredContainers docs = [] := by
  induction docs with
  | nil => rfl
  | cons d rest ih =>
    obtain ⟨⟨j, hj, hs⟩, hr⟩ := List.forall_mem_cons.1 h
    obtain ⟨hd, hb⟩ := List.forall_mem_cons.1 hbc
    rw [← List.singleton_append, measuredContainers_append, ih hr hb, ← hd j hj,
      measuredContainers_of_no_spec (Yaml.wellFormed_toJson hj) hs]
    rfl

namespace Runs
variable {lib : YamlLib} {manifest accepted : Bytes} {sidecar value value' : Json}

theorem measured_before (h : Runs lib manifest accepted resources sidecar value value')
    (hb : lib.Survives manifest) (hs : pointer (podSpecPath value) value = some spec) :
    ∃ docs, lib.documents manifest = some docs ∧
      measuredContainers docs = (PodSecurity.listed spec).map ofJson := by
  obtain ⟨before, document, after, hdc, hv, ho⟩ := h.documents
  obtain ⟨kind, hk, _⟩ := h.pod
  rw [h.injected.kind] at hk
  have hb := hb _ hdc
  have hw := Yaml.wellFormed_toJson hv
  have hm : document ∈ before ++ document :: after :=
    List.mem_append_right before List.mem_cons_self
  have hbf : measuredContainers before = [] := by
    apply measuredContainers_of_others
    · exact fun d hd => ho d (List.mem_append_left after hd)
    · exact fun d hd => hb d (List.mem_append_left _ hd)
  have ha : measuredContainers after = [] := by
    apply measuredContainers_of_others
    · exact fun d hd => ho d (List.mem_append_right before hd)
    · exact fun d hd => hb d (List.mem_append_right before (List.mem_cons_of_mem _ hd))
  refine ⟨_, hdc, ?_⟩
  rw [← List.singleton_append, measuredContainers_append, measuredContainers_append, hbf,
    ha, ← hb document hm value hv, measuredContainers_ofJson hw hk hs,
    List.nil_append, List.append_nil]

theorem measured_after (h : Runs lib manifest accepted resources sidecar value value')
    (hs : pointer (podSpecPath value) value' = some spec') :
    measuredContainers [ofJson (completed value')] =
      ((PodSecurity.listed spec').map Json.injectResourceDefaults).map ofJson := by
  obtain ⟨kind, hk, _⟩ := h.pod
  have hk' : ref (completed value') "kind" = ref value' "kind" :=
    Json.ref_adjust_podSpecPath _ _ (by decide)
  have hp : podSpecPath value' = podSpecPath value := podSpecPath_congr h.injected.kind
  rw [← listed_injectSpecDefaults]
  apply measuredContainers_ofJson h.wellFormed (hk'.trans hk)
  rw [podSpecPath_congr hk', completed, Json.pointer_adjust, hp, hs]
  rfl

end Runs

/-- What podctl measures and completes for the sidecar is what the agent measures after the
injection, for every manifest whose documents survive the conversion to JSON. -/
theorem client_and_agent_measure_alike (lib : YamlLib) (hlib : lib.ReadsBack) (p : IdentityPlatform)
    (injection : SidecarInjection) (manifest signed injected accepted : Bytes)
    (measured reserved resources : ManifestResources) (hback : lib.Survives signed)
    (hclient : lib.validateAndMeasureManifest manifest = .ok (signed, measured))
    (hreserved : measured.withDefaultSidecar = .ok reserved)
    (hinject : inject lib p signed injection = .ok injected)
    (hagent : lib.validateAndMeasureManifest injected = .ok (accepted, resources)) :
    resources = reserved := by
  obtain ⟨blob, value, value', hr⟩ := runs_of_accepted hlib hinject hagent
  obtain ⟨spec, spec', cs, hs, hw, hs', ha⟩ := hr.injected.spec
  obtain ⟨hl, hl'⟩ := ha.listed
  -- the client's charges
  obtain ⟨contents, result, text, documents, _, _, _, _, rfl, hp, hm⟩ :=
    lib.validateAndMeasureManifest_ok hclient
  obtain ⟨docs, hd, hc⟩ := hr.measured_before hback hs
  rw [YamlLib.documents_utf8Bytes hp] at hd
  cases hd
  obtain ⟨xs, hxs, rfl⟩ := measureDocuments_ok hm
  rw [hc, hl] at hxs
  -- the agent's charges: the same list with the sidecar behind the containers
  obtain ⟨ys, hys, rfl⟩ := measureDocuments_ok hr.measured
  rw [hr.measured_after hs', hl'] at hys
  have hsm : ys.sum = xs.sum + sidecarAmounts := by
    apply sum_charges _ hxs charged_sidecar hys
    rw [← hl]
    exact wellFormed_listed hw
  rw [hsm, withDefaultSidecar_ok hreserved]

namespace Reference

def containerLimits : Json := .object [("cpu", .string "1m"), ("memory", .string "1Ki"),
  ("ephemeral-storage", .string "1Ki")]

def podValue (fields : List (String × Json)) : Json :=
  .object [("kind", .string "Pod"), ("metadata", .object [("name", .string "web")]),
    ("spec", .object (("containers", .array [.object [("name", .string "main"),
      ("resources", .object [("limits", containerLimits), ("requests", containerLimits)])]])
      :: fields))]

def sidecar : Json := sidecarContainer "sidecar" (b64Encode []) none

def withSidecar (pod : Json) : Json :=
  match injectDocument (workloadRuntimeName platform (workloadId "web")) sidecar pod with
  | .ok value => value
  | .error _ => .null

def podYaml (pod : Json) : YamlLib :=
  .lettered (ofJson pod) (ofJson (withSidecar pod))
    (ofJson (completed (withSidecar pod)))

def injection (manifest : Bytes) : SidecarInjection where
  workloadId := workloadId "web"
  workloadName := "web"
  replicaIndex := 0
  replicaCount := 1
  namespaceId := owner 1
  sidecarImage := "sidecar"
  proxyEndpoints := [proxyEndpoint]
  serviceCatalog := none
  workloadCredentialB64 := "web=" ++ b64Encode manifest
  workloadRelayAuthToken := "0123456789abcdef0123456789abcdef"
  workloadRelayCaCertificates := []
  metricsListen := none

theorem survives_podYaml (hp : (ofJson pod).toJson = .ok pod)
    (hw : (ofJson (withSidecar pod)).toJson = .ok (withSidecar pod))
    (hc : (ofJson (completed (withSidecar pod))).toJson = .ok (completed (withSidecar pod)))
    (manifest : Bytes) : (podYaml pod).Survives manifest := by
  have hb : ∀ j : Json, (ofJson j).toJson = .ok j →
      ∀ j', (ofJson j).toJson = .ok j' → ofJson j' = ofJson j := by
    intro j hj j' hj'
    rw [hj] at hj'
    rw [Except.ok.inj hj']
  apply YamlLib.survives_lettered
  intro d hd
  simp only [List.mem_cons, List.not_mem_nil, or_false] at hd
  rcases hd with rfl | rfl | rfl
  · exact hb _ hp
  · exact hb _ hw
  · exact hb _ hc

theorem client_and_agent_measure_alike_sample :
    ∃ signed measured reserved injected accepted resources,
      (podYaml (podValue [])).validateAndMeasureManifest (utf8Bytes "a") = .ok (signed, measured) ∧
      measured.withDefaultSidecar = .ok reserved ∧
      inject (podYaml (podValue [])) identityPlatform signed (injection signed) = .ok injected ∧
      (podYaml (podValue [])).validateAndMeasureManifest injected = .ok (accepted, resources) ∧
      resources = reserved := by
  have hrn : (do
      let signed ← (podYaml (podValue [])).validateAndMeasureManifest (utf8Bytes "a")
      let reserved ← signed.2.withDefaultSidecar
      let injected ← inject (podYaml (podValue [])) identityPlatform signed.1 (injection signed.1)
      let accepted ← (podYaml (podValue [])).validateAndMeasureManifest injected
      return (reserved, accepted)).isOk = true := by
    decide +kernel
  obtain ⟨_, hrn⟩ := exists_of_isOk hrn
  simp only [bind_ok] at hrn
  obtain ⟨⟨signed, measured⟩, hc, reserved, hr, injected, hi, ⟨accepted, resources⟩, ha, _⟩ := hrn
  refine ⟨signed, measured, reserved, injected, accepted, resources, hc, hr, hi, ha, ?_⟩
  exact client_and_agent_measure_alike (podYaml (podValue [])) (YamlLib.readsBack_lettered _ _ _)
    identityPlatform (injection signed) (utf8Bytes "a") signed injected accepted measured reserved
    resources (survives_podYaml rfl rfl rfl signed) hc hr hi ha

end Reference
end Podmesh
