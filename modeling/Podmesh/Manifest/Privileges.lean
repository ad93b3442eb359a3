import Podmesh.Manifest.Measured

namespace Podmesh

open Rego

/-- The deploy path of an agent that requires the service mesh: the tenant's manifest is validated,
the sidecar injected, and the result validated again. -/
def deployPipeline (lib : YamlLib) (p : IdentityPlatform) (tenant : Bytes)
    (injection : SidecarInjection) : Except String (Bytes × ManifestResources) := do
  let _ ← lib.validateAndMeasureManifest tenant
  let injected ← inject lib p tenant injection
  lib.validateAndMeasureManifest injected

namespace PodSecurity

/-- What only the injected sidecar may have. -/
inductive Privilege where
  | capability
  | root
  | rootAllowed
  | mount
  deriving DecidableEq

def Privilege.foundIn (declared : List String) (container : Json) : Privilege → Bool
  | .capability => !(items ((setting container "capabilities").bind (ref · "add"))).isEmpty
  | .root => (setting container "runAsUser").any isZero
  | .rootAllowed => (setting container "runAsNonRoot").any (isBool false)
  | .mount => (items (ref container "volumeMounts")).any fun mount =>
      !Rules.isSafeVolumeMount declared mount

/-- The containers of a pod but the last of `containers`, which the injection put there. -/
def tenantContainers (spec : Json) : List Json :=
  (items (ref spec "containers")).dropLast ++ items (ref spec "initContainers")

def Unprivileged (spec : Json) : Prop :=
  ∀ container ∈ tenantContainers spec, ∀ o : Privilege,
    o.foundIn (Rules.declaredEmptydirNames spec) container = false

/-- Where the rules look: the lists can be joined, the container has a name, not that of the
sidecar, and a mount that is not safe is an object. -/
structure Visible (spec container : Json) (o : Privilege) : Prop where
  name : (ref container "name").isSome = true
  tenant : Rules.isInjectedSidecar container = false
  lists : listsAreArrays spec = true
  mount : o = .mount → ∃ mount ∈ items (ref container "volumeMounts"),
    Rules.isSafeVolumeMount (Rules.declaredEmptydirNames spec) mount = false ∧ isObject mount = true

def AllVisible (spec : Json) : Prop :=
  ∀ container ∈ tenantContainers spec, ∀ o : Privilege,
    o.foundIn (Rules.declaredEmptydirNames spec) container = true → Visible spec container o

theorem unsupportedMounts_ne_nil (hn : ref con "name" = some name)
    (ht : Rules.isInjectedSidecar con = false) (hmn : mount ∈ items (ref con "volumeMounts"))
    (hs : Rules.isSafeVolumeMount declared mount = false) (ho : isObject mount = true) :
    Rules.unsupportedMounts declared con ≠ [] := by
  obtain ⟨mounts, hm, hmm⟩ := ref_of_mem_items hmn
  cases mount with
  | object fields =>
    apply containerRule_ne_nil _ hn
    rw [if_neg (by rw [ht]; exact Bool.false_ne_true)]
    apply List.mem_flatMap.2
    refine ⟨.object fields, ?_, List.mem_cons_self⟩
    rw [List.mem_filter, objectGet_of_ref _ hm, hs]
    exact ⟨hmm, rfl⟩
  | _ => cases ho

theorem privilege_reported (hv : Visible spec con o)
    (h : o.foundIn (Rules.declaredEmptydirNames spec) con = true) :
    ∃ rule ∈ Rules.containerRules (Rules.declaredEmptydirNames spec), rule con ≠ [] := by
  obtain ⟨name, hn⟩ := Option.isSome_iff_exists.1 hv.name
  have ht : (!Rules.isInjectedSidecar con) = true := by
    rw [hv.tenant]
    rfl
  cases o with
  | capability =>
    apply reported _ hn (o := .capability)
    simp only [Offence.foundIn, ht, Bool.true_and]
    exact h
  | root =>
    apply reported _ hn (o := .root)
    simp only [Offence.foundIn, ht, Bool.true_and]
    exact h
  | rootAllowed =>
    refine ⟨Rules.runAsNonRootFalse, by simp [Rules.containerRules], ?_⟩
    apply containerRule_ne_nil _ hn
    apply mem_holds
    rw [ht, Bool.true_and]
    exact h
  | mount =>
    obtain ⟨mount, hm, hs, ho⟩ := hv.mount rfl
    exact ⟨Rules.unsupportedMounts _, by simp [Rules.containerRules],
      unsupportedMounts_ne_nil hn hv.tenant hm hs ho⟩

theorem mem_listed_of_tenant (h : con ∈ tenantContainers spec) : con ∈ listed spec := by
  rw [listed_eq]
  rcases List.mem_append.1 h with h | h
  · exact List.mem_append_left _ (List.mem_of_mem_dropLast h)
  · exact List.mem_append_right _ h

theorem unprivileged_iff_visible (h : Rules.allow input = true)
    (hs : Rules.podSpec input = some spec) : Unprivileged spec ↔ AllVisible spec := by
  constructor
  · intro hun con hc o ho
    rw [hun con hc o] at ho
    cases ho
  · intro hvs con hc o
    by_contra ho
    rw [Bool.not_eq_false] at ho
    have hv := hvs con hc o ho
    obtain ⟨rule, hr, hne⟩ := privilege_reported hv ho
    have hm := mem_allContainers (mem_listed_of_tenant hc) hv.lists
    exact hne (rule_eq_nil (messages_eq_nil h hs).1 hm hr)

/-! The resource defaults touch none of this. -/

theorem setting_injectResourceDefaults (con : Json) (key : String) :
    setting con.injectResourceDefaults key = setting con key := by
  rw [setting, Json.ref_injectResourceDefaults _ (by decide), setting]

theorem foundIn_injectResourceDefaults (declared : List String) (container : Json) (o : Privilege) :
    o.foundIn declared container.injectResourceDefaults = o.foundIn declared container := by
  cases o with
  | capability | root | rootAllowed => simp [Privilege.foundIn, setting_injectResourceDefaults]
  | mount =>
    rw [Privilege.foundIn, Json.ref_injectResourceDefaults _ (by decide), Privilege.foundIn]

theorem objectGet_modify_of_ne (f : Json → Json) (j default : Json) (h : k ≠ key) :
    objectGet (j.modify key f) k default = objectGet j k default := by
  cases j with
  | object fields =>
    simp only [Json.modify, objectGet]
    rw [Json.lookup_map_modify, if_neg h]
  | _ => rfl

theorem declaredEmptydirNames_injectSpecDefaults (spec : Json) :
    Rules.declaredEmptydirNames spec.injectSpecDefaults = Rules.declaredEmptydirNames spec := by
  have hv : Rules.volumes spec.injectSpecDefaults = Rules.volumes spec := by
    rw [Rules.volumes, Json.injectSpecDefaults, objectGet_modify_of_ne _ _ _ (by decide),
      objectGet_modify_of_ne _ _ _ (by decide), Rules.volumes]
  rw [Rules.declaredEmptydirNames, hv, Rules.declaredEmptydirNames]

theorem tenantContainers_injectSpecDefaults :
    tenantContainers spec.injectSpecDefaults =
      (tenantContainers spec).map Json.injectResourceDefaults := by
  obtain ⟨hc, hi⟩ := items_injectSpecDefaults spec
  rw [tenantContainers, hc, hi, ← List.map_dropLast, ← List.map_append, tenantContainers]

theorem all_isArray_mapItems (f : Json → Json) (v : Option Json) :
    (v.map (Json.mapItems f)).all isArray = v.all isArray := by
  cases v with
  | none => rfl
  | some j => cases j <;> rfl

theorem listsAreArrays_injectSpecDefaults (spec : Json) :
    listsAreArrays spec.injectSpecDefaults = listsAreArrays spec := by
  simp only [listsAreArrays, List.all_cons, List.all_nil, Bool.and_true, Json.injectSpecDefaults]
  rw [Json.ref_modify_of_ne _ _ (by decide), Json.ref_modify, Json.ref_modify,
    Json.ref_modify_of_ne _ _ (by decide), Json.ref_modify_of_ne _ _ (by decide),
    Json.ref_modify_of_ne _ _ (by decide), all_isArray_mapItems, all_isArray_mapItems]

theorem visible_defaults :
    Visible spec.injectSpecDefaults con.injectResourceDefaults o ↔ Visible spec con o := by
  have hn := Json.ref_injectResourceDefaults con (show "name" ≠ "resources" by decide)
  have hm :=
    Json.ref_injectResourceDefaults con (show "volumeMounts" ≠ "resources" by decide)
  have hd := declaredEmptydirNames_injectSpecDefaults spec
  have hl := listsAreArrays_injectSpecDefaults spec
  constructor
  · intro h
    refine ⟨hn ▸ h.name, ?_, hl ▸ h.lists, ?_⟩
    · have ht := h.tenant
      rw [Rules.isInjectedSidecar, hn] at ht
      exact ht
    · have hmn := h.mount
      rw [hm, hd] at hmn
      exact hmn
  · intro h
    refine ⟨hn ▸ h.name, ?_, hl ▸ h.lists, ?_⟩
    · rw [Rules.isInjectedSidecar, hn]
      exact h.tenant
    · rw [hm, hd]
      exact h.mount

theorem unprivileged_defaults (spec : Json) :
    Unprivileged spec.injectSpecDefaults ↔ Unprivileged spec := by
  simp [Unprivileged, tenantContainers_injectSpecDefaults,
    declaredEmptydirNames_injectSpecDefaults, foundIn_injectResourceDefaults]

theorem allVisible_defaults (spec : Json) :
    AllVisible spec.injectSpecDefaults ↔ AllVisible spec := by
  simp [AllVisible, tenantContainers_injectSpecDefaults, declaredEmptydirNames_injectSpecDefaults,
    foundIn_injectResourceDefaults, visible_defaults]

end PodSecurity

theorem podSpec_eq_pointer (hk : ref value "kind" = some (.string kind))
    (hs : supportedPodKinds.contains kind = true) :
    Rules.podSpec value = pointer (podSpecPath value) value := by
  simp only [supportedPodKinds, List.contains_iff_mem, List.mem_cons, List.not_mem_nil,
    or_false] at hs
  rcases hs with rfl | rfl
  · simp only [Rules.podSpec, podSpecPath, hk]
    cases hr : ref value "spec" <;> simp [isText, pointer, hr]
  · simp only [Rules.podSpec, podSpecPath, hk]
    simp [isText, isOneOf, pointer]

namespace Reference

def impostor : String × Json :=
  ("initContainers", .array [.object [("name", .string "podmesh-sidecar"),
    ("securityContext", .object [("runAsUser", .number (.int 0)),
      ("capabilities", .object [("add", .array [.string "NET_ADMIN"])])]),
    ("resources", .object [("limits", containerLimits), ("requests", containerLimits)])]])

end Reference
end Podmesh
