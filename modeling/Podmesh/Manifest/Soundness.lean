import Podmesh.Lib.YamlJson
import Podmesh.Manifest.Policy

namespace Podmesh

open Rego

/-! What the built-in policy is for, in the terms of a pod specification: which settings of its
containers and of the pod endanger the host. -/

namespace PodSecurity

def items : Option Json → List Json
  | some (.array l) => l
  | _ => []

def isArray : Json → Bool
  | .array _ => true
  | _ => false

def setting (container : Json) (key : String) : Option Json :=
  (ref container "securityContext").bind (ref · key)

/-- The settings that no container may have; the last two are the injected sidecar's alone. -/
inductive Offence where
  | privileged
  | privilegeEscalation
  | unmaskedProc
  | hostPort
  | capability
  | root
  deriving DecidableEq

def Offence.foundIn (container : Json) : Offence → Bool
  | .privileged => (setting container "privileged").any (isBool true)
  | .privilegeEscalation => (setting container "allowPrivilegeEscalation").any (isBool true)
  | .unmaskedProc => (setting container "procMount").any (isText "Unmasked")
  | .hostPort => (items (ref container "ports")).any fun port =>
      (ref port "hostPort").any fun value => !isZero value
  | .capability => !Rules.isInjectedSidecar container &&
      !(items ((setting container "capabilities").bind (ref · "add"))).isEmpty
  | .root => !Rules.isInjectedSidecar container && (setting container "runAsUser").any isZero

/-- The fields of a pod specification that share a namespace with the host or between containers. -/
def sharingFields : List String := ["hostNetwork", "hostPID", "hostIPC", "shareProcessNamespace"]

def isEmptyDir (vol : Json) : Bool :=
  (ref vol "emptyDir").any isObject && (objectKeys vol).all fun key =>
    ["name", "emptyDir"].contains key

def listed (spec : Json) : List Json :=
  containerFields.flatMap fun field => items (ref spec field)

/-- No container has a forbidden setting, no namespace is shared, no volume is but an emptyDir. -/
structure Safe (spec : Json) : Prop where
  containers : ∀ container ∈ listed spec, ∀ o : Offence, o.foundIn container = false
  sharing : ∀ field ∈ sharingFields, (ref spec field).any (isBool true) = false
  volumes : ∀ vol ∈ items (ref spec "volumes"), isEmptyDir vol = true

def listsAreArrays (spec : Json) : Bool :=
  ["containers", "initContainers", "ephemeralContainers"].all fun field =>
    (ref spec field).all isArray

/-- Whatever is not safe stands where the rules look: the document has no tags, the container
lists can be joined, the container has a name for the message, the volume is an object. -/
structure Legible (tagFree : Bool) (spec : Json) : Prop where
  containers : ∀ container ∈ listed spec, ∀ o : Offence, o.foundIn container = true →
    (ref container "name").isSome = true ∧ listsAreArrays spec = true ∧ tagFree = true
  sharing : ∀ field ∈ sharingFields, (ref spec field).any (isBool true) = true → tagFree = true
  volumes : ∀ vol ∈ items (ref spec "volumes"), isEmptyDir vol = false →
    isObject vol = true ∧ tagFree = true

theorem Safe.legible (h : Safe spec) : Legible tagFree spec where
  containers container hc o ho := by
    rw [h.containers container hc o] at ho
    cases ho
  sharing field hf hs := by
    rw [h.sharing field hf] at hs
    cases hs
  volumes vol hv he := by
    rw [h.volumes vol hv] at he
    cases he

theorem Legible.safe_of_tagged (h : Legible false spec) : Safe spec where
  containers container hc o := by
    by_contra ho
    rw [Bool.not_eq_false] at ho
    cases (h.containers container hc o ho).2.2
  sharing field hf := by
    by_contra hs
    rw [Bool.not_eq_false] at hs
    cases h.sharing field hf hs
  volumes vol hv := by
    by_contra he
    rw [Bool.not_eq_true] at he
    cases (h.volumes vol hv he).2

theorem ref_of_mem_items (h : v ∈ items (ref spec field)) :
    ∃ l, ref spec field = some (.array l) ∧ v ∈ l := by
  cases hr : ref spec field with
  | none =>
    rw [hr] at h
    cases h
  | some j =>
    rw [hr] at h
    cases j with
    | array l => exact ⟨l, rfl, h⟩
    | _ => cases h

theorem objectGet_list (ho : isObject spec = true) (h : (ref spec field).all isArray = true) :
    objectGet spec field (.array []) = some (.array (items (ref spec field))) := by
  cases spec with
  | object fields =>
    simp only [ref] at h
    simp only [objectGet, ref]
    cases hl : fields.lookup field with
    | none => rfl
    | some j =>
      rw [hl] at h
      cases j with
      | array l => rfl
      | _ => cases h
  | _ => cases ho

theorem allContainers_of_arrays (ho : isObject spec = true) (h : listsAreArrays spec = true) :
    Rules.allContainers spec = some (.array (items (ref spec "containers") ++
      items (ref spec "initContainers") ++ items (ref spec "ephemeralContainers"))) := by
  simp only [listsAreArrays, List.all_cons, List.all_nil, Bool.and_true, Bool.and_eq_true] at h
  simp only [Rules.allContainers, objectGet_list ho h.1, objectGet_list ho h.2.1,
    objectGet_list ho h.2.2]
  rfl

theorem mem_allContainers (hc : con ∈ listed spec) (h : listsAreArrays spec = true) :
    con ∈ (Rules.allContainers spec).elim [] members := by
  obtain ⟨field, hf, hm⟩ := List.mem_flatMap.1 hc
  obtain ⟨l, hr, _⟩ := ref_of_mem_items hm
  rw [allContainers_of_arrays (isObject_of_ref hr) h]
  simp only [containerFields, List.mem_cons, List.not_mem_nil, or_false] at hf
  apply List.mem_append_left
  rcases hf with rfl | rfl
  · exact List.mem_append_left _ hm
  · exact List.mem_append_right _ hm

/-! A named container with a forbidden setting is reported. -/

theorem containerRule_ne_nil (fmt : String) (hn : ref container "name" = some name)
    (ha : args ∈ bindings container) : Rules.containerRule fmt bindings container ≠ [] := by
  intro hnl
  have hm : sprintf fmt (name :: args) ∈ Rules.containerRule fmt bindings container := by
    apply List.mem_flatMap.2
    refine ⟨args, ha, ?_⟩
    rw [hn]
    exact List.mem_cons_self
  rw [hnl] at hm
  cases hm

theorem mem_holds (h : condition = true) : [] ∈ Rules.holds condition := by
  rw [h]
  exact List.mem_cons_self

theorem securityContext_of_setting (h : setting con key = some v) :
    ∃ context, Rules.securityContext con = some context ∧ ref context key = some v := by
  obtain ⟨context, hc, hr⟩ := Option.bind_eq_some_iff.1 h
  exact ⟨context, objectGet_of_ref _ hc, hr⟩

theorem any_eq_some (h : v.any f = true) : ∃ j, v = some j ∧ f j = true := by
  cases v with
  | none => cases h
  | some j => exact ⟨j, rfl, h⟩

theorem hostPorts_ne_nil (hn : ref con "name" = some name)
    (h : Offence.foundIn con .hostPort = true) : Rules.hostPorts con ≠ [] := by
  obtain ⟨port, hpr, hv⟩ := List.any_eq_true.1 h
  obtain ⟨ports, hp, hm⟩ := ref_of_mem_items hpr
  obtain ⟨value, hr, hz⟩ := any_eq_some hv
  apply containerRule_ne_nil _ hn
  apply List.mem_flatMap.2
  refine ⟨port, ?_, ?_⟩
  · rw [objectGet_of_ref _ hp]
    exact hm
  · rw [objectGet_of_ref _ hr, hr, Option.any_some, hz]
    exact List.mem_cons_self

theorem addsCapability_ne_nil (hn : ref con "name" = some name)
    (h : Offence.foundIn con .capability = true) : Rules.addsCapability con ≠ [] := by
  simp only [Offence.foundIn, Bool.and_eq_true, Bool.not_eq_true', List.isEmpty_eq_false_iff] at h
  obtain ⟨hs, had⟩ := h
  obtain ⟨capability, hm⟩ := List.exists_mem_of_ne_nil _ had
  cases hst : setting con "capabilities" with
  | none =>
    rw [hst] at hm
    cases hm
  | some capabilities =>
    rw [hst] at hm
    obtain ⟨l, hadd, hc⟩ := ref_of_mem_items hm
    obtain ⟨context, hcn, hr⟩ := securityContext_of_setting hst
    have ha : Rules.addedCapabilities con = l := by
      simp only [Rules.addedCapabilities, hcn, Option.bind_some, objectGet_of_ref _ hr,
        objectGet_of_ref _ hadd]
      rfl
    apply containerRule_ne_nil _ hn
    rw [hs, ha]
    exact List.mem_map_of_mem hc

theorem reported (declared : List String) (hn : ref con "name" = some name)
    (h : Offence.foundIn con o = true) : ∃ rule ∈ Rules.containerRules declared, rule con ≠ [] := by
  cases o with
  | privileged =>
    refine ⟨Rules.privileged, by simp [Rules.containerRules], ?_⟩
    exact containerRule_ne_nil _ hn (mem_holds h)
  | privilegeEscalation =>
    refine ⟨Rules.allowPrivilegeEscalation, by simp [Rules.containerRules], ?_⟩
    exact containerRule_ne_nil _ hn (mem_holds h)
  | unmaskedProc =>
    refine ⟨Rules.procMount, by simp [Rules.containerRules], ?_⟩
    obtain ⟨mount, hm, ht⟩ := any_eq_some h
    obtain ⟨context, hc, hr⟩ := securityContext_of_setting hm
    apply containerRule_ne_nil _ hn
    apply mem_holds
    rw [hc, Option.bind_some, hr]
    exact ht
  | hostPort => exact ⟨Rules.hostPorts, by simp [Rules.containerRules], hostPorts_ne_nil hn h⟩
  | capability =>
    exact ⟨Rules.addsCapability, by simp [Rules.containerRules], addsCapability_ne_nil hn h⟩
  | root =>
    refine ⟨Rules.runAsRoot, by simp [Rules.containerRules], ?_⟩
    exact containerRule_ne_nil _ hn (mem_holds h)

theorem messages_eq_nil (h : Rules.allow input = true) (hs : Rules.podSpec input = some spec) :
    Rules.containerMessages spec = [] ∧ Rules.podMessages spec = [] := by
  simp only [Rules.allow, beq_iff_eq, List.length_eq_zero_iff] at h
  have hp := List.perm_insertionSort (· ≤ ·) (Rules.annotations input ++
    (Rules.podSpec input).elim [] fun spec =>
      Rules.containerMessages spec ++ Rules.podMessages spec).dedup
  rw [show List.insertionSort _ _ = [] from h] at hp
  have hn := (List.dedup_eq_nil _).1 hp.nil_eq.symm
  rw [hs] at hn
  exact List.append_eq_nil_iff.1 (List.append_eq_nil_iff.1 hn).2

theorem rule_eq_nil (h : Rules.containerMessages spec = [])
    (hc : con ∈ (Rules.allContainers spec).elim [] members)
    (hr : rule ∈ Rules.containerRules (Rules.declaredEmptydirNames spec)) : rule con = [] := by
  have hcn := List.flatMap_eq_nil_iff.1 h con hc
  exact List.flatMap_eq_nil_iff.1 hcn rule hr

theorem podRule_eq_nil (h : Rules.podMessages spec = []) (hr : rule ∈ Rules.podRules) :
    rule spec = [] := List.flatMap_eq_nil_iff.1 h rule hr

theorem podFlag_eq_nil (h : Rules.podFlag msg condition spec = []) : condition spec = false := by
  simp only [Rules.podFlag] at h
  split at h
  · cases h
  · next hn => exact Bool.eq_false_iff.2 hn

theorem sharing_of_messages (h : Rules.podMessages spec = []) (hfl : field ∈ sharingFields) :
    (ref spec field).any (isBool true) = false := by
  have hf : ∀ rule ∈ Rules.podRules, rule spec = [] := fun rule => podRule_eq_nil h
  simp only [sharingFields, List.mem_cons, List.not_mem_nil, or_false] at hfl
  rcases hfl with rfl | rfl | rfl | rfl
  · exact podFlag_eq_nil (hf Rules.hostNetwork (by simp [Rules.podRules]))
  · exact podFlag_eq_nil (hf Rules.hostPID (by simp [Rules.podRules]))
  · exact podFlag_eq_nil (hf Rules.hostIPC (by simp [Rules.podRules]))
  · exact podFlag_eq_nil (hf Rules.shareProcessNamespace (by simp [Rules.podRules]))

theorem isEmptyDir_of_safe (h : Rules.isSafeEmptydirVolume vol = true) : isEmptyDir vol = true := by
  simp only [Rules.isSafeEmptydirVolume, Bool.and_eq_true] at h
  obtain ⟨⟨_, hd⟩, hk⟩ := h
  obtain ⟨dir, hr, hd⟩ := any_eq_some hd
  simp only [Bool.and_eq_true] at hd
  simp only [isEmptyDir, hr, Option.any_some, hd.1, hk, Bool.and_true]

theorem isEmptyDir_of_messages (h : Rules.podMessages spec = [])
    (hv : vol ∈ items (ref spec "volumes")) (ho : isObject vol = true) : isEmptyDir vol = true := by
  by_cases hs : Rules.isSafeEmptydirVolume vol = true
  · exact isEmptyDir_of_safe hs
  · obtain ⟨l, hr, hm⟩ := ref_of_mem_items hv
    have hnl := podRule_eq_nil h (show Rules.unsupportedVolumes ∈ _ by simp [Rules.podRules])
    have hv' : vol ∈ (Rules.volumes spec).filter fun vol => !Rules.isSafeEmptydirVolume vol := by
      rw [List.mem_filter, Rules.volumes, objectGet_of_ref _ hr]
      exact ⟨hm, by simp [hs]⟩
    have hn := List.flatMap_eq_nil_iff.1 hnl vol hv'
    cases vol with
    | object fields => cases hn
    | _ => cases ho

theorem safe_iff_legible (h : Rules.allow input = true)
    (hs : Rules.podSpec input = some spec) : Safe spec ↔ Legible true spec := by
  obtain ⟨hcn, hp⟩ := messages_eq_nil h hs
  constructor
  · exact Safe.legible
  · intro hl
    refine ⟨?_, fun field hf => sharing_of_messages hp hf, ?_⟩
    · intro con hc o
      by_contra ho
      rw [Bool.not_eq_false] at ho
      obtain ⟨hn, ha, _⟩ := hl.containers con hc o ho
      obtain ⟨name, hn⟩ := Option.isSome_iff_exists.1 hn
      obtain ⟨rule, hr, hne⟩ := reported (Rules.declaredEmptydirNames spec) hn ho
      exact hne (rule_eq_nil hcn (mem_allContainers hc ha) hr)
    · intro vol hv
      by_contra he
      rw [Bool.not_eq_true] at he
      have hob := (hl.volumes vol hv he).1
      rw [isEmptyDir_of_messages hp hv hob] at he
      cases he

end PodSecurity

namespace Yaml

theorem ref_of_tagFree (hk : isWord key = true) (hf : y.tagFree = true) (hj : toJson y = .ok j)
    (hv : y.get key = some v) : v.tagFree = true ∧ ∃ w, toJson v = .ok w ∧ ref j key = some w :=
  ⟨tagFree_get hf hv, ref_of_get hk (untag_of_tagFree hf) hj hv⟩

variable {document : Yaml}

theorem ref_kind {kind : String} (hf : document.tagFree = true) (hj : toJson document = .ok input)
    (hk : document.kind = some kind) : ref input "kind" = some (.string kind) := by
  obtain ⟨v, hv, hs⟩ := Option.bind_eq_some_iff.1 hk
  obtain ⟨hvf, w, hw, hr⟩ := ref_of_tagFree (by decide) hf hj hv
  simp only [asStr, untag_of_tagFree hvf] at hs
  cases v with
  | string s =>
    cases hs
    cases hw
    exact hr
  | _ => cases hs

theorem podSpec_toJson {kind : String} (hf : document.tagFree = true)
    (hj : toJson document = .ok input) (hk : document.kind = some kind)
    (hp : supportedPodKinds.contains kind = true) (hsp : podSpec document kind = some s) :
    s.tagFree = true ∧ ∃ spec, toJson s = .ok spec ∧ Rules.podSpec input = some spec := by
  have hre := ref_kind hf hj hk
  simp only [supportedPodKinds, List.contains_cons, List.contains_nil, Bool.or_false,
    Bool.or_eq_true, beq_iff_eq] at hp
  rcases hp with rfl | rfl
  · obtain ⟨hs, spec, hs', hin⟩ := ref_of_tagFree (by decide) hf hj hsp
    refine ⟨hs, spec, hs', ?_⟩
    simp only [Rules.podSpec, hre, Option.any_some, isText]
    exact hin
  · obtain ⟨outer, hot, hsp⟩ := Option.bind_eq_some_iff.1 hsp
    obtain ⟨template, ht, hsp⟩ := Option.bind_eq_some_iff.1 hsp
    obtain ⟨ho, jo, hjo, hr⟩ := ref_of_tagFree (by decide) hf hj hot
    obtain ⟨htf, jt, hjt, hrf⟩ := ref_of_tagFree (by decide) ho hjo ht
    obtain ⟨hs, spec, hs', hin⟩ := ref_of_tagFree (by decide) htf hjt hsp
    refine ⟨hs, spec, hs', ?_⟩
    simp only [Rules.podSpec, hre, Option.any_some, isText, isOneOf, hr]
    simpa [hrf] using hin

def podSpecJson (document : Yaml) : Option Json := do
  let kind ← document.kind
  let spec ← podSpec document kind
  (toJson spec.strip).toOption

theorem toJson_get_strip {y : Yaml} {key : String} (hk : isWord key = true)
    (hj : toJson y.strip = .ok j) (hv : y.get key = some v) : ∃ w, toJson v.strip = .ok w := by
  have hg : y.strip.get key = some v.strip := by rw [get_strip, hv, Option.map_some]
  obtain ⟨w, hw, _⟩ := ref_of_get hk (untag_strip y) hj hg
  exact ⟨w, hw⟩

theorem podSpecJson_isSome {kind : String} (hj : toJson document = .ok input)
    (hk : document.kind = some kind) (hsp : podSpec document kind = some s) :
    ∃ spec, document.podSpecJson = some spec ∧ toJson s.strip = .ok spec := by
  obtain ⟨j, hj⟩ := toJson_strip hj
  have hs : ∃ spec, toJson s.strip = .ok spec := by
    simp only [podSpec] at hsp
    split at hsp
    · exact toJson_get_strip (by decide) hj hsp
    · split at hsp
      · obtain ⟨outer, ho, hsp⟩ := Option.bind_eq_some_iff.1 hsp
        obtain ⟨template, ht, hsp⟩ := Option.bind_eq_some_iff.1 hsp
        obtain ⟨jo, hjo⟩ := toJson_get_strip (by decide) hj ho
        obtain ⟨jt, hjt⟩ := toJson_get_strip (by decide) hjo ht
        exact toJson_get_strip (by decide) hjt hsp
      · cases hsp
  obtain ⟨spec, hs⟩ := hs
  refine ⟨spec, ?_, hs⟩
  simp only [podSpecJson, hk, Option.bind_eq_bind, Option.bind_some, hsp, hs]
  rfl

end Yaml

/-! What the verdict says about the documents. -/

theorem documentShape_of_mem (h : shapesFrom index docs = []) (hd : document ∈ docs) :
    ∃ index, documentShape index document = [] := by
  induction docs generalizing index with
  | nil => cases hd
  | cons first rest ih =>
    obtain ⟨hf, hr⟩ := List.append_eq_nil_iff.1 h
    rcases List.mem_cons.1 hd with rfl | hd
    · exact ⟨index, hf⟩
    · exact ih hr hd

theorem podSpec_of_documentShape (h : documentShape index document = [])
    (hp : isPodDocument document = true) :
    ∃ kind s, document.kind = some kind ∧ supportedPodKinds.contains kind = true ∧
      podSpec document kind = some s := by
  simp only [isPodDocument] at hp
  cases hk : document.kind with
  | none =>
    rw [hk] at hp
    cases hp
  | some kind =>
    rw [hk] at hp
    simp only [Option.any_some] at hp
    simp only [documentShape, hk, hp] at h
    cases hs : podSpec document kind with
    | none =>
      rw [hs] at h
      cases h
    | some s => exact ⟨kind, s, rfl, hp, hs⟩

theorem allow_of_evaluateDocuments (h : evaluateDocuments total index docs = .ok (true, msgs))
    (hd : document ∈ docs) : ∃ input, document.toJson = .ok input ∧ Rules.allow input := by
  induction docs generalizing index msgs with
  | nil => cases hd
  | cons first rest ih =>
    obtain ⟨input, hi, h⟩ := bind_ok.1 h
    obtain ⟨⟨allowed, msgs'⟩, hr, h⟩ := bind_ok.1 h
    have h := Except.ok.inj h
    simp only [Prod.mk.injEq, Bool.and_eq_true] at h
    obtain ⟨⟨ha, rfl⟩, _⟩ := h
    rcases List.mem_cons.1 hd with rfl | hd
    · exact ⟨input, hi, ha⟩
    · exact ih hr hd

theorem YamlLib.validate_allowed {lib : YamlLib} (h : lib.validate man = .ok res)
    (ha : res.allowed = true) :
    ∃ docs messages, lib.parseYamlDocuments man = .ok docs ∧ validateDocumentShape docs = [] ∧
      evaluateDocuments docs.length 0 docs = .ok (true, messages) := by
  simp only [validate, bind_ok] at h
  obtain ⟨docs, hd, _, -, ⟨allowed, messages⟩, he, h⟩ := h
  simp only at h
  split at h
  · next hok =>
    simp only [Bool.and_eq_true, List.isEmpty_iff] at hok
    obtain ⟨hs, rfl⟩ := hok
    exact ⟨docs, messages, hd, hs, he⟩
  · cases h
    cases ha

theorem YamlLib.pod_of_allowed {lib : YamlLib} (h : lib.validate man = .ok res)
    (ha : res.allowed = true) :
    ∃ docs document kind s input, lib.parseYamlDocuments man = .ok docs ∧
      docs.filter isPodDocument = [document] ∧ document.kind = some kind ∧
      supportedPodKinds.contains kind = true ∧ podSpec document kind = some s ∧
      document.toJson = .ok input ∧ Rules.allow input = true := by
  obtain ⟨docs, messages, hd, hsp, he⟩ := lib.validate_allowed h ha
  obtain ⟨hsh, hc⟩ := List.append_eq_nil_iff.1 hsp
  have ho : (docs.filter isPodDocument).length = 1 := by
    by_contra hne
    simp [hne] at hc
  obtain ⟨document, hp⟩ := List.length_eq_one_iff.1 ho
  have hm : document ∈ docs.filter isPodDocument := hp ▸ List.mem_cons_self
  obtain ⟨hm, his⟩ := List.mem_filter.1 hm
  obtain ⟨index, hdc⟩ := documentShape_of_mem hsh hm
  obtain ⟨kind, s, hk, hs, hsc⟩ := podSpec_of_documentShape hdc his
  obtain ⟨input, hi, hal⟩ := allow_of_evaluateDocuments he hm
  exact ⟨docs, document, kind, s, input, hd, hp, hk, hs, hsc, hi, hal⟩

namespace PodSecurity

def reader (document : Yaml) : YamlLib where
  deserialize _ := .ok [document]
  render _ := .ok "pod"

def podWith (fields : List (Yaml × Yaml)) : Yaml :=
  .mapping [(.string "kind", .string "Pod"),
    (.string "spec", .mapping [(.string "containers", .sequence [.mapping fields])])]

def privilegedContext : Yaml × Yaml :=
  (.string "securityContext", .mapping [(.string "privileged", .bool true)])

def plainPod : Yaml := podWith [(.string "name", .string "main")]

end PodSecurity
end Podmesh
