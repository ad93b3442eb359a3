import Podmesh.Manifest.Edits
import Podmesh.Manifest.Soundness

namespace Podmesh
open PodSecurity (items listed)

open Rego

/-! What the agent runs for a manifest: the pod that `inject` writes, as the second validation reads
it and completes it with resource defaults. -/

theorem lookup_setField :
    (setField key v fields).lookup k = if k = key then some v else fields.lookup k := by
  induction fields with
  | nil =>
    by_cases hk : k = key
    · simp [setField, hk]
    · simp [setField, List.lookup_cons, hk, beq_false_of_ne hk]
  | cons e rest ih =>
    obtain ⟨name, w⟩ := e
    rw [setField]
    by_cases hn : name = key
    · subst hn
      rw [beq_self_eq_true, if_pos rfl, List.lookup_cons, List.lookup_cons]
      by_cases hk : k = name
      · subst hk
        simp
      · simp [hk, beq_false_of_ne hk]
    · rw [beq_false_of_ne hn, if_neg Bool.false_ne_true, List.lookup_cons, List.lookup_cons, ih]
      by_cases hk : k = name
      · subst hk
        simp [hn]
      · simp [beq_false_of_ne hk]

variable {fields : List (String × Json)}

theorem mem_setField (h : e ∈ setField key v fields) : e = (key, v) ∨ e ∈ fields := by
  induction fields with
  | nil => exact .inl (List.mem_singleton.1 h)
  | cons first rest ih =>
    rw [setField] at h
    split at h
    · next hn =>
      rcases List.mem_cons.1 h with rfl | h
      · exact .inl (by rw [eq_of_beq hn])
      · exact .inr (List.mem_cons_of_mem _ h)
    · rcases List.mem_cons.1 h with rfl | h
      · exact .inr List.mem_cons_self
      · exact (ih h).imp_right (List.mem_cons_of_mem _)

theorem nodup_setField (h : (fields.map (·.1)).Nodup) :
    ((setField key v fields).map (·.1)).Nodup := by
  induction fields with
  | nil => exact List.nodup_singleton _
  | cons first rest ih =>
    obtain ⟨hnw, hr⟩ := List.nodup_cons.1 h
    rw [setField]
    split
    · exact List.nodup_cons.2 ⟨hnw, hr⟩
    · next hn =>
      apply List.nodup_cons.2 ⟨_, ih hr⟩
      intro hm
      obtain ⟨e, he, hf⟩ := List.mem_map.1 hm
      rcases mem_setField he with rfl | he
      · exact hn (beq_iff_eq.2 hf.symm)
      · exact hnw (List.mem_map.2 ⟨e, he, hf⟩)

theorem wellFormed_setField (h : (Json.object fields).WellFormed)
    (hv : v.WellFormed) : (Json.object (setField key v fields)).WellFormed := by
  refine ⟨nodup_setField h.1, Json.fieldsWellFormed_iff.2 ?_⟩
  intro e he
  rcases mem_setField he with rfl | he
  · exact hv
  · exact Json.fieldsWellFormed_iff.1 h.2 e he

theorem Json.WellFormed.lookup
    (h : (Json.object fields).WellFormed) (hv : fields.lookup key = some v) : v.WellFormed := by
  obtain ⟨bef, after, hf, _⟩ := List.lookup_eq_some_iff.1 hv
  apply Json.fieldsWellFormed_iff.1 h.2 (key, v)
  rw [hf]
  exact List.mem_append_right bef List.mem_cons_self

theorem Json.WellFormed.ref (h : j.WellFormed) (hv : ref j key = some v) : v.WellFormed := by
  cases j with
  | object fields => exact Json.WellFormed.lookup h hv
  | _ => cases hv

theorem nameWorkload_ok (h : nameWorkload name j = .ok j') (hj : j.WellFormed) :
    j'.WellFormed ∧ ∀ k, k ≠ "metadata" → ref j' k = ref j k := by
  unfold nameWorkload at h
  split at h
  · next fields =>
    split at h
    · next metadata hm =>
      cases h
      have hn : (Json.string name).WellFormed := trivial
      have hv : (Json.object (setField "name" (.string name) metadata)).WellFormed :=
        wellFormed_setField (hj.lookup hm) hn
      refine ⟨wellFormed_setField hj hv, ?_⟩
      intro k hk
      simp only [ref]
      rw [lookup_setField, if_neg hk]
    · cases h
  · cases h

theorem updatePath_ok (hf : ∀ v v', f v = .ok v' → v.WellFormed → v'.WellFormed)
    (h : updatePath f path j = .ok j') (hj : j.WellFormed) :
    j'.WellFormed ∧
      (∃ v v', pointer path j = some v ∧ v.WellFormed ∧ f v = .ok v' ∧ pointer path j' = some v') ∧
      ∀ key rest k, path = key :: rest → k ≠ key → ref j' k = ref j k := by
  induction path generalizing j j' with
  | nil =>
    refine ⟨hf j j' h hj, ⟨j, j', rfl, hj, h, rfl⟩, ?_⟩
    intro key rest k hp
    cases hp
  | cons key path ih =>
    cases j with
    | object fields =>
      simp only [updatePath] at h
      cases hw : fields.lookup key with
      | none =>
        rw [hw] at h
        cases h
      | some w =>
        rw [hw] at h
        obtain ⟨w', hw', h⟩ := bind_ok.1 h
        cases h
        obtain ⟨hwl, ⟨v, v', hv, hvw, hfv, hv'⟩, _⟩ := ih hw' (hj.lookup hw)
        refine ⟨wellFormed_setField hj hwl, ⟨v, v', ?_, hvw, hfv, ?_⟩, ?_⟩
        · simp [pointer, ref, hw, hv]
        · simp only [pointer, ref]
          rw [lookup_setField, if_pos rfl]
          exact hv'
        · intro key' rest k hp hk
          cases hp
          simp only [ref]
          rw [lookup_setField, if_neg hk]
    | _ => cases h

/-- The pod specification with the sidecar behind its containers, none of which has its name. -/
structure Appended (sidecar spec spec' : Json) (containers : List Json) : Prop where
  before : ref spec "containers" = some (.array containers)
  after : ref spec' "containers" = some (.array (containers ++ [sidecar]))
  named : ∀ container ∈ containers, Rules.isInjectedSidecar container = false
  others : ∀ k, k ≠ "containers" → ref spec' k = ref spec k

theorem appendSidecar_ok (h : appendSidecar sidecar spec = .ok spec') (hs : sidecar.WellFormed) :
    (∃ cons, Appended sidecar spec spec' cons) ∧ (spec.WellFormed → spec'.WellFormed) := by
  unfold appendSidecar at h
  split at h
  · next fields =>
    split at h
    · next cons hcn =>
      obtain ⟨hn, h⟩ := unit_bind_ok.1 h
      cases h
      rw [ensure_ok, Bool.not_eq_true', List.any_eq_false] at hn
      constructor
      · refine ⟨cons, hcn, ?_, ?_, ?_⟩
        · simp only [ref]
          rw [lookup_setField, if_pos rfl]
        · intro con hc
          rw [← Bool.not_eq_true]
          exact hn con hc
        · intro k hk
          simp only [ref]
          rw [lookup_setField, if_neg hk]
      · intro hsp
        apply wellFormed_setField hsp
        have hi := Json.itemsWellFormed_iff.1 (hsp.lookup hcn)
        apply Json.itemsWellFormed_iff.2
        rw [List.forall_mem_append, List.forall_mem_singleton]
        exact ⟨hi, hs⟩
    · cases h
  · cases h

/-- What is left of a pod document, with the sidecar, after its injection. -/
structure Injected (sidecar value value' : Json) : Prop where
  wellFormed : value'.WellFormed
  kind : ref value' "kind" = ref value "kind"
  spec : ∃ spec spec' containers, pointer (podSpecPath value) value = some spec ∧
    spec.WellFormed ∧ pointer (podSpecPath value) value' = some spec' ∧
    Appended sidecar spec spec' containers

theorem injectDocument_ok (h : injectDocument name sidecar value = .ok value')
    (hs : sidecar.WellFormed) (hvl : value.WellFormed) : Injected sidecar value value' := by
  obtain ⟨named, hn, h⟩ := bind_ok.1 h
  obtain ⟨hw, ho⟩ := nameWorkload_ok hn hvl
  obtain ⟨rest, hp⟩ := podSpecPath_eq_cons value
  obtain ⟨hw', ⟨spec, spec', hsc, hsp, hap, hs'⟩, hb⟩ :=
    updatePath_ok (fun v v' hv => (appendSidecar_ok hv hs).2) h hw
  obtain ⟨containers, ha⟩ := (appendSidecar_ok hap hs).1
  refine ⟨hw', ?_, spec, spec', containers, ?_, hsp, hs', ha⟩
  · rw [hb "spec" rest "kind" hp (by decide), ho "kind" (by decide)]
  · rw [← hsc, hp]
    simp only [pointer]
    rw [ho "spec" (by decide)]

theorem injectDocuments_nil {docs : List Yaml} (h : injectDocuments name sidecar docs = .ok [])
    (hd : d ∈ docs) : ∃ j, d.toJson = .ok j ∧ hasPodSpec j = false := by
  induction docs with
  | nil => cases hd
  | cons document rest ih =>
    obtain ⟨value, hv, h⟩ := bind_ok.1 h
    split at h
    · obtain ⟨value', _, h⟩ := bind_ok.1 h
      obtain ⟨output, _, h⟩ := bind_ok.1 h
      cases h
    · next hs =>
      rcases List.mem_cons.1 hd with rfl | hd
      · exact ⟨value, hv, Bool.not_eq_true _ ▸ hs⟩
      · exact ih h hd

theorem injectDocuments_singleton {docs : List Yaml}
    (h : injectDocuments name sidecar docs = .ok [output]) :
    ∃ bef document after value value', docs = bef ++ document :: after ∧
      document.toJson = .ok value ∧ injectDocument name sidecar value = .ok value' ∧
      output = Yaml.ofJson value' ∧
      ∀ d ∈ bef ++ after, ∃ j, d.toJson = .ok j ∧ hasPodSpec j = false := by
  induction docs with
  | nil => cases h
  | cons document rest ih =>
    obtain ⟨value, hv, h⟩ := bind_ok.1 h
    split at h
    · obtain ⟨value', hv', h⟩ := bind_ok.1 h
      obtain ⟨outputs, hr, h⟩ := bind_ok.1 h
      cases h
      refine ⟨[], document, rest, value, value', rfl, hv, hv', rfl, ?_⟩
      intro d hd
      exact injectDocuments_nil hr hd
    · next hs =>
      obtain ⟨bef, pod, after, j, j', rfl, hj, hj', hot, ho⟩ := ih h
      refine ⟨document :: bef, pod, after, j, j', rfl, hj, hj', hot, ?_⟩
      intro d hd
      rcases List.mem_cons.1 hd with rfl | hd
      · exact ⟨value, hv, Bool.not_eq_true _ ▸ hs⟩
      · exact ho d hd

def YamlLib.ReadsBack (lib : YamlLib) : Prop :=
  ∀ docs text, lib.serializeYamlDocuments docs = .ok text →
    lib.parseYamlDocuments text = .ok (docs.filter fun doc => !doc.isNull)

def YamlLib.documents (lib : YamlLib) (manifest : Bytes) : Option (List Yaml) :=
  (decodeUtf8 manifest).bind fun text => (lib.parseYamlDocuments text).toOption

variable {lib : YamlLib}

theorem YamlLib.validate_mutated (h : lib.validate man = .ok res)
    (hm : res.mutatedManifest = some text) : lib.mutateManifestDefaults man = .ok text := by
  simp only [validate, bind_ok] at h
  obtain ⟨docs, _, -, _, ⟨allowed, msgs⟩, _, h⟩ := h
  simp only at h
  split at h
  · obtain ⟨mutated, hd, h⟩ := bind_ok.1 h
    cases h
    cases hm
    exact hd
  · cases h
    cases hm

theorem YamlLib.validateAndMeasureManifest_ok
    (h : lib.validateAndMeasureManifest man = .ok (mutated, resources)) :
    ∃ contents result text documents, decodeUtf8 man = some contents ∧
      lib.validate contents = .ok result ∧ result.allowed = true ∧
      lib.mutateManifestDefaults contents = .ok text ∧ mutated = utf8Bytes text ∧
      lib.parseYamlDocuments text = .ok documents ∧ measureDocuments documents = .ok resources := by
  simp only [validateAndMeasureManifest, bind_ok] at h
  obtain ⟨contents, hc, text, ht, documents, hd, measured, hms, h⟩ := h
  cases h
  obtain ⟨result, hr, ht⟩ := bind_ok.1 ht
  obtain ⟨ha, ht⟩ := unit_bind_ok.1 ht
  rw [ensure_ok] at ha
  cases hm : result.mutatedManifest with
  | none =>
    rw [hm] at ht
    cases ht
  | some mutated =>
    rw [hm] at ht
    cases ht
    exact ⟨contents, result, text, documents, orError_ok.1 hc, hr, ha,
      lib.validate_mutated hr hm, rfl, hd, hms⟩

theorem inject_ok (h : inject lib p man injection = .ok injected) :
    ∃ contents documents blob output text, decodeUtf8 man = some contents ∧
      lib.parseYamlDocuments contents = .ok documents ∧
      injectDocuments (workloadRuntimeName p.toPlatform injection.workloadId)
        (sidecarContainer injection.sidecarImage blob injection.metricsListen) documents =
          .ok [output] ∧
      lib.serializeYamlDocuments [output] = .ok text ∧ injected = utf8Bytes text := by
  simp only [inject, bind_ok] at h
  obtain ⟨owner, _, -, _, encoded, _, contents, hc, documents, hd, outputs,
    ho, _, -, _, hon, text, ht, h⟩ := h
  cases h
  rw [ensure_ok, beq_iff_eq] at hon
  obtain ⟨output, rfl⟩ := List.length_eq_one_iff.1 hon
  exact ⟨contents, documents, p.b64Encode encoded, output, text, orError_ok.1 hc, hd, ho, ht, rfl⟩

theorem wellFormed_sidecarContainer (image blob : String) (metrics : Option MetricsListen) :
    (sidecarContainer image blob metrics).WellFormed := by
  cases metrics <;> simp [sidecarContainer, sidecarEnvironment, environmentEntry, Json.WellFormed,
    Json.ItemsWellFormed, Json.FieldsWellFormed]

/-- The pod document with the resource defaults of the second validation. -/
def completed (value : Json) : Json := Json.adjust (podSpecPath value) Json.injectSpecDefaults value

/-- What the agent runs for a manifest: one document of it carries the pod; the second validation
allows that document with the sidecar and adds its defaults. -/
structure Runs (lib : YamlLib) (manifest accepted : Bytes) (resources : ManifestResources)
    (sidecar value value' : Json) : Prop where
  documents : ∃ before document after,
    lib.documents manifest = some (before ++ document :: after) ∧ document.toJson = .ok value ∧
    ∀ d ∈ before ++ after, ∃ j, d.toJson = .ok j ∧ hasPodSpec j = false
  injected : Injected sidecar value value'
  pod : ∃ kind, ref value' "kind" = some (.string kind) ∧ supportedPodKinds.contains kind = true
  allowed : Rules.allow value' = true
  wellFormed : (completed value').WellFormed
  accepted : lib.documents accepted = some [Yaml.ofJson (completed value')]
  measured : measureDocuments [Yaml.ofJson (completed value')] = .ok resources

theorem Yaml.isNull_ofJson (h : ref j key = some v) : (ofJson j).isNull = false := by
  cases j with
  | object fields => rfl
  | _ => cases h

theorem YamlLib.documents_utf8Bytes (h : lib.parseYamlDocuments text = .ok docs) :
    lib.documents (utf8Bytes text) = some docs := by
  simp only [documents, decodeUtf8_utf8Bytes, Option.bind_some, h]
  rfl

theorem YamlLib.pod_of_document (h : lib.validate text = .ok res)
    (ha : res.allowed = true) (hv : value.WellFormed)
    (hp : lib.parseYamlDocuments text = .ok ([Yaml.ofJson value].filter fun d => !d.isNull)) :
    ∃ kind, ref value "kind" = some (.string kind) ∧ supportedPodKinds.contains kind = true ∧
      Rules.allow value = true := by
  obtain ⟨docs, document, kind, s, input, hd, hpd, hk, hs, _, hi, hal⟩ :=
    lib.pod_of_allowed h ha
  rw [hp] at hd
  cases hd
  have hm : document ∈ [Yaml.ofJson value] := by
    apply List.mem_of_mem_filter (p := fun d => !d.isNull)
    apply List.mem_of_mem_filter (p := isPodDocument)
    rw [hpd]
    exact List.mem_cons_self
  rw [List.mem_singleton] at hm
  subst hm
  rw [Yaml.toJson_ofJson hv] at hi
  cases hi
  exact ⟨kind, (Yaml.kind_ofJson hv).1 hk, hs, hal⟩

theorem runs_of_accepted (hl : lib.ReadsBack) (hin : inject lib p man injection = .ok injected)
    (hag : lib.validateAndMeasureManifest injected = .ok (accepted, resources)) :
    ∃ blob value value', Runs lib man accepted resources
      (sidecarContainer injection.sidecarImage blob injection.metricsListen) value value' := by
  obtain ⟨contents, documents, blob, output, text, hc, hd, hot, ht, rfl⟩ :=
    inject_ok hin
  obtain ⟨before, document, after, value, value', hdc, hv, hi, rfl, ho⟩ :=
    injectDocuments_singleton hot
  have hsd := wellFormed_sidecarContainer injection.sidecarImage blob injection.metricsListen
  have hsp := injectDocument_ok hi hsd (Yaml.wellFormed_toJson hv)
  obtain ⟨contents', result, text', finals, hc', hrs, ha, hmt, rfl, hf,
    hm⟩ := lib.validateAndMeasureManifest_ok hag
  rw [decodeUtf8_utf8Bytes] at hc'
  cases hc'
  have hp := hl _ _ ht
  obtain ⟨kind, hk, hs, hal⟩ :=
    lib.pod_of_document hrs ha hsp.wellFormed hp
  obtain ⟨hdf, hwl⟩ := mutateDocumentDefaults_ofJson hsp.wellFormed hk hs
  have hfn : finals = [Yaml.ofJson (completed value')] := by
    obtain ⟨docs, hr, hw⟩ := bind_ok.1 hmt
    rw [hp] at hr
    cases hr
    have hb := hl _ _ hw
    have hk' : ref (completed value') "kind" = some (.string kind) :=
      (Json.ref_adjust_podSpecPath _ _ (by decide)).trans hk
    rw [hf] at hb
    simp only [List.filter_cons, List.filter_nil, Yaml.isNull_ofJson hk, Bool.not_false, if_true,
      List.map_cons, List.map_nil, hdf] at hb
    have hb := Except.ok.inj hb
    rw [hb, show Json.adjust (podSpecPath value') Json.injectSpecDefaults value' =
      completed value' from rfl, Yaml.isNull_ofJson hk']
    rfl
  subst hfn
  refine ⟨blob, value, value', ⟨before, document, after, ?_, hv, ho⟩, hsp,
    ⟨kind, hk, hs⟩, hal, hwl, YamlLib.documents_utf8Bytes hf, hm⟩
  simp only [YamlLib.documents, hc, Option.bind_some, hd, hdc]
  rfl

/-! The containers of the pod. -/

theorem listed_eq : listed spec =
    items (ref spec "containers") ++ items (ref spec "initContainers") := by
  simp [listed, containerFields]

theorem wellFormed_listed (h : spec.WellFormed) : ∀ c ∈ listed spec, c.WellFormed := by
  intro c hc
  obtain ⟨field, _, hc⟩ := List.mem_flatMap.1 hc
  obtain ⟨items, hi, hc⟩ := PodSecurity.ref_of_mem_items hc
  exact Json.itemsWellFormed_iff.1 (h.ref hi) c hc

theorem items_map_mapItems : items (v.map (Json.mapItems f)) = (items v).map f := by
  cases v with
  | none => rfl
  | some j => cases j <;> rfl

theorem items_injectSpecDefaults (spec : Json) :
    items (ref spec.injectSpecDefaults "containers") =
        (items (ref spec "containers")).map Json.injectResourceDefaults ∧
      items (ref spec.injectSpecDefaults "initContainers") =
        (items (ref spec "initContainers")).map Json.injectResourceDefaults := by
  rw [Json.injectSpecDefaults, Json.ref_modify_of_ne _ _ (by decide), Json.ref_modify,
    Json.ref_modify, Json.ref_modify_of_ne _ _ (by decide), items_map_mapItems, items_map_mapItems]
  exact ⟨rfl, rfl⟩

theorem listed_injectSpecDefaults :
    listed spec.injectSpecDefaults = (listed spec).map Json.injectResourceDefaults := by
  obtain ⟨hc, hi⟩ := items_injectSpecDefaults spec
  rw [listed_eq, listed_eq, hc, hi, List.map_append]

theorem Appended.listed {cons : List Json} (h : Appended sidecar spec spec' cons) :
    listed spec = cons ++ items (ref spec "initContainers") ∧
      listed spec' =
        cons ++ [sidecar] ++ items (ref spec "initContainers") := by
  rw [listed_eq, listed_eq, h.before, h.after, h.others "initContainers" (by decide)]
  exact ⟨rfl, rfl⟩

namespace YamlLib

def letter (first second third : Yaml) (c : Char) : Option Yaml :=
  if c = 'a' then some first else if c = 'b' then some second else if c = 'c' then some third
  else none

def lettered (first second third : Yaml) : YamlLib where
  deserialize text := .ok (text.toList.filterMap (letter first second third))
  render document :=
    if document = first then .ok "a" else if document = second then .ok "b"
    else if document = third then .ok "c" else .error "unknown document"

variable {first second third document : Yaml}

theorem filterMap_renderLine (h : (lettered first second third).renderLine document = .ok text) :
    text.toList.filterMap (letter first second third) = [document] := by
  obtain ⟨rendered, hr, h⟩ := bind_ok.1 h
  have hl : rendered.toList.filterMap (letter first second third) = [document] := by
    simp only [lettered] at hr
    split at hr
    · next hd =>
      cases hr
      rw [hd]
      rfl
    · split at hr
      · next hd =>
        cases hr
        rw [hd]
        rfl
      · split at hr
        · next hd =>
          cases hr
          rw [hd]
          rfl
        · cases hr
  cases h
  split
  · exact hl
  · rw [String.toList_append, List.filterMap_append, hl]
    rfl

theorem filterMap_serializeFrom
    (h : (lettered first second third).serializeFrom start docs = .ok text) :
    text.toList.filterMap (letter first second third) = docs := by
  induction docs generalizing start text with
  | nil =>
    cases h
    rfl
  | cons doc rest ih =>
    obtain ⟨line, hl, h⟩ := bind_ok.1 h
    obtain ⟨tail, ht, h⟩ := bind_ok.1 h
    cases h
    rw [String.toList_append, String.toList_append, List.filterMap_append, List.filterMap_append,
      filterMap_renderLine hl, ih ht]
    cases start <;> rfl

theorem readsBack_lettered (first second third : Yaml) :
    (lettered first second third).ReadsBack := by
  intro docs text h
  rw [← filterMap_serializeFrom h]
  rfl

end YamlLib
end Podmesh
