import Podmesh.Lib.Assoc
import Podmesh.Lib.Fallible
import Podmesh.Lib.Text

/-!
A trust file lists the agents and proxies that an owner trusts. Its first line that is neither blank
nor a comment decides whether the file is read as a typed one or as a list of agent keys.
-/

namespace Podmesh

open Text

inductive TrustError where
  | documentTooLarge
  | unsupportedVersion (line : List Char)
  | malformedRecord (line : Nat) (reason : String)
  | invalidAgentKey (key : List Char)
  | invalidProxySigningKey (key : List Char)
  | invalidProxyEndpoint (endpoint : List Char)
  | invalidProxyOrigin (input : List Char) (reason : String)
  | duplicateProxyOrigin (origin : List Char)
  | agentLimitExceeded
  | proxyLimitExceeded

structure Url where
  scheme : String
  username : String
  password : Option String
  query : Option String
  fragment : Option String
  path : String
  host : Option String
  origin : List Char

/-- The libraries for Base64, hexadecimal numbers and URLs. -/
structure TrustPlatform where
  b64Decode : List Char → Option (List UInt8)
  b64Encode : List UInt8 → List Char
  hexDecode : List Char → Option (List UInt8)
  parseUrl : List Char → Except String Url

structure TrustedProxyIdentity where
  origin : List Char
  endpointIdHex : List Char
  signingKeyB64 : List Char

structure TrustRegistry where
  agentKeys : List (List Char)
  proxies : AList fun _ : List Char => TrustedProxyIdentity

namespace TrustPlatform

def parseOrigin (p : TrustPlatform) (input : List Char) : Except TrustError (List Char) := do
  let parsed ← (p.parseUrl input).mapError (.invalidProxyOrigin input)
  if parsed.scheme != "http" && parsed.scheme != "https" then
    throw (.invalidProxyOrigin input "scheme must be http or https")
  if !parsed.username.isEmpty || parsed.password.isSome then
    throw (.invalidProxyOrigin input "credentials are not permitted")
  if parsed.query.isSome || parsed.fragment.isSome then
    throw (.invalidProxyOrigin input "query strings and fragments are not permitted")
  if parsed.path != "" && parsed.path != "/" then
    throw (.invalidProxyOrigin input "path prefixes are not permitted")
  if parsed.host.isNone then
    throw (.invalidProxyOrigin input "host is required")
  return parsed.origin

def validateSigningKey (p : TrustPlatform) (value : List Char) (agent : Bool) :
    Except TrustError Unit :=
  if (p.b64Decode value).any fun key => key.length = 32 && p.b64Encode key = value then .ok ()
  else .error (if agent then .invalidAgentKey value else .invalidProxySigningKey value)

def newIdentity (p : TrustPlatform) (origin endpoint key : List Char) :
    Except TrustError TrustedProxyIdentity := do
  if !((p.hexDecode endpoint).any fun bytes =>
      bytes.length = 32 && endpoint = endpoint.map Char.toLower) then
    throw (.invalidProxyEndpoint endpoint)
  p.validateSigningKey key false
  return ⟨origin, endpoint, key⟩

end TrustPlatform

namespace TrustRegistry

def empty : TrustRegistry := ⟨[], ∅⟩

def insertAgent (p : TrustPlatform) (r : TrustRegistry) (key : List Char) :
    Except TrustError TrustRegistry := do
  p.validateSigningKey key true
  if !r.agentKeys.contains key && r.agentKeys.length ≥ 1024 then
    throw .agentLimitExceeded
  return { r with agentKeys := r.agentKeys.insert key }

def insertProxy (p : TrustPlatform) (r : TrustRegistry) (origin endpoint key : List Char) :
    Except TrustError TrustRegistry := do
  let origin ← p.parseOrigin origin
  if (r.proxies.lookup origin).isSome then
    throw (.duplicateProxyOrigin origin)
  if Assoc.size r.proxies ≥ 32 then
    throw .proxyLimitExceeded
  let identity ← p.newIdentity origin endpoint key
  return { r with proxies := r.proxies.insert origin identity }

/-- The key on a line of a file without header. -/
def legacyValue (line : List Char) : List Char := trim (line.takeWhile (· != '#'))

def parseLegacy (p : TrustPlatform) (text : List Char) : Except TrustError TrustRegistry :=
  (lines text).foldlM (fun r line =>
    if (legacyValue line).isEmpty then .ok r else r.insertAgent p (legacyValue line)) empty

def trustFileHeader : List Char := "podmesh-trust-v1".toList

/-- There is no result for a line that is no record. -/
def insertRecord (p : TrustPlatform) (r : TrustRegistry) (line : List Char) :
    Option (Except TrustError TrustRegistry) :=
  match words isAsciiWhitespace line with
  | [kind, key] => if kind = "agent".toList then some (r.insertAgent p key) else none
  | [kind, origin, endpoint, key] =>
    if kind = "proxy".toList then some (r.insertProxy p origin endpoint key) else none
  | _ => none

def malformedRecord (number : Nat) : TrustError :=
  .malformedRecord number "expected `agent <key>` or `proxy <origin> <endpoint> <key>`"

/-- The loop over the trimmed lines of a typed file. -/
def parseRecords (p : TrustPlatform) (headerSeen : Bool) (r : TrustRegistry) (number : Nat) :
    List (List Char) → Except TrustError TrustRegistry
  | [] => if headerSeen then .ok r else .error (.unsupportedVersion [])
  | line :: rest =>
    if line.isEmpty then parseRecords p headerSeen r (number + 1) rest
    else if headerSeen then do
      let r ← (r.insertRecord p line).getD (.error (malformedRecord number))
      parseRecords p true r (number + 1) rest
    else if line = trustFileHeader then parseRecords p true r (number + 1) rest
    else .error (.unsupportedVersion line)

def parseTyped (p : TrustPlatform) (text : List Char) : Except TrustError TrustRegistry :=
  parseRecords p false empty 1 ((lines text).map trim)

def isMeaningful (line : List Char) : Bool := !line.isEmpty && line.head? != some '#'

def isTyped (text : List Char) : Bool :=
  (((lines text).map trim).find? isMeaningful).any "podmesh-trust-".toList.isPrefixOf

def maxTrustFileBytes : Nat := 256 * 1024

def parse (p : TrustPlatform) (text : List Char) : Except TrustError TrustRegistry :=
  if utf8Size text > maxTrustFileBytes then .error .documentTooLarge
  else if isTyped text then parseTyped p text
  else parseLegacy p text

def isBlank (line : List Char) : Bool := line.all isWhitespace

def isComment (line : List Char) : Bool := line.head? = some '#'

theorem legacyValue_append_cr (l : List Char) : legacyValue (l ++ ['\r']) = legacyValue l := by
  have h : (l ++ ['\r']).takeWhile (· != '#') = l.takeWhile (· != '#') ∨
      (l ++ ['\r']).takeWhile (· != '#') = l.takeWhile (· != '#') ++ ['\r'] := by
    induction l with
    | nil => exact .inr rfl
    | cons c l ih =>
      rw [List.cons_append, List.takeWhile_cons, List.takeWhile_cons]
      split
      · exact ih.imp (congrArg _) (congrArg _)
      · exact .inl rfl
  rcases h with h | h
  · rw [legacyValue, h, legacyValue]
  · rw [legacyValue, h, trim_append_cr, legacyValue]

theorem comment_cases (h : isComment l = true) : ∃ t, l = '#' :: t := by
  cases l with
  | nil => cases h
  | cons c t => exact ⟨t, by rw [Option.some.inj (of_decide_eq_true h)]⟩

theorem legacyValue_eq_nil (h : isBlank l = true ∨ isComment l = true) : legacyValue l = [] := by
  rcases h with h | h
  · apply trim_eq_nil
    rw [isBlank, List.all_eq_true] at h
    exact List.all_eq_true.2 fun c hc => h c (List.takeWhile_subset _ hc)
  · obtain ⟨t, rfl⟩ := comment_cases h
    rfl

theorem trim_comment (h : isComment l = true) : ∃ t, trim l = '#' :: t := by
  obtain ⟨t, rfl⟩ := comment_cases h
  exact trim_cons (by decide) t

theorem isTyped_eq (h : Inserts old inserted new)
    (hi : ∀ l ∈ inserted, isBlank l = true ∨ isComment l = true) : isTyped new = isTyped old := by
  have hs : significant trim isMeaningful new = significant trim isMeaningful old := by
    refine h.significant_eq _ _ trim_append_cr rfl fun l hl => ?_
    rcases hi l hl with hb | hc
    · rw [trim_eq_nil hb]
      rfl
    · obtain ⟨t, ht⟩ := trim_comment hc
      rw [ht]
      rfl
  rw [isTyped, isTyped, ← List.head?_filter, ← List.head?_filter]
  exact congrArg (fun ls => (List.head? ls).any _) hs

theorem parseLegacy_eq (p : TrustPlatform) (text : List Char) :
    parseLegacy p text =
      (significant legacyValue (fun v => !v.isEmpty) text).foldlM (insertAgent p) empty := by
  rw [parseLegacy, significant]
  generalize lines text = ls
  generalize empty = r
  induction ls generalizing r with
  | nil => rfl
  | cons line ls ih =>
    rw [List.foldlM_cons, List.map_cons]
    cases hv : (legacyValue line).isEmpty with
    | true =>
      rw [List.filter_cons_of_neg (by simp [hv])]
      exact ih r
    | false =>
      rw [List.filter_cons_of_pos (by simp [hv]), List.foldlM_cons]
      exact bind_congr fun r => ih r

/-- The number of a line is in errors only. -/
theorem parseRecords_ok (m : Nat) :
    parseRecords p seen r n ls = .ok r' ↔
      parseRecords p seen r m (ls.filter fun l => !l.isEmpty) = .ok r' := by
  induction ls generalizing seen r n m with
  | nil => rfl
  | cons l ls ih =>
    cases he : l.isEmpty with
    | true =>
      rw [parseRecords, he, List.filter_cons_of_neg (by simp [he])]
      exact ih m
    | false =>
      rw [List.filter_cons_of_pos (by simp [he]), parseRecords, parseRecords, he]
      cases seen with
      | true =>
        cases r.insertRecord p l with
        | none => exact ⟨fun h => (by cases h), fun h => (by cases h)⟩
        | some x => exact bind_ok.trans ((exists_congr fun _ => and_congr_right fun _ =>
            ih (m + 1)).trans bind_ok.symm)
      | false =>
        by_cases hh : l = trustFileHeader
        · simp only [hh]
          exact ih _
        · simp [hh]

theorem parseRecords_comment (hl : '#' :: t ∈ ls) : parseRecords p seen r n ls ≠ .ok r' := by
  intro h
  induction ls generalizing seen r n with
  | nil => cases hl
  | cons l ls ih =>
    rw [parseRecords] at h
    rcases List.mem_cons.1 hl with rfl | hl
    · cases seen with
      | true =>
        obtain ⟨w, ws, hw⟩ := words_cons (show isAsciiWhitespace '#' = false by decide) t
        have hn : r.insertRecord p ('#' :: t) = none := by
          rw [insertRecord, hw]
          split
          · next hf =>
            cases hf
            rfl
          · next hf =>
            cases hf
            rfl
          · rfl
        rw [hn] at h
        cases h
      | false => cases h
    · split at h
      · exact ih hl h
      · split at h
        · obtain ⟨_, _, h⟩ := bind_ok.1 h
          exact ih hl h
        · split at h
          · exact ih hl h
          · cases h

theorem parseTyped_ok : parseTyped p text = .ok r ↔
    parseRecords p false empty 0 (significant trim (fun l => !l.isEmpty) text) = .ok r :=
  parseRecords_ok 0

variable (h : Inserts old inserted new)
include h

theorem parseTyped_insert (hb : ∀ l ∈ inserted, isBlank l = true) :
    parseTyped p new = .ok r ↔ parseTyped p old = .ok r := by
  rw [parseTyped_ok, parseTyped_ok, h.significant_eq _ _ trim_append_cr rfl]
  intro l hl
  rw [trim_eq_nil (hb l hl)]
  rfl

theorem not_parseTyped (hl : l ∈ inserted) (hc : isComment l = true) : parseTyped p new ≠ .ok r := by
  obtain ⟨t, ht⟩ := trim_comment hc
  rw [Ne, parseTyped_ok]
  apply parseRecords_comment
  rw [← ht]
  exact h.mem_significant _ _ trim_append_cr rfl hl (by rw [ht]; rfl)

theorem parseLegacy_insert (hi : ∀ l ∈ inserted, isBlank l = true ∨ isComment l = true) :
    parseLegacy p new = parseLegacy p old := by
  rw [parseLegacy_eq, parseLegacy_eq, h.significant_eq _ _ legacyValue_append_cr rfl]
  intro l hl
  rw [legacyValue_eq_nil (hi l hl)]
  rfl

end TrustRegistry

open TrustRegistry

/-- Blank lines and comments that are inserted into a file that is accepted leave what it means
unchanged exactly if it is a list of keys or no comment is inserted. -/
theorem trust_file_insertion_iff (h : Inserts old inserted new)
    (hi : ∀ l ∈ inserted, isBlank l = true ∨ isComment l = true)
    (ho : TrustRegistry.parse p old = .ok r) (hs : utf8Size new ≤ maxTrustFileBytes) :
    TrustRegistry.parse p new = .ok r ↔
      isTyped old = false ∨ ∀ l ∈ inserted, isBlank l = true := by
  rw [TrustRegistry.parse] at ho ⊢
  rw [if_neg (Nat.not_lt.2 hs), isTyped_eq h hi]
  split at ho
  · cases ho
  · cases hty : isTyped old with
    | false =>
      rw [hty] at ho
      exact iff_of_true ((parseLegacy_insert h hi).trans ho) (.inl rfl)
    | true =>
      rw [hty] at ho
      constructor
      · intro hn
        exact .inr fun l hl => (hi l hl).resolve_right fun hc => not_parseTyped h hl hc hn
      · intro hb
        exact (parseTyped_insert h (hb.resolve_left Bool.noConfusion)).2 ho

/-- A blank line after the header. -/
theorem trust_file_insertion_iff_blank :
    ∃ p r, TrustRegistry.parse p "podmesh-trust-v1\n".toList = .ok r ∧
      TrustRegistry.parse p "podmesh-trust-v1\n \n".toList = .ok r := by
  refine ⟨⟨fun _ => none, fun _ => [], fun _ => none, fun _ => .error ""⟩, .empty, rfl, ?_⟩
  have h : Inserts "podmesh-trust-v1\n".toList [[' ']] "podmesh-trust-v1\n \n".toList :=
    @Inserts.keep trustFileHeader _ _ _ (by decide) (.insert (by decide) (.rest []))
  exact (trust_file_insertion_iff h (by decide) rfl (by decide)).2 (.inr (by decide))

/-- A comment before the header is taken for a version. -/
theorem trust_file_comment_refused :
    Inserts "podmesh-trust-v1\n".toList ["#".toList] "#\npodmesh-trust-v1\n".toList ∧
      ∀ p, TrustRegistry.parse p "podmesh-trust-v1\n".toList = .ok .empty ∧
        TrustRegistry.parse p "#\npodmesh-trust-v1\n".toList =
          .error (.unsupportedVersion "#".toList) :=
  ⟨.insert (by decide) (.rest _), fun _ => ⟨rfl, rfl⟩⟩

end Podmesh
