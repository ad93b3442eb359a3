import Mathlib.Algebra.Order.Floor.Semifield
import Mathlib.Data.Rat.Floor
import Podmesh.Manifest.Resources

namespace Podmesh

/-- The text reads as a decimal: a whole part and, after a point, a fraction. -/
structure Numeral (text whole fraction : Bytes) : Prop where
  spelled : text = whole ∧ fraction = [] ∨ text = whole ++ 46 :: fraction
  nonempty : whole ≠ []
  digits : whole.all isAsciiDigit = true
  fractionDigits : fraction.all isAsciiDigit = true

def decimalValue (whole fraction : Bytes) : ℚ :=
  digitsValue whole + digitsValue fraction / 10 ^ fraction.length

/-- The text denotes a number of bytes: a decimal with at most nine places and a known suffix. -/
def DenotesBytes (text : Bytes) (value : ℚ) : Prop :=
  ∃ number whole fraction suffix multiplier, text = number ++ utf8Bytes suffix ∧
    (suffix, multiplier) ∈ ("", 1) :: byteSuffixes ∧ Numeral number whole fraction ∧
    fraction.length ≤ 9 ∧ value = decimalValue whole fraction * multiplier

/-- The text denotes a number of millicores: an integer with the suffix, or a decimal of cores. -/
def DenotesMillicores (text : Bytes) (value : ℚ) : Prop :=
  (∃ digits, (text = digits ++ [109] ∨ text = 43 :: digits ++ [109]) ∧
      Numeral digits digits [] ∧ value = digitsValue digits) ∨
    ∃ whole fraction, Numeral text whole fraction ∧ value = decimalValue whole fraction * 1000

theorem ceil_div (a : Nat) {b : Nat} (hb : 0 < b) : ⌈(a : ℚ) / b⌉₊ = (a + (b - 1)) / b := by
  apply eq_of_forall_ge_iff
  intro c
  rw [Nat.ceil_le, div_le_iff₀ (by exact_mod_cast hb), Nat.div_le_iff_le_mul_add_pred hb]
  norm_cast
  rw [Nat.mul_comm]
  omega

theorem digitsValue_append_zeros :
    digitsValue (digits ++ List.replicate n 48) = digitsValue digits * 10 ^ n := by
  induction n with
  | zero => simp
  | succ n ih =>
    rw [List.replicate_succ', ← List.append_assoc, digitsValue, List.foldl_append, ← digitsValue, ih]
    simp [pow_succ, mul_assoc]

theorem stripSuffix_eq (h : stripSuffix suffix text = some number) : text = number ++ suffix := by
  unfold stripSuffix at h
  split at h
  · next hs =>
    obtain ⟨bef, rfl⟩ := List.isSuffixOf_iff_suffix.1 hs
    simp_all
  · cases h

theorem splitDot_append (h : 46 ∉ whole) : splitDot (whole ++ 46 :: frac) = some (whole, frac) := by
  induction whole with
  | nil => simp [splitDot]
  | cons b rest ih => simp_all [splitDot, eq_comm]

theorem splitDot_none (h : 46 ∉ text) : splitDot text = none := by
  induction text with
  | nil => rfl
  | cons b rest ih =>
    obtain ⟨hb, hr⟩ := not_or.1 (List.mem_cons.not.1 h)
    simp [splitDot, Ne.symm hb, ih hr]

theorem splitDot_eq (h : splitDot text = some parts) : text = parts.1 ++ 46 :: parts.2 := by
  fun_induction splitDot text generalizing parts with
  | case1 => cases h
  | case2 rest =>
    cases h
    rfl
  | case3 b rest _ ih =>
    obtain ⟨tail, ht, rfl⟩ := Option.map_eq_some_iff.1 h
    simp [ih ht]

theorem numeral_iff : Numeral text whole frac ↔ decimalParts text = (whole, frac) ∧
    whole ≠ [] ∧ whole.all isAsciiDigit = true ∧ frac.all isAsciiDigit = true := by
  constructor
  · rintro ⟨hs, hn, hd, hf⟩
    have hdt : 46 ∉ whole := fun hm => by simpa [isAsciiDigit] using List.all_eq_true.1 hd 46 hm
    refine ⟨?_, hn, hd, hf⟩
    rcases hs with ⟨rfl, rfl⟩ | rfl
    · simp [decimalParts, splitDot_none hdt]
    · simp [decimalParts, splitDot_append hdt]
  · rintro ⟨hp, hn, hd, hf⟩
    refine ⟨?_, hn, hd, hf⟩
    cases hs : splitDot text with
    | none => simp_all [decimalParts]
    | some parts => simp_all [decimalParts, splitDot_eq hs]

theorem Numeral.last (h : Numeral text whole frac) :
    ∃ bef b, text = bef ++ [b] ∧ (isAsciiDigit b = true ∨ b = 46) := by
  have hne : text ≠ [] := by
    rcases h.spelled with ⟨rfl, -⟩ | rfl
    · exact h.nonempty
    · simp
  refine ⟨_, _, (List.dropLast_append_getLast hne).symm, ?_⟩
  have hm := List.getLast_mem hne
  have hd := List.all_eq_true.1 h.digits
  have hf := List.all_eq_true.1 h.fractionDigits
  rcases h.spelled with ⟨ht, -⟩ | ht <;> grind

theorem byteMultiplier_append (h : (suffix, multiplier) ∈ ("", 1) :: byteSuffixes)
    (hn : Numeral number whole frac) :
    byteMultiplier (number ++ utf8Bytes suffix) = (number, multiplier) := by
  obtain ⟨bef, b, rfl, hb⟩ := hn.last
  have hb : 105 ≠ b ∧ 84 ≠ b ∧ 71 ≠ b ∧ 77 ≠ b ∧ 75 ≠ b := by
    rcases hb with hb | rfl
    · refine ⟨?_, ?_, ?_, ?_, ?_⟩ <;> rintro rfl <;> simp [isAsciiDigit] at hb
    · decide
  have hby : (utf8Bytes "" = [] ∧ utf8Bytes "Ti" = [84, 105] ∧ utf8Bytes "Gi" = [71, 105] ∧
      utf8Bytes "Mi" = [77, 105] ∧ utf8Bytes "Ki" = [75, 105]) ∧ utf8Bytes "T" = [84] ∧
      utf8Bytes "G" = [71] ∧ utf8Bytes "M" = [77] ∧ utf8Bytes "K" = [75] := by decide
  simp only [byteSuffixes, List.mem_cons, Prod.mk.injEq, List.not_mem_nil, or_false] at h
  rcases h with h | h | h | h | h | h | h | h | h <;> obtain ⟨rfl, rfl⟩ := h <;>
    simp [byteMultiplier, byteSuffixes, stripSuffix, List.isSuffixOf, hby, hb, List.take_append]

theorem byteMultiplier_eq (h : byteMultiplier text = (number, multiplier)) :
    ∃ suffix, text = number ++ utf8Bytes suffix ∧
      (suffix, multiplier) ∈ ("", 1) :: byteSuffixes := by
  unfold byteMultiplier at h
  generalize hf : byteSuffixes.findSome? _ = found at h
  cases found with
  | none =>
    cases h
    exact ⟨"", by simp [utf8Bytes], by simp⟩
  | some found =>
    obtain ⟨⟨suffix, m⟩, hm, hs⟩ := List.exists_of_findSome?_eq_some hf
    obtain ⟨n, hn, rfl⟩ := Option.map_eq_some_iff.1 hs
    cases h
    exact ⟨suffix, stripSuffix_eq hn, List.mem_cons_of_mem _ hm⟩

theorem parseUnsigned_digits (hn : text ≠ []) (hd : List.all text isAsciiDigit = true) :
    parseUnsigned bound text = some n ↔ digitsValue text = n ∧ n ≤ bound := by
  have hp : ∀ rest, text ≠ 43 :: rest := by
    rintro rest rfl
    simp [isAsciiDigit] at hd
  unfold parseUnsigned
  split
  · next rest => exact absurd rfl (hp rest)
  · simp [hn, hd]
    grind

theorem parseUnsigned_eq_some (h : parseUnsigned bound text = some n) :
    ∃ digits, (text = digits ∨ text = 43 :: digits) ∧ Numeral digits digits [] ∧
      digitsValue digits = n ∧ n ≤ bound := by
  unfold parseUnsigned at h
  split at h
  · next rest =>
    simp at h
    exact ⟨rest, .inr rfl, ⟨.inl ⟨rfl, rfl⟩, h.1.1.1, by simpa using h.1.1.2, rfl⟩, h.2, h.2 ▸ h.1.2⟩
  · simp at h
    exact ⟨text, .inl rfl, ⟨.inl ⟨rfl, rfl⟩, h.1.1.1, by simpa using h.1.1.2, rfl⟩, h.2, h.2 ▸ h.1.2⟩

theorem scaled_eq :
    decimalValue whole frac * multiplier =
      (((digitsValue whole * 10 ^ frac.length + digitsValue frac) * multiplier : Nat) : ℚ) /
        (10 ^ frac.length : Nat) := by
  unfold decimalValue
  push_cast
  field_simp

theorem multiplier_pos (h : (suffix, multiplier) ∈ ("", 1) :: byteSuffixes) : 0 < multiplier := by
  simp only [byteSuffixes, List.mem_cons, Prod.mk.injEq, List.not_mem_nil, or_false] at h
  omega

/-- A value below the result's limit keeps every intermediate result below the wide limit. -/
theorem fits_of_bytes (hm : 0 < multiplier) (hs : 0 < scale) (hsc : scale ≤ 10 ^ 9)
    (h : ((whole * scale + frac) * multiplier + (scale - 1)) / scale ≤ u64Max) :
    whole ≤ u128Max ∧ (whole * scale + frac) * multiplier + (scale - 1) ≤ u128Max := by
  have hlt := Nat.lt_mul_of_div_lt (Nat.lt_succ_of_le h) hs
  have hw : whole ≤ (whole * scale + frac) * multiplier :=
    (Nat.le_mul_of_pos_right _ hs).trans
      ((Nat.le_add_right _ _).trans (Nat.le_mul_of_pos_right _ hm))
  have : (u64Max + 1) * scale ≤ (u64Max + 1) * 10 ^ 9 := Nat.mul_le_mul_left _ hsc
  unfold u64Max u128Max at *
  omega

theorem parseBytes_ok_iff : parseBytes quantity = .ok v ↔
    ∃ value, DenotesBytes (utf8Bytes quantity) value ∧ v = ⌈value⌉₊ ∧ 1 ≤ v ∧ v < 2 ^ 64 := by
  constructor
  · intro h
    obtain ⟨number, multiplier, hm⟩ :
      ∃ number multiplier, byteMultiplier (utf8Bytes quantity) = (number, multiplier) := ⟨_, _, rfl⟩
    obtain ⟨whole, fraction, hp⟩ :
      ∃ whole fraction, decimalParts number = (whole, fraction) := ⟨_, _, rfl⟩
    obtain ⟨suffix, ht, hmm⟩ := byteMultiplier_eq hm
    simp only [parseBytes, hm, hp, exists_const, ensure_ok, bind_ok, orError_ok, Bool.and_eq_true,
      decide_eq_true_eq, Bool.not_eq_true', List.isEmpty_eq_false_iff] at h
    obtain ⟨⟨⟨⟨hne, hd⟩, hl⟩, hf⟩, n, hw, -, -, hps, hle, hv⟩ := h
    obtain ⟨rfl, -⟩ := (parseUnsigned_digits hne hd).1 hw
    cases hv
    refine ⟨_, ⟨number, whole, fraction, suffix, multiplier, ht, hmm,
      numeral_iff.2 ⟨hp, hne, hd, hf⟩, hl, rfl⟩, ?_, hps, Nat.lt_succ_of_le hle⟩
    rw [scaled_eq, ceil_div _ (by positivity)]
  · rintro ⟨_, ⟨number, whole, fraction, suffix, multiplier, ht, hmm, hn, hl, rfl⟩, rfl, hps, hlt⟩
    rw [scaled_eq, ceil_div _ (by positivity)] at *
    obtain ⟨hp, hne, hd, hf⟩ := numeral_iff.1 hn
    have hft := fits_of_bytes (multiplier_pos hmm) (by positivity)
      (Nat.pow_le_pow_right (by decide) hl) (Nat.le_of_lt_succ hlt)
    simp only [parseBytes, ht, byteMultiplier_append hmm hn, hp, exists_const, ensure_ok, bind_ok,
      orError_ok, Bool.and_eq_true, decide_eq_true_eq, Bool.not_eq_true', List.isEmpty_eq_false_iff]
    refine ⟨⟨⟨⟨hne, hd⟩, hl⟩, hf⟩, _, (parseUnsigned_digits hne hd).2 ⟨rfl, hft.1⟩, ?_, hft.2,
      hps, Nat.le_of_lt_succ hlt, rfl⟩
    exact (Nat.le_add_right _ _).trans hft.2

theorem parseCpu_ok (h : parseCpu quantity = .ok v) :
    ∃ value, DenotesMillicores (utf8Bytes quantity) value ∧ v = value ∧ 1 ≤ v ∧ v < 2 ^ 32 := by
  unfold parseCpu at h
  split at h
  · next milli hm =>
    simp only [bind_ok, orError_ok, ensure_ok, exists_const, decide_eq_true_eq] at h
    obtain ⟨n, hn, hps, hv⟩ := h
    cases hv
    obtain ⟨digits, hd, hnm, rfl, hle⟩ := parseUnsigned_eq_some hn
    refine ⟨_, .inl ⟨digits, ?_, hnm, rfl⟩, rfl, hps, Nat.lt_succ_of_le hle⟩
    rcases hd with rfl | rfl <;> simp [stripSuffix_eq hm]
  · next hm =>
    obtain ⟨whole, fraction, hp⟩ :
      ∃ whole fraction, decimalParts (utf8Bytes quantity) = (whole, fraction) := ⟨_, _, rfl⟩
    simp only [hp, exists_const, ensure_ok, bind_ok, orError_ok, Bool.and_eq_true,
      decide_eq_true_eq, Bool.not_eq_true', List.isEmpty_eq_false_iff] at h
    obtain ⟨⟨⟨⟨hne, hd⟩, hl⟩, hf⟩, n, hw, m, hm, hle, hps, hv⟩ := h
    obtain ⟨rfl, -⟩ := (parseUnsigned_digits hne hd).1 hw
    obtain ⟨rfl, -⟩ := (parseUnsigned_digits (by cases fraction <;> simp) (by simp [hf, isAsciiDigit])).1 hm
    cases hv
    refine ⟨_, .inr ⟨whole, fraction, numeral_iff.2 ⟨hp, hne, hd, hf⟩, rfl⟩, ?_, hps,
      Nat.lt_succ_of_le hle⟩
    rw [digitsValue_append_zeros, decimalValue]
    push_cast
    have hs : (1000 : ℚ) = 10 ^ fraction.length * 10 ^ (3 - fraction.length) := by
      rw [← pow_add, Nat.add_sub_cancel' hl]
      norm_num
    rw [add_mul, hs]
    field_simp

/-- What a limit is read as is what it says: bytes are rounded up, millicores are exact, and no
intermediate result overflows for a value that fits. -/
theorem quantities_exact (quantity : String) (v : Nat) :
    (parseBytes quantity = .ok v ↔ ∃ value, DenotesBytes (utf8Bytes quantity) value ∧
        v = ⌈value⌉₊ ∧ 1 ≤ v ∧ v < 2 ^ 64) ∧
      (parseCpu quantity = .ok v → ∃ value, DenotesMillicores (utf8Bytes quantity) value ∧
        v = value ∧ 1 ≤ v ∧ v < 2 ^ 32) :=
  ⟨parseBytes_ok_iff, parseCpu_ok⟩

theorem quantities_exact_eighth : parseCpu "0.125" = .ok 125 ∧
    ∃ value, DenotesMillicores (utf8Bytes "0.125") value ∧ (125 : Nat) = value ∧ 1 ≤ 125 ∧
      125 < 2 ^ 32 :=
  ⟨by decide, (quantities_exact "0.125" 125).2 (by decide)⟩

end Podmesh
