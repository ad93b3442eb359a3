import Mathlib.Data.List.DropRight
import Mathlib.Algebra.Order.Ring.Nat

/-!
A text is the list of its characters; `lines`, `words`, `trim` and `isWhitespace` are those of Rust.
-/

namespace Podmesh.Text

/-- The lines of a text without their ends, which are a line feed or a carriage return and a line
feed. The last line may have none. -/
def lines : List Char → List (List Char)
  | [] => []
  | '\n' :: rest => [] :: lines rest
  | '\r' :: '\n' :: rest => [] :: lines rest
  | c :: rest =>
    match lines rest with
    | [] => [[c]]
    | line :: more => (c :: line) :: more

def isWhitespace (c : Char) : Bool :=
  (9 ≤ c.toNat && c.toNat ≤ 13) || (0x2000 ≤ c.toNat && c.toNat ≤ 0x200a) ||
    [0x20, 0x85, 0xa0, 0x1680, 0x2028, 0x2029, 0x202f, 0x205f, 0x3000].contains c.toNat

def isAsciiWhitespace (c : Char) : Bool := [9, 10, 12, 13, 32].contains c.toNat

def words (space : Char → Bool) (text : List Char) : List (List Char) :=
  (text.splitOnP space).filter fun word => !word.isEmpty

def trim (text : List Char) : List Char := (text.rdropWhile isWhitespace).dropWhile isWhitespace

def utf8Size (text : List Char) : Nat := (text.map Char.utf8Size).sum

/-- The lines `inserted` are added to the text `old` where a line of it begins or at its end. If
its last line has no end, it gets one. -/
inductive Inserts : List Char → List (List Char) → List Char → Prop
  | rest (text) : Inserts text [] text
  | insert : '\n' ∉ line → Inserts old inserted new →
      Inserts old (line :: inserted) (line ++ '\n' :: new)
  | keep : '\n' ∉ line → Inserts old inserted new →
      Inserts (line ++ '\n' :: old) inserted (line ++ '\n' :: new)
  | close : '\n' ∉ line → Inserts [] inserted new → Inserts line inserted (line ++ '\n' :: new)
  | last : '\n' ∉ line → Inserts [] [line] line

variable {line : List Char}

/-- A line that is ended by a carriage return and a line feed loses both. -/
theorem lines_line (h : '\n' ∉ line) (rest : List Char) :
    ∃ l, (line = l ∨ line = l ++ ['\r']) ∧ lines (line ++ '\n' :: rest) = l :: lines rest := by
  induction line with
  | nil => exact ⟨[], .inl rfl, rfl⟩
  | cons c line ih =>
    obtain ⟨hc, hn⟩ := not_or.1 (List.mem_cons.not.1 h)
    obtain ⟨l, hl, he⟩ := ih hn
    by_cases hr : c = '\r' ∧ line = []
    · obtain ⟨rfl, rfl⟩ := hr
      exact ⟨[], .inr rfl, rfl⟩
    · refine ⟨c :: l, hl.imp (congrArg _) (congrArg _), ?_⟩
      rw [List.cons_append, lines, he]
      · exact fun h => hc h.symm
      · rintro t rfl ht
        cases line with
        | nil => exact hr ⟨rfl, rfl⟩
        | cons d line =>
          cases ht
          exact hn List.mem_cons_self

theorem lines_last (h : '\n' ∉ line) : lines line = if line = [] then [] else [line] := by
  induction line with
  | nil => rfl
  | cons c line ih =>
    obtain ⟨hc, hn⟩ := not_or.1 (List.mem_cons.not.1 h)
    rw [lines, ih hn]
    · cases line <;> rfl
    · exact fun h => hc h.symm
    · rintro t rfl rfl
      exact hn List.mem_cons_self

section
variable (f : List Char → β) (keep : β → Bool)

/-- What a reader makes of the lines of a text, without the lines that it skips. -/
def significant (text : List Char) : List β := ((lines text).map f).filter keep

variable (hcr : ∀ l, f (l ++ ['\r']) = f l) (hnil : keep (f []) = false)
include hcr

theorem significant_line (h : '\n' ∉ line) (rest : List Char) :
    significant f keep (line ++ '\n' :: rest) =
      [f line].filter keep ++ significant f keep rest := by
  obtain ⟨l, hl, he⟩ := lines_line h rest
  have hf : f line = f l := by
    rcases hl with rfl | rfl
    · rfl
    · exact hcr l
  rw [significant, he, hf, List.map_cons, ← List.singleton_append, List.filter_append]
  rfl

include hnil

omit hcr in
theorem significant_last (h : '\n' ∉ line) : significant f keep line = [f line].filter keep := by
  rw [significant, lines_last h]
  split
  · next he => simp [he, hnil]
  · rfl

/-- Inserted lines that the reader skips change nothing. -/
theorem Inserts.significant_eq (h : Inserts old inserted new)
    (hs : ∀ l ∈ inserted, keep (f l) = false) :
    significant f keep new = significant f keep old := by
  induction h with
  | rest => rfl
  | insert hl _ ih =>
    obtain ⟨hk, hs⟩ := List.forall_mem_cons.1 hs
    rw [significant_line f keep hcr hl, ih hs]
    simp [hk]
  | keep hl _ ih => rw [significant_line f keep hcr hl, significant_line f keep hcr hl, ih hs]
  | close hl _ ih =>
    rw [significant_line f keep hcr hl, significant_last f keep hnil hl, ih hs]
    exact List.append_nil _
  | last hl =>
    rw [significant_last f keep hnil hl]
    simp [hs, significant, lines]

theorem Inserts.mem_significant (h : Inserts old inserted new) (hl : l ∈ inserted)
    (hk : keep (f l) = true) : f l ∈ significant f keep new := by
  induction h with
  | rest => cases hl
  | insert hn _ ih =>
    rw [significant_line f keep hcr hn, List.mem_append]
    rcases List.mem_cons.1 hl with rfl | hl
    · exact .inl (by simp [hk])
    · exact .inr (ih hl)
  | keep hn _ ih | close hn _ ih =>
    rw [significant_line f keep hcr hn]
    exact List.mem_append_right _ (ih hl)
  | last hn =>
    rw [List.mem_singleton.1 hl] at hk ⊢
    rw [significant_last f keep hnil hn]
    simp [hk]

end

theorem trim_append_cr (l : List Char) : trim (l ++ ['\r']) = trim l := by
  rw [trim, List.rdropWhile_concat_pos _ _ _ (by decide), trim]

theorem trim_eq_nil (h : l.all isWhitespace = true) : trim l = [] := by
  rw [trim, List.rdropWhile_eq_nil_iff.2 (List.all_eq_true.1 h)]
  rfl

theorem trim_cons (h : isWhitespace c = false) (l : List Char) : ∃ t, trim (c :: l) = c :: t := by
  have hp := List.rdropWhile_prefix isWhitespace (c :: l)
  cases hr : (c :: l).rdropWhile isWhitespace with
  | nil =>
    rw [List.rdropWhile_eq_nil_iff] at hr
    rw [hr c List.mem_cons_self] at h
    cases h
  | cons d t =>
    rw [hr, List.cons_prefix_cons] at hp
    obtain ⟨rfl, _⟩ := hp
    rw [trim, hr, List.dropWhile_cons_of_neg (by rw [h]; decide)]
    exact ⟨t, rfl⟩

theorem words_cons (h : space c = false) (l : List Char) :
    ∃ w ws, words space (c :: l) = (c :: w) :: ws := by
  rw [words, List.splitOnP_cons_eq_if_modifyHead, h]
  cases hs : l.splitOnP space with
  | nil => exact absurd hs (List.splitOnP_ne_nil _ _)
  | cons w ws => exact ⟨w, _, rfl⟩

end Podmesh.Text
