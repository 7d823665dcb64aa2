import ChatRouter.Proofs.Text.Words
import ChatRouter.Text.Number
import Mathlib.Data.Char
import Mathlib.Data.List.DropRight
import Mathlib.Data.List.TakeWhile
import Mathlib.Data.String.Basic
import Mathlib.Order.Compare

set_option autoImplicit false

namespace ChatRouter.Text

variable {s t m : List Char} {c : Char}

theorem digit_bounds (h : c.isDigit = true) : 48 ≤ c.toNat ∧ c.toNat ≤ 57 := by
  simpa [Char.isDigit, UInt32.le_iff_toNat_le] using h

theorem not_blank_of_isDigit (h : c.isDigit = true) : isBlank c = false := by
  have hrange := digit_bounds h
  simp only [isBlank]
  grind

theorem trimRight_eq (s : List Char) : trimRight s = s.rdropWhile isBlank := rfl

theorem trimRight_append_cons (h : isBlank c = false) : trimRight (s ++ c :: t) = s ++ c :: trimRight t := by
  induction t using List.reverseRecOn with
  | nil => exact List.rdropWhile_concat_neg isBlank s c (by simp [h])
  | append_singleton t d ih =>
    have hassoc : s ++ c :: (t ++ [d]) = s ++ c :: t ++ [d] := by simp
    rw [hassoc, trimRight_eq, trimRight_eq, List.rdropWhile_concat, List.rdropWhile_concat]
    split
    · exact ih
    · exact hassoc.symm

theorem trimRight_eq_self_iff : trimRight s = s ↔ ∀ c ∈ s.getLast?, isBlank c = false := by
  rw [trimRight_eq, List.rdropWhile_eq_self_iff]
  cases s using List.reverseRecOn <;> simp

/-- Neither begins nor ends with a blank. -/
structure Bare (s : List Char) : Prop where
  first : ∀ c ∈ s.head?, isBlank c = false
  last : ∀ c ∈ s.getLast?, isBlank c = false

theorem bare_trim (s : List Char) : Bare (trim s) := by
  have hright : trimRight (trim s) = trim s := List.rdropWhile_idempotent isBlank _
  refine ⟨fun c hc => ?_, trimRight_eq_self_iff.1 hright⟩
  obtain ⟨rest, hrest⟩ : trim s <+: trimLeft s := List.rdropWhile_prefix isBlank (trimLeft s)
  have hfirst : (trimLeft s).head? = some c := by
    rw [← hrest, List.head?_append, Option.mem_def.1 hc]
    rfl
  have hnot := List.head?_dropWhile_not isBlank s
  rw [← trimLeft, hfirst] at hnot
  simpa using hnot

theorem trim_append_blanks {left right : List Char} (hleft : ∀ c ∈ left, isBlank c = true)
    (hright : ∀ c ∈ right, isBlank c = true) (hm : Bare m) : trim (left ++ m ++ right) = m := by
  have hdrop : trimLeft (left ++ m ++ right) = trimLeft (m ++ right) := by
    rw [List.append_assoc]
    exact List.dropWhile_append_of_pos hleft
  have hstop : trimRight (m ++ right) = trimRight m := by
    rw [trimRight, List.reverse_append, List.dropWhile_append_of_pos fun c hc => hright c (List.mem_reverse.1 hc)]
    rfl
  have hself := trim_eq_self hm.first hm.last
  rw [trim, trimLeft_eq_self hm.first] at hself
  rw [trim, hdrop]
  by_cases hnil : m = []
  · rw [hnil, List.nil_append, trimLeft_of_allBlank (List.all_eq_true.2 hright)]
    rfl
  · have hfirst : ∀ c ∈ (m ++ right).head?, isBlank c = false := by
      rw [List.head?_append_of_ne_nil _ hnil]
      exact hm.first
    rw [trimLeft_eq_self hfirst, hstop, hself]

theorem trim_eq_iff : trim s = m ↔ Bare m ∧ ∃ left right, s = left ++ m ++ right ∧
    (∀ c ∈ left, isBlank c = true) ∧ ∀ c ∈ right, isBlank c = true := by
  constructor
  · rintro rfl
    refine ⟨bare_trim s, s.takeWhile isBlank, (trimLeft s).rtakeWhile isBlank, ?_, ?_, ?_⟩
    · rw [trim, trimRight_eq, List.append_assoc, List.rdropWhile_append_rtakeWhile, trimLeft,
        List.takeWhile_append_dropWhile]
    · exact fun c hc => List.mem_takeWhile_imp hc
    · exact fun c hc => List.mem_rtakeWhile_imp hc
  · rintro ⟨hm, left, right, rfl, hleft, hright⟩
    exact trim_append_blanks hleft hright hm

theorem trim_eq_nil_iff : trim s = [] ↔ ∀ c ∈ s, isBlank c = true := by
  rw [trim_eq_iff]
  constructor
  · rintro ⟨-, left, right, rfl, hleft, hright⟩ c hc
    rcases List.mem_append.1 hc with hc | hc
    · exact hleft c (by simpa using hc)
    · exact hright c hc
  · intro h
    exact ⟨⟨by simp, by simp⟩, s, [], by simp, h, by simp⟩

theorem pieces_eq_splitOn (sep : Char) (s : List Char) : pieces sep s = s.splitOn sep := by
  induction s with
  | nil => rfl
  | cons c s ih =>
    rw [List.splitOn_cons_eq_if_modifyHead, ← ih, pieces]
    by_cases hc : c = sep
    · simp [hc]
    · have hne : pieces sep s ≠ [] := ih ▸ List.splitOn_ne_nil sep s
      obtain ⟨p, ps, hp⟩ := List.exists_cons_of_ne_nil hne
      simp [hc, hp]

theorem intercalate_pieces (sep : Char) (s : List Char) : [sep].intercalate (pieces sep s) = s := by
  rw [pieces_eq_splitOn, List.intercalate_splitOn]

theorem pieces_intercalate {sep : Char} {parts : List (List Char)} (h : ∀ part ∈ parts, sep ∉ part)
    (hne : parts ≠ []) : pieces sep ([sep].intercalate parts) = parts := by
  rw [pieces_eq_splitOn, List.splitOn_intercalate sep h hne]

theorem pieces_ne_nil (sep : Char) (s : List Char) : pieces sep s ≠ [] := by
  rw [pieces_eq_splitOn]
  exact List.splitOn_ne_nil sep s

theorem digitsValue_eq (digits : List Char) : digitsValue digits = Nat.ofDigitChars 10 digits 0 := by
  rw [Nat.ofDigitChars_eq_foldl, digitsValue]
  congr
  funext n d
  rw [Nat.mul_comm]

theorem number?_eq_some_iff {digits : List Char} {n : Nat} : number? digits = some n ↔
    digits ≠ [] ∧ (∀ c ∈ digits, c.isDigit = true) ∧ Nat.ofDigitChars 10 digits 0 = n := by
  unfold number?
  rw [← digitsValue_eq]
  by_cases hne : digits = []
  · simp [hne]
  · by_cases hall : ∀ c ∈ digits, c.isDigit = true
    · have hrun : (digits.isEmpty || !digits.all Char.isDigit) = false := by simp [hne, List.all_eq_true.2 hall]
      simp only [hrun, Bool.false_eq_true, if_false, Option.some.injEq]
      exact ⟨fun h => ⟨hne, hall, h⟩, fun h => h.2.2⟩
    · have hnot : digits.all Char.isDigit = false := Bool.eq_false_iff.2 fun h => hall (List.all_eq_true.1 h)
      simp [hnot, hall]

theorem pair_infix_cons {a b : Char} : [a, b] <:+: c :: s ↔ (c = a ∧ s.head? = some b) ∨ [a, b] <:+: s := by
  have hprefix : [a, b] <+: c :: s ↔ c = a ∧ s.head? = some b := by
    cases s <;> simp [List.cons_prefix_cons, eq_comm]
  rw [List.infix_cons_iff, hprefix]

theorem compare_eq_lt_iff : compare s t = .lt ↔ s < t := by
  induction s generalizing t with
  | nil => cases t <;> simp [List.compare_nil_cons]
  | cons c s ih =>
    cases t with
    | nil => simp [List.compare_cons_nil]
    | cons d t =>
      rw [List.compare_cons_cons, Ordering.then_eq_lt, compare_lt_iff_lt, compare_eq_iff_eq, ih, List.cons_lt_cons_iff]

theorem compare_toList (p q : String) : compare p q = compare p.toList q.toList := by
  rcases lt_trichotomy p q with h | rfl | h
  · rw [compare_lt_iff_lt.2 h, compare_eq_lt_iff.2 (String.lt_iff_toList_lt.1 h)]
  · rw [Std.ReflOrd.compare_self, Std.ReflOrd.compare_self]
  · have hlists := compare_eq_lt_iff.2 (String.lt_iff_toList_lt.1 h)
    rw [compare_gt_iff_gt.2 h, Std.OrientedOrd.eq_swap, hlists]
    rfl

theorem compare_append (k s t : List Char) : compare (k ++ s) (k ++ t) = compare s t := by
  induction k with
  | nil => rfl
  | cons c k ih => rw [List.cons_append, List.cons_append, List.compare_cons_cons, Std.ReflOrd.compare_self, ih,
      Ordering.eq_then]

theorem compare_append_cons (s : List Char) (c : Char) (rest : List Char) : compare s (s ++ c :: rest) = .lt := by
  have h := compare_append s [] (c :: rest)
  rwa [List.append_nil, List.compare_nil_cons] at h

theorem compare_of_ne {c d : Char} (h : c ≠ d) (k s t : List Char) :
    compare (k ++ c :: s) (k ++ d :: t) = compare c d := by
  have hne : compare c d ≠ .eq := fun he => h (Std.LawfulEqOrd.compare_eq_iff_eq.1 he)
  rw [compare_append, List.compare_cons_cons]
  cases hcd : compare c d
  case eq => exact absurd hcd hne
  all_goals rfl

theorem first_difference (s t : List Char) :
    (∃ k c d s' t', c ≠ d ∧ s = k ++ c :: s' ∧ t = k ++ d :: t') ∨ (∃ rest, t = s ++ rest) ∨
      ∃ c rest, s = t ++ c :: rest := by
  induction s generalizing t with
  | nil => exact .inr (.inl ⟨t, rfl⟩)
  | cons c s ih =>
    cases t with
    | nil => exact .inr (.inr ⟨c, s, rfl⟩)
    | cons d t =>
      by_cases hcd : c = d
      · subst hcd
        rcases ih t with ⟨k, a, b, s', t', hne, rfl, rfl⟩ | ⟨rest, rfl⟩ | ⟨a, rest, rfl⟩
        · exact .inl ⟨c :: k, a, b, s', t', hne, rfl, rfl⟩
        · exact .inr (.inl ⟨rest, rfl⟩)
        · exact .inr (.inr ⟨a, rest, rfl⟩)
      · exact .inl ⟨[], c, d, s, t, hcd, rfl, rfl⟩

end ChatRouter.Text
