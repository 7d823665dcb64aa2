import ChatRouter.Catalog.Version
import ChatRouter.Proofs.Text.Pieces
import Mathlib.Tactic.MkIffOfInductiveProp

set_option autoImplicit false

/-!
# Precedence

Semantic versions compare their pre-releases part by part, numbers as numbers and before words. The order of versions
here compares pre-releases as texts. For pre-releases that are well formed the two orders differ exactly where the
first parts to differ are swapped: a number with fewer digits, a number and a word, or a part that ends at a dot where
the other one goes on with a hyphen.
-/

namespace ChatRouter

namespace PreRelease

variable {i j : List Char}

def isNumeric (i : List Char) : Bool := i.all Char.isDigit

def value (i : List Char) : Nat := Nat.ofDigitChars 10 i 0

/-- A part of a pre-release: letters, digits and hyphens, and no zero in front of a number. -/
structure Identifier (i : List Char) : Prop where
  filled : i ≠ []
  signs : ∀ c ∈ i, c.isAlphanum = true ∨ c = '-'
  plain : isNumeric i = true → i.head? = some '0' → i = ['0']

instance (i : List Char) : Decidable (Identifier i) :=
  decidable_of_iff (i ≠ [] ∧ i.all (fun c => c.isAlphanum || c == '-') = true ∧
    (isNumeric i = true → i.head? = some '0' → i = ['0']))
    ⟨fun h => ⟨h.1, by simpa using h.2.1, h.2.2⟩, fun h => ⟨h.filled, by simpa using h.signs, h.plain⟩⟩

/-- Numbers go by their values and before words, words by their texts. -/
def identifierOrder (i j : List Char) : Ordering :=
  match isNumeric i, isNumeric j with
  | true, true => compare (value i) (value j)
  | true, false => .lt
  | false, true => .gt
  | false, false => compare i j

/-- The parts of a pre-release between its dots. -/
def identifiers (pre : String) : List (List Char) := Text.pieces '.' pre.toList

def order (p q : String) : Ordering := List.compareLex identifierOrder (identifiers p) (identifiers q)

def Valid (pre : String) : Prop := ∀ i ∈ identifiers pre, Identifier i

/-- Where `i` comes before `j`, but a text in which `i` is followed by the parts `after` comes after the texts
that begin with `j`. -/
@[mk_iff]
inductive Swapped (i : List Char) (after : List (List Char)) (j : List Char) : Prop where
  | numbers (hi : isNumeric i = true) (hj : isNumeric j = true) (shorter : i.length < j.length)
      (text : compare i j = .gt)
  | kinds (hi : isNumeric i = true) (hj : isNumeric j = false) (text : compare i j = .gt)
  /-- A hyphen comes before the dot that ends `i`. -/
  | hyphen (more : after ≠ []) (begins : i ++ ['-'] <+: j)

instance (i : List Char) (after : List (List Char)) (j : List Char) : Decidable (Swapped i after j) :=
  decidable_of_iff' _ (swapped_iff i after j)

/-- At the first difference the parts are swapped. -/
def Contrary : List (List Char) → List (List Char) → Prop
  | i :: p, j :: q => (i = j ∧ Contrary p q) ∨ (i ≠ j ∧ Swapped i p j)
  | _, _ => False

instance decideContrary : (p q : List (List Char)) → Decidable (Contrary p q)
  | i :: p, j :: q =>
    have := decideContrary p q
    inferInstanceAs (Decidable ((i = j ∧ Contrary p q) ∨ (i ≠ j ∧ Swapped i p j)))
  | [], _ => inferInstanceAs (Decidable False)
  | _ :: _, [] => inferInstanceAs (Decidable False)

instance : Std.OrientedCmp identifierOrder where
  eq_swap {i j} := by
    cases hi : isNumeric i <;> cases hj : isNumeric j <;> simp only [identifierOrder, hi, hj]
    case false.false => exact Std.OrientedOrd.eq_swap
    case true.true => exact Std.OrientedOrd.eq_swap
    all_goals rfl

theorem value_cons (c : Char) (i : List Char) : value (c :: i) = (c.toNat - 48) * 10 ^ i.length + value i := by
  rw [value, Nat.ofDigitChars_cons, Nat.ofDigitChars_eq_ofDigitChars_zero, Nat.mul_zero, Nat.zero_add, Nat.mul_comm]
  rfl

theorem isNumeric_cons {c : Char} : isNumeric (c :: i) = true ↔ c.isDigit = true ∧ isNumeric i = true := by
  simp [isNumeric]

theorem value_cons_lt_succ {c : Char} (h : value i < 10 ^ i.length) :
    value (c :: i) < (c.toNat - 48 + 1) * 10 ^ i.length := by
  rw [value_cons, Nat.succ_mul]
  exact Nat.add_lt_add_left h _

theorem value_lt (h : isNumeric i = true) : value i < 10 ^ i.length := by
  induction i with
  | nil => decide
  | cons c i ih =>
    obtain ⟨hc, hi⟩ := isNumeric_cons.1 h
    have hdigit : c.toNat - 48 + 1 ≤ 10 := by
      have := Text.digit_bounds hc
      omega
    calc value (c :: i) < (c.toNat - 48 + 1) * 10 ^ i.length := value_cons_lt_succ (ih hi)
      _ ≤ 10 * 10 ^ i.length := Nat.mul_le_mul_right _ hdigit
      _ = 10 ^ (c :: i).length := Nat.pow_succ'.symm

theorem value_cons_lt {c d : Char} (hi : isNumeric (c :: i) = true) (hlength : i.length = j.length) (h : c < d) :
    value (c :: i) < value (d :: j) := by
  obtain ⟨hc, hi⟩ := isNumeric_cons.1 hi
  have hdigit : c.toNat - 48 + 1 ≤ d.toNat - 48 := by
    have := Text.digit_bounds hc
    have : c.toNat < d.toNat := h
    omega
  calc value (c :: i) < (c.toNat - 48 + 1) * 10 ^ i.length := value_cons_lt_succ (value_lt hi)
    _ ≤ (d.toNat - 48) * 10 ^ i.length := Nat.mul_le_mul_right _ hdigit
    _ ≤ (d.toNat - 48) * 10 ^ i.length + value j := Nat.le_add_right _ _
    _ = value (d :: j) := by rw [value_cons, hlength]

theorem compare_value (hi : isNumeric i = true) (hj : isNumeric j = true) (hlength : i.length = j.length) :
    compare (value i) (value j) = compare i j := by
  induction i generalizing j with
  | nil =>
    rw [List.length_eq_zero_iff.1 hlength.symm]
    rfl
  | cons c i ih =>
    cases j with
    | nil => cases hlength
    | cons d j =>
      replace hlength : i.length = j.length := Nat.succ.inj hlength
      rw [List.compare_cons_cons]
      rcases lt_trichotomy c d with h | rfl | h
      · rw [compare_lt_iff_lt.2 (value_cons_lt hi hlength h), compare_lt_iff_lt.2 h, Ordering.lt_then]
      · rw [Std.ReflOrd.compare_self, Ordering.eq_then, ← ih (isNumeric_cons.1 hi).2 (isNumeric_cons.1 hj).2 hlength,
          value_cons, value_cons, hlength]
        simp [compare, compareOfLessAndEq]
      · rw [compare_gt_iff_gt.2 (value_cons_lt hj hlength.symm h), compare_gt_iff_gt.2 h, Ordering.gt_then]

theorem Identifier.le_value (h : Identifier i) (hi : isNumeric i = true) (hzero : i ≠ ['0']) :
    10 ^ (i.length - 1) ≤ value i := by
  obtain ⟨c, rest, rfl⟩ := List.exists_cons_of_ne_nil h.filled
  have hc : c ≠ '0' := by
    rintro rfl
    exact hzero (h.plain hi rfl)
  have hdigit : 1 ≤ c.toNat - 48 := by
    have := Text.digit_bounds (isNumeric_cons.1 hi).1
    have : c.toNat ≠ 48 := fun he => hc (Char.toNat_inj.1 he)
    omega
  rw [value_cons, List.length_cons, Nat.add_sub_cancel]
  exact (Nat.le_mul_of_pos_left _ hdigit).trans (Nat.le_add_right _ _)

theorem Identifier.value_lt (hi : isNumeric i = true) (hj : Identifier j) (hnumeric : isNumeric j = true)
    (hfilled : i ≠ []) (h : i.length < j.length) : value i < value j := by
  have hpos := List.length_pos_of_ne_nil hfilled
  have hzero : j ≠ ['0'] := by
    rintro rfl
    simp only [List.length_singleton] at h
    omega
  calc value i < 10 ^ i.length := PreRelease.value_lt hi
    _ ≤ 10 ^ (j.length - 1) := Nat.pow_le_pow_right (by decide) (by omega)
    _ ≤ value j := hj.le_value hnumeric hzero

theorem numeric_order (hi : Identifier i) (hj : Identifier j) (hin : isNumeric i = true) (hjn : isNumeric j = true) :
    identifierOrder i j = (compare i.length j.length).then (compare i j) := by
  simp only [identifierOrder, hin, hjn]
  rcases lt_trichotomy i.length j.length with h | h | h
  · rw [compare_lt_iff_lt.2 h, compare_lt_iff_lt.2 (hj.value_lt hin hjn hi.filled h), Ordering.lt_then]
  · rw [compare_value hin hjn h, h, Std.ReflOrd.compare_self, Ordering.eq_then]
  · rw [compare_gt_iff_gt.2 h, compare_gt_iff_gt.2 (hi.value_lt hjn hin hj.filled h), Ordering.gt_then]

theorem eq_of_order (hi : Identifier i) (hj : Identifier j) (h : identifierOrder i j = .eq) : i = j := by
  cases hin : isNumeric i <;> cases hjn : isNumeric j
  case true.true =>
    rw [numeric_order hi hj hin hjn, Ordering.then_eq_eq] at h
    exact Std.LawfulEqOrd.compare_eq_iff_eq.1 h.2
  all_goals simp only [identifierOrder, hin, hjn] at h
  case false.false => exact Std.LawfulEqOrd.compare_eq_iff_eq.1 h
  all_goals cases h

theorem isNumeric_append : isNumeric (i ++ j) = true ↔ isNumeric i = true ∧ isNumeric j = true := by
  simp [isNumeric]

def dotted : List (List Char) → List Char
  | [] => []
  | i :: p => '.' :: (i ++ dotted p)

theorem intercalate_cons (i : List Char) (p : List (List Char)) : ['.'].intercalate (i :: p) = i ++ dotted p := by
  induction p generalizing i with
  | nil => simp [dotted]
  | cons j p ih => rw [List.intercalate_cons_cons, ih j, dotted, List.append_assoc, List.singleton_append]

theorem Identifier.not_dot (h : Identifier i) {c : Char} (hc : c ∈ i) : c ≠ '.' := by
  rintro rfl
  exact absurd (h.signs _ hc) (by decide)

theorem le_of_isAlphanum {c : Char} (h : c.isAlphanum = true) : 48 ≤ c.toNat := by
  have hkinds : (c.isUpper || c.isLower || c.isDigit) = true := h
  rw [Bool.or_eq_true, Bool.or_eq_true] at hkinds
  rcases hkinds with (hupper | hlower) | hdigit
  · have hrange : 'A'.val ≤ c.val ∧ c.val ≤ 'Z'.val := of_decide_eq_true hupper
    exact le_trans (by decide) (UInt32.le_iff_toNat_le.1 hrange.1)
  · have hrange : (decide ('a'.val ≤ c.val) && decide (c.val ≤ 'z'.val)) = true := hlower
    rw [Bool.and_eq_true, decide_eq_true_eq] at hrange
    exact le_trans (by decide) (UInt32.le_iff_toNat_le.1 hrange.1)
  · exact (Text.digit_bounds hdigit).1

theorem Identifier.compare_dot (h : Identifier i) {c : Char} (hc : c ∈ i) : compare '.' c = .gt ↔ c = '-' := by
  rw [compare_gt_iff_gt]
  rcases h.signs c hc with halnum | rfl
  · have hrange := le_of_isAlphanum halnum
    refine iff_of_false (fun hless => ?_) ?_
    · have : c.toNat < 46 := hless
      omega
    · rintro rfl
      exact absurd hrange (by decide)
  · decide

theorem order_append (hi : Identifier i) {c : Char} {rest : List Char} (hj : Identifier (i ++ c :: rest)) :
    identifierOrder i (i ++ c :: rest) = .lt := by
  cases hjn : isNumeric (i ++ c :: rest) with
  | true =>
    have hlength : i.length < (i ++ c :: rest).length := by simp
    rw [numeric_order hi hj (isNumeric_append.1 hjn).1 hjn, compare_lt_iff_lt.2 hlength, Ordering.lt_then]
  | false => cases hin : isNumeric i <;> simp [identifierOrder, hin, hjn, Text.compare_append_cons]

theorem swapped_iff_of_not_begins (hi : Identifier i) (hj : Identifier j) {p : List (List Char)}
    (hnot : ¬i ++ ['-'] <+: j) : Swapped i p j ↔ identifierOrder i j = .lt ∧ compare i j = .gt := by
  constructor
  · rintro (⟨hin, hjn, shorter, text⟩ | ⟨hin, hjn, text⟩ | ⟨-, begins⟩)
    · exact ⟨by rw [numeric_order hi hj hin hjn, compare_lt_iff_lt.2 shorter, Ordering.lt_then], text⟩
    · exact ⟨by simp [identifierOrder, hin, hjn], text⟩
    · exact absurd begins hnot
  · rintro ⟨horder, text⟩
    cases hin : isNumeric i <;> cases hjn : isNumeric j
    case true.true =>
      rw [numeric_order hi hj hin hjn, Ordering.then_eq_lt, compare_lt_iff_lt, text] at horder
      exact .numbers hin hjn (by simpa using horder) text
    case true.false => exact .kinds hin hjn text
    all_goals simp [identifierOrder, hin, hjn, text] at horder

/-- Where `j` goes on after `i`, it comes before as a text only with a hyphen against the dot that ends `i`. -/
theorem swapped_append_iff {c : Char} {rest : List Char} (hj : Identifier (i ++ c :: rest))
    (p q : List (List Char)) :
    Swapped i p (i ++ c :: rest) ↔ compare (dotted p) (c :: rest ++ dotted q) = .gt := by
  have hmem : c ∈ i ++ c :: rest := by simp
  have htext := Text.compare_append_cons i c rest
  constructor
  · rintro (⟨-, -, -, text⟩ | ⟨-, -, text⟩ | ⟨more, begins⟩)
    · cases htext.symm.trans text
    · cases htext.symm.trans text
    · rw [List.prefix_append_right_inj, List.cons_prefix_cons] at begins
      obtain ⟨rfl, -⟩ := begins
      obtain ⟨first, p, rfl⟩ := List.exists_cons_of_ne_nil more
      rw [dotted, List.cons_append, List.compare_cons_cons, (hj.compare_dot hmem).2 rfl, Ordering.gt_then]
  · intro text
    cases p with
    | nil => cases text
    | cons first p =>
      rw [dotted, List.cons_append, List.compare_cons_cons, Ordering.then_eq_gt] at text
      rcases text with text | ⟨text, -⟩
      · rw [(hj.compare_dot hmem).1 text]
        exact .hyphen (by simp) (by simp)
      · exact absurd (Std.LawfulEqOrd.compare_eq_iff_eq.1 text).symm (hj.not_dot hmem)

theorem swapped_iff_order (hi : Identifier i) (hj : Identifier j) (hne : i ≠ j) (p q : List (List Char)) :
    Swapped i p j ↔ identifierOrder i j = .lt ∧ compare (i ++ dotted p) (j ++ dotted q) = .gt := by
  rcases Text.first_difference i j with ⟨k, c, d, s, t, hcd, rfl, rfl⟩ | ⟨rest, rfl⟩ | ⟨c, rest, rfl⟩
  · have hnot : ¬k ++ c :: s ++ ['-'] <+: k ++ d :: t := by
      rw [List.append_assoc, List.prefix_append_right_inj, List.cons_append, List.cons_prefix_cons]
      exact fun h => hcd h.1
    rw [swapped_iff_of_not_begins hi hj hnot, List.append_assoc, List.append_assoc, List.cons_append, List.cons_append,
      Text.compare_of_ne hcd, Text.compare_of_ne hcd]
  · cases rest with
    | nil => exact absurd (List.append_nil i).symm hne
    | cons c rest =>
      rw [swapped_append_iff hj p q, order_append hi hj, List.append_assoc, Text.compare_append]
      simp
  · have horder : identifierOrder (j ++ c :: rest) j = .gt := Std.OrientedCmp.gt_of_lt (order_append hj hi)
    have hnot : ¬j ++ c :: rest ++ ['-'] <+: j := fun h => by simpa using h.length_le
    rw [swapped_iff_of_not_begins hi hj hnot, horder]
    simp

theorem contrary_iff {p q : List (List Char)} (hp : ∀ i ∈ p, Identifier i) (hq : ∀ i ∈ q, Identifier i) :
    Contrary p q ↔ List.compareLex identifierOrder p q = .lt ∧ compare (dotted p) (dotted q) = .gt := by
  induction p generalizing q with
  | nil => cases q <;> simp [Contrary, dotted, List.compareLex_nil_nil, List.compare_nil_cons]
  | cons i p ih =>
    cases q with
    | nil => simp [Contrary, List.compareLex_cons_nil]
    | cons j q =>
      obtain ⟨hi, hp'⟩ := List.forall_mem_cons.1 hp
      obtain ⟨hj, hq'⟩ := List.forall_mem_cons.1 hq
      rw [List.compareLex_cons_cons, dotted, dotted, List.compare_cons_cons, Std.ReflOrd.compare_self, Ordering.eq_then]
      by_cases hij : i = j
      · subst hij
        rw [(Std.ReflCmp.compare_self : identifierOrder i i = .eq), Ordering.eq_then, Text.compare_append, ← ih hp' hq']
        simp [Contrary]
      · have horder : identifierOrder i j ≠ .eq := fun h => hij (eq_of_order hi hj h)
        rw [Ordering.then_eq_lt, or_iff_left (fun h => horder h.1), ← swapped_iff_order hi hj hij]
        simp [Contrary, hij]

instance : Std.OrientedCmp order where
  eq_swap {p q} := (Std.OrientedCmp.eq_swap : List.compareLex identifierOrder (identifiers p) (identifiers q) = _)

variable {p q : String}

theorem eq_of_parts {p q : List (List Char)} (hp : ∀ i ∈ p, Identifier i) (hq : ∀ i ∈ q, Identifier i)
    (h : List.compareLex identifierOrder p q = .eq) : p = q := by
  induction p generalizing q with
  | nil => cases q <;> simp_all [List.compareLex_nil_cons]
  | cons i p ih =>
    cases q with
    | nil => simp [List.compareLex_cons_nil] at h
    | cons j q =>
      rw [List.forall_mem_cons] at hp hq
      rw [List.compareLex_cons_cons, Ordering.then_eq_eq] at h
      rw [eq_of_order hp.1 hq.1 h.1, ih hp.2 hq.2 h.2]

theorem order_eq_eq_iff (hp : Valid p) (hq : Valid q) : order p q = .eq ↔ p = q := by
  constructor
  · intro h
    have hparts := congrArg (['.'].intercalate ·) (eq_of_parts hp hq h)
    simpa [identifiers, Text.intercalate_pieces, String.toList_inj] using hparts
  · rintro rfl
    exact Std.ReflCmp.compare_self

theorem contrary_identifiers_iff (hp : Valid p) (hq : Valid q) :
    Contrary (identifiers p) (identifiers q) ↔ order p q = .lt ∧ compare p q = .gt := by
  have htext : compare (dotted (identifiers p)) (dotted (identifiers q)) = compare p q := by
    obtain ⟨i, p', hip⟩ := List.exists_cons_of_ne_nil (Text.pieces_ne_nil '.' p.toList)
    obtain ⟨j, q', hjq⟩ := List.exists_cons_of_ne_nil (Text.pieces_ne_nil '.' q.toList)
    rw [Text.compare_toList, ← Text.intercalate_pieces '.' p.toList, ← Text.intercalate_pieces '.' q.toList,
      identifiers, identifiers, hip, hjq, intercalate_cons, intercalate_cons, dotted, dotted, List.compare_cons_cons,
      Std.ReflOrd.compare_self, Ordering.eq_then]
  rw [contrary_iff hp hq, htext, order]

end PreRelease

namespace Version

/-- A pre-release comes before its release, and pre-releases go by `cmp`. -/
def releaseOrder (cmp : String → String → Ordering) : Option String → Option String → Ordering
  | none, none => .eq
  | some _, none => .lt
  | none, some _ => .gt
  | some p, some q => cmp p q

def orderBy (cmp : String → String → Ordering) (v w : Version) : Ordering :=
  (compare v.major w.major).then <| (compare v.minor w.minor).then <| (compare v.patch w.patch).then <|
    releaseOrder cmp v.pre w.pre

instance (cmp : String → String → Ordering) [Std.OrientedCmp cmp] : Std.OrientedCmp (releaseOrder cmp) where
  eq_swap {a b} := by
    cases a <;> cases b
    case some.some p q => exact (Std.OrientedCmp.eq_swap : cmp p q = _)
    all_goals rfl

instance (cmp : String → String → Ordering) [Std.OrientedCmp cmp] : Std.OrientedCmp (orderBy cmp) where
  eq_swap {v w} := by
    simp only [orderBy, Ordering.swap_then, ← Std.OrientedOrd.eq_swap]
    rw [← (Std.OrientedCmp.eq_swap : releaseOrder cmp v.pre w.pre = _)]

theorem order_eq (v w : Version) : v.order w = orderBy compare v w := by
  simp only [order, orderBy, compareLex, compareOn]
  cases v.pre <;> cases w.pre <;> rfl

/-- The order of versions by the rules for semantic versions. -/
def precedence : Version → Version → Ordering := orderBy PreRelease.order

example : [some "alpha", some "alpha.1", some "alpha.beta", some "beta", some "beta.2", some "beta.11", some "rc.1",
    none].Pairwise fun p q => precedence ⟨1, 0, 0, p⟩ ⟨1, 0, 0, q⟩ = .lt := by
  decide +kernel

def Valid (v : Version) : Prop := ∀ p ∈ v.pre, PreRelease.Valid p

/-- Pre-releases of one release whose first parts to differ are swapped. -/
def Contrary (v w : Version) : Prop := v.major = w.major ∧ v.minor = w.minor ∧ v.patch = w.patch ∧
  ∃ p ∈ v.pre, ∃ q ∈ w.pre, PreRelease.Contrary (PreRelease.identifiers p) (PreRelease.identifiers q)

variable {v w : Version}

theorem then_lt_gt_iff : ∀ {o a b : Ordering}, o.then a = .lt ∧ o.then b = .gt ↔ o = .eq ∧ a = .lt ∧ b = .gt := by
  decide

theorem contrary_iff (hv : v.Valid) (hw : w.Valid) : v.Contrary w ↔ v.precedence w = .lt ∧ v.order w = .gt := by
  rw [order_eq, precedence, orderBy, orderBy, then_lt_gt_iff, then_lt_gt_iff, then_lt_gt_iff]
  simp only [compare_eq_iff_eq]
  refine and_congr_right fun _ => and_congr_right fun _ => and_congr_right fun _ => ?_
  cases hp : v.pre with
  | none => cases w.pre <;> simp [releaseOrder]
  | some p =>
    cases hq : w.pre with
    | none => simp [releaseOrder]
    | some q => simpa [releaseOrder] using PreRelease.contrary_identifiers_iff (hv p hp) (hw q hq)

theorem precedence_eq_eq_iff (hv : v.Valid) (hw : w.Valid) : v.precedence w = .eq ↔ v = w := by
  obtain ⟨major, minor, patch, pre⟩ := v
  obtain ⟨major', minor', patch', pre'⟩ := w
  simp only [precedence, orderBy, Ordering.then_eq_eq, compare_eq_iff_eq, mk.injEq]
  refine and_congr_right fun _ => and_congr_right fun _ => and_congr_right fun _ => ?_
  cases pre with
  | none => cases pre' <;> simp [releaseOrder]
  | some p =>
    cases pre' with
    | none => simp [releaseOrder]
    | some q => simpa [releaseOrder] using PreRelease.order_eq_eq_iff (hv p rfl) (hw q rfl)

theorem order_eq_precedence_iff (hv : v.Valid) (hw : w.Valid) :
    v.order w = v.precedence w ↔ ¬v.Contrary w ∧ ¬w.Contrary v := by
  have hcases : ∀ a b : Ordering, (a = .eq ↔ b = .eq) →
      (a = b ↔ ¬(b = .lt ∧ a = .gt) ∧ ¬(b.swap = .lt ∧ a.swap = .gt)) := by decide
  have heq : v.order w = .eq ↔ v.precedence w = .eq := by
    rw [precedence_eq_eq_iff hv hw]
    exact (Std.LawfulEqOrd.compare_eq_iff_eq : compare v w = .eq ↔ v = w)
  have horder : w.order v = (v.order w).swap := (Std.OrientedOrd.eq_swap : compare w v = _)
  have hprecedence : w.precedence v = (v.precedence w).swap :=
    (Std.OrientedCmp.eq_swap : orderBy PreRelease.order w v = _)
  rw [contrary_iff hv hw, contrary_iff hw hv, horder, hprecedence]
  exact hcases _ _ heq

end Version

end ChatRouter
