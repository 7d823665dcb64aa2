import ChatRouter.Proofs.Access.Keywords
import Mathlib.Data.List.DropRight
import Mathlib.Data.List.Infix

set_option autoImplicit false

namespace ChatRouter.Rules

/-- What follows each occurrence of the keyword, from left to right. -/
def afterKeywords (rule : List Char) : List (List Char) :=
  (rule.tails.filter fun s => (s.take keyword.length).map Char.toLower = keyword).map (·.drop keyword.length)

theorem afterKeywords_cons (c : Char) (rest : List Char) : afterKeywords (c :: rest) =
    (if ((c :: rest).take keyword.length).map Char.toLower = keyword then [(c :: rest).drop keyword.length] else []) ++
      afterKeywords rest := by
  have htails : (c :: rest).tails = (c :: rest) :: rest.tails := rfl
  rw [afterKeywords, htails, List.filter_cons]
  split <;> simp_all [afterKeywords]

theorem afterLastKeyword_eq_getLast? (rule : List Char) : afterLastKeyword rule = (afterKeywords rule).getLast? := by
  induction rule with
  | nil => rfl
  | cons c rest ih =>
    rw [afterLastKeyword_cons, ih, afterKeywords_cons, List.getLast?_append]
    split <;> rfl

theorem requirement_eq {rule : List Char} (once : (afterKeywords rule).length ≤ 1) :
    requirement rule = (afterKeywords rule).head?.getD rule := by
  rw [requirement, afterLastKeyword_eq_getLast?]
  cases hk : afterKeywords rule with
  | nil => rfl
  | cons after more =>
    have hmore : more = [] := by
      rw [hk, List.length_cons] at once
      exact List.eq_nil_of_length_eq_zero (by omega)
    rw [hmore]
    rfl

/-- `A-Z a-z 0-9 _ . -` -/
def bundleClass (c : Char) : Bool :=
  ('A' ≤ c ∧ c ≤ 'Z') ∨ ('a' ≤ c ∧ c ≤ 'z') ∨ ('0' ≤ c ∧ c ≤ '9') ∨ c ∈ ['_', '.', '-']

/-- The same with `*`. -/
def permissionClass (c : Char) : Bool := bundleClass c || c == '*'

theorem isBundleChar_iff {c : Char} : isBundleChar c = true ↔
    ('A' ≤ c ∧ c ≤ 'Z') ∨ ('a' ≤ c ∧ c ≤ 'z') ∨ ('0' ≤ c ∧ c ≤ '9') ∨ c ∈ ['_', '.', '-'] := by
  have hupper : c.isUpper = true ↔ 'A' ≤ c ∧ c ≤ 'Z' := decide_eq_true_iff
  have between (a b : Char) : (decide (a ≤ c) && decide (c ≤ b)) = true ↔ a ≤ c ∧ c ≤ b := by
    rw [Bool.and_eq_true, decide_eq_true_iff, decide_eq_true_iff]
  have hlower : c.isLower = true ↔ 'a' ≤ c ∧ c ≤ 'z' := between 'a' 'z'
  have hdigit : c.isDigit = true ↔ '0' ≤ c ∧ c ≤ '9' := between '0' '9'
  have halnum : c.isAlphanum = (c.isUpper || c.isLower || c.isDigit) := rfl
  simp [isBundleChar, halnum, hupper, hlower, hdigit, or_assoc]

theorem bundleClass_eq : bundleClass = isBundleChar := by
  funext c
  rw [Bool.eq_iff_iff, isBundleChar_iff, bundleClass, decide_eq_true_iff]

theorem permissionClass_eq : permissionClass = isPermissionChar := by
  funext c
  rw [permissionClass, bundleClass_eq, isPermissionChar]

theorem ne_colon_of_bundle {c : Char} (h : bundleClass c = true) : c ≠ ':' := by
  rintro rfl
  exact absurd h (by decide)

theorem ne_colon_of_permission {c : Char} (h : permissionClass c = true) : c ≠ ':' := by
  rintro rfl
  exact absurd h (by decide)

/-- A match where `s` begins, with its two groups and what follows it. -/
structure IsMatch (s b p rest : List Char) : Prop where
  text : s = b ++ ':' :: (p ++ rest)
  bundle : b ≠ [] ∧ ∀ c ∈ b, bundleClass c = true
  permission : p ≠ [] ∧ ∀ c ∈ p, permissionClass c = true

/-- The match that repetition prefers: the longest bundle, and for that the longest permission. -/
structure IsGreedy (s b p rest : List Char) : Prop extends IsMatch s b p rest where
  longest : ∀ b' p' rest', IsMatch s b' p' rest' →
    b'.length < b.length ∨ b'.length = b.length ∧ p'.length ≤ p.length

/-- The leftmost match, and those found in what follows it. -/
inductive Finds : List Char → List Grant → Prop
  | none {s : List Char} (nowhere : ∀ k b p rest, ¬ IsMatch (s.drop k) b p rest) : Finds s []
  | next {s b p rest : List Char} {found : List Grant} (k : Nat)
      (leftmost : ∀ j < k, ∀ b p rest, ¬ IsMatch (s.drop j) b p rest) (here : IsGreedy (s.drop k) b p rest)
      (more : Finds rest found) : Finds s (⟨String.ofList b, String.ofList p⟩ :: found)

theorem IsGreedy.unique {s b p r b' p' r' : List Char} (h : IsGreedy s b p r) (h' : IsGreedy s b' p' r') :
    b = b' ∧ p = p' ∧ r = r' := by
  have hle := h.longest _ _ _ h'.toIsMatch
  have hge := h'.longest _ _ _ h.toIsMatch
  have hb : b.length = b'.length := by omega
  have hp : p.length = p'.length := by omega
  have htext := h.text.symm.trans h'.text
  obtain ⟨rfl, htail⟩ := List.append_inj htext hb
  obtain ⟨rfl, rfl⟩ := List.append_inj (List.cons.inj htail).2 hp
  exact ⟨rfl, rfl, rfl⟩

theorem Finds.unique {s : List Char} {found found' : List Grant} (h : Finds s found) (h' : Finds s found') :
    found = found' := by
  induction h generalizing found' with
  | none nowhere =>
    cases h' with
    | none => rfl
    | next k _ here _ => exact absurd here.toIsMatch (nowhere k _ _ _)
  | next k leftmost here _ ih =>
    cases h' with
    | none nowhere => exact absurd here.toIsMatch (nowhere k _ _ _)
    | next k' leftmost' here' more' =>
      obtain rfl : k = k' := by
        rcases Nat.lt_trichotomy k k' with hk | hk | hk
        · exact absurd here.toIsMatch (leftmost' k hk _ _ _)
        · exact hk
        · exact absurd here'.toIsMatch (leftmost k' hk _ _ _)
      obtain ⟨rfl, rfl, rfl⟩ := here.unique here'
      rw [ih more']

theorem Finds.behind {pre s : List Char} {found : List Grant} (h : Finds s found)
    (hpre : ∀ j < pre.length, ∀ b p rest, ¬ IsMatch ((pre ++ s).drop j) b p rest) : Finds (pre ++ s) found := by
  have hdrop (k : Nat) : (pre ++ s).drop (pre.length + k) = s.drop k := List.drop_length_add_append ..
  have reach {k : Nat} (hs : ∀ j < k, ∀ b p rest, ¬ IsMatch (s.drop j) b p rest) :
      ∀ j < pre.length + k, ∀ b p rest, ¬ IsMatch ((pre ++ s).drop j) b p rest := by
    intro j hj
    by_cases hin : j < pre.length
    · exact hpre j hin
    · obtain ⟨i, rfl⟩ := Nat.exists_eq_add_of_le (Nat.le_of_not_lt hin)
      rw [hdrop]
      exact hs i (by omega)
  cases h with
  | none nowhere => exact .none fun k => reach (k := k + 1) (fun j _ => nowhere j) k (by omega)
  | next k leftmost here more => exact .next (pre.length + k) (reach leftmost) (by rwa [hdrop]) more

theorem takeWhile_run {run s : List Char} {c : Char} (hrun : ∀ d ∈ run, bundleClass d = true)
    (hc : bundleClass c = false) : (run ++ c :: s).takeWhile bundleClass = run := by
  rw [List.takeWhile_append_of_pos hrun, List.takeWhile_cons_of_neg (by simp [hc]), List.append_nil]

theorem IsMatch.colon {run s b p rest : List Char} {c : Char} (h : IsMatch (run ++ c :: s) b p rest)
    (hrun : ∀ d ∈ run, bundleClass d = true) (hc : bundleClass c = false) : b = run ∧ c = ':' ∧ s = p ++ rest := by
  have hb : b = run := by
    rw [← takeWhile_run (s := s) hrun hc, h.text, takeWhile_run h.bundle.2 (by decide)]
  have htext := h.text
  rw [hb] at htext
  obtain ⟨hcolon, hs⟩ := List.cons.inj (List.append_cancel_left htext)
  exact ⟨hb, hcolon, hs⟩

theorem not_isMatch_of_run {run b p rest : List Char} (hrun : ∀ d ∈ run, bundleClass d = true) :
    ¬ IsMatch run b p rest := by
  intro h
  have hcolon : ':' ∈ run := by simp [h.text]
  exact ne_colon_of_bundle (hrun _ hcolon) rfl

theorem isGreedy_of_run {run s : List Char} (hrun : run ≠ [] ∧ ∀ d ∈ run, bundleClass d = true)
    (hs : s.head?.any permissionClass = true) :
    IsGreedy (run ++ ':' :: s) run (s.takeWhile permissionClass) (s.dropWhile permissionClass) := by
  have hne : s.takeWhile permissionClass ≠ [] := by
    cases s with
    | nil => cases hs
    | cons c s =>
      have hc : permissionClass c = true := hs
      simp [hc]
  refine ⟨⟨?_, hrun, hne, fun c hc => List.mem_takeWhile_imp hc⟩, fun b' p' rest' h => ?_⟩
  · rw [List.takeWhile_append_dropWhile]
  · obtain ⟨rfl, -, rfl⟩ := h.colon hrun.2 (by decide)
    rw [List.takeWhile_append_of_pos h.permission.2, List.length_append]
    exact .inr ⟨rfl, by omega⟩

/-- No match begins in a run of bundle characters before `c`, or at `c`, where the scan does not see one. -/
theorem not_isMatch_before {run s : List Char} {c : Char} (hrun : ∀ d ∈ run, bundleClass d = true)
    (hc : bundleClass c = false) (hno : ¬ (c = ':' ∧ run ≠ [] ∧ s.head?.any permissionClass = true))
    {j : Nat} (hj : j < (run ++ [c]).length) (b p rest : List Char) : ¬ IsMatch ((run ++ c :: s).drop j) b p rest := by
  intro h
  have hle : j ≤ run.length := by simpa using Nat.le_of_lt_succ (by simpa using hj)
  rw [List.drop_append_of_le_length hle] at h
  obtain ⟨hb, hcolon, hs⟩ := h.colon (fun d hd => hrun d (List.mem_of_mem_drop hd)) hc
  refine hno ⟨hcolon, ?_, ?_⟩
  · rintro rfl
    exact h.bundle.1 (by simpa using hb)
  · obtain ⟨d, p, rfl⟩ := List.exists_cons_of_ne_nil h.permission.1
    rw [hs]
    exact h.permission.2 d (List.mem_cons_self ..)

theorem finds_scan {run s : List Char} (hrun : ∀ d ∈ run, bundleClass d = true) :
    Finds (run.reverse ++ s) (scan run s) := by
  fun_induction scan run s with
  | case1 run =>
    have hall : ∀ d ∈ run.reverse ++ [], bundleClass d = true := by simpa using hrun
    exact .none fun k b p rest => not_isMatch_of_run fun d hd => hall d (List.mem_of_mem_drop hd)
  | case2 run c rest hc ih =>
    rw [← bundleClass_eq] at hc
    have hmore := ih (List.forall_mem_cons.2 ⟨hc, hrun⟩)
    rwa [List.reverse_cons, List.append_assoc] at hmore
  | case3 run c rest hc hcolon ih =>
    simp only [Bool.and_eq_true, decide_eq_true_eq, Bool.not_eq_true'] at hcolon
    obtain ⟨⟨rfl, hne⟩, hhead⟩ := hcolon
    rw [← permissionClass_eq] at *
    have hrev : run.reverse ≠ [] ∧ ∀ d ∈ run.reverse, bundleClass d = true :=
      ⟨by simpa using hne, by simpa using hrun⟩
    exact .next 0 (by simp) (isGreedy_of_run hrev hhead) (ih (by simp))
  | case4 run c rest hc hcolon ih =>
    rw [← bundleClass_eq, Bool.not_eq_true] at hc
    simp only [← permissionClass_eq] at hcolon
    have hno : ¬ (c = ':' ∧ run.reverse ≠ [] ∧ rest.head?.any permissionClass = true) := by
      simpa using hcolon
    have hrev : ∀ d ∈ run.reverse, bundleClass d = true := by simpa using hrun
    -- Neither the run nor `c` is part of a match, so the next one begins after them.
    have hbehind : Finds (run.reverse ++ [c] ++ rest) (scan [] rest) := (ih (by simp)).behind fun j hj b p r => by
      rw [List.append_assoc]
      exact not_isMatch_before hrev hc hno hj b p r
    rwa [List.append_assoc] at hbehind

/-- The longest run of bundle characters that ends before position `i` and starts at `last` or later. -/
def bundleBefore (t : List Char) (last i : Nat) : List Char := ((t.take i).drop last).rtakeWhile bundleClass

/-- The longest run of permission characters that starts after position `i`. -/
def permissionAfter (t : List Char) (i : Nat) : List Char := (t.drop (i + 1)).takeWhile permissionClass

/-- The colon at `i` has a bundle character before it that is not part of what ended at `last`, and a permission
character after it. -/
def yields (t : List Char) (last i : Nat) : Bool :=
  last < i && t[i - 1]?.any bundleClass && t[i + 1]?.any permissionClass

/-- The permissions at the given colons, when the one before them ended at `last`. -/
def namedAt (t : List Char) : Nat → List Nat → List Grant
  | _, [] => []
  | last, i :: colons =>
    if yields t last i then
      ⟨String.ofList (bundleBefore t last i), String.ofList (permissionAfter t i)⟩ ::
        namedAt t (i + 1 + (permissionAfter t i).length) colons
    else namedAt t last colons

def named (t : List Char) : List Grant := namedAt t 0 (t.idxsOf ':')

theorem idxsOf_append {l : List Char} (h : ':' ∉ l) (s : List Char) (n : Nat) :
    (l ++ s).idxsOf ':' n = s.idxsOf ':' (n + l.length) := by
  have hnone : l.findIdxs (· == ':') n = [] := by
    rw [List.findIdxs_eq_nil_iff]
    rintro c hc
    exact beq_eq_false_iff_ne.2 (ne_of_mem_of_not_mem hc h)
  rw [List.idxsOf, List.findIdxs_append, hnone, List.nil_append]
  rfl

theorem idxsOf_colon (s : List Char) (n : Nat) : (':' :: s).idxsOf ':' n = n :: s.idxsOf ':' (n + 1) := by
  rw [List.idxsOf_cons]
  rfl

theorem run_ne_nil_iff {before : List Char} {last : Nat} (rest : List Char) :
    (before.drop last).rtakeWhile bundleClass ≠ [] ↔
      last < before.length ∧ (before ++ rest)[before.length - 1]?.any bundleClass = true := by
  rcases List.eq_nil_or_concat' (before.drop last) with hnil | ⟨run, d, hd⟩
  · have hle : before.length ≤ last := List.drop_eq_nil_iff.1 hnil
    rw [hnil, List.rtakeWhile_nil]
    exact iff_of_false (fun h => h rfl) fun h => absurd h.1 (by omega)
  · have hlast : last < before.length := by
      by_contra hle
      simp [List.drop_eq_nil_iff.2 (Nat.le_of_not_lt hle)] at hd
    have hat : (before ++ rest)[before.length - 1]? = some d := by
      have hend : (before.drop last).getLast? = before.getLast? := by
        rw [List.getLast?_drop, if_neg (by omega)]
      rw [List.getElem?_append_left (by omega), ← List.getLast?_eq_getElem?, ← hend, hd, List.getLast?_concat]
    rw [hd, List.rtakeWhile_concat, hat]
    by_cases hclass : bundleClass d = true <;> simp [hclass, hlast]

theorem yields_iff {before rest : List Char} {last : Nat} : yields (before ++ ':' :: rest) last before.length = true ↔
    (before.drop last).rtakeWhile bundleClass ≠ [] ∧ rest.head?.any permissionClass = true := by
  have hafter : (before ++ ':' :: rest)[before.length + 1]? = rest.head? := by
    rw [List.getElem?_append_right (by omega), Nat.add_sub_cancel_left, List.getElem?_cons_succ, List.head?_eq_getElem?]
  simp only [yields, hafter, Bool.and_eq_true, decide_eq_true_eq]
  rw [run_ne_nil_iff (':' :: rest)]

theorem namedAt_of_yields {before rest : List Char} {last : Nat}
    (h : yields (before ++ ':' :: rest) last before.length = true) :
    namedAt (before ++ ':' :: rest) last ((':' :: rest).idxsOf ':' before.length) =
      ⟨String.ofList ((before.drop last).rtakeWhile bundleClass), String.ofList (rest.takeWhile permissionClass)⟩ ::
        namedAt (before ++ ':' :: rest) (before ++ ':' :: rest.takeWhile permissionClass).length
          ((rest.dropWhile permissionClass).idxsOf ':' (before ++ ':' :: rest.takeWhile permissionClass).length) := by
  have hbundle : bundleBefore (before ++ ':' :: rest) last before.length =
      (before.drop last).rtakeWhile bundleClass := by rw [bundleBefore, List.take_left]
  have hpermission : permissionAfter (before ++ ':' :: rest) before.length = rest.takeWhile permissionClass := by
    simp [permissionAfter]
  have hend : (before ++ ':' :: rest.takeWhile permissionClass).length =
      before.length + 1 + (rest.takeWhile permissionClass).length := by
    rw [List.length_append, List.length_cons]
    omega
  have hnone : ':' ∉ rest.takeWhile permissionClass := fun hc =>
    ne_colon_of_permission (List.mem_takeWhile_imp hc) rfl
  have hcolons := idxsOf_append hnone (rest.dropWhile permissionClass) (before.length + 1)
  rw [List.takeWhile_append_dropWhile] at hcolons
  rw [idxsOf_colon, namedAt, if_pos h, hbundle, hpermission, hcolons, hend]

theorem namedAt_of_not_yields {before rest : List Char} {c : Char} {last : Nat}
    (h : c = ':' → yields (before ++ ':' :: rest) last before.length ≠ true) :
    namedAt (before ++ c :: rest) last ((c :: rest).idxsOf ':' before.length) =
      namedAt (before ++ [c] ++ rest) last (rest.idxsOf ':' (before ++ [c]).length) := by
  rw [List.append_assoc, List.length_append]
  by_cases hc : c = ':'
  · subst hc
    rw [idxsOf_colon, namedAt, if_neg (h rfl)]
    rfl
  · rw [← idxsOf_append (by simpa using Ne.symm hc)]
    rfl

theorem scan_eq_namedAt {run s : List Char} (before : List Char) {last : Nat} (hlast : last ≤ before.length)
    (hrun : run.reverse = (before.drop last).rtakeWhile bundleClass) :
    scan run s = namedAt (before ++ s) last (s.idxsOf ':' before.length) := by
  fun_induction scan run s generalizing before last with
  | case1 run => rfl
  | case2 run c rest hc ih =>
    rw [← bundleClass_eq] at hc
    have hlonger : (c :: run).reverse = ((before ++ [c]).drop last).rtakeWhile bundleClass := by
      rw [List.drop_append_of_le_length hlast, List.rtakeWhile_concat_pos _ _ _ hc, ← hrun, List.reverse_cons]
    have hmore := ih (before ++ [c]) (by rw [List.length_append]; omega) hlonger
    rw [hmore, namedAt_of_not_yields fun h => absurd h (ne_colon_of_bundle hc)]
  | case3 run c rest hc hcolon ih =>
    simp only [Bool.and_eq_true, decide_eq_true_eq, Bool.not_eq_true'] at hcolon
    obtain ⟨⟨rfl, hne⟩, hhead⟩ := hcolon
    rw [← permissionClass_eq] at *
    have hyields : yields (before ++ ':' :: rest) last before.length = true :=
      yields_iff.2 ⟨by simpa [← hrun] using hne, hhead⟩
    -- Nothing before the end of this match may belong to the next one.
    have hmore := ih (before ++ ':' :: rest.takeWhile permissionClass) le_rfl (by rw [List.drop_length]; rfl)
    rw [List.append_assoc, List.cons_append, List.takeWhile_append_dropWhile] at hmore
    rw [namedAt_of_yields hyields, ← hrun, hmore]
  | case4 run c rest hc hcolon ih =>
    rw [← bundleClass_eq] at hc
    have hempty : [].reverse = ((before ++ [c]).drop last).rtakeWhile bundleClass := by
      rw [List.drop_append_of_le_length hlast, List.rtakeWhile_concat_neg _ _ _ hc, List.reverse_nil]
    have hmore := ih (before ++ [c]) (by rw [List.length_append]; omega) hempty
    rw [hmore, namedAt_of_not_yields]
    rintro rfl
    rw [Ne, yields_iff, ← hrun, permissionClass_eq]
    simpa using hcolon

/-- In a rule with one keyword or none, the names are those that the colons after it tell, in their order; and they
are what the pattern finds there, which is one list only. -/
theorem scan_implements_pattern {rule : String} (once : (afterKeywords rule.toList).length ≤ 1) :
    requiredPermissions rule = named ((afterKeywords rule.toList).head?.getD rule.toList) ∧
      ∀ found, Finds ((afterKeywords rule.toList).head?.getD rule.toList) found ↔ found = requiredPermissions rule := by
  rw [requiredPermissions, requirement_eq once]
  refine ⟨scan_eq_namedAt [] le_rfl rfl, fun found => ⟨fun h => ?_, ?_⟩⟩
  · exact h.unique (finds_scan (List.forall_mem_nil _))
  · rintro rfl
    exact finds_scan (List.forall_mem_nil _)

/-- A permission may not be the bundle of the next one, nor does a star or a letter with an accent end a bundle. -/
theorem chained_colons_name_once :
    (afterKeywords "if x:y MUST Have a:b:c d*:e f.g:h*:i ::j lé:m n:".toList).length ≤ 1 ∧
      requiredPermissions "if x:y MUST Have a:b:c d*:e f.g:h*:i ::j lé:m n:" = [⟨"a", "b"⟩, ⟨"f.g", "h*"⟩] := by
  have once : (afterKeywords "if x:y MUST Have a:b:c d*:e f.g:h*:i ::j lé:m n:".toList).length ≤ 1 := by
    decide +kernel
  exact ⟨once, (scan_implements_pattern once).1.trans (by decide +kernel)⟩

end ChatRouter.Rules
