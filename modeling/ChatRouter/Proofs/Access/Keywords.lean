import ChatRouter.Proofs.Access.Rules

set_option autoImplicit false

namespace ChatRouter.Rules

/-- What follows the first occurrence of the keyword, whose letters may have either case. -/
def afterFirstKeyword : List Char → Option (List Char)
  | [] => none
  | c :: rest =>
    if ((c :: rest).take keyword.length).map Char.toLower = keyword then
      some ((c :: rest).drop keyword.length)
    else afterFirstKeyword rest

/-- The permissions named after the first keyword, or anywhere in a rule without one. -/
def statedPermissions (rule : String) : List Grant :=
  scan [] ((afterFirstKeyword rule.toList).getD rule.toList)

def KeywordOnce (rule : String) : Prop :=
  ∀ rest, afterFirstKeyword rule.toList = some rest → afterFirstKeyword rest = none

/-- Whoever passes the rules has every permission that the conditional ones among them state. -/
def Enforced (rules : List String) : Prop :=
  ∀ granted : GrantSet, evaluate rules granted = .allow → ∀ rule ∈ rules, isUnconditional rule = false →
    ∀ g ∈ statedPermissions rule, granted.has g = true

def demanded (rules : List String) : List Grant :=
  (rules.filter fun rule => !isUnconditional rule).flatMap requiredPermissions

theorem afterLastKeyword_cons (c : Char) (rest : List Char) : afterLastKeyword (c :: rest) =
    (afterLastKeyword rest).or (if ((c :: rest).take keyword.length).map Char.toLower = keyword then
      some ((c :: rest).drop keyword.length) else none) := by
  rw [afterLastKeyword]
  cases afterLastKeyword rest <;> rfl

theorem afterLastKeyword_append {s : List Char} (h : ∀ c ∈ s, c.toLower ≠ 'm') (rest : List Char) :
    afterLastKeyword (s ++ rest) = afterLastKeyword rest := by
  induction s with
  | nil => rfl
  | cons c s ih =>
    obtain ⟨hc, hs⟩ := List.forall_mem_cons.1 h
    have hn : ¬ ((c :: (s ++ rest)).take keyword.length).map Char.toLower = keyword :=
      fun hk => hc (List.cons.inj hk).1
    rw [List.cons_append, afterLastKeyword_cons, if_neg hn, Option.or_none, ih hs]

theorem afterLastKeyword_keyword {c : Char} {rest : List Char}
    (h : ((c :: rest).take keyword.length).map Char.toLower = keyword) :
    afterLastKeyword (c :: rest) = (afterLastKeyword ((c :: rest).drop keyword.length)).or
      (some ((c :: rest).drop keyword.length)) := by
  have others : ∀ d ∈ rest.take 8, d.toLower ≠ 'm' := by
    intro d hd
    have htail : (rest.take 8).map Char.toLower = keyword.tail := congrArg List.tail h
    have hmem : d.toLower ∈ keyword.tail := htail ▸ List.mem_map_of_mem hd
    exact fun he => absurd (he ▸ hmem) (by decide)
  rw [afterLastKeyword_cons, if_pos h, ← List.take_append_drop 8 rest, afterLastKeyword_append others,
    List.take_append_drop]
  rfl

theorem afterLastKeyword_eq (s : List Char) : afterLastKeyword s =
    (afterFirstKeyword s).bind fun rest => (afterLastKeyword rest).or (some rest) := by
  fun_induction afterFirstKeyword s with
  | case1 => rfl
  | case2 c rest h => exact afterLastKeyword_keyword h
  | case3 c rest h ih => rw [afterLastKeyword_cons, if_neg h, Option.or_none, ih]

theorem afterLastKeyword_eq_none_iff (s : List Char) :
    afterLastKeyword s = none ↔ afterFirstKeyword s = none := by
  rw [afterLastKeyword_eq]
  cases afterFirstKeyword s <;> simp

theorem stated_eq_required {rule : String} (h : KeywordOnce rule) :
    statedPermissions rule = requiredPermissions rule := by
  rw [statedPermissions, requiredPermissions, requirement, afterLastKeyword_eq]
  cases hf : afterFirstKeyword rule.toList with
  | none => rfl
  | some rest =>
    have hlast := (afterLastKeyword_eq_none_iff rest).2 (h rest hf)
    simp [hlast]

theorem mem_demanded {rules : List String} {g : Grant} : g ∈ demanded rules ↔
    ∃ rule ∈ rules, isUnconditional rule = false ∧ g ∈ requiredPermissions rule := by
  simp [demanded, and_assoc]

theorem colon_not_mem_of_demanded {rules : List String} {g : Grant} (hg : g ∈ demanded rules) :
    ':' ∉ g.bundle.toList := by
  obtain ⟨rule, -, -, hg⟩ := mem_demanded.1 hg
  exact colon_not_mem_of_required hg

theorem has_addAll_demanded {rules : List String} {g : Grant} (hg : ':' ∉ g.bundle.toList) :
    (GrantSet.addAll ∅ (demanded rules)).has g = true ↔ g ∈ demanded rules := by
  have colon : ∀ d ∈ demanded rules, ':' ∉ d.bundle.toList := fun d => colon_not_mem_of_demanded
  rw [(GrantSet.keyed_empty.addAll colon).has_iff hg, GrantSet.keyed_empty.mem_addAll colon]
  simp

theorem has_demanded {rules : List String} {granted : GrantSet} (h : evaluate rules granted = .allow)
    {g : Grant} (hg : g ∈ demanded rules) : granted.has g = true := by
  obtain ⟨rule, hr, hu, hg⟩ := mem_demanded.1 hg
  rcases (evaluate_allow.1 h).2 rule hr with hp | ⟨-, hall⟩
  · rw [hu] at hp
    cases hp
  · exact hall g hg

theorem evaluate_demanded {rules : List String} (hne : rules ≠ [])
    (h : ∀ rule ∈ rules, isUnconditional rule = false → requiredPermissions rule ≠ []) :
    evaluate rules (GrantSet.addAll ∅ (demanded rules)) = .allow := by
  refine evaluate_allow.2 ⟨hne, fun rule hr => ?_⟩
  cases hu : isUnconditional rule with
  | true => exact .inl hu
  | false =>
    refine .inr ⟨h rule hr hu, fun g hg => ?_⟩
    exact (has_addAll_demanded (colon_not_mem_of_required hg)).2 (mem_demanded.2 ⟨rule, hr, hu, hg⟩)

/-- Of all sets that pass, the one with nothing but what is demanded tells whether what is stated is looked
for. -/
theorem Enforced.demands {rules : List String} (h : Enforced rules)
    (hnames : ∀ rule ∈ rules, isUnconditional rule = false → requiredPermissions rule ≠ []) {rule : String}
    (hr : rule ∈ rules) (hu : isUnconditional rule = false) {g : Grant} (hg : g ∈ statedPermissions rule) :
    g ∈ demanded rules := by
  have hpass := evaluate_demanded (List.ne_nil_of_mem hr) hnames
  exact (has_addAll_demanded (colon_not_mem_of_scan hg)).1 (h _ hpass rule hr hu g hg)

theorem enforced_of_mem_demanded {rules : List String} (h : ∀ rule ∈ rules, isUnconditional rule = false →
    ∀ g ∈ statedPermissions rule, g ∈ demanded rules) : Enforced rules :=
  fun _ hallow rule hr hu g hg => has_demanded hallow (h rule hr hu g hg)

theorem enforced_of_required_eq_nil {rules : List String} {rule : String} (hr : rule ∈ rules)
    (hu : isUnconditional rule = false) (he : requiredPermissions rule = []) : Enforced rules := by
  intro granted hallow
  rcases (evaluate_allow.1 hallow).2 rule hr with hp | ⟨hne, -⟩
  · rw [hu] at hp
    cases hp
  · exact absurd he hne

/-- Rules are enforced as they are written exactly when nobody can pass them, because one names nothing where
the gate looks, or the gate looks for all that they state. Rules with one keyword each are. -/
theorem enforced_iff (rules : List String) :
    (Enforced rules ↔
      (∃ rule ∈ rules, isUnconditional rule = false ∧ requiredPermissions rule = []) ∨
        ∀ rule ∈ rules, isUnconditional rule = false → ∀ g ∈ statedPermissions rule, g ∈ demanded rules) ∧
      ((∀ rule ∈ rules, KeywordOnce rule) → Enforced rules) := by
  refine ⟨⟨fun h => ?_, ?_⟩, fun h => ?_⟩
  · by_cases hidle : ∃ rule ∈ rules, isUnconditional rule = false ∧ requiredPermissions rule = []
    · exact .inl hidle
    · exact .inr fun rule hr hu g hg =>
        h.demands (fun rule hr hu he => hidle ⟨rule, hr, hu, he⟩) hr hu hg
  · rintro (⟨rule, hr, hu, he⟩ | h)
    · exact enforced_of_required_eq_nil hr hu he
    · exact enforced_of_mem_demanded h
  · refine enforced_of_mem_demanded fun rule hr hu g hg => mem_demanded.2 ⟨rule, hr, hu, ?_⟩
    rwa [← stated_eq_required (h rule hr)]

/-- With a second keyword in a rule, what stands before it is not looked for. -/
theorem second_keyword_hides_requirement : ¬ ∀ rules, Enforced rules := by
  intro h
  have hhas := h ["must have deploy:prod must have site:admin"] (GrantSet.add ∅ ⟨"site", "admin"⟩)
    (by decide +kernel) _ (List.mem_singleton_self _) (by decide +kernel) ⟨"deploy", "prod"⟩ (by decide +kernel)
  exact absurd hhas (by decide +kernel)

end ChatRouter.Rules
