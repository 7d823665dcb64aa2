import ChatRouter.Configuration.Load
import ChatRouter.Proofs.SortedMap
import ChatRouter.Proofs.Text.Pieces
import Mathlib.Data.List.Chain

set_option autoImplicit false

namespace ChatRouter.Placeholders

variable {value : String → Option String} {text rest name before after out : List Char} {c : Char}
  {pieces others : List Piece}

def opening : List Char := ['$', '\x7b']

/-- What may stand between the braces of a placeholder. -/
def IsName (name : List Char) : Prop := name ≠ [] ∧ '\x7d' ∉ name

theorem source_append (name after : List Char) :
    (Piece.placeholder name).source ++ after = opening ++ (name ++ '\x7d' :: after) := by
  simp [Piece.source, opening]

theorem name?_eq_some_iff :
    name? rest = some (name, after) ↔ rest = name ++ '\x7d' :: after ∧ IsName name := by
  constructor
  · intro h
    have hne : name ≠ [] := by
      rintro rfl
      unfold name? at h
      split at h <;> simp_all
    have hsplit : Text.splitFirst '\x7d' rest = some (name, after) := by
      unfold name? at h
      split at h <;> simp_all
    obtain ⟨hrest, hname⟩ := Text.splitFirst_eq_some hsplit
    exact ⟨hrest, hne, hname⟩
  · rintro ⟨rfl, hne, hname⟩
    obtain ⟨d, name, rfl⟩ := List.exists_cons_of_ne_nil hne
    rw [name?, Text.splitFirst_append hname]

theorem name?_eq_none_iff : name? rest = none ↔ rest.head? = some '\x7d' ∨ '\x7d' ∉ rest := by
  by_cases hmem : '\x7d' ∈ rest
  · obtain ⟨before, after, rfl, hbefore⟩ := List.eq_append_cons_of_mem hmem
    cases before with
    | nil => simp [name?, Text.splitFirst]
    | cons d before =>
      have hsome : name? (d :: before ++ '\x7d' :: after) = some (d :: before, after) :=
        name?_eq_some_iff.2 ⟨rfl, List.cons_ne_nil d before, hbefore⟩
      have hd : d ≠ '\x7d' := fun hd => hbefore (by simp [hd])
      rw [hsome]
      simp [hd]
  · rw [name?, Text.splitFirst_eq_none hmem]
    simp [hmem]

theorem opening_infix_cons :
    opening <:+: c :: rest ↔ (c = '$' ∧ rest.head? = some '\x7b') ∨ opening <:+: rest := Text.pair_infix_cons

/-! ## Cutting -/

theorem cut_nil : cut [] = [] := by rw [cut]

theorem cut_named (hname : IsName name) (after : List Char) :
    cut ((Piece.placeholder name).source ++ after) = .placeholder name :: cut after := by
  have h : name? (name ++ '\x7d' :: after) = some (name, after) := name?_eq_some_iff.2 ⟨rfl, hname⟩
  rw [source_append]
  change cut ('$' :: '\x7b' :: (name ++ '\x7d' :: after)) = _
  rw [cut]
  split
  · rename_i h'
    cases h.symm.trans h'
    rfl
  · rename_i h'
    cases h.symm.trans h'

theorem cut_stray (h : name? rest = none) : cut (opening ++ rest) = prepend opening (cut rest) := by
  change cut ('$' :: '\x7b' :: rest) = _
  rw [cut]
  split
  · rename_i h'
    cases h.symm.trans h'
  · rfl

theorem cut_plain (h : c = '$' → rest.head? ≠ some '\x7b') : cut (c :: rest) = prepend [c] (cut rest) := by
  rw [cut]
  rintro tail rfl rfl
  exact h rfl rfl

/-- A text is empty, or it begins with a placeholder, with an opening that no name follows, or with a character that
opens nothing. -/
@[elab_as_elim]
theorem text_induction {P : List Char → Prop} (nil : P [])
    (named : ∀ name after, IsName name → P after → P ((Piece.placeholder name).source ++ after))
    (stray : ∀ rest, name? rest = none → P rest → P (opening ++ rest))
    (plain : ∀ c rest, (c = '$' → rest.head? ≠ some '\x7b') → P rest → P (c :: rest)) (text : List Char) :
    P text := by
  induction text using cut.induct with
  | case1 => exact nil
  | case2 rest name after h ih =>
    obtain ⟨rfl, hname⟩ := name?_eq_some_iff.1 h
    have hnamed := named name after hname ih
    rwa [source_append] at hnamed
  | case3 rest h ih => exact stray rest h ih
  | case4 c rest h ih =>
    refine plain c rest (fun hc hhead => ?_) ih
    obtain ⟨tail, rfl⟩ := List.head?_eq_some_iff.1 hhead
    exact h tail hc rfl

theorem flatMap_prepend {f : Piece → List Char} (hf : ∀ t, f (.literal t) = t) (text : List Char)
    (pieces : List Piece) : (prepend text pieces).flatMap f = text ++ pieces.flatMap f := by
  unfold prepend
  split <;> simp [hf]

/-! ## The one cutting -/

/-- The pieces spell the text. No literal is empty, beside another one or around a placeholder. -/
structure IsCutting (text : List Char) (pieces : List Piece) : Prop where
  spelled : pieces.flatMap Piece.source = text
  named : ∀ name, .placeholder name ∈ pieces → IsName name
  solid : ∀ t, .literal t ∈ pieces → t ≠ []
  plain : ∀ t, .literal t ∈ pieces → ∀ name, IsName name → ¬(Piece.placeholder name).source <:+: t
  apart : pieces.IsChain fun p q => p.name?.isSome ∨ q.name?.isSome

def NoLiteralFirst (pieces : List Piece) : Prop := ∀ p ∈ pieces.head?, p.name?.isSome

namespace IsCutting

theorem nil : IsCutting [] [] := ⟨rfl, by simp, by simp, by simp, .nil⟩

theorem tail {p : Piece} (h : IsCutting text (p :: pieces)) (hrest : pieces.flatMap Piece.source = rest) :
    IsCutting rest pieces where
  spelled := hrest
  named name hmem := h.named name (List.mem_cons_of_mem p hmem)
  solid t hmem := h.solid t (List.mem_cons_of_mem p hmem)
  plain t hmem := h.plain t (List.mem_cons_of_mem p hmem)
  apart := (List.isChain_cons.1 h.apart).2

theorem cons_placeholder (h : IsCutting after pieces) (hname : IsName name) :
    IsCutting ((Piece.placeholder name).source ++ after) (.placeholder name :: pieces) where
  spelled := by rw [List.flatMap_cons, h.spelled]
  named n hmem := by
    rcases List.mem_cons.1 hmem with hn | hmem
    · cases hn
      exact hname
    · exact h.named n hmem
  solid t hmem := h.solid t (by simpa using hmem)
  plain t hmem := h.plain t (by simpa using hmem)
  apart := List.isChain_cons.2 ⟨fun _ _ => .inl rfl, h.apart⟩

theorem noLiteralFirst {t : List Char} (h : IsCutting text (.literal t :: pieces)) : NoLiteralFirst pieces :=
  fun p hp => ((List.isChain_cons.1 h.apart).1 p hp).resolve_left (by simp [Piece.name?])

theorem cons_literal (h : IsCutting after pieces) (hne : text ≠ [])
    (hplain : ∀ name, IsName name → ¬(Piece.placeholder name).source <:+: text)
    (hfirst : NoLiteralFirst pieces) : IsCutting (text ++ after) (.literal text :: pieces) where
  spelled := by rw [List.flatMap_cons, h.spelled, Piece.source]
  named n hmem := h.named n (by simpa using hmem)
  solid t hmem := by
    rcases List.mem_cons.1 hmem with ht | hmem
    · cases ht
      exact hne
    · exact h.solid t hmem
  plain t hmem := by
    rcases List.mem_cons.1 hmem with ht | hmem
    · cases ht
      exact hplain
    · exact h.plain t hmem
  apart := List.isChain_cons.2 ⟨fun p hp => .inr (hfirst p hp), h.apart⟩

theorem cons_plain (h : IsCutting rest pieces)
    (hplain : ∀ name after, IsName name → c :: rest ≠ (Piece.placeholder name).source ++ after) :
    IsCutting (c :: rest) (prepend [c] pieces) := by
  have hjoin {t more : List Char} (hrest : t ++ more = rest)
      (ht : ∀ n, IsName n → ¬(Piece.placeholder n).source <:+: t) :
      ∀ n, IsName n → ¬(Piece.placeholder n).source <:+: c :: t := by
    intro n hn hinfix
    rcases List.infix_cons_iff.1 hinfix with ⟨suffix, hsuffix⟩ | hinfix
    · refine hplain n (suffix ++ more) hn ?_
      rw [← List.append_assoc, hsuffix, List.cons_append, hrest]
    · exact ht n hn hinfix
  unfold prepend
  split
  · rename_i t more
    have hrest : t ++ more.flatMap Piece.source = rest := h.spelled
    rw [← hrest]
    have hjoined := hjoin hrest (h.plain t List.mem_cons_self)
    exact (h.tail rfl).cons_literal (List.cons_ne_nil c t) hjoined h.noLiteralFirst
  · rename_i hne
    have hnil : ∀ n, IsName n → ¬(Piece.placeholder n).source <:+: [] := by simp [Piece.source]
    refine h.cons_literal (List.cons_ne_nil c []) (hjoin rfl hnil) fun p hp => ?_
    cases p with
    | literal t =>
      obtain ⟨more, rfl⟩ := List.head?_eq_some_iff.1 hp
      exact absurd rfl (hne t more)
    | placeholder n => rfl

end IsCutting

theorem prepend_opening (pieces : List Piece) : prepend opening pieces = prepend ['$'] (prepend ['\x7b'] pieces) := by
  unfold prepend
  cases pieces with
  | nil => rfl
  | cons p pieces => cases p <;> rfl

theorem isCutting_cut (text : List Char) : IsCutting text (cut text) := by
  induction text using text_induction with
  | nil =>
    rw [cut_nil]
    exact .nil
  | named name after hname ih =>
    rw [cut_named hname]
    exact ih.cons_placeholder hname
  | stray rest h ih =>
    rw [cut_stray h, prepend_opening]
    refine (ih.cons_plain fun n after _ he => ?_).cons_plain fun n after hn he => ?_
    · exact absurd (List.cons.inj he).1 (by decide)
    · rw [source_append] at he
      have hrest : opening ++ rest = opening ++ (n ++ '\x7d' :: after) := he
      have hsome : name? rest = some (n, after) := name?_eq_some_iff.2 ⟨List.append_cancel_left hrest, hn⟩
      cases h.symm.trans hsome
  | plain c rest h ih =>
    rw [cut_plain h]
    refine ih.cons_plain fun n after _ he => ?_
    cases he
    exact h rfl rfl

/-! ## No other cutting fits all values -/

/-- A letter for every name, so that no placeholder is left as it is. -/
def lettered : String → Option String := fun _ => some "x"

theorem noLiteralFirst_placeholder (name : List Char) (pieces : List Piece) :
    NoLiteralFirst (.placeholder name :: pieces) := by
  simp [NoLiteralFirst, Piece.name?]

theorem NoLiteralFirst.nothing_before (h : NoLiteralFirst pieces)
    (hsource : pieces.flatMap Piece.source = text ++ rest)
    (hfill : pieces.flatMap (Piece.fill lettered) = text ++ out) : text = [] := by
  cases pieces with
  | nil => exact (List.append_eq_nil_iff.1 hsource.symm).1
  | cons p pieces =>
    cases p with
    | literal t => cases h (.literal t) rfl
    | placeholder n =>
      cases text with
      | nil => rfl
      | cons c text =>
        have hdollar : '$' = c := (List.cons.inj hsource).1
        have hletter : 'x' = c := (List.cons.inj hfill).1
        exact absurd (hdollar.trans hletter.symm) (by decide)

/-- The literals that two cuttings begin with are the same: what is left over of the longer one would begin as a
placeholder and as a letter. -/
theorem IsCutting.literal_unique {s t : List Char} (h : IsCutting text (.literal s :: pieces))
    (h' : IsCutting text (.literal t :: others))
    (hfill : s ++ pieces.flatMap (Piece.fill lettered) = t ++ others.flatMap (Piece.fill lettered)) : s = t := by
  have hsource : s ++ pieces.flatMap Piece.source = t ++ others.flatMap Piece.source :=
    h.spelled.trans h'.spelled.symm
  rcases List.append_eq_append_iff.1 hsource with ⟨u, rfl, hpieces⟩ | ⟨u, rfl, hothers⟩
  · rw [List.append_assoc, List.append_cancel_left_eq] at hfill
    rw [h.noLiteralFirst.nothing_before hpieces hfill, List.append_nil]
  · rw [List.append_assoc, List.append_cancel_left_eq] at hfill
    rw [h'.noLiteralFirst.nothing_before hothers hfill.symm, List.append_nil]

theorem IsCutting.eq_nil (h : IsCutting [] pieces) : pieces = [] := by
  cases pieces with
  | nil => rfl
  | cons p pieces =>
    have hsource : p.source = [] := (List.append_eq_nil_iff.1 h.spelled).1
    cases p with
    | literal t => exact absurd hsource (h.solid t List.mem_cons_self)
    | placeholder n => cases hsource

theorem IsCutting.unique (h : IsCutting text pieces) (h' : IsCutting text others)
    (hfill : pieces.flatMap (Piece.fill lettered) = others.flatMap (Piece.fill lettered)) : pieces = others := by
  induction pieces generalizing text others with
  | nil =>
    rw [← h.spelled] at h'
    exact h'.eq_nil.symm
  | cons p pieces ih =>
    cases others with
    | nil =>
      rw [← h'.spelled] at h
      exact h.eq_nil
    | cons q others =>
      cases p with
      | literal s =>
        cases q with
        | literal t =>
          obtain rfl := h.literal_unique h' hfill
          have hsource := List.append_cancel_left (h.spelled.trans h'.spelled.symm)
          rw [ih (h.tail rfl) (h'.tail hsource.symm) (List.append_cancel_left hfill)]
        | placeholder m =>
          have hfirst := noLiteralFirst_placeholder m others
          have hnil := hfirst.nothing_before (h'.spelled.trans h.spelled.symm) hfill.symm
          exact absurd hnil (h.solid s List.mem_cons_self)
      | placeholder n =>
        cases q with
        | literal t =>
          have hfirst := noLiteralFirst_placeholder n pieces
          have hnil := hfirst.nothing_before (h.spelled.trans h'.spelled.symm) hfill
          exact absurd hnil (h'.solid t List.mem_cons_self)
        | placeholder m =>
          -- The first closing brace ends both names.
          have hsource : (Piece.placeholder n).source ++ pieces.flatMap Piece.source =
              (Piece.placeholder m).source ++ others.flatMap Piece.source := h.spelled.trans h'.spelled.symm
          rw [source_append, source_append] at hsource
          have hsame := name?_eq_some_iff.2 ⟨List.append_cancel_left hsource, h'.named m List.mem_cons_self⟩
          have hnames := (name?_eq_some_iff.2 ⟨rfl, h.named n List.mem_cons_self⟩).symm.trans hsame
          obtain ⟨hname, hrest⟩ := Prod.mk.inj (Option.some.inj hnames)
          subst hname
          rw [ih (h.tail rfl) (h'.tail hrest.symm) (List.append_cancel_left hfill)]

/-! ## Round by round -/

/-- The text with its placeholders filled in. -/
def filled (value : String → Option String) (text : List Char) : List Char := (cut text).flatMap (Piece.fill value)

theorem toList_substitute (value : String → Option String) (text : String) :
    (substitute value text).toList = filled value text.toList := String.toList_ofList

theorem filled_nil (value : String → Option String) : filled value [] = [] := by
  rw [filled, cut_nil]
  rfl

theorem filled_named (value : String → Option String) (hname : IsName name) (after : List Char) :
    filled value ((Piece.placeholder name).source ++ after) =
      (Piece.placeholder name).fill value ++ filled value after := by
  rw [filled, cut_named hname]
  rfl

theorem filled_stray (value : String → Option String) (h : name? rest = none) :
    filled value (opening ++ rest) = opening ++ filled value rest := by
  rw [filled, cut_stray h, flatMap_prepend (fun _ => rfl)]
  rfl

theorem filled_plain (value : String → Option String) (h : c = '$' → rest.head? ≠ some '\x7b') :
    filled value (c :: rest) = c :: filled value rest := by
  rw [filled, cut_plain h, flatMap_prepend (fun _ => rfl)]
  rfl

/-- What the rounds make of a text, and how many there are. Each looks for the first opening; the text before it is
kept. -/
inductive Rounds (value : String → Option String) : List Char → List Char → Nat → Prop
  | last {text : List Char} (hplain : ¬opening <:+: text) : Rounds value text text 0
  | named {before name after out : List Char} {n : Nat} (hplain : ¬opening <:+: before)
      (hname : IsName name) (hafter : Rounds value after out n) :
      Rounds value (before ++ ((Piece.placeholder name).source ++ after))
        (before ++ ((Piece.placeholder name).fill value ++ out)) (n + 1)
  | stray {before rest out : List Char} {n : Nat} (hplain : ¬opening <:+: before)
      (hnone : rest.head? = some '\x7d' ∨ '\x7d' ∉ rest) (hrest : Rounds value rest out n) :
      Rounds value (before ++ (opening ++ rest)) (before ++ (opening ++ out)) (n + 1)

theorem filled_of_plain (value : String → Option String) (h : ¬opening <:+: text) : filled value text = text := by
  induction text with
  | nil => exact filled_nil value
  | cons c text ih =>
    rw [opening_infix_cons, not_or, not_and] at h
    rw [filled_plain value h.1, ih h.2]

theorem filled_append_opening (value : String → Option String) (h : ¬opening <:+: before) (rest : List Char) :
    filled value (before ++ (opening ++ rest)) = before ++ filled value (opening ++ rest) := by
  induction before with
  | nil => rfl
  | cons c before ih =>
    rw [opening_infix_cons, not_or, not_and] at h
    have hc : c = '$' → (before ++ (opening ++ rest)).head? ≠ some '\x7b' := by
      cases before with
      | nil => simp [opening]
      | cons d before => exact h.1
    rw [List.cons_append, filled_plain value hc, ih h.2, List.cons_append]

theorem Rounds.filled_eq {n : Nat} (h : Rounds value text out n) : filled value text = out := by
  induction h with
  | last hplain => exact filled_of_plain value hplain
  | named hplain hname _ ih =>
    rw [source_append, filled_append_opening value hplain, ← source_append, filled_named value hname, ih]
  | stray hplain hnone _ ih =>
    rw [filled_append_opening value hplain, filled_stray value (name?_eq_none_iff.2 hnone), ih]

theorem Rounds.cons_plain {n : Nat} (h : Rounds value text out n) (hc : c = '$' → text.head? ≠ some '\x7b') :
    Rounds value (c :: text) (c :: out) n := by
  have hopening {before : List Char} (more : List Char) (hplain : ¬opening <:+: before)
      (hhead : c = '$' → (before ++ more).head? ≠ some '\x7b') : ¬opening <:+: c :: before := by
    rw [opening_infix_cons, not_or, not_and]
    refine ⟨fun hdollar hbrace => hhead hdollar ?_, hplain⟩
    rw [List.head?_append, hbrace]
    rfl
  cases h with
  | last hplain => exact .last (hopening [] hplain (by rwa [List.append_nil]))
  | named hplain hname hafter => exact .named (hopening _ hplain hc) hname hafter
  | stray hplain hnone hrest => exact .stray (hopening _ hplain hc) hnone hrest

theorem rounds_filled (value : String → Option String) (text : List Char) :
    ∃ n ≤ text.count '$', Rounds value text (filled value text) n := by
  have hnone : ¬opening <:+: [] := by simp [opening]
  induction text using text_induction with
  | nil =>
    rw [filled_nil]
    exact ⟨0, Nat.zero_le _, .last hnone⟩
  | named name after hname ih =>
    obtain ⟨n, hle, hrounds⟩ := ih
    refine ⟨n + 1, ?_, ?_⟩
    · rw [source_append]
      simp [opening]
      omega
    · rw [filled_named value hname]
      exact .named hnone hname hrounds
  | stray rest h ih =>
    obtain ⟨n, hle, hrounds⟩ := ih
    refine ⟨n + 1, ?_, ?_⟩
    · simp [opening]
      omega
    · rw [filled_stray value h]
      exact .stray hnone (name?_eq_none_iff.1 h) hrounds
  | plain c rest h ih =>
    obtain ⟨n, hle, hrounds⟩ := ih
    refine ⟨n, hle.trans List.count_le_count_cons, ?_⟩
    rw [filled_plain value h]
    exact hrounds.cons_plain h

/-! ## Filling in -/

theorem fill_eq_source {p : Piece} (h : ∀ name, p.name? = some name → value name = none) :
    p.fill value = p.source := by
  cases p with
  | literal t => rfl
  | placeholder n => rw [Piece.fill, h _ rfl]

theorem substitute_of_undefined {text : String} (h : ∀ name ∈ names text, value name = none) :
    substitute value text = text := by
  have hfill : ∀ p ∈ cut text.toList, p.fill value = p.source := fun p hp =>
    fill_eq_source fun name hname => h name (List.mem_filterMap.2 ⟨p, hp, hname⟩)
  rw [substitute, List.flatMap_congr hfill, (isCutting_cut text.toList).spelled, String.ofList_toList]

theorem substitute_congr {value' : String → Option String} {text : String}
    (h : ∀ name ∈ names text, value name = value' name) : substitute value text = substitute value' text := by
  have hfill : ∀ p ∈ cut text.toList, p.fill value = p.fill value' := by
    intro p hp
    cases p with
    | literal t => rfl
    | placeholder n => rw [Piece.fill, Piece.fill, h _ (List.mem_filterMap.2 ⟨_, hp, rfl⟩)]
  rw [substitute, substitute, List.flatMap_congr hfill]

end ChatRouter.Placeholders

namespace ChatRouter.Machine

theorem get?_survey_values (m : Machine) (names : List String) (name : String) :
    (m.survey (Survey.values names)).get? name = if name ∈ names then m.environment.get? name else none := by
  induction names with
  | nil => rfl
  | cons n names ih =>
    have hask : m.survey (Survey.ask (.value n)) = m.environment.get? n := rfl
    rw [Survey.values, survey_bind, survey_bind, survey_pure, hask]
    by_cases hname : name = n
    · subst hname
      cases hvalue : m.environment.get? name with
      | none => simp [ih, hvalue]
      | some value => simp [SortedMap.get?_insert_ite]
    · cases m.environment.get? n with
      | none => simp [ih, hname]
      | some value => simp [SortedMap.get?_insert_ite, ih, hname]

theorem survey_load (m : Machine) {path text : String} (h : m.read path = .ok text) :
    m.survey (Configuration.load path) =
      Configuration.ofText path (Placeholders.substitute m.environment.get? text) := by
  have hask : m.survey (Survey.ask (.read path)) = .ok text := h
  rw [Configuration.load, survey_bind, hask]
  simp only [survey_bind, survey_pure]
  congr 1
  refine Placeholders.substitute_congr fun name hname => ?_
  rw [get?_survey_values, if_pos hname]

end ChatRouter.Machine

namespace ChatRouter.Placeholders

/-- A text is cut in one way, whatever the values: the cutting is the one list of pieces that spells the text and
that, filled in, is the text filled in. Where no placeholder has a value the text stays as it is. The openings are
taken one after the other, at most as many as there are dollar signs. A configuration file is filled in from the
environment just once, before it is parsed. -/
theorem placeholders_are_filled_once (text : String) :
    (∀ pieces, pieces = cut text.toList ↔ IsCutting text.toList pieces ∧
      ∀ value, substitute value text = String.ofList (pieces.flatMap (Piece.fill value))) ∧
    (∀ value, (∀ name ∈ names text, value name = none) → substitute value text = text) ∧
    (∀ value out, substitute value text = out ↔
      ∃ n ≤ text.toList.count '$', Rounds value text.toList out.toList n) ∧
    ∀ (m : Machine) (path : String), m.read path = .ok text →
      m.survey (Configuration.load path) = Configuration.ofText path (substitute m.environment.get? text) := by
  refine ⟨fun pieces => ⟨?_, ?_⟩, fun value h => substitute_of_undefined h, fun value out => ⟨?_, ?_⟩,
    fun m path h => m.survey_load h⟩
  · rintro rfl
    exact ⟨isCutting_cut text.toList, fun value => rfl⟩
  · rintro ⟨hcutting, hfill⟩
    exact hcutting.unique (isCutting_cut text.toList) (String.ofList_injective (hfill lettered).symm)
  · rintro rfl
    rw [toList_substitute]
    exact rounds_filled value text.toList
  · rintro ⟨n, -, hrounds⟩
    rw [← String.toList_inj, toList_substitute, hrounds.filled_eq]

/-- What is put in is not read again, and what opens nothing stays. -/
example : substitute (fun name => if name = "A" then some "$\x7bB\x7d" else if name = "B" then some "b" else none)
    "$\x7bA\x7d $\x7bC\x7d $\x7b\x7d$\x7bB\x7d" = "$\x7bB\x7d $\x7bC\x7d $\x7b\x7db" := by decide +kernel

end ChatRouter.Placeholders
