import ChatRouter.Proofs.Configuration.Cutting

set_option autoImplicit false

namespace ChatRouter.Placeholders

variable {value : String → Option String} {text rest name before after x y : List Char} {c : Char}

/-- Some opening is not followed by a closing brace. -/
def LeavesOpen (text : List Char) : Prop := ∃ before after, text = before ++ (opening ++ after) ∧ '\x7d' ∉ after

theorem leavesOpen_append_right (h : LeavesOpen rest) (text : List Char) : LeavesOpen (text ++ rest) := by
  obtain ⟨before, after, rfl, hafter⟩ := h
  exact ⟨text ++ before, after, (List.append_assoc ..).symm, hafter⟩

theorem not_leavesOpen_nil : ¬LeavesOpen [] := by
  rintro ⟨before, after, h, -⟩
  simp [opening] at h

theorem leavesOpen_brace_iff : LeavesOpen (before ++ '\x7d' :: after) ↔ LeavesOpen after := by
  constructor
  · rintro ⟨first, last, h, hlast⟩
    have hopen : '\x7d' ∉ opening ++ last := by simp [opening, hlast]
    rcases List.append_eq_append_iff.1 h with ⟨middle, rfl, hmiddle⟩ | ⟨middle, rfl, hmiddle⟩
    · cases middle with
      | nil =>
        have hbrace : '\x7d' ∈ opening ++ last := hmiddle ▸ List.mem_cons_self
        exact absurd hbrace hopen
      | cons d middle =>
        obtain ⟨-, rfl⟩ := List.cons.inj hmiddle
        exact ⟨middle, last, rfl, hlast⟩
    · exact absurd (hmiddle ▸ List.mem_append_right middle List.mem_cons_self) hopen
  · intro h
    rw [List.append_cons]
    exact leavesOpen_append_right h _

theorem leavesOpen_plain_iff (h : c = '$' → rest.head? ≠ some '\x7b') : LeavesOpen (c :: rest) ↔ LeavesOpen rest := by
  constructor
  · rintro ⟨before, after, htext, hafter⟩
    cases before with
    | nil =>
      obtain ⟨rfl, rfl⟩ := List.cons.inj htext
      exact absurd rfl (h rfl)
    | cons d before =>
      obtain ⟨-, rfl⟩ := List.cons.inj htext
      exact ⟨before, after, rfl, hafter⟩
  · exact fun h => leavesOpen_append_right h [c]

theorem filled_append (value : String → Option String) (hx : ¬LeavesOpen x) (hy : y.head? ≠ some '\x7b') :
    filled value (x ++ y) = filled value x ++ filled value y := by
  induction x using text_induction with
  | nil => rw [filled_nil, List.nil_append, List.nil_append]
  | named name after hname ih =>
    have hafter : ¬LeavesOpen after := fun h => hx (leavesOpen_append_right h _)
    rw [List.append_assoc, filled_named value hname, filled_named value hname, ih hafter, List.append_assoc]
  | stray rest h ih =>
    have hrest : ¬LeavesOpen rest := fun h => hx (leavesOpen_append_right h opening)
    have hnone : name? (rest ++ y) = none := by
      rcases name?_eq_none_iff.1 h with hhead | hbrace
      · exact name?_eq_none_iff.2 (.inl (by rw [List.head?_append, hhead]; rfl))
      · exact absurd ⟨[], rest, rfl, hbrace⟩ hx
    rw [List.append_assoc, filled_stray value hnone, filled_stray value h, ih hrest, List.append_assoc]
  | plain c rest h ih =>
    have hrest : ¬LeavesOpen rest := fun h => hx (leavesOpen_append_right h [c])
    have hc : c = '$' → (rest ++ y).head? ≠ some '\x7b' := by
      cases rest with
      | nil => exact fun _ => hy
      | cons d rest => exact h
    rw [List.cons_append, filled_plain value hc, filled_plain value h, ih hrest, List.cons_append]

theorem filled_unbraced (value : String → Option String) (h : '\x7d' ∉ text) : filled value text = text := by
  induction text using text_induction with
  | nil => exact filled_nil value
  | named name after hname ih => simp [source_append] at h
  | stray rest hnone ih =>
    rw [filled_stray value hnone, ih fun hmem => h (List.mem_append_right opening hmem)]
  | plain c rest hplain ih =>
    rw [filled_plain value hplain, ih fun hmem => h (List.mem_cons_of_mem c hmem)]

/-- An opening that is left open makes a name of all that stands before the next brace, dollar signs included. -/
theorem filled_append_named (hvalue : ∀ n : String, '$' ∈ n.toList → value n = none) (hx : LeavesOpen x)
    (hname : IsName name) (y : List Char) :
    filled value (x ++ ((Piece.placeholder name).source ++ y)) =
      filled value x ++ ((Piece.placeholder name).source ++ filled value y) := by
  induction x using text_induction with
  | nil => exact absurd hx not_leavesOpen_nil
  | named first after hfirst ih =>
    have hafter : LeavesOpen after := by
      rw [source_append, ← List.append_assoc] at hx
      exact leavesOpen_brace_iff.1 hx
    rw [List.append_assoc, filled_named value hfirst, filled_named value hfirst, ih hafter, List.append_assoc]
  | stray rest h ih =>
    rcases name?_eq_none_iff.1 h with hhead | hbrace
    · obtain ⟨tail, rfl⟩ := List.head?_eq_some_iff.1 hhead
      have hrest : LeavesOpen ('\x7d' :: tail) := leavesOpen_append_right (leavesOpen_brace_iff.1 hx) ['\x7d']
      have hnone : name? ('\x7d' :: tail ++ ((Piece.placeholder name).source ++ y)) = none :=
        name?_eq_none_iff.2 (.inl rfl)
      rw [List.append_assoc, filled_stray value hnone, filled_stray value h, ih hrest, List.append_assoc]
    · -- Up to the brace of the placeholder all is one name.
      have htext : opening ++ rest ++ ((Piece.placeholder name).source ++ y) =
          (Piece.placeholder (rest ++ (opening ++ name))).source ++ y := by
        simp [source_append]
      have hswallowed : IsName (rest ++ (opening ++ name)) :=
        ⟨by simp [hname.1], by simp [hbrace, hname.2, opening]⟩
      have hundefined : value (String.ofList (rest ++ (opening ++ name))) = none := hvalue _ (by simp [opening])
      rw [htext, filled_named value hswallowed, filled_stray value h, filled_unbraced value hbrace,
        fill_eq_source fun n hn => Option.some.inj hn ▸ hundefined]
      simp [Piece.source, opening]
  | plain c rest h ih =>
    have hrest : LeavesOpen rest := (leavesOpen_plain_iff h).1 hx
    have hc : c = '$' → (rest ++ ((Piece.placeholder name).source ++ y)).head? ≠ some '\x7b' := by
      cases rest with
      | nil => exact absurd hrest not_leavesOpen_nil
      | cons d rest => exact h
    rw [List.cons_append, filled_plain value hc, filled_plain value h, ih hrest, List.cons_append]

/-- One or more ASCII letters, digits and underscores. -/
def IsVariable (name : String) : Prop := name ≠ "" ∧ ∀ c ∈ name.toList, c.isAlphanum = true ∨ c = '_'

theorem IsVariable.not_mem {name : String} (h : IsVariable name) (hc : c.isAlphanum = false) (hne : c ≠ '_') :
    c ∉ name.toList := fun hmem => (h.2 c hmem).elim (fun halnum => by simp [halnum] at hc) hne

theorem IsVariable.isName {name : String} (h : IsVariable name) : IsName name.toList :=
  ⟨by simpa using h.1, h.not_mem rfl (by decide)⟩

def written (name : String) : String := "$\x7b" ++ name ++ "\x7d"

theorem toList_written (name : String) : (written name).toList = (Piece.placeholder name.toList).source := by
  simp [written, Piece.source]

theorem substitute_written {v name : String} (hname : IsVariable name) (h : value name = some v) {x : String}
    (hx : ¬LeavesOpen x.toList) (y : String) :
    substitute value (x ++ written name ++ y) = substitute value x ++ v ++ substitute value y := by
  have hfill : (Piece.placeholder name.toList).fill value = v.toList := by
    rw [Piece.fill, String.ofList_toList, h]
  rw [← String.toList_inj]
  simp only [toList_substitute, String.toList_append, List.append_assoc, toList_written]
  rw [filled_append value hx (by simp [Piece.source]), filled_named value hname.isName, hfill]

theorem substitute_written_open {name : String} (hvalue : ∀ n v, value n = some v → IsVariable n)
    (hname : IsVariable name) {x : String} (hx : LeavesOpen x.toList) (y : String) :
    substitute value (x ++ written name ++ y) = substitute value x ++ written name ++ substitute value y := by
  have hdollar : ∀ n : String, '$' ∈ n.toList → value n = none := fun n hmem =>
    Option.eq_none_iff_forall_ne_some.2 fun v hn => (hvalue n v hn).not_mem rfl (by decide) hmem
  rw [← String.toList_inj]
  simp only [toList_substitute, String.toList_append, List.append_assoc, toList_written]
  exact filled_append_named hdollar hx hname.isName y.toList

/-- The placeholder of a variable that is set is filled in, and the texts around it for themselves, unless the text
before it leaves an opening open. Then the placeholder stays, as part of a name that no variable has. -/
theorem placeholder_is_filled_iff (hvalue : ∀ name v, value name = some v → IsVariable name) {name v : String}
    (h : value name = some v) (x y : String) :
    (substitute value (x ++ written name ++ y) = substitute value x ++ v ++ substitute value y ↔
      ¬LeavesOpen x.toList ∨ v = written name) ∧
    (LeavesOpen x.toList →
      substitute value (x ++ written name ++ y) = substitute value x ++ written name ++ substitute value y) := by
  have hopen (hx : LeavesOpen x.toList) := substitute_written_open hvalue (hvalue name v h) hx y
  refine ⟨⟨fun heq => ?_, fun hor => ?_⟩, hopen⟩
  · by_cases hx : LeavesOpen x.toList
    · have hboth := heq.symm.trans (hopen hx)
      right
      simpa using hboth
    · exact .inl hx
  · by_cases hx : LeavesOpen x.toList
    · rw [hopen hx, hor.resolve_left (not_not_intro hx)]
    · exact substitute_written (hvalue name v h) h hx y

def bundleDirectory (name : String) : Option String := if name = "BUNDLE_DIR" then some "/srv/bundles" else none

theorem isVariable_of_bundleDirectory (name v : String) (h : bundleDirectory name = some v) : IsVariable name := by
  unfold bundleDirectory at h
  split at h
  · rename_i hname
    subst hname
    exact ⟨by decide, by simp⟩
  · cases h

theorem braces_before_placeholder : (∀ name v, bundleDirectory name = some v → IsVariable name) ∧
    bundleDirectory "BUNDLE_DIR" = some "/srv/bundles" ∧
    substitute bundleDirectory ("$\x7b\x7d$\x7bHOME$\x7b\x7d$" ++ written "BUNDLE_DIR" ++ "$\x7b") =
      "$\x7b\x7d$\x7bHOME$\x7b\x7d$/srv/bundles$\x7b" := by
  have hset : bundleDirectory "BUNDLE_DIR" = some "/srv/bundles" := rfl
  have hclosed : ¬LeavesOpen "$\x7b\x7d$\x7bHOME$\x7b\x7d$".toList := by
    have hlast : "$\x7b\x7d$\x7bHOME$\x7b\x7d$".toList =
        "$\x7b\x7d$\x7bHOME$\x7b".toList ++ '\x7d' :: ['$'] := by decide
    rw [hlast, leavesOpen_brace_iff, leavesOpen_plain_iff (by simp)]
    exact not_leavesOpen_nil
  refine ⟨isVariable_of_bundleDirectory, hset, ?_⟩
  rw [(placeholder_is_filled_iff isVariable_of_bundleDirectory hset _ _).1.2 (.inl hclosed)]
  decide +kernel

/-- A comment that mentions an opening keeps a setting below it from being filled in. -/
theorem stray_opening_keeps_placeholder :
    ¬∀ value : String → Option String, (∀ name v, value name = some v → IsVariable name) →
      ∀ name v, value name = some v → ∀ x y,
        substitute value (x ++ written name ++ y) = substitute value x ++ v ++ substitute value y := by
  intro h
  have hfilled := h bundleDirectory isVariable_of_bundleDirectory "BUNDLE_DIR" "/srv/bundles" rfl
    "# $\x7b begins a placeholder\ndir = \"" "\""
  exact absurd hfilled (by decide +kernel)

end ChatRouter.Placeholders
