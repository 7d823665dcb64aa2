import ChatRouter.Proofs.Catalog.Spelling

set_option autoImplicit false

namespace ChatRouter

theorem Text.blank_before_plus_iff {front rest : List Char} (h : '+' ∉ front) :
    (∃ before blank build, front ++ '+' :: rest = before ++ blank :: '+' :: build ∧ '+' ∉ before ∧
      isBlank blank = true) ↔ ∃ blank ∈ front.getLast?, isBlank blank = true := by
  constructor
  · rintro ⟨before, blank, build, hcut, hbefore, hblank⟩
    have hbefore' : '+' ∉ before ++ [blank] := by
      rw [List.mem_append, List.mem_singleton]
      rintro (hmem | rfl)
      · exact hbefore hmem
      · exact absurd hblank (by decide)
    have hsplit := splitFirst_append h rest
    rw [hcut, ← List.singleton_append, ← List.append_assoc, splitFirst_append hbefore' build] at hsplit
    have hfront : before ++ [blank] = front := (Prod.mk.inj (Option.some.inj hsplit)).1
    exact ⟨blank, by rw [← hfront, List.getLast?_concat]; rfl, hblank⟩
  · rintro ⟨blank, hlast, hblank⟩
    obtain ⟨before, rfl⟩ := List.getLast?_eq_some_iff.1 hlast
    exact ⟨before, blank, rest, by simp, fun hmem => h (by simp [hmem]), hblank⟩

theorem Numerals.not_blank {runs : List (List Char)} (h : Numerals runs) :
    ∀ c ∈ ['.'].intercalate runs, Text.isBlank c = false := by
  intro c hc
  rcases h.mem_intercalate c hc with rfl | hdigit
  · decide
  · exact Text.not_blank_of_isDigit hdigit

namespace Version

variable {v : Version} {raw : String}

/-- What holds of every version that is read. -/
structure Readable (v : Version) : Prop where
  major : v.major < Nat.pow 2 64
  minor : v.minor < Nat.pow 2 64
  patch : v.patch < Nat.pow 2 64
  preFilled : ∀ p ∈ v.pre, p.toList ≠ []
  preUncut : ∀ p ∈ v.pre, '+' ∉ p.toList

/-- Without the blanks that end the pre-release. -/
def settled (v : Version) : Version := { v with pre := v.pre.map fun p => String.ofList (Text.trimRight p.toList) }

theorem settled_settled (v : Version) : v.settled.settled = v.settled := by
  cases hpre : v.pre <;> simp [settled, hpre, Text.trimRight_eq, List.rdropWhile_idempotent]

theorem settled_eq_iff : v.settled = v ↔ ∀ p ∈ v.pre, ∀ c ∈ p.toList.getLast?, Text.isBlank c = false := by
  obtain ⟨major, minor, patch, pre⟩ := v
  cases pre with
  | none => simp [settled]
  | some p =>
    have htrim : String.ofList (Text.trimRight p.toList) = p ↔ Text.trimRight p.toList = p.toList := by
      rw [← String.toList_inj, String.toList_ofList]
    simp [settled, htrim, Text.trimRight_eq_self_iff]

def runs (v : Version) : List (List Char) := [Nat.toDigits 10 v.major, Nat.toDigits 10 v.minor, Nat.toDigits 10 v.patch]

theorem text_toList (v : Version) :
    v.text.toList = ['.'].intercalate v.runs ++ Spelling.part '-' (v.pre.map String.toList) := by
  have hdot : (toString ".").toList = ['.'] := rfl
  unfold text
  cases v.pre <;> simp [Spelling.part, runs, List.intercalate, hdot]

theorem numeral_toDigits {n : Nat} (h : n < Nat.pow 2 64) : Numeral (Nat.toDigits 10 n) where
  filled := Nat.toDigits_ne_nil
  digits := fun _ hc => Nat.isDigit_of_mem_toDigits (by decide) (by decide) hc
  bounded := by rwa [Nat.ofDigitChars_ten_toDigits]

theorem Readable.numerals (h : Readable v) : Numerals v.runs where
  some := by simp [runs]
  atMostThree := by simp [runs]
  each := by
    simp only [runs, List.forall_mem_cons]
    exact ⟨numeral_toDigits h.major, numeral_toDigits h.minor, numeral_toDigits h.patch, by simp⟩

theorem no_mark : ∀ c ∈ (none : Option Char), c = 'v' ∨ c = 'V' := nofun

theorem Readable.filled (h : Readable v) : ∀ p ∈ v.pre.map String.toList, p ≠ [] := by
  simpa using h.preFilled

theorem Readable.uncut (h : Readable v) : ∀ p ∈ v.pre.map String.toList, '+' ∉ p := by
  simpa using h.preUncut

def Readable.spelling (h : Readable v) : Spelling where
  mark := none
  runs := v.runs
  pre := v.pre.map String.toList
  build := none
  isMark := no_mark
  numerals := h.numerals
  preFilled := h.filled
  preUncut := h.uncut

theorem Readable.spelling_written (h : Readable v) : h.spelling.written = v.text.toList := by
  simp [Spelling.written, Spelling.core, spelling, Spelling.part, text_toList]

theorem Readable.spelling_version (h : Readable v) : h.spelling.version = v := by
  obtain ⟨major, minor, patch, pre⟩ := v
  cases pre <;> simp [Spelling.version, Spelling.number, numberAt, spelling, runs, Nat.ofDigitChars_ten_toDigits]

theorem Readable.of_coerce (h : coerce raw = .ok v) : Readable v := by
  obtain ⟨p, -, rfl⟩ := coerce_eq_ok_iff.1 h
  have hnumber (i : Nat) : p.number i < Nat.pow 2 64 := by
    rw [Spelling.number, numberAt, List.getElem?_map]
    cases hrun : p.runs[i]? with
    | none => decide
    | some run => exact (p.numerals.each run (List.mem_of_getElem? hrun)).bounded
  exact ⟨hnumber 0, hnumber 1, hnumber 2, by simpa [Spelling.version] using p.preFilled,
    by simpa [Spelling.version] using p.preUncut⟩

theorem Readable.settled (h : Readable v) (hfilled : v.settled.pre ≠ some "") : Readable v.settled := by
  refine ⟨h.major, h.minor, h.patch, ?_, ?_⟩
  · rintro p hp hnil
    exact hfilled (hp.trans (by rw [String.toList_eq_nil_iff.1 hnil]))
  · simp only [Version.settled, Option.mem_def, Option.map_eq_some_iff]
    rintro _ ⟨p, hp, rfl⟩ hplus
    rw [String.toList_ofList] at hplus
    exact h.preUncut p hp ((List.rdropWhile_prefix Text.isBlank _).subset hplus)

theorem Readable.trim_text (h : Readable v) : Text.trim v.text.toList = v.settled.text.toList := by
  have hbare := h.numerals.not_blank
  obtain ⟨c, rest, hcore, -⟩ := h.numerals.exists_first
  have hleft : Text.trimLeft v.text.toList = v.text.toList := by
    refine Text.trimLeft_eq_self ?_
    rw [text_toList, hcore]
    simpa using hbare c (hcore ▸ List.mem_cons_self)
  have hruns : v.settled.runs = v.runs := rfl
  rw [Text.trim, hleft, text_toList, text_toList, hruns]
  cases hpre : v.pre with
  | none =>
    have hsettled : v.settled.pre = none := by rw [Version.settled, hpre, Option.map_none]
    rw [hsettled, Option.map_none, Spelling.part, List.append_nil, Text.trimRight_eq_self_iff]
    exact fun c hc => hbare c (List.mem_of_mem_getLast? hc)
  | some p =>
    have hsettled : v.settled.pre = some (String.ofList (Text.trimRight p.toList)) := by
      rw [Version.settled, hpre, Option.map_some]
    rw [hsettled, Option.map_some, Option.map_some, Spelling.part, Spelling.part, String.toList_ofList]
    exact Text.trimRight_append_cons (by decide)

theorem ofTrimmed?_hyphen {runs : List (List Char)} (h : Numerals runs) :
    ofTrimmed? (['.'].intercalate runs ++ ['-']) = none := by
  have hhyphen : '-' ∉ ['.'].intercalate runs := h.not_mem_intercalate (by decide) (by decide)
  have hplus : '+' ∉ ['.'].intercalate runs ++ ['-'] := by
    simpa using h.not_mem_intercalate (c := '+') (by decide) (by decide)
  have hmark : dropMark (['.'].intercalate runs ++ ['-']) = ['.'].intercalate runs ++ ['-'] := by
    obtain ⟨c, rest, hcore, hc⟩ := h.exists_first
    rw [hcore]
    exact dropMark_append no_mark hc (rest ++ ['-'])
  have hbuild : dropBuild (['.'].intercalate runs ++ ['-']) = ['.'].intercalate runs ++ ['-'] := by
    simpa [Spelling.part] using dropBuild_append hplus none
  rw [ofTrimmed?, hmark, hbuild, Text.splitFirst_append hhyphen]

theorem Readable.coerce_text (h : Readable v) :
    coerce v.text = if v.settled.pre = some "" then .error (.invalidBundleVersion v.text) else .ok v.settled := by
  split
  · rename_i hempty
    have htrim : Text.trim v.text.toList = ['.'].intercalate v.runs ++ ['-'] := by
      rw [h.trim_text, text_toList, hempty]
      rfl
    rw [coerce_of_ne_nil (by simp [htrim]), htrim, ofTrimmed?_hyphen h.numerals]
  · rename_i hfilled
    have hread := h.settled hfilled
    exact coerce_eq_ok_iff.2 ⟨hread.spelling, by rw [h.trim_text, hread.spelling_written], hread.spelling_version⟩

end Version

namespace Spelling

variable (p : Spelling)

/-- Up to the build part. -/
def uncut : List Char := p.mark.toList ++ (p.core ++ part '-' p.pre)

theorem written_eq : p.written = p.uncut ++ part '+' p.build := by
  simp [written, uncut]

theorem plus_not_mem_uncut : '+' ∉ p.uncut := by
  have hbody : '+' ∉ p.core ++ part '-' p.pre := by
    rw [← p.dropBuild_body]
    exact Version.not_mem_dropBuild _
  rw [uncut, List.mem_append, Option.mem_toList]
  rintro (hmark | h)
  · rcases p.isMark _ hmark with h | h <;> cases h
  · exact hbody h

theorem uncut_ne_nil : p.uncut ≠ [] := by
  obtain ⟨c, rest, hcore, -⟩ := p.numerals.exists_first
  simp [uncut, core, hcore]

theorem uncut_last : (∀ c ∈ p.uncut.getLast?, Text.isBlank c = false) ↔ p.version.settled = p.version := by
  rw [Version.settled_eq_iff, version, uncut]
  cases hpre : p.pre with
  | none =>
    obtain ⟨c, rest, hcore, -⟩ := p.numerals.exists_first
    have hlast : (p.mark.toList ++ (p.core ++ part '-' none)).getLast? = p.core.getLast? := by
      rw [part, List.append_nil, List.getLast?_append_of_ne_nil _ (by simp [core, hcore])]
    rw [hlast]
    exact iff_of_true (fun c hc => p.numerals.not_blank c (List.mem_of_mem_getLast? hc)) (by simp)
  | some q =>
    have hlast : (p.mark.toList ++ (p.core ++ part '-' (some q))).getLast? = q.getLast? := by
      have hassoc : p.mark.toList ++ (p.core ++ part '-' (some q)) = p.mark.toList ++ (p.core ++ ['-']) ++ q := by
        simp [part]
      rw [hassoc, List.getLast?_append_of_ne_nil _ (p.preFilled q hpre)]
    rw [hlast]
    simp

end Spelling

namespace Version

variable {v : Version} {raw : String}

theorem settled_eq_iff_of_coerce (h : coerce raw = .ok v) : v.settled = v ↔ ¬∃ before blank build,
    raw.toList = before ++ blank :: '+' :: build ∧ '+' ∉ before ∧ Text.isBlank blank = true := by
  obtain ⟨p, htrim, rfl⟩ := coerce_eq_ok_iff.1 h
  obtain ⟨hbare, left, right, hraw, hleft, hright⟩ := Text.trim_eq_iff.1 htrim
  have hplus {s : List Char} (hs : ∀ c ∈ s, Text.isBlank c = true) : '+' ∉ s := fun hmem =>
    absurd (hs _ hmem) (by decide)
  have hfront : '+' ∉ left ++ p.uncut := by simp [hplus hleft, p.plus_not_mem_uncut]
  rw [← p.uncut_last]
  rw [p.written_eq] at hbare hraw
  cases hbuild : p.build with
  | none =>
    rw [hbuild, Spelling.part, List.append_nil] at hbare hraw
    refine iff_of_true hbare.last ?_
    rintro ⟨before, blank, build, hcut, -, -⟩
    have hmem : '+' ∈ left ++ p.uncut ++ right := by rw [← hraw, hcut]; simp
    exact (List.mem_append.1 hmem).elim hfront (hplus hright)
  | some build =>
    have hcut : raw.toList = left ++ p.uncut ++ '+' :: (build ++ right) := by
      rw [hraw, hbuild]
      simp [Spelling.part]
    rw [hcut, Text.blank_before_plus_iff hfront, List.getLast?_append_of_ne_nil _ p.uncut_ne_nil]
    simp

end Version

open Version (coerce)

/-- What becomes of a version that was read, printed and read again. It loses the blanks that end its pre-release,
and is refused where the pre-release has nothing else; so it comes back as it was exactly if in the text it was
read from no blank stands before the first plus sign. What comes back does so again. -/
theorem printed_version_loses_last_blanks {raw : String} {v : Version} (h : coerce raw = .ok v) :
    coerce v.text = (if v.settled.pre = some "" then .error (.invalidBundleVersion v.text) else .ok v.settled) ∧
    (coerce v.text = .ok v ↔ ¬∃ before blank build,
      raw.toList = before ++ blank :: '+' :: build ∧ '+' ∉ before ∧ Text.isBlank blank = true) ∧
    ∀ w, coerce v.text = .ok w → coerce w.text = .ok w := by
  have hread := Version.Readable.of_coerce h
  have hself {w : Version} (hw : w.Readable) (hsettled : w.settled = w) : coerce w.text = .ok w := by
    rw [hw.coerce_text, hsettled, if_neg]
    exact fun hpre => hw.preFilled "" hpre rfl
  refine ⟨hread.coerce_text, ?_, fun w hw => ?_⟩
  · rw [← Version.settled_eq_iff_of_coerce h]
    refine ⟨fun hback => ?_, hself hread⟩
    rw [hread.coerce_text] at hback
    split at hback
    · cases hback
    · exact Except.ok.inj hback
  · refine hself (.of_coerce hw) ?_
    rw [hread.coerce_text] at hw
    split at hw <;> cases hw
    exact v.settled_settled

theorem build_part_leaves_blank : coerce "1-a +b" = .ok ⟨1, 0, 0, some "a "⟩ ∧
    coerce "1.0.0-a " = .ok ⟨1, 0, 0, some "a"⟩ ∧ coerce "1.0.0-a" = .ok ⟨1, 0, 0, some "a"⟩ := by
  have hread : coerce "1-a +b" = .ok ⟨1, 0, 0, some "a "⟩ := by decide +kernel
  have hagain : coerce "1.0.0-a " = .ok ⟨1, 0, 0, some "a"⟩ := by decide +kernel
  exact ⟨hread, hagain, (printed_version_loses_last_blanks hread).2.2 _ hagain⟩

theorem printed_version_differs : ¬∀ raw v, coerce raw = .ok v → coerce v.text = .ok v := by
  intro h
  have hread : coerce "1-a +b" = .ok ⟨1, 0, 0, some "a "⟩ := by decide +kernel
  exact absurd (h _ _ hread) (by decide +kernel)

end ChatRouter
