import ChatRouter.Proofs.Store.Directory
import ChatRouter.Proofs.Store.Enabling
import ChatRouter.Proofs.Text.Pieces
import ChatRouter.Regex.Parser

set_option autoImplicit false

namespace ChatRouter

/-- A run of digits whose value a version can hold. -/
structure Numeral (run : List Char) : Prop where
  filled : run ≠ []
  digits : ∀ c ∈ run, c.isDigit = true
  bounded : Nat.ofDigitChars 10 run 0 < Nat.pow 2 64

instance (run : List Char) : Decidable (Numeral run) :=
  decidable_of_iff (run ≠ [] ∧ run.all Char.isDigit = true ∧ Nat.ofDigitChars 10 run 0 < Nat.pow 2 64)
    ⟨fun h => ⟨h.1, List.all_eq_true.1 h.2.1, h.2.2⟩, fun h => ⟨h.filled, List.all_eq_true.2 h.digits, h.bounded⟩⟩

/-- The numbers of a version as they are written. -/
structure Numerals (runs : List (List Char)) : Prop where
  some : runs ≠ []
  atMostThree : runs.length ≤ 3
  each : ∀ run ∈ runs, Numeral run

def numberAt (runs : List (List Char)) (i : Nat) : Nat := ((runs.map (Nat.ofDigitChars 10 · 0))[i]?).getD 0

/-- The parts of a text that writes a version. -/
structure Spelling where
  mark : Option Char
  runs : List (List Char)
  pre : Option (List Char)
  build : Option (List Char)
  isMark : ∀ c ∈ mark, c = 'v' ∨ c = 'V'
  numerals : Numerals runs
  preFilled : ∀ p ∈ pre, p ≠ []
  preUncut : ∀ p ∈ pre, '+' ∉ p

namespace Spelling

def core (p : Spelling) : List Char := ['.'].intercalate p.runs

def part (sign : Char) : Option (List Char) → List Char
  | none => []
  | some text => sign :: text

def written (p : Spelling) : List Char := p.mark.toList ++ (p.core ++ part '-' p.pre ++ part '+' p.build)

def number (p : Spelling) (i : Nat) : Nat := numberAt p.runs i

def version (p : Spelling) : Version := ⟨p.number 0, p.number 1, p.number 2, p.pre.map String.ofList⟩

end Spelling

namespace Numerals

variable {runs : List (List Char)}

theorem mem_intercalate (h : Numerals runs) : ∀ c ∈ ['.'].intercalate runs, c = '.' ∨ c.isDigit = true := by
  obtain ⟨-, -, heach⟩ := h
  induction runs with
  | nil => simp
  | cons run rest ih =>
    obtain ⟨hrun, hrest⟩ := List.forall_mem_cons.1 heach
    intro c hc
    cases rest with
    | nil =>
      rw [List.intercalate_singleton] at hc
      exact .inr (hrun.digits c hc)
    | cons next rest =>
      rw [List.intercalate_cons_cons] at hc
      rcases List.mem_append.1 hc with hc | hc
      · rcases List.mem_append.1 hc with hc | hc
        · exact .inr (hrun.digits c hc)
        · exact .inl (List.mem_singleton.1 hc)
      · exact ih hrest c hc

theorem not_mem_intercalate (h : Numerals runs) {c : Char} (hdot : c ≠ '.') (hdigit : c.isDigit = false) :
    c ∉ ['.'].intercalate runs := fun hc =>
  (h.mem_intercalate c hc).elim hdot fun hd => Bool.false_ne_true (hdigit.symm.trans hd)

theorem exists_first (h : Numerals runs) : ∃ c rest, ['.'].intercalate runs = c :: rest ∧ c.isDigit = true := by
  obtain ⟨run, more, rfl⟩ := List.exists_cons_of_ne_nil h.some
  have hrun := h.each run List.mem_cons_self
  obtain ⟨c, digits, rfl⟩ := List.exists_cons_of_ne_nil hrun.filled
  have hc := hrun.digits c List.mem_cons_self
  cases more with
  | nil => exact ⟨c, digits, List.intercalate_singleton, hc⟩
  | cons next more =>
    rw [List.intercalate_cons_cons]
    exact ⟨c, _, rfl, hc⟩

theorem pieces_eq (h : Numerals runs) : Text.pieces '.' (['.'].intercalate runs) = runs :=
  Text.pieces_intercalate (fun run hrun hdot => absurd ((h.each run hrun).digits _ hdot) (by decide)) h.some

end Numerals

namespace Version

variable {core s : List Char} {v : Version}

theorem mapM_numbers {pieces : List (List Char)} {ns : List Nat} :
    (pieces.mapM fun piece => do
      let n ← Text.number? piece
      if n < Nat.pow 2 64 then some n else none) = some ns ↔
      (∀ run ∈ pieces, Numeral run) ∧ ns = pieces.map (Nat.ofDigitChars 10 · 0) := by
  induction pieces generalizing ns with
  | nil => simp [eq_comm]
  | cons run rest ih =>
    have hrun (n : Nat) : ((Text.number? run).bind fun n => if n < Nat.pow 2 64 then some n else none) = some n ↔
        Numeral run ∧ Nat.ofDigitChars 10 run 0 = n := by
      rw [Option.bind_eq_some_iff]
      constructor
      · rintro ⟨m, hm, hn⟩
        obtain ⟨hfilled, hdigits, rfl⟩ := Text.number?_eq_some_iff.1 hm
        split at hn
        · rename_i hbound
          exact ⟨⟨hfilled, hdigits, hbound⟩, Option.some.inj hn⟩
        · cases hn
      · rintro ⟨⟨hfilled, hdigits, hbound⟩, rfl⟩
        exact ⟨_, Text.number?_eq_some_iff.2 ⟨hfilled, hdigits, rfl⟩, if_pos hbound⟩
    rw [List.mapM_cons]
    simp only [bind, Option.bind_eq_some_iff, pure, Option.some.injEq] at hrun ih ⊢
    rw [List.forall_mem_cons, List.map_cons]
    constructor
    · rintro ⟨n, hn, ns', hns, rfl⟩
      obtain ⟨hnumeral, rfl⟩ := (hrun n).1 hn
      obtain ⟨hrest, rfl⟩ := ih.1 hns
      exact ⟨⟨hnumeral, hrest⟩, rfl⟩
    · rintro ⟨⟨hnumeral, hrest⟩, rfl⟩
      exact ⟨_, (hrun _).2 ⟨hnumeral, rfl⟩, _, ih.2 ⟨hrest, rfl⟩, rfl⟩

theorem numbers?_eq_some_iff {ns : List Nat} : numbers? core = some ns ↔
    (∀ run ∈ Text.pieces '.' core, Numeral run) ∧ ns = (Text.pieces '.' core).map (Nat.ofDigitChars 10 · 0) :=
  mapM_numbers

theorem exists_runs {ns : List Nat} (h : numbers? core = some ns) (hlength : ns.length ≤ 3) :
    ∃ runs, Numerals runs ∧ ['.'].intercalate runs = core ∧ runs.map (Nat.ofDigitChars 10 · 0) = ns := by
  obtain ⟨heach, rfl⟩ := numbers?_eq_some_iff.1 h
  rw [List.length_map] at hlength
  exact ⟨_, ⟨Text.pieces_ne_nil '.' core, hlength, heach⟩, Text.intercalate_pieces '.' core, rfl⟩

theorem ofCore?_eq_some_iff {pre : Option String} : ofCore? core pre = some v ↔ ∃ runs, Numerals runs ∧
    ['.'].intercalate runs = core ∧ ⟨numberAt runs 0, numberAt runs 1, numberAt runs 2, pre⟩ = v := by
  constructor
  · intro h
    unfold ofCore? at h
    split at h
    case h_4 => cases h
    -- Whether one, two or three numbers were read, the others count as zero.
    all_goals
      rename_i hns
      obtain ⟨runs, hruns, hcore, hmap⟩ := exists_runs hns (by simp)
      cases h
      exact ⟨runs, hruns, hcore, by simp [numberAt, hmap]⟩
  · rintro ⟨runs, hruns, rfl, rfl⟩
    have hnumbers : numbers? (['.'].intercalate runs) = some (runs.map (Nat.ofDigitChars 10 · 0)) := by
      refine numbers?_eq_some_iff.2 ?_
      rw [hruns.pieces_eq]
      exact ⟨hruns.each, rfl⟩
    rw [ofCore?, hnumbers]
    match runs, hruns.some, hruns.atMostThree with
    | [a], _, _ => rfl
    | [a, b], _, _ => rfl
    | [a, b, c], _, _ => rfl

theorem exists_mark (s : List Char) : ∃ mark : Option Char,
    (∀ c ∈ mark, c = 'v' ∨ c = 'V') ∧ s = mark.toList ++ dropMark s := by
  unfold dropMark
  split
  · exact ⟨some 'v', by simp, rfl⟩
  · exact ⟨some 'V', by simp, rfl⟩
  · exact ⟨none, by simp, rfl⟩

theorem dropMark_append {mark : Option Char} (hmark : ∀ c ∈ mark, c = 'v' ∨ c = 'V') {c : Char} (hc : c.isDigit = true)
    (rest : List Char) : dropMark (mark.toList ++ c :: rest) = c :: rest := by
  cases mark with
  | none =>
    have hv : c ≠ 'v' := by
      rintro rfl
      exact absurd hc (by decide)
    have hV : c ≠ 'V' := by
      rintro rfl
      exact absurd hc (by decide)
    simp [dropMark, hv, hV]
  | some m => rcases hmark m rfl with rfl | rfl <;> rfl

theorem not_mem_dropBuild (s : List Char) : '+' ∉ dropBuild s := fun h => by
  simpa using List.mem_takeWhile_imp h

theorem exists_build (s : List Char) : ∃ build, s = dropBuild s ++ Spelling.part '+' build := by
  have hsplit : s = dropBuild s ++ s.dropWhile (· != '+') := List.takeWhile_append_dropWhile.symm
  cases hrest : s.dropWhile (· != '+') with
  | nil => exact ⟨none, by rwa [hrest] at hsplit⟩
  | cons c build =>
    have hplus := List.head?_dropWhile_not (· != '+') s
    simp only [hrest, List.head?_cons, bne_eq_false_iff_eq] at hplus
    rw [hrest, hplus] at hsplit
    exact ⟨some build, hsplit⟩

theorem dropBuild_append (h : '+' ∉ s) (build : Option (List Char)) :
    dropBuild (s ++ Spelling.part '+' build) = s := by
  have hall : ∀ c ∈ s, (c != '+') = true := fun c hc => bne_iff_ne.2 fun he => h (he ▸ hc)
  rw [dropBuild, List.takeWhile_append_of_pos hall]
  cases build <;> simp [Spelling.part]

end Version

namespace Spelling

variable (p : Spelling)

theorem body_eq : ∃ c rest, p.core ++ part '-' p.pre ++ part '+' p.build = c :: rest ∧ c.isDigit = true := by
  obtain ⟨c, rest, hcore, hc⟩ := p.numerals.exists_first
  refine ⟨c, rest ++ part '-' p.pre ++ part '+' p.build, ?_, hc⟩
  rw [core, hcore]
  simp

theorem dropMark_written : Version.dropMark p.written = p.core ++ part '-' p.pre ++ part '+' p.build := by
  obtain ⟨c, rest, hbody, hc⟩ := p.body_eq
  rw [written, hbody]
  exact Version.dropMark_append p.isMark hc rest

theorem dropBuild_body :
    Version.dropBuild (p.core ++ part '-' p.pre ++ part '+' p.build) = p.core ++ part '-' p.pre := by
  refine Version.dropBuild_append (fun h => ?_) p.build
  rcases List.mem_append.1 h with h | h
  · exact p.numerals.not_mem_intercalate (by decide) (by decide) h
  · cases hpre : p.pre with
    | none => simp [hpre, part] at h
    | some text =>
      rw [hpre] at h
      rcases List.mem_cons.1 h with h | h
      · exact absurd h (by decide)
      · exact p.preUncut text hpre h

theorem splitFirst_core : Text.splitFirst '-' (p.core ++ part '-' p.pre) = p.pre.map fun pre => (p.core, pre) := by
  have hhyphen : '-' ∉ p.core := p.numerals.not_mem_intercalate (by decide) (by decide)
  cases p.pre with
  | none =>
    rw [part, List.append_nil]
    exact Text.splitFirst_eq_none hhyphen
  | some pre => exact Text.splitFirst_append hhyphen pre

/-- The same numbers, missing ones being zero, and the same pre-release. -/
def Agree (p q : Spelling) : Prop := (∀ i < 3, p.number i = q.number i) ∧ p.pre = q.pre

theorem version_eq_iff {p q : Spelling} : p.version = q.version ↔ p.Agree q := by
  constructor
  · intro h
    injection h with hmajor hminor hpatch hpre
    refine ⟨fun i hi => ?_, Option.map_injective (fun _ _ => String.ofList_injective) hpre⟩
    match i with
    | 0 => exact hmajor
    | 1 => exact hminor
    | 2 => exact hpatch
  · rintro ⟨hnumbers, hpre⟩
    rw [version, version, hnumbers 0 (by decide), hnumbers 1 (by decide), hnumbers 2 (by decide), hpre]

theorem ofTrimmed?_written : Version.ofTrimmed? p.written = some p.version := by
  have hcore (pre : Option String) : Version.ofCore? p.core pre = some ⟨p.number 0, p.number 1, p.number 2, pre⟩ :=
    Version.ofCore?_eq_some_iff.2 ⟨p.runs, p.numerals, rfl, rfl⟩
  rw [Version.ofTrimmed?, p.dropMark_written, p.dropBuild_body, p.splitFirst_core, version]
  cases hpre : p.pre with
  | none =>
    rw [part, List.append_nil]
    exact hcore none
  | some pre =>
    obtain ⟨c, rest, rfl⟩ := List.exists_cons_of_ne_nil (p.preFilled pre hpre)
    exact hcore _

end Spelling

namespace Version

variable {s : List Char} {v : Version}

theorem ofTrimmed?_eq_some_iff : ofTrimmed? s = some v ↔ ∃ p : Spelling, s = p.written ∧ p.version = v := by
  constructor
  · intro h
    obtain ⟨mark, hmark, hs⟩ := exists_mark s
    obtain ⟨build, hbody⟩ := exists_build (dropMark s)
    have hcut := not_mem_dropBuild (dropMark s)
    rw [ofTrimmed?] at h
    split at h
    · rename_i hsplit
      obtain ⟨runs, hruns, hcore, rfl⟩ := ofCore?_eq_some_iff.1 h
      have hwritten : s = mark.toList ++ (['.'].intercalate runs ++ [] ++ Spelling.part '+' build) := by
        rwa [hcore, List.append_nil, ← hbody]
      exact ⟨⟨mark, runs, none, build, hmark, hruns, by simp, by simp⟩, hwritten, rfl⟩
    · cases h
    · rename_i core pre hfilled hsplit
      obtain ⟨hparts, -⟩ := Text.splitFirst_eq_some hsplit
      obtain ⟨runs, hruns, hcore, rfl⟩ := ofCore?_eq_some_iff.1 h
      rw [hparts] at hcut hbody
      have hwritten : s = mark.toList ++ (['.'].intercalate runs ++ '-' :: pre ++ Spelling.part '+' build) := by
        rwa [hcore, ← hbody]
      refine ⟨⟨mark, runs, some pre, build, hmark, hruns, ?_, ?_⟩, hwritten, rfl⟩
      · rintro _ ⟨⟩ rfl
        exact hfilled rfl
      · rintro _ ⟨⟩ hplus
        exact hcut (by simp [hplus])
  · rintro ⟨p, rfl, rfl⟩
    exact p.ofTrimmed?_written

theorem ofTrimmed?_nil : ofTrimmed? [] = none := rfl

theorem coerce_of_ne_nil {raw : String} (h : Text.trim raw.toList ≠ []) : coerce raw =
    match ofTrimmed? (Text.trim raw.toList) with
    | some v => .ok v
    | none => .error (.invalidBundleVersion raw) := by
  unfold coerce
  split
  · rename_i hnil
    exact absurd hnil h
  · rfl

theorem coerce_eq_empty_iff {raw : String} :
    coerce raw = .error .emptyBundleVersion ↔ ∀ c ∈ raw.toList, Text.isBlank c = true := by
  rw [← Text.trim_eq_nil_iff]
  constructor
  · intro h
    by_contra hne
    rw [coerce_of_ne_nil hne] at h
    split at h <;> cases h
  · intro h
    unfold coerce
    rw [h]

theorem coerce_eq_ok_iff {raw : String} {v : Version} :
    coerce raw = .ok v ↔ ∃ p : Spelling, Text.trim raw.toList = p.written ∧ p.version = v := by
  rw [← ofTrimmed?_eq_some_iff]
  by_cases hnil : Text.trim raw.toList = []
  · rw [coerce_eq_empty_iff.2 (Text.trim_eq_nil_iff.1 hnil), hnil]
    exact iff_of_false (by simp) (by simp [ofTrimmed?_nil])
  · rw [coerce_of_ne_nil hnil]
    cases ofTrimmed? (Text.trim raw.toList) <;> simp

end Version

namespace Store

variable {s t : Store} {b d : Bundle} {v w : Version}

theorem createBundle_answer {i : Installed} (hv : b.validate = .ok v) (hi : Installed.compile s.engine b = .ok i) :
    (perform (.bundleCreate b) s).1 =
      if (s.installed? b.name v).isSome then .error (.bundleExists b.name b.version) else .ok () := by
  have hshelf : (s.withShelf b.name).hasVersion b.name v = (s.installed? b.name v).isSome := by
    rw [hasVersion_eq, installed?_withShelf]
  unfold withShelf at hshelf
  cases hthere : (s.installed? b.name v).isSome <;> cases hb : b.enabled <;>
    simp [perform, editFor, createBundle, Edit.run_bind, hv, hi, hshelf, hthere, hb]

/-- Of two bundles with one name that could be installed, the second is refused exactly when it has the version
of the first. -/
theorem createBundle_after (hname : d.name = b.name) (hb : perform (.bundleCreate b) s = (.ok (), t))
    (hd : (perform (.bundleCreate d) s).1 = .ok ()) (hv : Version.coerce b.version = .ok v)
    (hw : Version.coerce d.version = .ok w) :
    (perform (.bundleCreate d) t).1 = .error (.bundleExists d.name d.version) ↔ v = w := by
  obtain ⟨v', i, hvalid, hcompiled, -, ht⟩ := createBundle_ok hb
  obtain ⟨w', j, hvalid', hcompiled', hnew, -⟩ := createBundle_ok (Prod.ext hd rfl)
  cases hv.symm.trans (Bundle.validate_ok hvalid).2
  cases hw.symm.trans (Bundle.validate_ok hvalid').2
  have hlook : t.installed? d.name w = if d.name = b.name ∧ w = v then some i else s.installed? d.name w := by
    rw [ht]
    split <;> simp only [installed?_enable, installed?_put]
  have hengine : t.engine = s.engine := by
    rw [← Store.perform_engine (.bundleCreate b) s, hb]
  rw [createBundle_answer hvalid' (hengine ▸ hcompiled'), hlook, hnew]
  by_cases hvw : v = w
  · simp [hname, hvw]
  · simp [hname, hvw, Ne.symm hvw]

end Store

open Store (perform)

/-- What a text is read as. It is a version exactly if, trimmed, it has the parts of one, and then it is that version;
it is refused as empty exactly if it is blank, and else for what it is. Of two such texts, whatever their marks,
padding, missing numbers and build parts, one names the version that the other one has installed exactly if their
numbers and pre-releases agree. -/
theorem coerce_reads_spellings (raw : String) :
    (Version.coerce raw = .error .emptyBundleVersion ↔ ∀ c ∈ raw.toList, Text.isBlank c = true) ∧
    (∀ v, Version.coerce raw = .ok v ↔ ∃ p : Spelling, Text.trim raw.toList = p.written ∧ p.version = v) ∧
    (Version.coerce raw = .error (.invalidBundleVersion raw) ↔
      (∃ c ∈ raw.toList, Text.isBlank c = false) ∧ ∀ p : Spelling, Text.trim raw.toList ≠ p.written) ∧
    ∀ (other : String) (p q : Spelling), Text.trim raw.toList = p.written → Text.trim other.toList = q.written →
      (Version.coerce raw = Version.coerce other ↔ p.Agree q) ∧
      ∀ b d s t, b.version = raw → d.version = other → d.name = b.name →
        perform (.bundleCreate b) s = (.ok (), t) → (perform (.bundleCreate d) s).1 = .ok () →
        ((perform (.bundleCreate d) t).1 = .error (.bundleExists d.name other) ↔ p.Agree q) := by
  have hnotBlank : (∃ c ∈ raw.toList, Text.isBlank c = false) ↔ ¬∀ c ∈ raw.toList, Text.isBlank c = true := by
    simp
  refine ⟨Version.coerce_eq_empty_iff, fun v => Version.coerce_eq_ok_iff, ?_, fun other p q hp hq => ?_⟩
  · rw [hnotBlank, ← Version.coerce_eq_empty_iff]
    constructor
    · intro h
      refine ⟨fun he => ?_, fun p hp => ?_⟩
      · cases h.symm.trans he
      · cases h.symm.trans (Version.coerce_eq_ok_iff.2 ⟨p, hp, rfl⟩)
    · rintro ⟨hfilled, hnone⟩
      rw [Version.coerce_eq_empty_iff, ← Text.trim_eq_nil_iff] at hfilled
      rw [Version.coerce_of_ne_nil hfilled]
      split
      · rename_i v hv
        obtain ⟨p, hp, -⟩ := Version.ofTrimmed?_eq_some_iff.1 hv
        exact absurd hp (hnone p)
      · rfl
  · have hread := Version.coerce_eq_ok_iff.2 ⟨p, hp, rfl⟩
    have hother := Version.coerce_eq_ok_iff.2 ⟨q, hq, rfl⟩
    refine ⟨?_, fun b d s t hb hd hname hcreated hfree => ?_⟩
    · rw [hread, hother, Except.ok.injEq, Spelling.version_eq_iff]
    · subst hb hd
      rw [Store.createBundle_after hname hcreated hfree hread hother, Spelling.version_eq_iff]

def longSpelling : Spelling where
  mark := some 'v'
  runs := [['1'], ['0', '2']]
  pre := none
  build := some ['x', '-', 'y']
  isMark := by simp
  numerals := ⟨by simp, by simp, by simpa using ⟨by decide +kernel, by decide +kernel⟩⟩
  preFilled := by simp
  preUncut := by simp

def plainSpelling : Spelling where
  mark := none
  runs := [['1'], ['2'], ['0']]
  pre := none
  build := none
  isMark := by simp
  numerals := ⟨by simp, by simp, by simpa using ⟨by decide +kernel, by decide +kernel, by decide +kernel⟩⟩
  preFilled := by simp
  preUncut := by simp

/-- A bundle is not installed twice by writing its version in another way. -/
theorem respelled_version_is_refused :
    Text.trim "v1.02+x-y".toList = longSpelling.written ∧ Text.trim " 1.2.0\n".toList = plainSpelling.written ∧
    perform (.bundleCreate (.named "ops" "v1.02+x-y")) (.new .standard) =
      (.ok (), Store.after [.bundleCreate (.named "ops" "v1.02+x-y")] (.new .standard)) ∧
    (perform (.bundleCreate (.named "ops" " 1.2.0\n")) (.new .standard)).1 = .ok () ∧
    (perform (.bundleCreate (.named "ops" " 1.2.0\n"))
      (Store.after [.bundleCreate (.named "ops" "v1.02+x-y")] (.new .standard))).1 =
      .error (.bundleExists "ops" " 1.2.0\n") := by
  have hlong : Text.trim "v1.02+x-y".toList = longSpelling.written := by decide +kernel
  have hplain : Text.trim " 1.2.0\n".toList = plainSpelling.written := by decide +kernel
  have hfirst : (perform (.bundleCreate (.named "ops" "v1.02+x-y")) (.new .standard)).1 = .ok () := by decide +kernel
  have hsecond : (perform (.bundleCreate (.named "ops" " 1.2.0\n")) (.new .standard)).1 = .ok () := by decide +kernel
  have hagree : longSpelling.Agree plainSpelling := ⟨by decide, rfl⟩
  have hcreated : perform (.bundleCreate (.named "ops" "v1.02+x-y")) (.new .standard) =
      (.ok (), Store.after [.bundleCreate (.named "ops" "v1.02+x-y")] (.new .standard)) := Prod.ext hfirst rfl
  refine ⟨hlong, hplain, hcreated, hsecond, ?_⟩
  obtain ⟨-, -, -, hpairs⟩ := coerce_reads_spellings "v1.02+x-y"
  obtain ⟨-, hinstalled⟩ := hpairs " 1.2.0\n" longSpelling plainSpelling hlong hplain
  exact (hinstalled (.named "ops" "v1.02+x-y") (.named "ops" " 1.2.0\n") (.new .standard) _ rfl rfl rfl hcreated
    hsecond).2 hagree

end ChatRouter
