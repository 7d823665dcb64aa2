import ChatRouter.Proofs.Store.History

set_option autoImplicit false

namespace ChatRouter

theorem Bundle.validate_ok {b : Bundle} {v : Version} (h : b.validate = .ok v) :
    b.name ≠ "" ∧ Version.coerce b.version = .ok v := by
  unfold Bundle.validate at h
  split at h
  · cases h
  · rename_i hn
    refine ⟨fun he => hn (by rw [he]; rfl), ?_⟩
    split at h
    · cases h
    · split at h
      · cases h
      · rename_i hv
        split at h <;> cases h
        exact hv

theorem Installed.compile_ok {engine : Regex.Engine} {b : Bundle} {i : Installed} (h : compile engine b = .ok i) :
    i.bundle = { b with enabled := false } := by
  simp only [compile, bind, Except.bind] at h
  split at h
  · cases h
  · cases h
    rfl

namespace Store

open Edit

variable {s t : Store} {n : String} {v : Version}

def installed? (s : Store) (n : String) (v : Version) : Option Installed :=
  (s.bundles.get? n).bind (·.versions.get? v)

def enabled? (s : Store) (n : String) : Option Version := (s.bundles.get? n).bind (·.enabled)

structure ShelvesSound (s : Store) : Prop where
  named : s.bundles.contains "" = false
  installed : ∀ n v i, s.installed? n v = some i →
    i.bundle.name = n ∧ Version.coerce i.bundle.version = .ok v ∧ i.bundle.enabled = false
  enabled : ∀ n v, s.enabled? n = some v → ∃ i, s.installed? n v = some i

theorem locate_ok {text : String} : s.locate n text = .ok v ↔
    n ≠ "" ∧ Version.coerce text = .ok v ∧ ∃ i, s.installed? n v = some i := by
  unfold locate installed?
  by_cases hn : n = ""
  · simp [hn]
  · rw [if_neg (by simpa using hn)]
    cases hv : Version.coerce text with
    | error e => simp
    | ok w =>
      cases hs : s.bundles.get? n with
      | none => simp
      | some shelf =>
        cases hi : shelf.versions.get? w with
        | none =>
          simp only [SortedMap.contains, hi]
          simp only [Option.isSome_none, Bool.false_eq_true, if_false]
          refine iff_of_false (by simp) ?_
          rintro ⟨-, hw, i, h⟩
          cases hw
          simp [hi] at h
        | some i =>
          simp only [SortedMap.contains, hi]
          constructor
          · rintro h
            cases h
            exact ⟨hn, rfl, i, hi⟩
          · rintro ⟨-, hw, -⟩
            cases hw
            rfl

theorem installed?_changeShelf (s : Store) (n : String) (f : Shelf → Shelf) (m : String) (w : Version) :
    (s.changeShelf n f).installed? m w =
      if m = n then (s.bundles.get? n).bind fun shelf => (f shelf).versions.get? w
      else s.installed? m w := by
  by_cases h : m = n
  · subst h
    cases hs : s.bundles.get? m <;>
      simp [installed?, changeShelf, SortedMap.get?_modify_ite, hs]
  · simp [installed?, changeShelf, SortedMap.get?_modify_ite, h]

theorem enabled?_changeShelf (s : Store) (n : String) (f : Shelf → Shelf) (m : String) :
    (s.changeShelf n f).enabled? m =
      if m = n then (s.bundles.get? n).bind fun shelf => (f shelf).enabled else s.enabled? m := by
  by_cases h : m = n
  · subst h
    cases hs : s.bundles.get? m <;>
      simp [enabled?, changeShelf, SortedMap.get?_modify_ite, hs]
  · simp [enabled?, changeShelf, SortedMap.get?_modify_ite, h]

def withShelf (s : Store) (n : String) : Store :=
  { s with bundles := s.bundles.insertNew n Shelf.empty }

theorem get?_withShelf (s : Store) (n m : String) : (s.withShelf n).bundles.get? m =
    if m = n then some ((s.bundles.get? n).getD Shelf.empty) else s.bundles.get? m :=
  SortedMap.get?_insertNew_ite ..

theorem installed?_withShelf (s : Store) (n m : String) (w : Version) :
    (s.withShelf n).installed? m w = s.installed? m w := by
  rw [installed?, get?_withShelf]
  split
  · subst m
    cases hs : s.bundles.get? n <;> simp [installed?, hs, Shelf.empty]
  · rfl

theorem enabled?_withShelf (s : Store) (n m : String) : (s.withShelf n).enabled? m = s.enabled? m := by
  rw [enabled?, get?_withShelf]
  split
  · subst m
    cases hs : s.bundles.get? n <;> simp [enabled?, hs, Shelf.empty]
  · rfl

theorem hasVersion_eq (s : Store) (n : String) (v : Version) :
    s.hasVersion n v = (s.installed? n v).isSome := by
  unfold hasVersion installed?
  cases s.bundles.get? n <;> rfl

def put (s : Store) (n : String) (v : Version) (i : Installed) : Store :=
  (s.withShelf n).changeShelf n fun shelf => { shelf with versions := shelf.versions.insert v i }

theorem installed?_put (s : Store) (n : String) (v : Version) (i : Installed) (m : String)
    (w : Version) :
    (s.put n v i).installed? m w = if m = n ∧ w = v then some i else s.installed? m w := by
  rw [put, installed?_changeShelf, get?_withShelf, installed?_withShelf]
  by_cases hm : m = n
  · subst hm
    cases hs : s.bundles.get? m <;>
      simp [SortedMap.get?_insert_ite, installed?, hs, Shelf.empty]
  · simp [hm]

theorem enabled?_put (s : Store) (n : String) (v : Version) (i : Installed) (m : String) :
    (s.put n v i).enabled? m = s.enabled? m := by
  rw [put, enabled?_changeShelf, ← enabled?_withShelf s n m]
  split
  · subst m
    rfl
  · rfl

theorem contains_put (s : Store) (n : String) (v : Version) (i : Installed) (m : String) :
    (s.put n v i).bundles.contains m = (decide (m = n) || s.bundles.contains m) := by
  rw [put, changeShelf, SortedMap.contains_modify, SortedMap.contains, get?_withShelf]
  by_cases hm : m = n <;> simp [hm, SortedMap.contains]

def enable (s : Store) (n : String) (v : Version) : Store :=
  s.changeShelf n fun shelf => { shelf with enabled := some v }

theorem installed?_enable (s : Store) (n : String) (v : Version) (m : String) (w : Version) :
    (s.enable n v).installed? m w = s.installed? m w := by
  rw [enable, installed?_changeShelf]
  split
  · subst m
    rfl
  · rfl

theorem enabled?_enable {s : Store} {n : String} {v : Version} (h : s.bundles.contains n = true)
    (m : String) : (s.enable n v).enabled? m = if m = n then some v else s.enabled? m := by
  obtain ⟨shelf, hs⟩ := (SortedMap.contains_iff _ _).1 h
  rw [enable, enabled?_changeShelf, hs, Option.bind_some]

theorem contains_of_installed {i : Installed} (h : s.installed? n v = some i) :
    s.bundles.contains n = true := contains_of_hasVersion (by rw [hasVersion_eq, h]; rfl)

theorem createBundle_ok {b : Bundle} (h : (createBundle b).run s = (.ok (), t)) :
    ∃ v i, b.validate = .ok v ∧ Installed.compile s.engine b = .ok i ∧ s.installed? b.name v = none ∧
      t = if b.enabled then (s.put b.name v i).enable b.name v else s.put b.name v i := by
  obtain ⟨v, hv, h⟩ := run_check_bind_ok.1 h
  obtain ⟨i, hi, h⟩ := run_ask_bind_ok.1 h
  rw [run_change_bind, run_ask_unit_bind_ok, run_change_bind] at h
  obtain ⟨hn, h⟩ := h
  change (if (s.withShelf b.name).hasVersion b.name v = true then _ else _) = _ at hn
  rw [hasVersion_eq, installed?_withShelf] at hn
  refine ⟨v, i, hv, hi, ?_, ?_⟩
  · split at hn
    · cases hn
    · exact Option.not_isSome_iff_eq_none.1 ‹_›
  · cases hb : b.enabled <;> rw [hb] at h <;> cases h <;> rfl

theorem enableBundle_ok {text : String} (h : (enableBundle n text).run s = (.ok (), t)) :
    ∃ v, s.locate n text = .ok v ∧ t = s.enable n v := by
  obtain ⟨v, hv, h⟩ := run_ask_bind_ok.1 h
  cases h
  exact ⟨v, hv, rfl⟩

/-- The store with that version of the name disabled, if it was enabled. -/
def disable (s : Store) (n : String) (v : Version) : Store :=
  s.changeShelf n fun shelf => if shelf.enabled = some v then { shelf with enabled := none } else shelf

theorem installed?_disable (s : Store) (n : String) (v : Version) (m : String) (w : Version) :
    (s.disable n v).installed? m w = s.installed? m w := by
  rw [disable, installed?_changeShelf]
  split
  · subst m
    cases hs : s.bundles.get? n with
    | none => simp [installed?, hs]
    | some shelf =>
      rw [installed?, hs, Option.bind_some, Option.bind_some]
      split <;> rfl
  · rfl

theorem enabled?_disable (s : Store) (n : String) (v : Version) (m : String) :
    (s.disable n v).enabled? m = if m = n ∧ s.enabled? n = some v then none else s.enabled? m := by
  rw [disable, enabled?_changeShelf]
  by_cases hm : m = n
  · subst hm
    cases hs : s.bundles.get? m with
    | none => simp [enabled?, hs]
    | some shelf => by_cases hv : shelf.enabled = some v <;> simp [enabled?, hs, hv]
  · simp [hm]

theorem disableBundle_ok {text : String} (h : (disableBundle n text).run s = (.ok (), t)) :
    ∃ v, s.locate n text = .ok v ∧ t = s.disable n v := by
  obtain ⟨v, hv, h⟩ := run_ask_bind_ok.1 h
  cases h
  exact ⟨v, hv, rfl⟩

/-- The store without that version; a name without versions is forgotten. -/
def withdraw (s : Store) (n : String) (v : Version) : Store :=
  let u := s.changeShelf n fun shelf => shelf.remove v
  if (u.bundles.get? n).any (·.versions.isEmpty) then { u with bundles := u.bundles.erase n } else u

theorem deleteBundle_ok {text : String} (h : (deleteBundle n text).run s = (.ok (), t)) :
    ∃ v, s.locate n text = .ok v ∧ t = s.withdraw n v := by
  obtain ⟨v, hv, h⟩ := run_ask_bind_ok.1 h
  cases h
  exact ⟨v, hv, rfl⟩

theorem get?_withdraw (s : Store) (n : String) (v : Version) (m : String) :
    (s.withdraw n v).bundles.get? m =
      if m = n then (s.bundles.get? n).bind fun shelf =>
        if (shelf.remove v).versions.isEmpty then none else some (shelf.remove v)
      else s.bundles.get? m := by
  unfold withdraw changeShelf
  by_cases hm : m = n
  · subst hm
    cases hs : s.bundles.get? m with
    | none => simp [SortedMap.get?_modify_ite, hs]
    | some shelf =>
      cases he : (shelf.remove v).versions.isEmpty <;>
        simp [SortedMap.get?_modify_ite, SortedMap.get?_erase_ite, hs, he]
  · rw [if_neg hm]
    dsimp only
    split
    · simp [SortedMap.get?_modify_ite, SortedMap.get?_erase_ite, hm]
    · simp [SortedMap.get?_modify_ite, hm]

theorem installed?_withdraw (s : Store) (n : String) (v : Version) (m : String) (w : Version) :
    (s.withdraw n v).installed? m w = if m = n ∧ w = v then none else s.installed? m w := by
  rw [installed?, get?_withdraw]
  by_cases hm : m = n
  · subst hm
    cases hs : s.bundles.get? m with
    | none => simp [installed?, hs]
    | some shelf =>
      have hr : (shelf.remove v).versions.get? w = if w = v then none else shelf.versions.get? w :=
        SortedMap.get?_erase_ite ..
      simp only [Option.bind_some, true_and, if_true, installed?, hs, ← hr]
      split
      · rename_i he
        exact ((SortedMap.isEmpty_iff _).1 he w).symm
      · rfl
  · simp [installed?, hm]

theorem enabled?_withdraw (hs : s.ShelvesSound) (n : String) (v : Version) (m : String) :
    (s.withdraw n v).enabled? m = if m = n ∧ s.enabled? n = some v then none else s.enabled? m := by
  rw [enabled?, get?_withdraw]
  by_cases hm : m = n
  · subst hm
    cases hg : s.bundles.get? m with
    | none => simp [enabled?, hg]
    | some shelf =>
      have hr : (shelf.remove v).enabled = if shelf.enabled = some v then none else shelf.enabled := rfl
      simp only [Option.bind_some, true_and, if_true, enabled?, hg, ← hr]
      split
      · rename_i he
        rw [Option.bind_none, hr, eq_comm]
        split
        · rfl
        · rename_i hv
          cases hw : shelf.enabled with
          | none => rfl
          | some w =>
            obtain ⟨i, hi⟩ := hs.enabled m w (by simp [enabled?, hg, hw])
            have hne : w ≠ v := fun e => hv (e ▸ hw)
            have hnone : (shelf.versions.erase v).get? w = none := (SortedMap.isEmpty_iff _).1 he w
            rw [SortedMap.get?_erase_ite, if_neg hne] at hnone
            simp [installed?, hg, hnone] at hi
      · rfl
  · simp [enabled?, hm]

theorem contains_withdraw (s : Store) (n : String) (v : Version) (m : String)
    (h : (s.withdraw n v).bundles.contains m = true) : s.bundles.contains m = true := by
  obtain ⟨shelf, hs⟩ := (SortedMap.contains_iff _ _).1 h
  rw [get?_withdraw] at hs
  split at hs
  · subst m
    obtain ⟨old, ho, -⟩ := Option.bind_eq_some_iff.1 hs
    exact (SortedMap.contains_iff _ _).2 ⟨old, ho⟩
  · exact (SortedMap.contains_iff _ _).2 ⟨shelf, hs⟩

theorem shelvesSound_new (engine : Regex.Engine) : ShelvesSound (new engine) where
  named := rfl
  installed _ _ _ h := by cases h
  enabled _ _ h := by cases h

theorem ShelvesSound.congr (h : ShelvesSound s) (hb : t.bundles = s.bundles) : ShelvesSound t := by
  obtain ⟨h₁, h₂, h₃⟩ := h
  constructor <;> simp only [installed?, enabled?, hb] <;> assumption

theorem ShelvesSound.name_ne_empty (hs : ShelvesSound s) {i : Installed} (hi : s.installed? n v = some i) :
    n ≠ "" := by
  rintro rfl
  cases hs.named.symm.trans (contains_of_installed hi)

theorem ShelvesSound.put (hs : ShelvesSound s) {engine : Regex.Engine} {b : Bundle} {i : Installed}
    (hv : b.validate = .ok v) (hi : Installed.compile engine b = .ok i) : ShelvesSound (s.put b.name v i) := by
  obtain ⟨hn, hv⟩ := Bundle.validate_ok hv
  have hb := Installed.compile_ok hi
  constructor
  · simp [contains_put, Ne.symm hn, hs.named]
  · intro m w j h
    rw [installed?_put] at h
    split at h
    · rename_i hm
      cases h
      obtain ⟨rfl, rfl⟩ := hm
      exact ⟨by rw [hb], by rw [hb]; exact hv, by rw [hb]⟩
    · exact hs.installed m w j h
  · intro m w h
    rw [enabled?_put] at h
    rw [installed?_put]
    split
    · exact ⟨i, rfl⟩
    · exact hs.enabled m w h

theorem ShelvesSound.enable (hs : ShelvesSound s) {i : Installed} (hi : s.installed? n v = some i) :
    ShelvesSound (s.enable n v) := by
  constructor
  · exact (SortedMap.contains_modify ..).trans hs.named
  · intro m w j h
    rw [installed?_enable] at h
    exact hs.installed m w j h
  · intro m w h
    rw [enabled?_enable (contains_of_installed hi)] at h
    rw [installed?_enable]
    split at h
    · rename_i hm
      cases h
      exact ⟨i, hm ▸ hi⟩
    · exact hs.enabled m w h

theorem ShelvesSound.disable (hs : ShelvesSound s) (n : String) (v : Version) :
    ShelvesSound (s.disable n v) := by
  constructor
  · exact (SortedMap.contains_modify ..).trans hs.named
  · intro m w j h
    rw [installed?_disable] at h
    exact hs.installed m w j h
  · intro m w h
    rw [enabled?_disable] at h
    rw [installed?_disable]
    split at h
    · cases h
    · exact hs.enabled m w h

theorem ShelvesSound.withdraw (hs : ShelvesSound s) (n : String) (v : Version) :
    ShelvesSound (s.withdraw n v) := by
  constructor
  · rw [Bool.eq_false_iff]
    intro h
    exact Bool.false_ne_true (hs.named.symm.trans (contains_withdraw _ _ _ _ h))
  · intro m w j h
    rw [installed?_withdraw] at h
    split at h
    · cases h
    · exact hs.installed m w j h
  · intro m w h
    rw [enabled?_withdraw hs] at h
    rw [installed?_withdraw]
    split at h
    · cases h
    · rename_i hm
      rw [if_neg (fun he => hm ⟨he.1, by rw [← he.1, h, he.2]⟩)]
      exact hs.enabled m w h

theorem ShelvesSound.step (hs : ShelvesSound s) {c : Call} {r : c.Reply} (h : perform c s = (.ok r, t)) :
    ShelvesSound t := by
  by_cases hp : c.part? = some .bundles
  · cases c with
    | bundleCreate b =>
      obtain ⟨v, i, hv, hi, -, rfl⟩ := createBundle_ok h
      have := hs.put hv hi
      split
      · exact this.enable (i := i) (by simp [installed?_put])
      · exact this
    | bundleDelete n text =>
      obtain ⟨v, -, rfl⟩ := deleteBundle_ok h
      exact hs.withdraw n v
    | bundleEnable n text =>
      obtain ⟨v, hv, rfl⟩ := enableBundle_ok h
      obtain ⟨-, -, i, hi⟩ := locate_ok.1 hv
      exact hs.enable hi
    | bundleDisable n text =>
      obtain ⟨v, -, rfl⟩ := disableBundle_ok h
      exact hs.disable n v
    | _ => cases hp
  · have := perform_bundles hp s
    rw [h] at this
    exact hs.congr this

theorem Reachable.shelvesSound (h : Reachable s) : ShelvesSound s :=
  h.induction shelvesSound_new fun _ _ _ _ _ hs hp => hs.step hp

end Store

end ChatRouter
