import ChatRouter.Proofs.Store.Shelves

set_option autoImplicit false

/-!
# Which version is enabled

What is installed and which version is enabled as the history of the calls on bundles, and what the lists
and look-ups of the store show of it.
-/

namespace ChatRouter

theorem Bundle.same_unflagged_iff (d b : Bundle) :
    { d with enabled := false } = { b with enabled := false } ↔ ∃ flag, d = { b with enabled := flag } := by
  constructor
  · intro h
    obtain ⟨_, _, flag, _, _, _, _⟩ := d
    cases b
    cases h
    exact ⟨flag, rfl⟩
  · rintro ⟨flag, rfl⟩
    rfl

namespace Call

def Installs (b : Bundle) (c : Call) : Prop := ∃ flag, c = .bundleCreate { b with enabled := flag }

def Deletes (n : String) (v : Version) (c : Call) : Prop :=
  ∃ text, c = .bundleDelete n text ∧ Version.coerce text = .ok v

def Disables (n : String) (v : Version) (c : Call) : Prop :=
  ∃ text, c = .bundleDisable n text ∧ Version.coerce text = .ok v

def Enables (n : String) (v : Version) (c : Call) : Prop :=
  (∃ text, c = .bundleEnable n text ∧ Version.coerce text = .ok v) ∨
    ∃ b, c = .bundleCreate b ∧ b.enabled = true ∧ b.name = n ∧ Version.coerce b.version = .ok v

/-- Deletes or disables the version, or enables another one of the name. -/
def Retires (n : String) (v : Version) (c : Call) : Prop :=
  c.Deletes n v ∨ c.Disables n v ∨ ∃ w, w ≠ v ∧ c.Enables n w

theorem part_of_installs {b : Bundle} {c : Call} (h : c.Installs b) : c.part? = some .bundles := by
  obtain ⟨_, rfl⟩ := h
  rfl

theorem part_of_enables {n : String} {v : Version} {c : Call} (h : c.Enables n v) :
    c.part? = some .bundles := by
  rcases h with ⟨_, rfl, -⟩ | ⟨_, rfl, -⟩ <;> rfl

theorem part_of_retires {n : String} {v : Version} {c : Call} (h : c.Retires n v) :
    c.part? = some .bundles := by
  rcases h with ⟨_, rfl, -⟩ | ⟨_, rfl, -⟩ | ⟨_, -, h⟩
  · rfl
  · rfl
  · exact part_of_enables h

theorem not_enables_of_retires {n : String} {v : Version} {c : Call} (h : c.Retires n v) :
    ¬ c.Enables n v := by
  rintro (⟨text, rfl, hv⟩ | ⟨b, rfl, -, -, hv⟩)
  · rcases h with ⟨_, h, -⟩ | ⟨_, h, -⟩ | ⟨w, hw, ⟨_, h, hv'⟩ | ⟨_, h, -⟩⟩ <;> cases h
    exact hw (Except.ok.inj (hv'.symm.trans hv))
  · rcases h with ⟨_, h, -⟩ | ⟨_, h, -⟩ | ⟨w, hw, ⟨_, h, -⟩ | ⟨_, h, -, -, hv'⟩⟩ <;> cases h
    exact hw (Except.ok.inj (hv'.symm.trans hv))

end Call

namespace Store

variable {s t : Store} {c : Call} {n : String} {v : Version}

/-! ## The steps of one call -/

/-- The bundle is installed, with its flag aside. -/
def Holds (b : Bundle) (v : Version) (s : Store) : Prop :=
  ∃ i, s.installed? b.name v = some i ∧ i.bundle = { b with enabled := false }

theorem holds_congr {b : Bundle} (h : t.installed? b.name v = s.installed? b.name v) :
    Holds b v t ↔ Holds b v s := by
  unfold Holds
  rw [h]

theorem holds_create {d b : Bundle} {r : (Call.bundleCreate d).Reply}
    (h : perform (.bundleCreate d) s = (.ok r, t)) (hb : Version.coerce b.version = .ok v) :
    Holds b v t ↔ (Call.bundleCreate d).Installs b ∨ Holds b v s := by
  obtain ⟨w, i, hw, hi, hnew, ht⟩ := createBundle_ok h
  obtain ⟨-, hw⟩ := Bundle.validate_ok hw
  have look : t.installed? b.name v =
      if b.name = d.name ∧ v = w then some i else s.installed? b.name v := by
    rw [ht]
    split <;> simp only [installed?_enable, installed?_put]
  by_cases he : b.name = d.name ∧ v = w
  · have hs : ¬ Holds b v s := by
      rintro ⟨j, hj, -⟩
      rw [he.1, he.2, hnew] at hj
      cases hj
    rw [if_pos he] at look
    have ht : Holds b v t ↔ ∃ flag, d = { b with enabled := flag } := by
      rw [← Bundle.same_unflagged_iff, ← Installed.compile_ok hi]
      unfold Holds
      rw [look]
      exact ⟨fun ⟨_, hj, hb⟩ => Option.some.inj hj ▸ hb, fun hb => ⟨i, rfl, hb⟩⟩
    simp [ht, hs, Call.Installs]
  · rw [if_neg he] at look
    have hn : ¬ (Call.bundleCreate d).Installs b := by
      rintro ⟨flag, hd⟩
      cases hd
      exact he ⟨rfl, Except.ok.inj (hb.symm.trans hw)⟩
    rw [holds_congr look]
    simp [hn]

theorem holds_delete {m text : String} {b : Bundle} {r : (Call.bundleDelete m text).Reply}
    (h : perform (.bundleDelete m text) s = (.ok r, t)) :
    Holds b v t ↔ Holds b v s ∧ ¬ (Call.bundleDelete m text).Deletes b.name v := by
  obtain ⟨w, hl, rfl⟩ := deleteBundle_ok h
  obtain ⟨-, hw, -⟩ := locate_ok.1 hl
  have look := installed?_withdraw s m w b.name v
  by_cases he : b.name = m ∧ v = w
  · obtain ⟨rfl, rfl⟩ := he
    simp [Holds, look, Call.Deletes, hw]
  · rw [if_neg he] at look
    have hn : ¬ (Call.bundleDelete m text).Deletes b.name v := by
      rintro ⟨_, hd, hv⟩
      cases hd
      exact he ⟨rfl, Except.ok.inj (hv.symm.trans hw)⟩
    rw [holds_congr look]
    simp [hn]

theorem holds_step {r : c.Reply} (h : perform c s = (.ok r, t)) {b : Bundle}
    (hb : Version.coerce b.version = .ok v) :
    Holds b v t ↔ c.Installs b ∨ (Holds b v s ∧ ¬ c.Deletes b.name v) := by
  by_cases hp : c.part? = some .bundles
  · cases c with
    | bundleCreate d =>
      rw [holds_create h hb]
      simp [Call.Deletes]
    | bundleDelete m text =>
      rw [holds_delete h]
      simp [Call.Installs]
    | bundleEnable m text =>
      obtain ⟨w, hw, rfl⟩ := enableBundle_ok h
      rw [holds_congr (installed?_enable ..)]
      simp [Call.Installs, Call.Deletes]
    | bundleDisable m text =>
      obtain ⟨w, hw, rfl⟩ := disableBundle_ok h
      rw [holds_congr (installed?_disable ..)]
      simp [Call.Installs, Call.Deletes]
    | _ => cases hp
  · have := perform_bundles hp s
    rw [h] at this
    have look : t.installed? b.name v = s.installed? b.name v := by simp only [installed?, ← this]
    rw [holds_congr look]
    have hi : ¬ c.Installs b := fun hi => hp (Call.part_of_installs hi)
    have hd : ¬ c.Deletes b.name v := fun hd => hp (Call.part_of_retires (.inl hd))
    simp [hi, hd]

theorem enabled_step_of_enables {m : String} {w : Version}
    (he : ∀ n v, c.Enables n v ↔ m = n ∧ w = v) (hd : ∀ n v, ¬ c.Deletes n v)
    (hi : ∀ n v, ¬ c.Disables n v) (ht : t.enabled? n = if n = m then some w else s.enabled? n) :
    t.enabled? n = some v ↔ c.Enables n v ∨ (s.enabled? n = some v ∧ ¬ c.Retires n v) := by
  rw [ht]
  by_cases hn : n = m
  · subst hn
    by_cases hw : w = v
    · simp [he, hw]
    · have : c.Retires n v := .inr (.inr ⟨w, hw, (he n w).2 ⟨rfl, rfl⟩⟩)
      simp [he, hw, this]
  · simp [he, hd, hi, Call.Retires, hn, Ne.symm hn]

theorem enabled_step_of_retires {m : String} {w : Version} (he : ∀ n v, ¬ c.Enables n v)
    (hr : ∀ n v, c.Retires n v ↔ m = n ∧ w = v)
    (ht : t.enabled? n = if n = m ∧ s.enabled? m = some w then none else s.enabled? n) :
    t.enabled? n = some v ↔ c.Enables n v ∨ (s.enabled? n = some v ∧ ¬ c.Retires n v) := by
  rw [ht]
  by_cases hn : n = m
  · subst hn
    by_cases hs : s.enabled? n = some w
    · simp [he, hr, hs]
    · have : s.enabled? n = some v → w ≠ v := fun h hw => hs (hw ▸ h)
      simpa [he, hr, hs] using this
  · simp [he, hr, hn, Ne.symm hn]

theorem enabled_step_of_idle (he : ¬ c.Enables n v) (hr : ¬ c.Retires n v)
    (ht : t.enabled? n = s.enabled? n) :
    t.enabled? n = some v ↔ c.Enables n v ∨ (s.enabled? n = some v ∧ ¬ c.Retires n v) := by
  simp [ht, he, hr]

theorem coerce_eq_iff {text : String} {w : Version} (hw : Version.coerce text = .ok w) (v : Version) :
    Version.coerce text = .ok v ↔ w = v := by
  rw [hw, Except.ok.injEq]

theorem enabled_step (hs : s.ShelvesSound) {r : c.Reply} (h : perform c s = (.ok r, t)) (n : String)
    (v : Version) :
    t.enabled? n = some v ↔ c.Enables n v ∨ (s.enabled? n = some v ∧ ¬ c.Retires n v) := by
  by_cases hp : c.part? = some .bundles
  · cases c with
    | bundleCreate b =>
      obtain ⟨w, i, hw, -, -, rfl⟩ := createBundle_ok h
      obtain ⟨-, hw⟩ := Bundle.validate_ok hw
      have hc := coerce_eq_iff hw
      cases hb : b.enabled with
      | true =>
        refine enabled_step_of_enables (m := b.name) (w := w) ?_ ?_ ?_ ?_
        · simp [Call.Enables, hb, hc]
        · simp [Call.Deletes]
        · simp [Call.Disables]
        · rw [if_pos rfl, enabled?_enable (by simp [contains_put]), enabled?_put]
      | false =>
        refine enabled_step_of_idle ?_ ?_ (enabled?_put ..)
        · simp [Call.Enables, hb]
        · simp [Call.Retires, Call.Deletes, Call.Disables, Call.Enables, hb]
    | bundleDelete m text =>
      obtain ⟨w, hl, rfl⟩ := deleteBundle_ok h
      obtain ⟨-, hw, -⟩ := locate_ok.1 hl
      have hc := coerce_eq_iff hw
      refine enabled_step_of_retires (m := m) (w := w) ?_ ?_ (enabled?_withdraw hs ..)
      · simp [Call.Enables]
      · simp [Call.Retires, Call.Deletes, Call.Disables, Call.Enables, hc]
    | bundleEnable m text =>
      obtain ⟨w, hl, rfl⟩ := enableBundle_ok h
      obtain ⟨-, hw, i, hi⟩ := locate_ok.1 hl
      have hc := coerce_eq_iff hw
      refine enabled_step_of_enables (m := m) (w := w) ?_ ?_ ?_ ?_
      · simp [Call.Enables, hc]
      · simp [Call.Deletes]
      · simp [Call.Disables]
      · exact enabled?_enable (contains_of_installed hi) n
    | bundleDisable m text =>
      obtain ⟨w, hl, rfl⟩ := disableBundle_ok h
      obtain ⟨-, hw, -⟩ := locate_ok.1 hl
      have hc := coerce_eq_iff hw
      refine enabled_step_of_retires (m := m) (w := w) ?_ ?_ (enabled?_disable ..)
      · simp [Call.Enables]
      · simp [Call.Retires, Call.Deletes, Call.Disables, Call.Enables, hc]
    | _ => cases hp
  · have := perform_bundles hp s
    rw [h] at this
    refine enabled_step_of_idle (fun he => hp (Call.part_of_enables he))
      (fun hr => hp (Call.part_of_retires hr)) ?_
    simp only [enabled?, ← this]

theorem holds_iff (b : Bundle) {v : Version} (hb : Version.coerce b.version = .ok v)
    (engine : Regex.Engine) (calls : List Call) : Holds b v (after calls (new engine)) ↔
      InForce (·.Installs b) (·.Deletes b.name v) (successes calls (new engine)) := by
  refine holds_iff_inForce ?_ ?_ calls
  · rintro ⟨i, hi, -⟩
    cases hi
  · exact fun _ _ _ _ _ h => holds_step h hb

theorem enabled_iff (n : String) (v : Version) (engine : Regex.Engine) (calls : List Call) :
    (after calls (new engine)).enabled? n = some v ↔
      InForce (·.Enables n v) (·.Retires n v) (successes calls (new engine)) := by
  refine holds_iff_inForce (P := fun s => s.enabled? n = some v) ?_ ?_ calls
  · intro h
    cases h
  · exact fun _ _ _ _ hr h => enabled_step hr.shelvesSound h n v

theorem not_enabled_after {more : List Call} (hr : s.Reachable) (h : s.enabled? n ≠ some v)
    (hm : ∀ c ∈ successes more s, ¬ c.Enables n v) : (after more s).enabled? n ≠ some v := by
  induction more generalizing s with
  | nil => exact h
  | cons c more ih =>
    cases hp : (perform c s).1 with
    | error e =>
      simp only [successes, hp, Except.isOk, Except.toBool, Bool.false_eq_true, if_false] at hm
      refine ih (hr.perform c) ?_ hm
      change (perform c s).2.enabled? n ≠ some v
      rwa [perform_refused hp]
    | ok r =>
      simp only [successes, hp, Except.isOk, Except.toBool, if_true, List.mem_cons,
        forall_eq_or_imp] at hm
      refine ih (hr.perform c) (fun hv => ?_) hm.2
      rcases (enabled_step hr.shelvesSound (Prod.ext hp rfl) n v).1 hv with he | ⟨hs, -⟩
      · exact hm.1 he
      · exact h hs

/-! ## What the store shows -/

def shown (s : Store) (n : String) (v : Version) (i : Installed) : Bundle :=
  { i.bundle with enabled := s.enabled? n == some v }

theorem versionList_eq (hn : n ≠ "") :
    s.versionList n = .ok (((s.bundles.get? n).map Shelf.list).getD []) := by
  rw [versionList, if_neg (by simpa using hn)]

theorem mem_versions_iff (s : Store) (n : String) (b : Bundle) :
    b ∈ ((s.bundles.get? n).map Shelf.list).getD [] ↔
      ∃ v i, s.installed? n v = some i ∧ s.shown n v i = b := by
  cases hs : s.bundles.get? n with
  | none => simp [installed?, hs]
  | some shelf =>
    simp only [Option.map_some, Option.getD_some, Shelf.list, List.mem_map, Prod.exists,
      SortedMap.mem_entries_iff, installed?, hs, Option.bind_some, shown, enabled?]
    rfl

theorem mem_versions_iff_holds (hs : s.ShelvesSound) (n : String) (b : Bundle) :
    b ∈ ((s.bundles.get? n).map Shelf.list).getD [] ↔ b.name = n ∧ ∃ v,
      Version.coerce b.version = .ok v ∧ Holds b v s ∧ (b.enabled = true ↔ s.enabled? n = some v) := by
  rw [mem_versions_iff]
  constructor
  · rintro ⟨v, i, hi, rfl⟩
    obtain ⟨hname, hversion, hflag⟩ := hs.installed n v i hi
    refine ⟨hname, v, hversion, ⟨i, ?_, ?_⟩, beq_iff_eq⟩
    · rwa [show (s.shown n v i).name = n from hname]
    · unfold shown
      rw [← hflag]
  · rintro ⟨rfl, v, -, ⟨i, hi, hb⟩, hflag⟩
    refine ⟨v, i, hi, ?_⟩
    have : (s.enabled? b.name == some v) = b.enabled := by
      rw [Bool.eq_iff_iff, hflag, beq_iff_eq]
    rw [shown, hb, this]

theorem length_filter_key_le {κ α : Type} [Ord κ] [Std.LawfulEqOrd κ] [BEq κ] [LawfulBEq κ]
    {entries : List (κ × α)} (h : Entries.Sorted entries) (k : κ) :
    (entries.filter fun e => k == e.1).length ≤ 1 := by
  have hp : (entries.filter fun e => k == e.1).Pairwise fun a b => compare a.1 b.1 = .lt :=
    List.Pairwise.filter _ h
  have hk : ∀ e ∈ entries.filter fun e => k == e.1, k = e.1 := fun e he =>
    beq_iff_eq.1 (List.mem_filter.1 he).2
  cases hl : entries.filter fun e => k == e.1 with
  | nil => exact Nat.zero_le 1
  | cons e rest =>
    cases rest with
    | nil => exact Nat.le_refl 1
    | cons f rest =>
      rw [hl] at hp hk
      have hlt := List.rel_of_pairwise_cons hp (List.mem_cons_self ..)
      rw [← hk e (by simp), ← hk f (by simp), Std.LawfulEqOrd.compare_eq_iff_eq.2 rfl] at hlt
      cases hlt

theorem length_enabled_le (s : Store) (n : String) :
    ((((s.bundles.get? n).map Shelf.list).getD []).filter (·.enabled)).length ≤ 1 := by
  cases hs : s.bundles.get? n with
  | none => exact Nat.zero_le 1
  | some shelf =>
    simp only [Option.map_some, Option.getD_some, Shelf.list, List.filter_map, List.length_map]
    cases he : shelf.enabled with
    | none =>
      rw [List.filter_eq_nil_iff.2 fun _ _ => by simp [Shelf.shown, he]]
      exact Nat.zero_le 1
    | some v =>
      have := length_filter_key_le shelf.versions.sorted v
      simpa [Function.comp_def, Shelf.shown, he] using this

theorem mem_current_iff (s : Store) (n text : String) :
    ((s.enabled? n).bind fun v => (s.installed? n v).map (·.bundle.version)) = some text ↔
      ∃ b ∈ ((s.bundles.get? n).map Shelf.list).getD [], b.enabled = true ∧ b.version = text := by
  simp only [mem_versions_iff, Option.bind_eq_some_iff, Option.map_eq_some_iff]
  constructor
  · rintro ⟨v, hv, i, hi, ht⟩
    exact ⟨s.shown n v i, ⟨v, i, hi, rfl⟩, beq_iff_eq.2 hv, ht⟩
  · rintro ⟨b, ⟨v, i, hi, rfl⟩, hb, ht⟩
    exact ⟨v, beq_iff_eq.1 hb, i, hi, ht⟩

theorem enabledVersion_eq (hn : n ≠ "") : s.enabledVersion n =
    .ok ((s.enabled? n).bind fun v => (s.installed? n v).map (·.bundle.version)) := by
  rw [enabledVersion, if_neg (by simpa using hn)]
  cases hs : s.bundles.get? n with
  | none => simp [enabled?, hs]
  | some shelf =>
    simp only [Option.bind_some, enabled?, installed?, hs, Shelf.current]
    cases shelf.enabled <;> rfl

theorem bundle_ok {text : String} {b : Bundle} : s.bundle n text = .ok b ↔
    n ≠ "" ∧ ∃ v i, Version.coerce text = .ok v ∧ s.installed? n v = some i ∧ s.shown n v i = b := by
  unfold bundle
  constructor
  · intro h
    split at h
    · cases h
    · rename_i v hl
      obtain ⟨hn, hv, i, hi⟩ := locate_ok.1 hl
      obtain ⟨shelf, hs, hi'⟩ := Option.bind_eq_some_iff.1 hi
      simp only [hs, hi'] at h
      cases h
      exact ⟨hn, v, i, hv, hi, by simp [shown, enabled?, hs, Shelf.shown]⟩
  · rintro ⟨hn, v, i, hv, hi, rfl⟩
    rw [locate_ok.2 ⟨hn, hv, i, hi⟩]
    obtain ⟨shelf, hs, hi'⟩ := Option.bind_eq_some_iff.1 hi
    simp [hs, hi', shown, enabled?, Shelf.shown]

theorem mem_currentOf_iff (s : Store) (i : Installed) : i ∈ s.currentOf "" ↔
    ∃ n v, s.enabled? n = some v ∧ s.installed? n v = some i := by
  simp only [currentOf, List.mem_filterMap, List.mem_filter, Prod.exists, SortedMap.mem_entries_iff]
  constructor
  · rintro ⟨n, shelf, ⟨hs, -⟩, hc⟩
    obtain ⟨v, hv, hi⟩ := Option.bind_eq_some_iff.1 hc
    exact ⟨n, v, by simp [enabled?, hs, hv], by simp [installed?, hs, hi]⟩
  · rintro ⟨n, v, hv, hi⟩
    obtain ⟨shelf, hs, hv⟩ := Option.bind_eq_some_iff.1 hv
    rw [installed?, hs, Option.bind_some] at hi
    exact ⟨n, shelf, ⟨hs, rfl⟩, by rw [Shelf.current, hv, Option.bind_some, hi]⟩

def listing (s : Store) : List (Bundle × String × Command) :=
  (s.currentOf "").flatMap fun i =>
    i.bundle.commands.entries.map fun e => ({ i.bundle with enabled := true }, e.1, e.2)

def ListedBefore (x y : Bundle × String × Command) : Prop :=
  compare x.1.name y.1.name = .lt ∨ x.1.name = y.1.name ∧ compare x.2.1 y.2.1 = .lt

theorem findEntries_eq (s : Store) :
    s.findEntries "" "" = s.listing.map fun x => ⟨x.1, x.2.2⟩ := by
  have all (i : Installed) : i.entriesNamed "" = i.bundle.commands.values.map i.entry := by
    rw [Installed.entriesNamed]
    exact congrArg (List.map i.entry) (List.filter_eq_self.2 fun _ _ => rfl)
  simp only [findEntries, listing, all, List.map_flatMap, List.map_map, SortedMap.values]
  rfl

theorem mem_listing_iff (hs : s.ShelvesSound) (b : Bundle) (k : String) (c : Command) :
    (b, k, c) ∈ s.listing ↔
      b.enabled = true ∧ (k, c) ∈ b.commands.entries ∧ s.bundle b.name b.version = .ok b := by
  simp only [listing, List.mem_flatMap, List.mem_map, mem_currentOf_iff, bundle_ok]
  constructor
  · rintro ⟨i, ⟨n, v, hv, hi⟩, ⟨k, c⟩, hc, he⟩
    cases he
    obtain ⟨hname, hversion, hflag⟩ := hs.installed n v i hi
    refine ⟨rfl, hc, ?_, v, i, hversion, ?_, ?_⟩
    · rw [hname]
      exact hs.name_ne_empty hi
    · rw [hname]
      exact hi
    · simp [shown, hname, hv]
  · rintro ⟨hb, hc, -, v, i, -, hi, he⟩
    rw [← he] at hb hc ⊢
    obtain ⟨hname, -, -⟩ := hs.installed _ v i hi
    have hv : s.enabled? b.name = some v := by simpa [shown] using hb
    refine ⟨i, ⟨b.name, v, hv, hi⟩, (k, c), hc, ?_⟩
    simp [shown, hv]

theorem listing_sorted (hs : s.ShelvesSound) : s.listing.Pairwise ListedBefore := by
  unfold listing
  refine List.pairwise_flatMap.2 ⟨fun i _ => ?_, ?_⟩
  · -- Within a bundle the keys increase.
    refine List.Pairwise.map _ (fun d e h => ?_) i.bundle.commands.sorted
    exact .inr ⟨rfl, h⟩
  · -- From bundle to bundle the names do, which are the keys of the shelves.
    refine List.pairwise_filterMap.2 ?_
    refine List.Pairwise.imp_of_mem ?_ (List.Pairwise.filter _ s.bundles.sorted)
    rintro ⟨n, p⟩ ⟨m, q⟩ hn hm h i hi j hj x hx y hy
    have name {n : String} {p : Shelf} {i : Installed} (hn : (n, p) ∈ s.bundles.entries)
        (hi : p.current = some i) : i.bundle.name = n := by
      obtain ⟨v, -, hi⟩ := Option.bind_eq_some_iff.1 hi
      have hp := (SortedMap.mem_entries_iff _ _ _).1 hn
      exact (hs.installed n v i (by rw [installed?, hp, Option.bind_some, hi])).1
    obtain ⟨d, -, rfl⟩ := List.mem_map.1 hx
    obtain ⟨e, -, rfl⟩ := List.mem_map.1 hy
    refine .inl ?_
    change compare i.bundle.name j.bundle.name = .lt
    rw [name (List.mem_filter.1 hn).1 hi, name (List.mem_filter.1 hm).1 hj]
    exact h

theorem findTriggered_subset (s : Store) (text : String) :
    ∀ e ∈ s.findTriggered text, e ∈ s.findEntries "" "" := by
  intro e he
  obtain ⟨i, hi, he⟩ := List.mem_flatMap.1 he
  refine List.mem_flatMap.2 ⟨i, hi, ?_⟩
  obtain ⟨⟨name, patterns⟩, -, he⟩ := List.mem_filterMap.1 he
  simp only at he
  split at he
  · obtain ⟨c, hc, rfl⟩ := Option.map_eq_some_iff.1 he
    refine List.mem_map.2 ⟨c, List.mem_filter.2 ⟨?_, rfl⟩, rfl⟩
    exact (SortedMap.mem_values_iff _ _).2 ⟨name, hc⟩
  · cases he

theorem name_ne_empty {r : c.Reply} (h : perform c s = (.ok r, t)) (hc : c.Enables n v ∨ c.Retires n v) :
    n ≠ "" := by
  have enables {w : Version} (he : c.Enables n w) : n ≠ "" := by
    rcases he with ⟨text, rfl, -⟩ | ⟨b, rfl, -, rfl, -⟩
    · obtain ⟨w, hl, -⟩ := enableBundle_ok h
      exact (locate_ok.1 hl).1
    · obtain ⟨w, i, hw, -⟩ := createBundle_ok h
      exact (Bundle.validate_ok hw).1
  rcases hc with he | ⟨text, rfl, -⟩ | ⟨text, rfl, -⟩ | ⟨w, -, he⟩
  · exact enables he
  · obtain ⟨w, hl, -⟩ := deleteBundle_ok h
    exact (locate_ok.1 hl).1
  · obtain ⟨w, hl, -⟩ := disableBundle_ok h
    exact (locate_ok.1 hl).1
  · exact enables he

/-- What is installed and what is enabled is the history of the calls on bundles. At most one version of
a name is enabled, and look-ups find the commands of enabled versions only. -/
theorem bundles_follow_history (engine : Regex.Engine) (calls : List Call) :
    let s := after calls (new engine)
    let log := successes calls (new engine)
    (∀ n, n ≠ "" → ∃ bundles enabled,
      (perform (.bundleListVersions n) s).1 = .ok bundles ∧
      (perform (.bundleEnabledVersion n) s).1 = .ok enabled ∧
      (bundles.filter (·.enabled)).length ≤ 1 ∧
      (∀ text, enabled = some text ↔ ∃ b ∈ bundles, b.enabled = true ∧ b.version = text) ∧
      ∀ b, b ∈ bundles ↔ b.name = n ∧ ∃ v, Version.coerce b.version = .ok v ∧
        InForce (·.Installs b) (·.Deletes n v) log ∧
        (b.enabled = true ↔ InForce (·.Enables n v) (·.Retires n v) log)) ∧
    (∀ c n v, (perform c s).1.isOk = true → c.Enables n v →
      Answers (perform c s).2 (.bundleEnabledVersion n) fun enabled =>
        ∃ text, enabled = some text ∧ Version.coerce text = .ok v) ∧
    (∀ c n v more, (perform c s).1.isOk = true → c.Retires n v →
      (∀ d ∈ successes more (perform c s).2, ¬ d.Enables n v) →
      Answers (after more (perform c s).2) (.bundleEnabledVersion n) fun enabled =>
        ∀ text, enabled = some text → Version.coerce text ≠ .ok v) ∧
    ∃ listed : List (Bundle × String × Command),
      (perform (.findCommandEntry "" "") s).1 = .ok (listed.map fun x => ⟨x.1, x.2.2⟩) ∧
      listed.Pairwise ListedBefore ∧
      (∀ b k c, (b, k, c) ∈ listed ↔ b.enabled = true ∧ (k, c) ∈ b.commands.entries ∧
        (perform (.bundleGet b.name b.version) s).1 = .ok b) ∧
      ∀ text, ∃ found, (perform (.findCommandEntryByTrigger text) s).1 = .ok found ∧
        ∀ e ∈ found, e ∈ listed.map fun x => ⟨x.1, x.2.2⟩ := by
  intro s log
  have hr : Reachable s := ⟨_, calls, rfl⟩
  have hs := hr.shelvesSound
  refine ⟨fun n hn => ?_, fun c n v hc he => ?_, fun c n v more hc hret hm => ?_, s.listing, ?_, ?_, ?_, ?_⟩
  · refine ⟨_, _, versionList_eq hn, enabledVersion_eq hn, length_enabled_le s n, mem_current_iff s n, ?_⟩
    intro b
    rw [mem_versions_iff_holds hs]
    refine and_congr_right fun hb => exists_congr fun v => and_congr_right fun hv => ?_
    rw [holds_iff b hv, enabled_iff, hb]
  · obtain ⟨r, hp⟩ := exists_ok_of_isOk hc
    have hv := (enabled_step hs (Prod.ext hp rfl) n v).2 (.inl he)
    have hs' := (hr.perform c).shelvesSound
    obtain ⟨i, hi⟩ := hs'.enabled n v hv
    refine ⟨_, enabledVersion_eq (name_ne_empty (Prod.ext hp rfl) (.inl he)), i.bundle.version, ?_, ?_⟩
    · rw [hv, Option.bind_some, hi, Option.map_some]
    · exact (hs'.installed n v i hi).2.1
  · obtain ⟨r, hp⟩ := exists_ok_of_isOk hc
    have hv : (perform c s).2.enabled? n ≠ some v := fun hv => by
      rcases (enabled_step hs (Prod.ext hp rfl) n v).1 hv with he | ⟨-, hn⟩
      · exact Call.not_enables_of_retires hret he
      · exact hn hret
    have hr' := hr.perform c
    have hn := not_enabled_after hr' hv hm
    refine ⟨_, enabledVersion_eq (name_ne_empty (Prod.ext hp rfl) (.inr hret)), fun text ht hc => ?_⟩
    obtain ⟨w, hw, ht⟩ := Option.bind_eq_some_iff.1 ht
    obtain ⟨i, hi, rfl⟩ := Option.map_eq_some_iff.1 ht
    have := ((hr'.after more).shelvesSound.installed n w i hi).2.1
    exact hn (Except.ok.inj (this.symm.trans hc) ▸ hw)
  · exact congrArg Except.ok (findEntries_eq s)
  · exact listing_sorted hs
  · exact mem_listing_iff hs
  · intro text
    refine ⟨_, rfl, fun e he => ?_⟩
    rw [← findEntries_eq]
    exact findTriggered_subset s text e he

end Store

end ChatRouter
