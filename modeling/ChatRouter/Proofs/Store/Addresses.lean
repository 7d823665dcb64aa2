import ChatRouter.Proofs.Store.Enabling
import ChatRouter.Regex.Parser
import Mathlib.Data.List.Sort

set_option autoImplicit false

namespace ChatRouter.Store

variable {s t : Store} {n : String} {v : Version} {i : Installed} {b : Bundle}

def installations (s : Store) : List (String × Version × Installed) :=
  s.bundles.entries.flatMap fun e => e.2.versions.entries.map fun x => (e.1, x.1, x.2)

def InstalledBefore (x y : String × Version × Installed) : Prop :=
  compare x.1 y.1 = .lt ∨ x.1 = y.1 ∧ compare x.2.1 y.2.1 = .lt

instance : Std.Irrefl InstalledBefore where
  irrefl x h := by
    rcases h with h | ⟨-, h⟩ <;> simp at h

instance : Std.Antisymm InstalledBefore where
  antisymm x y h h' := by
    rcases h with h | ⟨hname, h⟩
    · rcases h' with h' | ⟨hname', -⟩
      · rw [Std.OrientedCmp.gt_of_lt h] at h'
        cases h'
      · simp [hname'] at h
    · rcases h' with h' | ⟨-, h'⟩
      · simp [hname] at h'
      · rw [Std.OrientedCmp.gt_of_lt h] at h'
        cases h'

theorem installations_sorted (s : Store) : s.installations.Pairwise InstalledBefore := by
  refine List.pairwise_flatMap.2 ⟨fun e _ => ?_, ?_⟩
  · exact List.Pairwise.map _ (fun _ _ h => .inr ⟨rfl, h⟩) e.2.versions.sorted
  · refine s.bundles.sorted.imp fun h x hx y hy => ?_
    obtain ⟨_, -, rfl⟩ := List.mem_map.1 hx
    obtain ⟨_, -, rfl⟩ := List.mem_map.1 hy
    exact .inl h

theorem mem_installations : (n, v, i) ∈ s.installations ↔ s.installed? n v = some i := by
  simp only [installations, List.mem_flatMap, List.mem_map, Prod.exists, SortedMap.mem_entries_iff, installed?,
    Option.bind_eq_some_iff]
  constructor
  · rintro ⟨m, shelf, hshelf, w, j, hj, he⟩
    cases he
    exact ⟨shelf, hshelf, hj⟩
  · rintro ⟨shelf, hshelf, hi⟩
    exact ⟨n, shelf, hshelf, v, i, hi, rfl⟩

theorem installations_congr (h : ∀ n v, t.installed? n v = s.installed? n v) :
    t.installations = s.installations := by
  refine t.installations_sorted.eq_of_mem_iff s.installations_sorted fun x => ?_
  obtain ⟨n, v, i⟩ := x
  rw [mem_installations, mem_installations, h]

theorem installations_withdraw (s : Store) (n : String) (v : Version) :
    (s.withdraw n v).installations = s.installations.filter fun x => ¬(x.1 = n ∧ x.2.1 = v) := by
  refine (installations_sorted _).eq_of_mem_iff (s.installations_sorted.filter _) fun x => ?_
  obtain ⟨m, w, i⟩ := x
  rw [List.mem_filter, mem_installations, mem_installations, installed?_withdraw]
  by_cases h : m = n ∧ w = v <;> simp [h]

theorem bundleList_eq (s : Store) : s.bundleList = s.installations.map fun x => s.shown x.1 x.2.1 x.2.2 := by
  rw [bundleList, SortedMap.values, installations, List.flatMap_map, List.map_flatMap]
  refine List.flatMap_congr fun e he => ?_
  have hshelf : s.bundles.get? e.1 = some e.2 := (SortedMap.mem_entries_iff ..).1 he
  rw [Shelf.list, List.map_map]
  refine List.map_congr_left fun x _ => ?_
  simp [Shelf.shown, shown, enabled?, hshelf]

theorem ShelvesSound.address_shown (hs : s.ShelvesSound) (hi : s.installed? n v = some i) :
    (s.shown n v i).name = n ∧ Version.coerce (s.shown n v i).version = .ok v :=
  ⟨(hs.installed n v i hi).1, (hs.installed n v i hi).2.1⟩

theorem mem_bundleList : b ∈ s.bundleList ↔ ∃ n v i, s.installed? n v = some i ∧ s.shown n v i = b := by
  simp only [bundleList_eq, List.mem_map, Prod.exists, mem_installations]

theorem ShelvesSound.shown_eq_iff (hs : s.ShelvesSound) (hi : s.installed? n v = some i) {m : String} {w : Version}
    {j : Installed} (hj : s.installed? m w = some j) : s.shown m w j = s.shown n v i ↔ m = n ∧ w = v := by
  obtain ⟨hname, hversion⟩ := hs.address_shown hi
  obtain ⟨hname', hversion'⟩ := hs.address_shown hj
  constructor
  · intro h
    rw [h] at hname' hversion'
    exact ⟨hname'.symm.trans hname, Except.ok.inj (hversion'.symm.trans hversion)⟩
  · rintro ⟨rfl, rfl⟩
    rw [Option.some.inj (hj.symm.trans hi)]

theorem ShelvesSound.bundleList_pairwise (hs : s.ShelvesSound) : s.bundleList.Pairwise fun b c =>
    b.name = c.name → Version.coerce b.version ≠ Version.coerce c.version := by
  rw [bundleList_eq, List.pairwise_map]
  refine s.installations_sorted.imp_of_mem ?_
  rintro ⟨n, v, i⟩ ⟨m, w, j⟩ hi hj h hname hversion
  obtain ⟨hn, hv⟩ := hs.address_shown (mem_installations.1 hi)
  obtain ⟨hm, hw⟩ := hs.address_shown (mem_installations.1 hj)
  obtain rfl : n = m := hn.symm.trans (hname.trans hm)
  obtain rfl : v = w := Except.ok.inj (hv.symm.trans (hversion.trans hw))
  simp [InstalledBefore] at h

theorem ShelvesSound.bundleList_enable (hs : s.ShelvesSound) (hi : s.installed? n v = some i) :
    (s.enable n v).bundleList = s.bundleList.map fun c =>
      if c.name = n then { c with enabled := c.version == (s.shown n v i).version } else c := by
  rw [bundleList_eq, bundleList_eq, installations_congr (installed?_enable s n v), List.map_map]
  refine List.map_congr_left fun x hx => ?_
  obtain ⟨m, w, j⟩ := x
  have hj := mem_installations.1 hx
  obtain ⟨hname, hversion⟩ := hs.address_shown hj
  have henabled := enabled?_enable (v := v) (contains_of_installed hi) m
  by_cases hm : m = n
  · -- The texts of two versions of a name are equal exactly if the versions are.
    subst hm
    have hflag : (some v == some w) = ((s.shown m w j).version == (s.shown m v i).version) := by
      rw [Bool.eq_iff_iff, beq_iff_eq, beq_iff_eq, Option.some.injEq]
      constructor
      · rintro rfl
        rw [(hs.shown_eq_iff hi hj).2 ⟨rfl, rfl⟩]
      · intro htext
        exact Except.ok.inj ((hs.address_shown hi).2.symm.trans (htext ▸ hversion))
    rw [if_pos rfl] at henabled
    rw [Function.comp_apply, if_pos hname, ← hflag, shown, henabled]
    rfl
  · rw [if_neg hm] at henabled
    rw [Function.comp_apply, if_neg (hname.symm ▸ hm), shown, shown, henabled]

theorem ShelvesSound.bundleList_withdraw (hs : s.ShelvesSound) (hi : s.installed? n v = some i) :
    (s.withdraw n v).bundleList = s.bundleList.filter (· ≠ s.shown n v i) := by
  rw [bundleList_eq, bundleList_eq, installations_withdraw, List.filter_map]
  have hkept : s.installations.filter (fun x => ¬(x.1 = n ∧ x.2.1 = v)) =
      s.installations.filter ((· ≠ s.shown n v i) ∘ fun x => s.shown x.1 x.2.1 x.2.2) := by
    refine List.filter_congr fun x hx => ?_
    rw [Function.comp_apply, decide_eq_decide, ne_eq, hs.shown_eq_iff hi (mem_installations.1 hx)]
  rw [← hkept]
  refine List.map_congr_left fun x hx => ?_
  have hother : ¬(x.1 = n ∧ x.2.1 = v) := of_decide_eq_true (List.mem_filter.1 hx).2
  rw [shown, shown, enabled?_withdraw hs]
  split
  · rename_i hn
    have hne : v ≠ x.2.1 := fun hv => hother ⟨hn.1, hv.symm⟩
    rw [hn.1, hn.2]
    simp [hne]
  · rfl

theorem perform_enable {text : String} (h : s.locate n text = .ok v) :
    perform (.bundleEnable n text) s = (.ok (), s.enable n v) := by
  change (enableBundle n text).run s = _
  rw [enableBundle, Edit.run_bind, Edit.run_ask, h]
  rfl

theorem perform_delete {text : String} (h : s.locate n text = .ok v) :
    perform (.bundleDelete n text) s = (.ok (), s.withdraw n v) := by
  change (deleteBundle n text).run s = _
  rw [deleteBundle, Edit.run_bind, Edit.run_ask, h]
  rfl

def SameBut (n : String) (s t : Store) : Prop :=
  t = { s with bundles := t.bundles } ∧ ∀ m, m ≠ n → t.bundles.get? m = s.bundles.get? m

theorem sameBut_enable (s : Store) (n : String) (v : Version) : SameBut n s (s.enable n v) := by
  refine ⟨rfl, fun m hm => ?_⟩
  rw [enable, changeShelf, SortedMap.get?_modify_ite, if_neg hm]

theorem sameBut_withdraw (s : Store) (n : String) (v : Version) : SameBut n s (s.withdraw n v) := by
  refine ⟨?_, fun m hm => ?_⟩
  · unfold withdraw
    dsimp only
    split <;> rfl
  · rw [get?_withdraw, if_neg hm]

/-- Every listed bundle is addressed by its name and every text of its version: it is there, it is what is got, it is
what is enabled and what is deleted, and nothing else is. No two listed bundles have the same address. -/
theorem listed_bundles_are_addressed (engine : Regex.Engine) (calls : List Call) :
    let s := after calls (new engine)
    ∃ bundles, (perform .bundleList s).1 = .ok bundles ∧
      bundles.Pairwise (fun b c => b.name = c.name → Version.coerce b.version ≠ Version.coerce c.version) ∧
      ∀ b ∈ bundles, ∃ v, Version.coerce b.version = .ok v ∧ ∀ text, Version.coerce text = .ok v →
        (perform (.bundleExists b.name text) s).1 = .ok true ∧
        (perform (.bundleGet b.name text) s).1 = .ok b ∧
        (∃ t, perform (.bundleEnable b.name text) s = (.ok (), t) ∧ SameBut b.name s t ∧
          (perform (.bundleEnabledVersion b.name) t).1 = .ok (some b.version) ∧
          (perform .bundleList t).1 = .ok (bundles.map fun c =>
            if c.name = b.name then { c with enabled := c.version == b.version } else c)) ∧
        ∃ t, perform (.bundleDelete b.name text) s = (.ok (), t) ∧ SameBut b.name s t ∧
          (perform .bundleList t).1 = .ok (bundles.filter (· ≠ b)) := by
  intro s
  have hs : s.ShelvesSound := Reachable.shelvesSound ⟨_, calls, rfl⟩
  refine ⟨s.bundleList, rfl, hs.bundleList_pairwise, fun b hb => ?_⟩
  obtain ⟨n, v, i, hi, rfl⟩ := mem_bundleList.1 hb
  obtain ⟨hname, hversion⟩ := hs.address_shown hi
  rw [hname]
  refine ⟨v, hversion, fun text htext => ?_⟩
  have hne := hs.name_ne_empty hi
  have hlocate : s.locate n text = .ok v := locate_ok.2 ⟨hne, htext, i, hi⟩
  refine ⟨?_, bundle_ok.2 ⟨hne, v, i, htext, hi, rfl⟩, ⟨_, perform_enable hlocate, sameBut_enable s n v, ?_, ?_⟩,
    _, perform_delete hlocate, sameBut_withdraw s n v, ?_⟩
  · change s.bundleExists n text = .ok true
    rw [bundleExists, hlocate]
  · change (s.enable n v).enabledVersion n = _
    rw [enabledVersion_eq hne, enabled?_enable (contains_of_installed hi), if_pos rfl, Option.bind_some,
      installed?_enable, hi]
    rfl
  · exact congrArg Except.ok (hs.bundleList_enable hi)
  · exact congrArg Except.ok (hs.bundleList_withdraw hi)

def firstOps : Bundle := { Bundle.named "ops" "v1.2" with enabled := true }

def installing : List Call :=
  [.bundleCreate firstOps, .bundleCreate (.named "ops" "1.3-rc"), .bundleCreate (.named "chat" "2")]

theorem respelled_address_is_found :
    (perform (.bundleGet "ops" "1.2.0+build") (after installing (new .standard))).1 = .ok firstOps ∧
      ∃ t, perform (.bundleDelete "ops" " V1.2 ") (after installing (new .standard)) = (.ok (), t) ∧
        (perform .bundleList t).1 = .ok [.named "chat" "2", .named "ops" "1.3-rc"] := by
  have hlisted : (perform .bundleList (after installing (new .standard))).1 =
      .ok [.named "chat" "2", firstOps, .named "ops" "1.3-rc"] := by decide +kernel
  obtain ⟨bundles, hbundles, -, haddressed⟩ := listed_bundles_are_addressed .standard installing
  cases hlisted.symm.trans hbundles
  obtain ⟨v, hv, hcalls⟩ := haddressed firstOps (by simp)
  have hbuild : Version.coerce "1.2.0+build" = Version.coerce firstOps.version := by decide +kernel
  have hblanks : Version.coerce " V1.2 " = Version.coerce firstOps.version := by decide +kernel
  obtain ⟨-, hget, -⟩ := hcalls "1.2.0+build" (hbuild.trans hv)
  obtain ⟨-, -, -, t, hdelete, -, hleft⟩ := hcalls " V1.2 " (hblanks.trans hv)
  refine ⟨hget, t, hdelete, hleft.trans ?_⟩
  decide +kernel

end ChatRouter.Store
