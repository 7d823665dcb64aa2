import ChatRouter.Proofs.Catalog.Precedence
import ChatRouter.Proofs.Store.Enabling
import ChatRouter.Regex.Parser

set_option autoImplicit false

namespace ChatRouter

theorem Version.increasing_iff {versions : List Version} (hsorted : versions.Pairwise fun v w => v.order w = .lt)
    (hvalid : ∀ v ∈ versions, v.Valid) :
    versions.Pairwise (fun v w => v.precedence w = .lt) ↔ ∀ v ∈ versions, ∀ w ∈ versions, ¬v.Contrary w := by
  constructor
  · intro hprecedence
    have hpairs : versions.Pairwise fun v w => ¬v.Contrary w ∧ ¬w.Contrary v :=
      (hsorted.and hprecedence).imp_of_mem fun hv hw h =>
        (order_eq_precedence_iff (hvalid _ hv) (hvalid _ hw)).1 (h.1.trans h.2.symm)
    have hself : ∀ v ∈ versions, ¬v.Contrary v := fun v hv h => by
      have hsame : compare v v = .eq := Std.ReflOrd.compare_self
      cases hsame.symm.trans ((contrary_iff (hvalid v hv) (hvalid v hv)).1 h).2
    exact List.Pairwise.forall_of_forall_of_flip hself (hpairs.imp And.left) (hpairs.imp And.right)
  · intro hnone
    refine hsorted.imp_of_mem fun {v w} hv hw h => ?_
    rw [← (order_eq_precedence_iff (hvalid v hv) (hvalid w hw)).2 ⟨hnone v hv w hw, hnone w hw v hv⟩, h]

namespace Store

variable {s : Store} {n : String} {v : Version}

def versionsOf (s : Store) (n : String) : List Version :=
  ((s.bundles.get? n).map fun shelf => shelf.versions.entries.map (·.1)).getD []

theorem versionsOf_sorted (s : Store) (n : String) : (s.versionsOf n).Pairwise fun v w => v.order w = .lt := by
  unfold versionsOf
  cases s.bundles.get? n with
  | none => exact .nil
  | some shelf => exact List.pairwise_map.2 shelf.versions.sorted

theorem mem_versionsOf : v ∈ s.versionsOf n ↔ ∃ i, s.installed? n v = some i := by
  unfold versionsOf installed?
  cases s.bundles.get? n with
  | none => simp
  | some shelf => simp [SortedMap.mem_entries_iff]

theorem coerce_listed (hs : s.ShelvesSound) (n : String) :
    (((s.bundles.get? n).map Shelf.list).getD []).map (fun b => Version.coerce b.version) =
      (s.versionsOf n).map Except.ok := by
  unfold versionsOf
  cases hshelf : s.bundles.get? n with
  | none => rfl
  | some shelf =>
    simp only [Option.map_some, Option.getD_some, Shelf.list, List.map_map]
    refine List.map_congr_left fun e he => ?_
    have hinstalled : s.installed? n e.1 = some e.2 := by
      rw [installed?, hshelf]
      exact (SortedMap.mem_entries_iff ..).1 he
    exact (hs.installed n e.1 e.2 hinstalled).2.1

theorem bundleExists_eq_true_iff {text : String} : s.bundleExists n text = .ok true ↔
    n ≠ "" ∧ ∃ v, Version.coerce text = .ok v ∧ v ∈ s.versionsOf n := by
  have hlocate : (n ≠ "" ∧ ∃ v, Version.coerce text = .ok v ∧ v ∈ s.versionsOf n) ↔
      ∃ v, s.locate n text = .ok v := by
    simp [locate_ok, mem_versionsOf]
  rw [hlocate, bundleExists]
  cases s.locate n text with
  | ok v => simp
  | error e => cases e <;> simp

end Store

open Store (perform after)

/-- The versions of a bundle are listed once each, by numbers and then by text. Where their pre-releases are well
formed they increase in precedence exactly if no two of them are contrary, since these pairs are all that the two
orders differ in. -/
theorem versions_increase_iff (engine : Regex.Engine) (calls : List Call) (n : String) (hn : n ≠ "") :
    (∃ (bundles : List Bundle) (versions : List Version),
      (perform (.bundleListVersions n) (after calls (.new engine))).1 = .ok bundles ∧
      bundles.map (fun b => Version.coerce b.version) = versions.map .ok ∧
      (∀ text v, Version.coerce text = .ok v →
        (v ∈ versions ↔ (perform (.bundleExists n text) (after calls (.new engine))).1 = .ok true)) ∧
      versions.Pairwise (fun v w => v.order w = .lt) ∧
      ((∀ v ∈ versions, v.Valid) →
        (versions.Pairwise (fun v w => v.precedence w = .lt) ↔
          ∀ v ∈ versions, ∀ w ∈ versions, ¬v.Contrary w))) ∧
    ∀ v w : Version, v.Valid → w.Valid → (v.order w = v.precedence w ↔ ¬v.Contrary w ∧ ¬w.Contrary v) := by
  have hs : (after calls (.new engine)).ShelvesSound := Store.Reachable.shelvesSound ⟨_, calls, rfl⟩
  have hsorted := Store.versionsOf_sorted (after calls (.new engine)) n
  refine ⟨⟨_, (after calls (.new engine)).versionsOf n, Store.versionList_eq hn, Store.coerce_listed hs n,
    fun text v hv => ?_, hsorted, Version.increasing_iff hsorted⟩,
    fun v w hv hw => Version.order_eq_precedence_iff hv hw⟩
  have hanswer : (perform (.bundleExists n text) (after calls (.new engine))).1 =
      (after calls (.new engine)).bundleExists n text := rfl
  rw [hanswer, Store.bundleExists_eq_true_iff]
  constructor
  · exact fun hmem => ⟨hn, v, hv, hmem⟩
  · rintro ⟨-, w, hw, hmem⟩
    rwa [Except.ok.inj (hv.symm.trans hw)]

def secondCandidate : Version := ⟨1, 0, 0, some "rc.2"⟩

def tenthCandidate : Version := ⟨1, 0, 0, some "rc.10"⟩

def candidates : List Call := [.bundleCreate (.named "ops" "1-rc.2"), .bundleCreate (.named "ops" "1-rc.10")]

theorem candidates_listed : (perform (.bundleListVersions "ops") (after candidates (.new .standard))).1 =
    .ok [.named "ops" "1-rc.10", .named "ops" "1-rc.2"] := by
  decide +kernel

theorem candidates_coerced : [Bundle.named "ops" "1-rc.10", Bundle.named "ops" "1-rc.2"].map
    (fun b => Version.coerce b.version) = [tenthCandidate, secondCandidate].map .ok := by
  decide +kernel

theorem candidates_valid : ∀ v ∈ [tenthCandidate, secondCandidate], v.Valid := by
  have hvalid : ∀ pre ∈ ["rc.10", "rc.2"], PreRelease.Valid pre := by
    unfold PreRelease.Valid
    decide +kernel
  simp only [List.forall_mem_cons] at hvalid ⊢
  exact ⟨fun p hp => Option.some.inj hp ▸ hvalid.1, fun p hp => Option.some.inj hp ▸ hvalid.2.1, by simp⟩

theorem candidates_do_not_increase : "ops" ≠ "" ∧ ∃ versions : List Version,
    [Bundle.named "ops" "1-rc.10", Bundle.named "ops" "1-rc.2"].map (fun b => Version.coerce b.version) =
      versions.map .ok ∧
    versions.Pairwise (fun v w => v.order w = .lt) ∧ ¬versions.Pairwise fun v w => v.precedence w = .lt := by
  obtain ⟨⟨bundles, versions, hlisted, hcoerced, -, hsorted, hincrease⟩, -⟩ :=
    versions_increase_iff .standard candidates "ops" (by decide)
  cases candidates_listed.symm.trans hlisted
  refine ⟨by decide, versions, hcoerced, hsorted, ?_⟩
  have hversions : versions = [tenthCandidate, secondCandidate] :=
    List.map_injective_iff.2 (fun _ _ => Except.ok.inj) (hcoerced.symm.trans candidates_coerced)
  rw [hversions] at hincrease ⊢
  rw [hincrease candidates_valid]
  intro hnone
  have hcontrary : secondCandidate.Contrary tenthCandidate :=
    ⟨rfl, rfl, rfl, _, rfl, _, rfl, by decide +kernel⟩
  exact hnone secondCandidate (by simp) tenthCandidate (by simp) hcontrary

theorem tenth_candidate_before_second :
    ¬∀ (calls : List Call) (n : String) (bundles : List Bundle) (versions : List Version),
      (perform (.bundleListVersions n) (after calls (.new .standard))).1 = .ok bundles →
      bundles.map (fun b => Version.coerce b.version) = versions.map .ok → (∀ v ∈ versions, v.Valid) →
      versions.Pairwise fun v w => v.precedence w = .lt := by
  intro h
  have hincrease := h candidates "ops" _ _ candidates_listed candidates_coerced candidates_valid
  have hprecedence : tenthCandidate.precedence secondCandidate = .gt := by decide +kernel
  cases hprecedence.symm.trans (List.rel_of_pairwise_cons hincrease List.mem_cons_self)

end ChatRouter
