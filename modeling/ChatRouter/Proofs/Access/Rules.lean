import ChatRouter.Access.Rules
import ChatRouter.Proofs.Store.Directory
import Mathlib.Data.List.TakeWhile

set_option autoImplicit false

namespace ChatRouter.Rules

/-- A rule passes by itself, or it names permissions and all of them are granted. -/
def Passes (granted : Grant → Prop) (rule : String) : Prop :=
  isUnconditional rule = true ∨
    requiredPermissions rule ≠ [] ∧ ∀ g ∈ requiredPermissions rule, granted g

theorem evaluateAll_allow {granted : GrantSet} {rules : List String} :
    evaluateAll granted rules = .allow ↔ ∀ rule ∈ rules, Passes (granted.has · = true) rule := by
  induction rules with
  | nil => simp [evaluateAll]
  | cons rule rest ih =>
    rw [evaluateAll, List.forall_mem_cons, ← ih]
    by_cases hu : isUnconditional rule = true
    · simp [hu, Passes]
    · have hp : Passes (granted.has · = true) rule ↔ requiredPermissions rule ≠ [] ∧
          ∀ g ∈ requiredPermissions rule, granted.has g = true := by simp [Passes, hu]
      rw [if_neg hu, hp]
      split
      · rename_i hr
        simp [hr]
      · rename_i required hne
        split
        · rename_i missing hm
          have hmem := List.mem_of_find?_eq_some hm
          have hmiss := List.find?_some hm
          refine iff_of_false (by simp) fun ⟨⟨_, hall⟩, _⟩ => ?_
          rw [hall missing hmem] at hmiss
          cases hmiss
        · rename_i hm
          rw [List.find?_eq_none] at hm
          exact ⟨fun h => ⟨⟨hne, fun g hg => by simpa using hm g hg⟩, h⟩, fun h => h.2⟩

theorem evaluate_allow {granted : GrantSet} {rules : List String} :
    evaluate rules granted = .allow ↔ rules ≠ [] ∧ ∀ rule ∈ rules, Passes (granted.has · = true) rule := by
  cases rules with
  | nil => simp [evaluate]
  | cons rule rest =>
    change evaluateAll granted (rule :: rest) = .allow ↔ _
    rw [evaluateAll_allow]
    exact ⟨fun h => ⟨List.cons_ne_nil _ _, h⟩, fun h => h.2⟩

theorem Passes.mono {granted granted' : Grant → Prop} {rule : String} (h : Passes granted rule)
    (hg : ∀ g ∈ requiredPermissions rule, granted g → granted' g) : Passes granted' rule :=
  h.imp id fun ⟨hne, hall⟩ => ⟨hne, fun g hr => hg g hr (hall g hr)⟩

theorem passes_congr {granted granted' : Grant → Prop} {rule : String}
    (hg : ∀ g ∈ requiredPermissions rule, granted g ↔ granted' g) : Passes granted rule ↔ Passes granted' rule :=
  ⟨fun h => h.mono fun g hr => (hg g hr).1, fun h => h.mono fun g hr => (hg g hr).2⟩

theorem bundle_of_mem_scan {bundle s : List Char} (hb : ∀ c ∈ bundle, isBundleChar c = true) {g : Grant}
    (hg : g ∈ scan bundle s) : ∀ c ∈ g.bundle.toList, isBundleChar c = true := by
  fun_induction scan bundle s with
  | case1 bundle => cases hg
  | case2 bundle c rest hc ih => exact ih (List.forall_mem_cons.2 ⟨hc, hb⟩) hg
  | case3 bundle c rest hc hcolon ih =>
    rcases List.mem_cons.1 hg with rfl | hg
    · simpa using hb
    · exact ih (by simp) hg
  | case4 bundle c rest hc hcolon ih => exact ih (by simp) hg

theorem permission_of_mem_scan {bundle s : List Char} {g : Grant} (hg : g ∈ scan bundle s) :
    ∀ c ∈ g.permission.toList, isPermissionChar c = true := by
  fun_induction scan bundle s with
  | case1 bundle => cases hg
  | case2 bundle c rest hc ih => exact ih hg
  | case3 bundle c rest hc hcolon ih =>
    rcases List.mem_cons.1 hg with rfl | hg
    · simpa using fun c hc => List.mem_takeWhile_imp hc
    · exact ih hg
  | case4 bundle c rest hc hcolon ih => exact ih hg

theorem colon_not_mem_of_scan {s : List Char} {g : Grant} (hg : g ∈ scan [] s) : ':' ∉ g.bundle.toList :=
  fun h => absurd (bundle_of_mem_scan (by simp) hg ':' h) (by decide)

theorem colon_not_mem_of_required {rule : String} {g : Grant} (hg : g ∈ requiredPermissions rule) :
    ':' ∉ g.bundle.toList := colon_not_mem_of_scan hg

end ChatRouter.Rules
