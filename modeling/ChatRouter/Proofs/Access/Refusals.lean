import ChatRouter.Proofs.Access.Attempts
import ChatRouter.Proofs.Access.Effective
import ChatRouter.Regex.Parser

set_option autoImplicit false

namespace ChatRouter

open Script (Leads Asks)

theorem Rules.evaluate_of_unconditional {rules : List String} (h : rules.all Rules.isUnconditional = true)
    (granted : GrantSet) : Rules.evaluate rules granted = Rules.evaluate rules ∅ := by
  cases rules with
  | nil => rfl
  | cons rule rest =>
    have hpass (set : GrantSet) : Rules.evaluate (rule :: rest) set = .allow := by
      refine Rules.evaluate_allow.2 ⟨List.cons_ne_nil _ _, fun r hr => .inl ?_⟩
      exact List.all_eq_true.1 h r hr
    rw [hpass, hpass]

namespace Authorization

open Accessing

variable {s t : Store} {username : String} {entry : Entry}

/-- The grant is among the permissions that the user has when no call fails. -/
def Held (s : Store) (username : String) (g : Grant) : Prop :=
  ∃ set : GrantSet, (userGrants username).on s = (.ok set, s) ∧ g ∈ set.values

theorem held_iff (hs : s.DirectorySound) (g : Grant) : Held s username g ↔ s.HasGrant username g := by
  cases hu : s.users.contains username with
  | true =>
    obtain ⟨set, hset, hkeyed, hiff⟩ := on_userGrants hs hu
    rw [← hiff, ← hkeyed.mem_values_iff]
    constructor
    · rintro ⟨found, hfound, hg⟩
      rw [hset] at hfound
      cases hfound
      exact hg
    · exact fun hg => ⟨set, hset, hg⟩
  | false =>
    refine iff_of_false ?_ ?_
    · rintro ⟨found, hfound, -⟩
      rw [on_userGrants_missing hu] at hfound
      cases hfound
    · rintro ⟨group, -, hmember, -⟩
      have hthere := (Edge.grounded_of_isIn hs hmember).2
      exact Bool.false_ne_true (hu.symm.trans hthere)

/-- There are rules, and each passes by itself or names permissions, all of which the user has. -/
def Warranted (s : Store) (username : String) (rules : List String) : Prop :=
  rules ≠ [] ∧ ∀ rule ∈ rules, Rules.isUnconditional rule = true ∨
    Rules.requiredPermissions rule ≠ [] ∧ ∀ g ∈ Rules.requiredPermissions rule, Held s username g

theorem warranted_iff_permits (hs : s.DirectorySound) (rules : List String) :
    Warranted s username rules ↔ s.Permits username rules :=
  and_congr_right fun _ => forall₂_congr fun _ _ => Rules.passes_congr fun g _ => held_iff hs g

theorem permits_of_onFailing (hs : s.DirectorySound) {faults : Faults}
    (h : ((authorize username entry).onFailing faults s).1 = .ok ()) : s.Permits username entry.command.rules := by
  have hlead := Script.leads_exchanges Faulty.perform (authorize username entry).run ⟨s, faults⟩
  have hrun : ((authorize username entry).run.run Faulty.perform ⟨s, faults⟩).1 = .ok () := h
  rw [hrun] at hlead
  exact permits_of_authorize hs (Faulty.chronicle_run (f := ⟨s, faults⟩) faults.only_anything _) hlead

def decision (username : String) (entry : Entry) (granted : GrantSet) : Except AccessError Unit :=
  match Rules.evaluate entry.command.rules granted with
  | .allow => .ok ()
  | .deny reason => .error (.unauthorized username entry.qualifiedName reason)

theorem on_authorize {set : GrantSet} (hset : (userGrants username).on s = (.ok set, s)) :
    (authorize username entry).on s = (decision username entry set, s) := by
  have hdecide (granted : GrantSet) :
      (match Rules.evaluate entry.command.rules granted with
        | .allow => return ()
        | .deny reason => throw (.unauthorized username entry.qualifiedName reason) : Accessing Unit).on s =
          (decision username entry granted, s) := by
    unfold decision
    cases Rules.evaluate entry.command.rules granted <;> rfl
  rw [authorize_eq]
  by_cases hall : entry.command.rules.all Rules.isUnconditional = true
  · rw [if_pos hall, on_bind_ok (on_pure ∅ s)]
    refine (hdecide ∅).trans ?_
    rw [decision, decision, Rules.evaluate_of_unconditional hall set]
  · rw [if_neg hall, on_bind_ok hset]
    exact hdecide set

/-- Whatever calls fail, only who may pass is authorized. When none fails, a user who is there is authorized
exactly then, and it makes no difference whether the permissions were looked up. -/
theorem authorization_fails_closed (engine : Regex.Engine) (calls : List Call) (username : String) (entry : Entry) :
    let s := Store.after calls (.new engine)
    (∀ faults, ((authorize username entry).onFailing faults s).1 = .ok () →
      Warranted s username entry.command.rules) ∧
    (s.userExists username = true →
      (((authorize username entry).on s).1 = .ok () ↔ Warranted s username entry.command.rules) ∧
      ∃ set, (userGrants username).on s = (.ok set, s) ∧
        (authorize username entry).on s = (decision username entry set, s)) := by
  intro s
  have hs : s.DirectorySound := Store.Reachable.directorySound ⟨_, calls, rfl⟩
  refine ⟨fun faults h => ?_, fun hu => ⟨?_, ?_⟩⟩
  · exact (warranted_iff_permits hs _).2 (permits_of_onFailing hs h)
  · exact (authorize_iff_permits hs entry).trans (warranted_iff_permits hs _).symm
  · obtain ⟨set, hset, -, -⟩ := on_userGrants hs hu
    exact ⟨set, hset, on_authorize hset⟩

def twoGroups : List Call :=
  [.userCreate (.named "zoe"), .groupCreate "day", .groupCreate "night", .groupUserAdd "day" "zoe",
    .groupUserAdd "night" "zoe", .roleCreate "reader", .roleCreate "restarter", .groupRoleAdd "day" "reader",
    .groupRoleAdd "night" "restarter", .rolePermissionAdd "reader" "logs" "read",
    .rolePermissionAdd "restarter" "hosts" "restart"]

def restart : Entry :=
  ⟨.named "hosts" "1.0.0", { Command.empty with rules := ["allow", "must have logs:read and hosts:restart"] }⟩

theorem zoe_is_warranted : (Store.after twoGroups (.new .standard)).userExists "zoe" = true ∧
    Warranted (Store.after twoGroups (.new .standard)) "zoe" restart.command.rules := by
  obtain ⟨-, hthere⟩ := authorization_fails_closed .standard twoGroups "zoe" restart
  have hzoe : (Store.after twoGroups (.new .standard)).userExists "zoe" = true := by decide +kernel
  exact ⟨hzoe, (hthere hzoe).1.1 (by decide +kernel)⟩

end Authorization

end ChatRouter
