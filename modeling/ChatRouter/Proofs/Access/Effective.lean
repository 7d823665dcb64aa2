import ChatRouter.Proofs.Access.Authorization

set_option autoImplicit false

namespace ChatRouter

def Accessing.on {α : Type} (x : Accessing α) (s : Store) : Except AccessError α × Store :=
  x.run.run Store.perform s

namespace Accessing

variable {α β : Type} {s t : Store}

theorem on_pure (a : α) (s : Store) : (pure a : Accessing α).on s = (.ok a, s) := rfl

theorem on_bind_ok {x : Accessing α} {f : α → Accessing β} {a : α} (h : x.on s = (.ok a, t)) :
    (x >>= f).on s = (f a).on t := by
  rw [on, Script.run_except_bind, ← on, h]
  rfl

theorem on_bind_error {x : Accessing α} {f : α → Accessing β} {e : AccessError} (h : x.on s = (.error e, t)) :
    (x >>= f).on s = (.error e, t) := by
  rw [on, Script.run_except_bind, ← on, h]

theorem on_ask_bind {c : Call} {f : c.Answer → Accessing β} {a : c.Answer} (h : Store.perform c s = (a, t)) :
    ((liftM c.ask : Accessing c.Answer) >>= f).on s = (f a).on t := by
  change (f (Store.perform c s).1).on (Store.perform c s).2 = _
  rw [h]

theorem on_call {c : Call} {r : c.Reply} (h : Store.perform c s = (.ok r, t)) :
    (Authorization.call c).on s = (.ok r, t) := by
  change ((Store.perform c s).1.mapError _, (Store.perform c s).2) = _
  rw [h]
  rfl

theorem on_call_error {c : Call} {e : DataError} (h : Store.perform c s = (.error e, t)) :
    (Authorization.call c).on s = (.error (.store e), t) := by
  change ((Store.perform c s).1.mapError _, (Store.perform c s).2) = _
  rw [h]
  rfl

end Accessing

namespace Store

variable {s : Store} {n : String}

theorem requireUser_missing (h : s.users.contains n = false) :
    s.requireUser n = .error (if n = "" then .emptyUserName else .noSuchUser n) := by
  unfold requireUser
  by_cases hn : n = ""
  · rw [if_pos hn, if_pos (by simp [hn])]
  · rw [if_neg hn, if_neg (by simpa using hn), h]
    rfl

theorem group_missing (h : s.groups.contains n = false) :
    s.group n = .error (if n = "" then .emptyGroupName else .noSuchGroup n) := by
  unfold group
  by_cases hn : n = ""
  · rw [if_pos hn, if_pos (by simp [hn])]
  · have hnone : s.groups.get? n = none := Option.isNone_iff_eq_none.1 (Option.isSome_eq_false_iff.1 h)
    rw [if_neg hn, if_neg (by simpa using hn), hnone]

end Store

namespace Authorization

open Accessing

variable {s : Store} {username : String}

/-- `set` has the grants of `granted` and those that satisfy `P`. -/
structure Collects (granted set : GrantSet) (P : Grant → Prop) : Prop where
  keyed : set.Keyed
  has_iff : ∀ g, SortedMap.get? set g.text = some g ↔ SortedMap.get? granted g.text = some g ∨ P g

theorem on_collectRoles (hs : s.DirectorySound) {granted : GrantSet} (hg : granted.Keyed) {roles : List String}
    (hr : ∀ role ∈ roles, s.roles.contains role = true) :
    ∃ set, (collectRoles granted roles).on s = (.ok set, s) ∧ Collects granted set fun g =>
      ∃ role ∈ roles, (Edge.grant role g.bundle g.permission).isIn s = true := by
  induction roles generalizing granted with
  | nil => exact ⟨granted, rfl, hg, by simp⟩
  | cons role roles ih =>
    obtain ⟨hrole, hroles⟩ := List.forall_mem_cons.1 hr
    obtain ⟨gs, hgs⟩ := (SortedMap.contains_iff _ _).1 hrole
    have hkeyed := hs.grants role gs hgs
    have hne : role ≠ "" := by
      rintro rfl
      exact Bool.false_ne_true (hs.roleNamed.symm.trans hrole)
    have hcall : Store.perform (.rolePermissionList role) s = (.ok gs.values, s) :=
      Prod.ext (Store.grantsOf_ok.2 ⟨hne, gs, hgs, rfl⟩) rfl
    have hcolon : ∀ d ∈ gs.values, ':' ∉ d.bundle.toList := by
      intro d hd
      obtain ⟨k, hk⟩ := (SortedMap.mem_values_iff _ _).1 hd
      exact (hkeyed k d hk).2
    obtain ⟨set, hset, hsetKeyed, hiff⟩ := ih (hg.addAll hcolon) hroles
    refine ⟨set, (on_bind_ok (on_call hcall)).trans hset, hsetKeyed, fun g => ?_⟩
    have hin : (Edge.grant role g.bundle g.permission).isIn s = true ↔ g ∈ gs.values := by
      rw [hkeyed.mem_values_iff]
      simp [Edge.isIn, hgs]
    simp only [hiff, hg.mem_addAll hcolon, ← hin, List.mem_cons, exists_eq_or_imp]
    rw [or_left_comm, or_assoc]

theorem on_collectGroup (hs : s.DirectorySound) {granted : GrantSet} (hg : granted.Keyed) {group : String}
    (hgroup : s.groups.contains group = true) :
    ∃ set, (collectGroup granted group).on s = (.ok set, s) ∧ Collects granted set fun g =>
      ∃ role, (Edge.role group role).isIn s = true ∧ (Edge.grant role g.bundle g.permission).isIn s = true := by
  obtain ⟨m, hm⟩ := (SortedMap.contains_iff _ _).1 hgroup
  have hcall : Store.perform (.groupRoleList group) s = (.ok m.roles.keys, s) :=
    Prod.ext (Store.rolesOf_ok.2 ⟨m, Store.group_ok.2 ⟨hs.group_ne_empty hm, hm⟩, rfl⟩) rfl
  have hroles : ∀ role ∈ m.roles.keys, s.roles.contains role = true :=
    fun role hr => hs.roles group m role hm ((SortedMap.mem_keys_iff _ _).1 hr)
  obtain ⟨set, hset, hkeyed, hiff⟩ := on_collectRoles hs hg hroles
  refine ⟨set, (on_bind_ok (on_call hcall)).trans hset, hkeyed, fun g => ?_⟩
  have hin (role : String) : role ∈ m.roles.keys ↔ (Edge.role group role).isIn s = true := by
    rw [SortedMap.mem_keys_iff]
    simp [Edge.isIn, hm]
  simp only [hiff, hin]

theorem on_collectGroups (hs : s.DirectorySound) {granted : GrantSet} (hg : granted.Keyed)
    {groups : List String} (hgroups : ∀ group ∈ groups, s.groups.contains group = true) :
    ∃ set, (collectGroups granted groups).on s = (.ok set, s) ∧ Collects granted set fun g =>
      ∃ group ∈ groups, ∃ role, (Edge.role group role).isIn s = true ∧
        (Edge.grant role g.bundle g.permission).isIn s = true := by
  induction groups generalizing granted with
  | nil => exact ⟨granted, rfl, hg, by simp⟩
  | cons group groups ih =>
    obtain ⟨hgroup, hgroups⟩ := List.forall_mem_cons.1 hgroups
    obtain ⟨first, hfirst, hkeyed, hiff⟩ := on_collectGroup hs hg hgroup
    obtain ⟨set, hset, hsetKeyed, hsetIff⟩ := ih hkeyed hgroups
    refine ⟨set, (on_bind_ok hfirst).trans hset, hsetKeyed, fun g => ?_⟩
    simp only [hsetIff, hiff, List.mem_cons, exists_eq_or_imp, or_assoc]

theorem on_groupGrants (hs : s.DirectorySound) {group : String} (hgroup : s.groups.contains group = true) :
    ∃ set : GrantSet, (groupGrants group).on s = (.ok set, s) ∧ set.Keyed ∧
      ∀ g, SortedMap.get? set g.text = some g ↔
        ∃ role, (Edge.role group role).isIn s = true ∧ (Edge.grant role g.bundle g.permission).isIn s = true := by
  obtain ⟨set, hset, hkeyed, hiff⟩ := on_collectGroup hs GrantSet.keyed_empty hgroup
  refine ⟨set, hset, hkeyed, fun g => ?_⟩
  rw [hiff, SortedMap.get?_empty]
  simp only [reduceCtorEq, false_or]

theorem on_groupGrants_missing {group : String} (hgroup : s.groups.contains group = false) :
    (groupGrants group).on s =
      (.error (.store (if group = "" then .emptyGroupName else .noSuchGroup group)), s) := by
  refine on_bind_error (on_call_error (Prod.ext ?_ rfl))
  change s.rolesOf group = _
  rw [Store.rolesOf, Store.group_missing hgroup]

theorem on_userGrants (hs : s.DirectorySound) (hu : s.users.contains username = true) :
    ∃ set : GrantSet, (userGrants username).on s = (.ok set, s) ∧ set.Keyed ∧
      ∀ g, SortedMap.get? set g.text = some g ↔ s.HasGrant username g := by
  have hne : username ≠ "" := by
    rintro rfl
    exact Bool.false_ne_true (hs.userNamed.symm.trans hu)
  obtain ⟨groups, hcall⟩ : ∃ groups, Store.perform (.userGroupList username) s = (.ok groups, s) :=
    ⟨_, Prod.ext (Store.groupsOf_ok.2 ⟨⟨hne, hu⟩, rfl⟩) rfl⟩
  have hmember (group : String) : group ∈ groups ↔ (Edge.member group username).isIn s = true := by
    rw [← Edge.groupsOf_iff hs, Store.answers_iff (congrArg Prod.fst hcall)]
  have hthere : ∀ group ∈ groups, s.groups.contains group = true := fun group hg =>
    (Edge.grounded_of_isIn hs ((hmember group).1 hg)).1
  obtain ⟨set, hset, hkeyed, hiff⟩ := on_collectGroups hs GrantSet.keyed_empty hthere
  refine ⟨set, (on_bind_ok (on_call hcall)).trans hset, hkeyed, fun g => ?_⟩
  rw [hiff]
  simp only [SortedMap.get?_empty, reduceCtorEq, false_or, hmember, Store.HasGrant]
  constructor
  · rintro ⟨group, hg, role, hr, h⟩
    exact ⟨group, role, hg, hr, h⟩
  · rintro ⟨group, role, hg, hr, h⟩
    exact ⟨group, hg, role, hr, h⟩

theorem on_userGrants_missing (hu : s.users.contains username = false) :
    (userGrants username).on s =
      (.error (.store (if username = "" then .emptyUserName else .noSuchUser username)), s) := by
  refine on_bind_error (on_call_error (Prod.ext ?_ rfl))
  change s.groupsOf username = _
  rw [Store.groupsOf, Store.requireUser_missing hu]

theorem on_decision (username : String) (entry : Entry) (granted : GrantSet) (s : Store) :
    ((match Rules.evaluate entry.command.rules granted with
      | .allow => return ()
      | .deny reason => throw (.unauthorized username entry.qualifiedName reason) : Accessing Unit).on s).1 =
        .ok () ↔ Rules.evaluate entry.command.rules granted = .allow := by
  cases Rules.evaluate entry.command.rules granted with
  | allow => exact iff_of_true rfl rfl
  | deny reason => exact iff_of_false (fun h => by cases h) (fun h => by cases h)

theorem authorize_iff_permits (hs : s.DirectorySound) (entry : Entry) :
    ((authorize username entry).on s).1 = .ok () ↔ s.Permits username entry.command.rules := by
  rw [authorize_eq]
  by_cases hall : entry.command.rules.all Rules.isUnconditional = true
  · have hpass : ∀ (granted : Grant → Prop), ∀ rule ∈ entry.command.rules, Rules.Passes granted rule :=
      fun _ rule hr => .inl (List.all_eq_true.1 hall rule hr)
    rw [if_pos hall, on_bind_ok (on_pure ∅ s)]
    refine (on_decision username entry ∅ s).trans ?_
    rw [Rules.evaluate_allow, Store.Permits]
    exact and_congr_right fun _ => iff_of_true (hpass _) (hpass _)
  · rw [if_neg hall]
    cases hu : s.users.contains username with
    | true =>
      obtain ⟨set, hset, hkeyed, hiff⟩ := on_userGrants hs hu
      rw [on_bind_ok hset]
      refine (on_decision username entry set s).trans ?_
      rw [Rules.evaluate_allow, Store.Permits]
      refine and_congr_right fun _ => forall₂_congr fun rule _ => Rules.passes_congr fun g hg => ?_
      exact (hkeyed.has_iff (Rules.colon_not_mem_of_required hg)).trans (hiff g)
    | false =>
      rw [on_bind_error (on_userGrants_missing hu)]
      refine iff_of_false (fun h => by cases h) ?_
      -- Nobody grants anything to a user who is not there, so no rule that demands something is passed.
      rintro ⟨-, hpass⟩
      refine hall (List.all_eq_true.2 fun rule hr => (hpass rule hr).resolve_right ?_)
      rintro ⟨hne, hgranted⟩
      obtain ⟨g, hg⟩ := List.exists_mem_of_ne_nil _ hne
      obtain ⟨group, -, hmember, -⟩ := hgranted g hg
      have hthere := (Edge.grounded_of_isIn hs hmember).2
      exact Bool.false_ne_true (hu.symm.trans hthere)

theorem userHasPermission_iff (hs : s.DirectorySound) (hu : s.users.contains username = true)
    {bundle permission : String} (hb : ':' ∉ bundle.toList) :
    ((userHasPermission username bundle permission).on s).1 = .ok true ↔
      s.HasGrant username ⟨bundle, permission⟩ := by
  obtain ⟨set, hset, hkeyed, hiff⟩ := on_userGrants hs hu
  have hrun : (userHasPermission username bundle permission).on s =
      (.ok (set.has ⟨bundle, permission⟩), s) := on_bind_ok hset
  rw [hrun, Except.ok.injEq, hkeyed.has_iff hb, hiff]

end Authorization

end ChatRouter
