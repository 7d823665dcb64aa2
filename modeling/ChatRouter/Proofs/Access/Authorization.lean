import ChatRouter.Access.Authorization
import ChatRouter.Proofs.Access.Rules
import ChatRouter.Proofs.Resolution
import ChatRouter.Proofs.Store.Edges

set_option autoImplicit false

namespace ChatRouter

open Script (Leads Asks)

namespace Store

/-- Some role of some group of the user has the grant. -/
def HasGrant (s : Store) (username : String) (g : Grant) : Prop :=
  ∃ group role, (Edge.member group username).isIn s = true ∧ (Edge.role group role).isIn s = true ∧
    (Edge.grant role g.bundle g.permission).isIn s = true

/-- There are rules and the user passes each. -/
def Permits (s : Store) (username : String) (rules : List String) : Prop :=
  rules ≠ [] ∧ ∀ rule ∈ rules, Rules.Passes (s.HasGrant username) rule

theorem permits_congr {s t : Store} (hg : t.groups = s.groups) (hr : t.roles = s.roles) {username : String}
    {rules : List String} : t.Permits username rules ↔ s.Permits username rules := by
  have hgrant : t.HasGrant username = s.HasGrant username := by
    funext g
    simp only [HasGrant, Edge.isIn_congr _ hg hr]
  rw [Permits, Permits, hgrant]

end Store

namespace GrantSet

theorem get?_addAll {gs : GrantSet} {grants : List Grant} {k : String} {g : Grant}
    (h : SortedMap.get? (gs.addAll grants) k = some g) :
    SortedMap.get? gs k = some g ∨ g.text = k ∧ g ∈ grants := by
  induction grants generalizing gs with
  | nil => exact .inl h
  | cons d grants ih =>
    rcases ih h with h | ⟨hk, hg⟩
    · clear ih
      rw [add, SortedMap.get?_insertNew_ite] at h
      split at h
      · rename_i hk
        rw [hk]
        cases hd : SortedMap.get? gs d.text with
        | none =>
          rw [hd] at h
          cases h
          exact .inr ⟨rfl, List.mem_cons_self ..⟩
        | some e =>
          rw [hd] at h
          exact .inl h
      · exact .inl h
    · exact .inr ⟨hk, List.mem_cons_of_mem _ hg⟩

end GrantSet

namespace Authorization

variable {log : CallLog}

/-- The log lists a group of the user, a role of the group and the grant among those of the role. -/
def Shows (log : CallLog) (username : String) (g : Grant) : Prop :=
  ∃ groups group roles role grants, (⟨.userGroupList username, .ok groups⟩ : Exchange ..) ∈ log ∧
    group ∈ groups ∧ ⟨.groupRoleList group, .ok roles⟩ ∈ log ∧ role ∈ roles ∧
    ⟨.rolePermissionList role, .ok grants⟩ ∈ log ∧ g ∈ grants

theorem leads_collectRoles {granted set : GrantSet} {roles : List String}
    (h : Leads (collectRoles granted roles).run log (.done (.ok set))) {k : String} {g : Grant}
    (hg : SortedMap.get? set k = some g) :
    SortedMap.get? granted k = some g ∨ g.text = k ∧
      ∃ role ∈ roles, ∃ grants, ⟨.rolePermissionList role, .ok grants⟩ ∈ log ∧ g ∈ grants := by
  induction roles generalizing granted log with
  | nil =>
    obtain ⟨-, hs⟩ := (Script.leads_pure ..).1 h
    cases hs
    exact .inl hg
  | cons role roles ih =>
    obtain ⟨first, grants, rest, rfl, hc, hr⟩ := Script.leads_except_bind_ok.1 h
    obtain rfl := Call.leads_adapt_ok.1 hc
    rcases ih hr with h | ⟨hk, role', hmem, grants', hl, hg⟩
    · rcases GrantSet.get?_addAll h with h | ⟨hk, hmem⟩
      · exact .inl h
      · exact .inr ⟨hk, role, by simp, grants, by simp, hmem⟩
    · exact .inr ⟨hk, role', by simp [hmem], grants', by simp [hl], hg⟩

theorem leads_collectGroups {granted set : GrantSet} {groups : List String}
    (h : Leads (collectGroups granted groups).run log (.done (.ok set))) {k : String} {g : Grant}
    (hg : SortedMap.get? set k = some g) :
    SortedMap.get? granted k = some g ∨ g.text = k ∧
      ∃ group ∈ groups, ∃ roles, ⟨.groupRoleList group, .ok roles⟩ ∈ log ∧
        ∃ role ∈ roles, ∃ grants, ⟨.rolePermissionList role, .ok grants⟩ ∈ log ∧ g ∈ grants := by
  induction groups generalizing granted log with
  | nil =>
    obtain ⟨-, hs⟩ := (Script.leads_pure ..).1 h
    cases hs
    exact .inl hg
  | cons group groups ih =>
    obtain ⟨first, granted', rest, rfl, hc, hr⟩ := Script.leads_except_bind_ok.1 h
    obtain ⟨first', roles, rest', rfl, hc', hr'⟩ := Script.leads_except_bind_ok.1 hc
    obtain rfl := Call.leads_adapt_ok.1 hc'
    rcases ih hr with h | ⟨hk, group', hmem, roles', hl, role, hrole, grants, hl', hg⟩
    · rcases leads_collectRoles hr' h with h | ⟨hk, role, hrole, grants, hl, hg⟩
      · exact .inl h
      · exact .inr ⟨hk, group, by simp, roles, by simp, role, hrole, grants, by simp [hl], hg⟩
    · exact .inr ⟨hk, group', by simp [hmem], roles', by simp [hl], role, hrole, grants, by simp [hl'], hg⟩

theorem leads_userGrants {username : String} {set : GrantSet}
    (h : Leads (userGrants username).run log (.done (.ok set))) {k : String} {g : Grant}
    (hg : SortedMap.get? set k = some g) : g.text = k ∧ Shows log username g := by
  obtain ⟨first, groups, rest, rfl, hc, hr⟩ := Script.leads_except_bind_ok.1 h
  obtain rfl := Call.leads_adapt_ok.1 hc
  rcases leads_collectGroups hr hg with h | ⟨hk, group, hgroup, roles, hl, role, hrole, grants, hl', hg⟩
  · cases h
  · exact ⟨hk, groups, group, roles, role, grants, by simp, hgroup, by simp [hl], hrole, by simp [hl'], hg⟩

theorem authorize_eq (username : String) (entry : Entry) : authorize username entry =
    (if entry.command.rules.all Rules.isUnconditional then pure ∅ else userGrants username) >>=
      fun granted => match Rules.evaluate entry.command.rules granted with
        | .allow => return ()
        | .deny reason => throw (.unauthorized username entry.qualifiedName reason) := by
  unfold authorize
  dsimp only
  split <;> rfl

theorem leads_authorize {username : String} {entry : Entry}
    (h : Leads (authorize username entry).run log (.done (.ok ()))) :
    entry.command.rules ≠ [] ∧ ∀ rule ∈ entry.command.rules, Rules.Passes
      (fun g => ∃ shown, shown.text = g.text ∧ Shows log username shown) rule := by
  rw [authorize_eq] at h
  obtain ⟨first, granted, rest, rfl, hg, hm⟩ := Script.leads_except_bind_ok.1 h
  have hallow : rest = [] ∧ Rules.evaluate entry.command.rules granted = .allow := by
    split at hm
    · rename_i ha
      exact ⟨((Script.leads_pure ..).1 hm).1, ha⟩
    · cases ((Script.leads_pure ..).1 hm).2
  obtain ⟨rfl, hallow⟩ := hallow
  obtain ⟨hne, hall⟩ := Rules.evaluate_allow.1 hallow
  refine ⟨hne, fun rule hr => (hall rule hr).mono fun g _ hhas => ?_⟩
  obtain ⟨shown, hs⟩ := (SortedMap.contains_iff _ _).1 hhas
  rw [List.append_nil]
  split at hg
  · obtain ⟨-, hg⟩ := (Script.leads_pure ..).1 hg
    cases hg
    cases hs
  · obtain ⟨hk, hshow⟩ := leads_userGrants hg hs
    exact ⟨shown, hk, hshow⟩

theorem asks_collectRoles (granted : GrantSet) (roles : List String) :
    Asks (fun c => c.part? = none) (collectRoles granted roles).run := by
  induction roles generalizing granted with
  | nil => exact Script.asks_pure _
  | cons role roles ih => exact Asks.except_bind (Call.asks_adapt rfl) fun _ => ih _

theorem asks_collectGroups (granted : GrantSet) (groups : List String) :
    Asks (fun c => c.part? = none) (collectGroups granted groups).run := by
  induction groups generalizing granted with
  | nil => exact Script.asks_pure _
  | cons group groups ih =>
    refine Asks.except_bind ?_ fun _ => ih _
    exact Asks.except_bind (Call.asks_adapt rfl) fun _ => asks_collectRoles _ _

theorem asks_authorize (username : String) (entry : Entry) :
    Asks (fun c => c.part? = none) (authorize username entry).run := by
  rw [authorize_eq]
  refine Asks.except_bind ?_ fun granted => ?_
  · split
    · exact Script.asks_pure _
    · exact Asks.except_bind (Call.asks_adapt rfl) fun _ => asks_collectGroups _ _
  · split <;> exact Script.asks_pure _

variable {s t : Store}

theorem hasGrant_of_shows (hs : s.DirectorySound) (hl : Chronicle .routing s log t)
    (hr : ∀ x ∈ log, x.1.part? = none) {username : String} {g : Grant} (h : Shows log username g) :
    s.HasGrant username g := by
  obtain ⟨groups, group, roles, role, grants, hg, hgroup, hro, hrole, hgr, hgrant⟩ := h
  have same {u : Store} (e : Edge) (hu : Store.Alike s u) : e.isIn u = e.isIn s :=
    e.isIn_congr hu.groups hu.roles
  refine ⟨group, role, ?_, ?_, ?_⟩
  · obtain ⟨u, hu, hg⟩ := hl.exists_of_read hr hg
    rw [← same _ hu]
    exact (Edge.groupsOf_iff (hu.directorySound hs) group username).1 ⟨groups, hg, hgroup⟩
  · obtain ⟨u, hu, hro⟩ := hl.exists_of_read hr hro
    rw [← same _ hu]
    exact (Edge.role_listed_iff (hu.directorySound hs) group role).1 ⟨roles, hro, hrole⟩
  · obtain ⟨u, hu, hgr⟩ := hl.exists_of_read hr hgr
    rw [← same _ hu]
    exact (Edge.grant_listed_iff (hu.directorySound hs) role g.bundle g.permission).1 ⟨grants, hgr, hgrant⟩

theorem permits_of_authorize (hs : s.DirectorySound) (hl : Chronicle .routing s log t) {username : String}
    {entry : Entry} (h : Leads (authorize username entry).run log (.done (.ok ()))) :
    s.Permits username entry.command.rules := by
  have hr := (Asks.of_leads h (asks_authorize username entry)).2
  obtain ⟨hne, hall⟩ := leads_authorize h
  refine ⟨hne, fun rule hrule => (hall rule hrule).mono fun g hg hshown => ?_⟩
  obtain ⟨shown, ht, hshow⟩ := hshown
  have hgrant := hasGrant_of_shows hs hl hr hshow
  suffices shown = g by rwa [this] at hgrant
  obtain ⟨-, role, -, -, hin⟩ := hgrant
  obtain ⟨gs, hgs, hk⟩ := (Option.any_eq_true _ _).1 hin
  have hb := ((hs.grants role gs hgs) _ _ (beq_iff_eq.1 hk)).2
  exact Grant.eq_of_text hb (Rules.colon_not_mem_of_required hg) ht

end Authorization

end ChatRouter
