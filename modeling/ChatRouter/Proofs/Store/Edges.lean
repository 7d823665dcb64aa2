import ChatRouter.Proofs.Store.Directory

set_option autoImplicit false

namespace ChatRouter

open Store (perform after successes InForce Answers)

/-- An edge from a group to a user or a role, or from a role to a grant. -/
inductive Edge where
  | member (group username : String)
  | role (group role : String)
  | grant (role bundle permission : String)

namespace Edge

def isIn (s : Store) : Edge → Bool
  | member g u => (s.groups.get? g).any (·.users.contains u)
  | role g r => (s.groups.get? g).any (·.roles.contains r)
  | grant r b p => (s.roles.get? r).any fun grants => grants.get? (Grant.text ⟨b, p⟩) == some ⟨b, p⟩

def maker : Edge → Call
  | member g u => .groupUserAdd g u
  | role g r => .groupRoleAdd g r
  | grant r b p => .rolePermissionAdd r b p

def enders : Edge → List Call
  | member g u => [.groupUserDelete g u, .userDelete u, .groupDelete g]
  | role g r => [.groupRoleDelete g r, .roleDelete r, .groupDelete g]
  | grant r b p => [.rolePermissionDelete r b p, .roleDelete r]

/-- The log has the call that makes the edge, and after it none that ends it. -/
def Standing (e : Edge) (log : List Call) : Prop := InForce (· = e.maker) (· ∈ e.enders) log

def touchedBy (e : Edge) (c : Call) : Bool :=
  match e with
  | member _ _ | role _ _ => c.changesGroups
  | grant _ _ _ => c.changesRoles

theorem touchedBy_maker (e : Edge) : e.touchedBy e.maker = true := by cases e <;> rfl

theorem touchedBy_enders (e : Edge) : ∀ c ∈ e.enders, e.touchedBy c = true := by
  cases e <;> simp [enders, touchedBy, Call.changesGroups, Call.changesRoles]

variable {s t : Store} {c : Call}

theorem isIn_congr (e : Edge) (hg : t.groups = s.groups) (hr : t.roles = s.roles) :
    e.isIn t = e.isIn s := by
  cases e <;> simp only [isIn, hg, hr]

theorem isIn_untouched {e : Edge} {r : c.Reply} (h : perform c s = (.ok r, t)) (hc : e.touchedBy c = false) :
    e.isIn t = e.isIn s := by
  cases e with
  | member g u | role g n => simp only [isIn, Store.groups_kept h hc]
  | grant n b p => simp only [isIn, Store.roles_kept h hc]

theorem member_step {r : c.Reply} (h : perform c s = (.ok r, t)) (hc : c.changesGroups = true)
    (g u : String) : (member g u).isIn t = true ↔
      c = (member g u).maker ∨ ((member g u).isIn s = true ∧ c ∉ (member g u).enders) := by
  cases c with
  | userDelete n =>
    obtain ⟨-, -, -, rfl⟩ := Store.deleteUser_ok.1 h
    cases hs : s.groups.get? g <;> grind [isIn, maker, enders]
  | groupCreate n =>
    obtain ⟨-, hn, rfl⟩ := Store.createGroup_ok.1 h
    cases hs : s.groups.get? g <;>
      grind [isIn, maker, enders, Membership.empty, SortedMap.contains, SortedMap.get?_empty]
  | groupDelete n =>
    obtain ⟨-, -, -, rfl⟩ := Store.deleteGroup_ok.1 h
    cases hs : s.groups.get? g <;> grind [isIn, maker, enders]
  | groupUserAdd n v =>
    obtain ⟨⟨-, hn⟩, -, rfl⟩ := Store.addMember_ok.1 h
    cases hs : s.groups.get? g <;>
      grind [isIn, maker, enders, Store.changeGroup, SortedMap.contains]
  | groupUserDelete n v =>
    obtain ⟨-, -, -, rfl⟩ := Store.removeMember_ok.1 h
    cases hs : s.groups.get? g <;> grind [isIn, maker, enders, Store.changeGroup]
  | groupRoleAdd n v =>
    obtain ⟨-, -, rfl⟩ := Store.addRole_ok.1 h
    cases hs : s.groups.get? g <;> grind [isIn, maker, enders, Store.changeGroup]
  | groupRoleDelete n v =>
    obtain ⟨-, -, rfl⟩ := Store.removeRole_ok.1 h
    cases hs : s.groups.get? g <;> grind [isIn, maker, enders, Store.changeGroup]
  | roleDelete n =>
    obtain ⟨-, -, rfl⟩ := Store.deleteRole_ok.1 h
    cases hs : s.groups.get? g <;> grind [isIn, maker, enders]
  | _ => cases hc

theorem role_step {r : c.Reply} (h : perform c s = (.ok r, t)) (hc : c.changesGroups = true)
    (g n : String) : (role g n).isIn t = true ↔
      c = (role g n).maker ∨ ((role g n).isIn s = true ∧ c ∉ (role g n).enders) := by
  cases c with
  | userDelete v =>
    obtain ⟨-, -, -, rfl⟩ := Store.deleteUser_ok.1 h
    cases hs : s.groups.get? g <;> grind [isIn, maker, enders]
  | groupCreate v =>
    obtain ⟨-, hn, rfl⟩ := Store.createGroup_ok.1 h
    cases hs : s.groups.get? g <;>
      grind [isIn, maker, enders, Membership.empty, SortedMap.contains, SortedMap.get?_empty]
  | groupDelete v =>
    obtain ⟨-, -, -, rfl⟩ := Store.deleteGroup_ok.1 h
    cases hs : s.groups.get? g <;> grind [isIn, maker, enders]
  | groupUserAdd v u =>
    obtain ⟨-, -, rfl⟩ := Store.addMember_ok.1 h
    cases hs : s.groups.get? g <;> grind [isIn, maker, enders, Store.changeGroup]
  | groupUserDelete v u =>
    obtain ⟨-, -, -, rfl⟩ := Store.removeMember_ok.1 h
    cases hs : s.groups.get? g <;> grind [isIn, maker, enders, Store.changeGroup]
  | groupRoleAdd v m =>
    obtain ⟨⟨-, hv⟩, -, rfl⟩ := Store.addRole_ok.1 h
    cases hs : s.groups.get? g <;>
      grind [isIn, maker, enders, Store.changeGroup, SortedMap.contains]
  | groupRoleDelete v m =>
    obtain ⟨-, -, rfl⟩ := Store.removeRole_ok.1 h
    cases hs : s.groups.get? g <;> grind [isIn, maker, enders, Store.changeGroup]
  | roleDelete v =>
    obtain ⟨-, -, rfl⟩ := Store.deleteRole_ok.1 h
    cases hs : s.groups.get? g <;> grind [isIn, maker, enders]
  | _ => cases hc

theorem grant_step (hs : s.DirectorySound) {r : c.Reply} (h : perform c s = (.ok r, t))
    (hc : c.changesRoles = true) (n b p : String) : (grant n b p).isIn t = true ↔
      c = (grant n b p).maker ∨ ((grant n b p).isIn s = true ∧ c ∉ (grant n b p).enders) := by
  cases c with
  | roleCreate v =>
    obtain ⟨-, hv, rfl⟩ := Store.createRole_ok.1 h
    cases hr : s.roles.get? n <;>
      grind [isIn, maker, enders, SortedMap.contains, SortedMap.get?_empty]
  | roleDelete v =>
    obtain ⟨-, -, rfl⟩ := Store.deleteRole_ok.1 h
    cases hr : s.roles.get? n <;> grind [isIn, maker, enders]
  | rolePermissionAdd v b' p' =>
    obtain ⟨⟨-, hb, -⟩, ⟨-, hv⟩, rfl⟩ := Store.addGrant_ok.1 h
    by_cases hn : n = v
    · subst hn
      obtain ⟨gs, hgs⟩ := (SortedMap.contains_iff _ _).1 hv
      have := (hs.grants n gs hgs).mem_add (g := ⟨b, p⟩) (h := ⟨b', p'⟩) hb
      simpa [isIn, maker, enders, SortedMap.get?_modify_ite, hgs] using this
    · simp [isIn, maker, enders, SortedMap.get?_modify_ite, hn, Ne.symm hn]
  | rolePermissionDelete v b' p' =>
    obtain ⟨⟨-, hb, -⟩, ⟨-, hv⟩, rfl⟩ := Store.removeGrant_ok.1 h
    by_cases hn : n = v
    · subst hn
      obtain ⟨gs, hgs⟩ := (SortedMap.contains_iff _ _).1 hv
      have := (hs.grants n gs hgs).mem_remove (g := ⟨b, p⟩) (h := ⟨b', p'⟩) hb
      simpa [isIn, maker, enders, SortedMap.get?_modify_ite, hgs, and_comm] using this
    · simp [isIn, maker, enders, SortedMap.get?_modify_ite, hn, Ne.symm hn]
  | _ => cases hc

theorem isIn_step (hs : s.DirectorySound) {r : c.Reply} (h : perform c s = (.ok r, t)) (e : Edge) :
    e.isIn t = true ↔ c = e.maker ∨ (e.isIn s = true ∧ c ∉ e.enders) := by
  cases hc : e.touchedBy c with
  | true =>
    cases e with
    | member g u => exact member_step h hc g u
    | role g n => exact role_step h hc g n
    | grant n b p => exact grant_step hs h hc n b p
  | false =>
    have hm : c ≠ e.maker := by
      rintro rfl
      exact Bool.false_ne_true (hc.symm.trans e.touchedBy_maker)
    have he : c ∉ e.enders := fun he => Bool.false_ne_true (hc.symm.trans (e.touchedBy_enders c he))
    simp [isIn_untouched h hc, hm, he]

theorem isIn_iff_standing (e : Edge) (engine : Regex.Engine) (calls : List Call) :
    e.isIn (after calls (.new engine)) = true ↔ e.Standing (successes calls (.new engine)) := by
  refine Store.holds_iff_inForce (P := fun s => e.isIn s = true) ?_ ?_ calls
  · cases e <;> simp [isIn, Store.new]
  · intro s c r t hs h
    exact isIn_step hs.directorySound h e

/-- The store lists it when asked for the users of the group, the roles of the group or the grants of the
role. -/
def Listed (s : Store) : Edge → Prop
  | member g u => Answers s (.groupUserList g) fun users => ∃ x ∈ users, x.username = u
  | role g r => Answers s (.groupRoleList g) (r ∈ ·)
  | grant r b p => Answers s (.rolePermissionList r) (⟨b, p⟩ ∈ ·)

def Grounded (s : Store) : Edge → Prop
  | member g u => s.groupExists g = true ∧ s.userExists u = true
  | role g r => s.groupExists g = true ∧ s.roleExists r = true
  | grant r _ _ => s.roleExists r = true

/-- The calls that create what the edge joins. -/
def FoundedBy (c : Call) : Edge → Prop
  | member g u => c = .groupCreate g ∨ ∃ x, c = .userCreate x ∧ x.username = u
  | role g r => c = .groupCreate g ∨ c = .roleCreate r
  | grant r _ _ => c = .roleCreate r

theorem grounded_of_isIn (hs : s.DirectorySound) {e : Edge} (h : e.isIn s = true) : e.Grounded s := by
  cases e with
  | member g u =>
    obtain ⟨m, hm, hu⟩ := (Option.any_eq_true _ _).1 h
    exact ⟨(SortedMap.contains_iff _ _).2 ⟨m, hm⟩, hs.members g m u hm hu⟩
  | role g r =>
    obtain ⟨m, hm, hr⟩ := (Option.any_eq_true _ _).1 h
    exact ⟨(SortedMap.contains_iff _ _).2 ⟨m, hm⟩, hs.roles g m r hm hr⟩
  | grant r b p =>
    obtain ⟨gs, hgs, -⟩ := (Option.any_eq_true _ _).1 h
    exact (SortedMap.contains_iff _ _).2 ⟨gs, hgs⟩

theorem member_listed_iff (hs : s.DirectorySound) (g u : String) :
    (member g u).Listed s ↔ (member g u).isIn s = true := by
  constructor
  · rintro ⟨users, hu, x, hx, rfl⟩
    obtain ⟨m, hm, rfl⟩ := Store.members_ok.1 hu
    obtain ⟨k, hk, hkx⟩ := List.mem_filterMap.1 hx
    have := hs.usernames k x hkx
    rw [SortedMap.mem_keys_iff, ← this] at hk
    exact (Option.any_eq_true _ _).2 ⟨m, (Store.group_ok.1 hm).2, hk⟩
  · intro h
    obtain ⟨m, hm, hu⟩ := (Option.any_eq_true _ _).1 h
    obtain ⟨x, hx⟩ := (SortedMap.contains_iff _ _).1 (hs.members g m u hm hu)
    have hm' := Store.group_ok.2 ⟨hs.group_ne_empty hm, hm⟩
    refine ⟨_, Store.members_ok.2 ⟨m, hm', rfl⟩, x, ?_, hs.usernames u x hx⟩
    exact List.mem_filterMap.2 ⟨u, (SortedMap.mem_keys_iff _ _).2 hu, hx⟩

theorem groupsOf_iff (hs : s.DirectorySound) (g u : String) :
    Answers s (.userGroupList u) (g ∈ ·) ↔ (member g u).isIn s = true := by
  constructor
  · rintro ⟨groups, hgs, hg⟩
    obtain ⟨-, rfl⟩ := Store.groupsOf_ok.1 hgs
    obtain ⟨⟨g', m⟩, he, rfl⟩ := List.mem_map.1 hg
    obtain ⟨he, hu⟩ := List.mem_filter.1 he
    exact (Option.any_eq_true _ _).2 ⟨m, (SortedMap.mem_entries_iff _ _ _).1 he, hu⟩
  · intro h
    obtain ⟨m, hm, hu⟩ := (Option.any_eq_true _ _).1 h
    refine ⟨_, Store.groupsOf_ok.2 ⟨⟨?_, hs.members g m u hm hu⟩, rfl⟩, ?_⟩
    · rintro rfl
      simpa [hs.userNamed] using hs.members g m "" hm hu
    · refine List.mem_map.2 ⟨(g, m), List.mem_filter.2 ⟨?_, hu⟩, rfl⟩
      exact (SortedMap.mem_entries_iff _ _ _).2 hm

theorem role_listed_iff (hs : s.DirectorySound) (g r : String) :
    (role g r).Listed s ↔ (role g r).isIn s = true := by
  constructor
  · rintro ⟨roles, hr, hm⟩
    obtain ⟨m, hg, rfl⟩ := Store.rolesOf_ok.1 hr
    exact (Option.any_eq_true _ _).2 ⟨m, (Store.group_ok.1 hg).2, (SortedMap.mem_keys_iff _ _).1 hm⟩
  · intro h
    obtain ⟨m, hg, hr⟩ := (Option.any_eq_true _ _).1 h
    have hg' := Store.group_ok.2 ⟨hs.group_ne_empty hg, hg⟩
    exact ⟨_, Store.rolesOf_ok.2 ⟨m, hg', rfl⟩, (SortedMap.mem_keys_iff _ _).2 hr⟩

theorem grant_listed_iff (hs : s.DirectorySound) (r b p : String) :
    (grant r b p).Listed s ↔ (grant r b p).isIn s = true := by
  constructor
  · rintro ⟨grants, hg, hm⟩
    obtain ⟨-, gs, hgs, rfl⟩ := Store.grantsOf_ok.1 hg
    refine (Option.any_eq_true _ _).2 ⟨gs, hgs, beq_iff_eq.2 ?_⟩
    exact ((hs.grants r gs hgs).mem_values_iff ⟨b, p⟩).1 hm
  · intro h
    obtain ⟨gs, hgs, hg⟩ := (Option.any_eq_true _ _).1 h
    refine ⟨_, Store.grantsOf_ok.2 ⟨?_, gs, hgs, rfl⟩, ?_⟩
    · rintro rfl
      simpa [SortedMap.contains, hgs] using hs.roleNamed
    · exact ((hs.grants r gs hgs).mem_values_iff ⟨b, p⟩).2 (beq_iff_eq.1 hg)

theorem listed_iff_isIn (hs : s.DirectorySound) (e : Edge) : e.Listed s ↔ e.isIn s = true := by
  cases e with
  | member g u => exact member_listed_iff hs g u
  | role g r => exact role_listed_iff hs g r
  | grant r b p => exact grant_listed_iff hs r b p

theorem not_isIn_of_foundedBy (hs : s.DirectorySound) {r : c.Reply} (h : perform c s = (.ok r, t))
    {e : Edge} (hf : e.FoundedBy c) : e.isIn t = false := by
  have absent : ¬ e.Grounded s := by
    intro hg
    cases e with
    | member g u =>
      rcases hf with rfl | ⟨x, rfl, rfl⟩
      · obtain ⟨-, hn, -⟩ := Store.createGroup_ok.1 h
        exact Bool.false_ne_true (hn.symm.trans hg.1)
      · obtain ⟨-, hn, -⟩ := Store.createUser_ok.1 h
        exact Bool.false_ne_true (hn.symm.trans hg.2)
    | role g r =>
      rcases hf with rfl | rfl
      · obtain ⟨-, hn, -⟩ := Store.createGroup_ok.1 h
        exact Bool.false_ne_true (hn.symm.trans hg.1)
      · obtain ⟨-, hn, -⟩ := Store.createRole_ok.1 h
        exact Bool.false_ne_true (hn.symm.trans hg.2)
    | grant r b p =>
      obtain rfl := hf
      obtain ⟨-, hn, -⟩ := Store.createRole_ok.1 h
      exact Bool.false_ne_true (hn.symm.trans hg)
  have other : c ≠ e.maker := by
    rintro rfl
    cases e <;> simp [FoundedBy, maker] at hf
  rw [Bool.eq_false_iff]
  intro ht
  rcases (isIn_step hs h e).1 ht with hc | ⟨hi, -⟩
  · exact other hc
  · exact absent (grounded_of_isIn hs hi)

end Edge

/-- The lists of the directory are the history of its edges. An edge that was made and not ended since
joins what is there, and what is created, also in the place of something deleted, starts without edges. -/
theorem Store.directory_follows_history (engine : Regex.Engine) (calls : List Call) :
    let s := after calls (.new engine)
    let log := successes calls (.new engine)
    (∀ e : Edge, e.Listed s ↔ e.Grounded s ∧ e.Standing log) ∧
      (∀ e : Edge, e.Standing log → e.Grounded s) ∧
      (∀ g u, Answers s (.userGroupList u) (g ∈ ·) ↔ (Edge.member g u).Listed s) ∧
      (∀ e : Edge, e.isIn s = true → e.Grounded s) ∧
      ∀ (e : Edge) (c : Call), e.FoundedBy c → (perform c s).1.isOk = true →
        e.isIn (perform c s).2 = false ∧ ¬ e.Listed (perform c s).2 := by
  intro s log
  have hr : Reachable s := ⟨_, calls, rfl⟩
  have hs := hr.directorySound
  have standing (e : Edge) : e.isIn s = true ↔ e.Standing log := Edge.isIn_iff_standing e engine calls
  have grounded (e : Edge) (h : e.isIn s = true) : e.Grounded s := Edge.grounded_of_isIn hs h
  refine ⟨fun e => ?_, fun e he => grounded e ((standing e).2 he), fun g u => ?_, grounded, ?_⟩
  · rw [Edge.listed_iff_isIn hs, ← standing]
    exact ⟨fun h => ⟨grounded e h, h⟩, fun h => h.2⟩
  · rw [Edge.groupsOf_iff hs, Edge.listed_iff_isIn hs]
  · intro e c hf hc
    obtain ⟨r, hp⟩ := Store.exists_ok_of_isOk hc
    have hn := Edge.not_isIn_of_foundedBy hs (Prod.ext hp rfl) hf
    refine ⟨hn, ?_⟩
    rw [Edge.listed_iff_isIn (hr.perform c).directorySound, hn]
    exact Bool.false_ne_true

end ChatRouter
