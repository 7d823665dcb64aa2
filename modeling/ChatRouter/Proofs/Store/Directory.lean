import ChatRouter.Proofs.Store.History

set_option autoImplicit false

/-!
# Calls on the directory

What each call on users, groups and roles requires and what it leaves, and what holds of the directory of
every reachable store: nothing is kept under a name that is not its own, and nothing refers to what is not
there.
-/

namespace ChatRouter

theorem Grant.eq_of_text {g h : Grant} (hg : ':' ∉ g.bundle.toList) (hh : ':' ∉ h.bundle.toList)
    (he : g.text = h.text) : g = h := by
  have split (k : Grant) (hk : ':' ∉ k.bundle.toList) :
      Text.splitFirst ':' k.text.toList = some (k.bundle.toList, k.permission.toList) := by
    rw [← Text.splitFirst_append hk]
    simp [Grant.text]
  have hs := (split g hg).symm.trans (he ▸ split h hh)
  simp only [Option.some.injEq, Prod.mk.injEq, String.toList_inj] at hs
  cases g
  cases h
  simp_all

theorem Grant.checked_ok {b p : String} {g : Grant} : Grant.checked b p = .ok g ↔
    (b ≠ "" ∧ ':' ∉ b.toList ∧ p ≠ "") ∧ ⟨b, p⟩ = g := by
  unfold Grant.checked
  split
  · simp_all
  · split
    · simp_all
    · split <;> simp_all

namespace GrantSet

/-- Every grant is kept under its text, and no text is that of two grants. -/
def Keyed (gs : GrantSet) : Prop :=
  ∀ k g, SortedMap.get? gs k = some g → g.text = k ∧ ':' ∉ g.bundle.toList

variable {gs : GrantSet} {g h : Grant}

theorem keyed_empty : Keyed ∅ := fun _ _ h => by cases h

theorem Keyed.eq (hs : gs.Keyed) (hh : ':' ∉ h.bundle.toList) (hg : SortedMap.get? gs h.text = some g) :
    g = h := by
  obtain ⟨ht, hb⟩ := hs _ _ hg
  exact Grant.eq_of_text hb hh ht

theorem Keyed.get?_add (hs : gs.Keyed) (hh : ':' ∉ h.bundle.toList) (k : String) :
    SortedMap.get? (gs.add h) k = if k = h.text then some h else SortedMap.get? gs k := by
  rw [add, SortedMap.get?_insertNew_ite]
  cases hg : SortedMap.get? gs h.text with
  | none => rfl
  | some g => rw [Option.getD_some, hs.eq hh hg]

theorem Keyed.add (hs : gs.Keyed) (hh : ':' ∉ h.bundle.toList) : Keyed (gs.add h) := by
  intro k g hg
  rw [hs.get?_add hh] at hg
  split at hg
  · cases hg
    exact ⟨Eq.symm ‹_›, hh⟩
  · exact hs k g hg

theorem Keyed.remove (hs : gs.Keyed) (h : Grant) : Keyed (gs.remove h) := by
  intro k g hg
  rw [GrantSet.remove, SortedMap.get?_erase_ite] at hg
  split at hg
  · cases hg
  · exact hs k g hg

theorem Keyed.mem_values_iff (hs : gs.Keyed) (g : Grant) :
    g ∈ gs.values ↔ SortedMap.get? gs g.text = some g := by
  rw [SortedMap.mem_values_iff]
  constructor
  · rintro ⟨k, hk⟩
    rwa [(hs k g hk).1]
  · exact fun h => ⟨g.text, h⟩

theorem Keyed.mem_add (hs : gs.Keyed) (hh : ':' ∉ h.bundle.toList) :
    SortedMap.get? (gs.add h) g.text = some g ↔ h = g ∨ SortedMap.get? gs g.text = some g := by
  rw [hs.get?_add hh]
  split
  · rename_i ht
    rw [Option.some.injEq]
    refine ⟨.inl, fun hg => hg.elim id fun hg => ?_⟩
    exact (hs.eq hh (ht ▸ hg)).symm
  · rename_i ht
    exact ⟨.inr, fun hg => hg.elim (fun he => absurd (he ▸ rfl) ht) id⟩

theorem Keyed.mem_remove (hs : gs.Keyed) (hh : ':' ∉ h.bundle.toList) :
    SortedMap.get? (gs.remove h) g.text = some g ↔ h ≠ g ∧ SortedMap.get? gs g.text = some g := by
  rw [GrantSet.remove, SortedMap.get?_erase_ite]
  split
  · rename_i ht
    refine iff_of_false (by simp) fun ⟨hne, hg⟩ => hne ?_
    exact (hs.eq hh (ht ▸ hg)).symm
  · rename_i ht
    exact ⟨fun hg => ⟨fun he => ht (he ▸ rfl), hg⟩, fun hg => hg.2⟩

theorem Keyed.addAll (hs : gs.Keyed) {grants : List Grant} (hg : ∀ d ∈ grants, ':' ∉ d.bundle.toList) :
    Keyed (gs.addAll grants) := by
  induction grants generalizing gs with
  | nil => exact hs
  | cons d grants ih =>
    obtain ⟨hd, hg⟩ := List.forall_mem_cons.1 hg
    exact ih (hs.add hd) hg

theorem Keyed.mem_addAll (hs : gs.Keyed) {grants : List Grant} (hg : ∀ d ∈ grants, ':' ∉ d.bundle.toList) :
    SortedMap.get? (gs.addAll grants) g.text = some g ↔ g ∈ grants ∨ SortedMap.get? gs g.text = some g := by
  induction grants generalizing gs with
  | nil => simp [GrantSet.addAll]
  | cons d grants ih =>
    obtain ⟨hd, hg⟩ := List.forall_mem_cons.1 hg
    change SortedMap.get? ((gs.add d).addAll grants) g.text = some g ↔ _
    rw [ih (hs.add hd) hg, hs.mem_add hd, List.mem_cons, eq_comm (a := d), or_left_comm, or_assoc]

theorem Keyed.has_iff (hs : gs.Keyed) (hg : ':' ∉ g.bundle.toList) :
    gs.has g = true ↔ SortedMap.get? gs g.text = some g := by
  rw [has, SortedMap.contains_iff]
  constructor
  · rintro ⟨d, hd⟩
    rwa [hs.eq hg hd] at hd
  · exact fun h => ⟨g, h⟩

end GrantSet

/-- The calls that may change the members or the roles of groups, or which groups there are. -/
def Call.changesGroups : Call → Bool
  | userDelete _ | groupCreate _ | groupDelete _ | groupUserAdd _ _ | groupUserDelete _ _ | groupRoleAdd _ _
  | groupRoleDelete _ _ | roleDelete _ => true
  | _ => false

/-- The calls that may change the grants of roles, or which roles there are. -/
def Call.changesRoles : Call → Bool
  | roleCreate _ | roleDelete _ | rolePermissionAdd _ _ _ | rolePermissionDelete _ _ _ => true
  | _ => false

def Call.changesUsers : Call → Bool
  | userCreate _ | userUpdate _ | userDelete _ => true
  | _ => false

namespace Store

open Edit

variable {s t : Store} {n : String}

/-! ## What the calls do -/

@[simp] theorem requireUser_ok : s.requireUser n = .ok () ↔ n ≠ "" ∧ s.users.contains n = true := by
  unfold requireUser
  split
  · simp_all
  · split <;> simp_all

@[simp] theorem requireRole_ok : s.requireRole n = .ok () ↔ n ≠ "" ∧ s.roles.contains n = true := by
  unfold requireRole
  split
  · simp_all
  · split <;> simp_all

theorem group_ok {m : Membership} : s.group n = .ok m ↔ n ≠ "" ∧ s.groups.get? n = some m := by
  unfold group
  split
  · simp_all
  · split <;> simp_all

@[simp] theorem requireGroup_ok : s.requireGroup n = .ok () ↔ n ≠ "" ∧ s.groups.contains n = true := by
  rw [SortedMap.contains_iff, ← exists_and_left]
  simp only [← group_ok]
  unfold requireGroup
  split <;> simp_all

theorem createUser_ok {u : User} : (createUser u).run s = (.ok (), t) ↔
    Text.isBlankText u.username = false ∧ s.users.contains u.username = false ∧
      s.requireEmailFree u = .ok () ∧ s.putUser u = t := by
  simp [createUser]

theorem updateUser_ok {u : User} : (updateUser u).run s = (.ok (), t) ↔
    u.username ≠ "" ∧ s.requireEmailFree u = .ok () ∧ ∃ old, s.users.get? u.username = some old ∧
      s.putUser { u with passwordHash := u.passwordHash <|> old.passwordHash } = t := by
  simp only [updateUser, run_ask_unit_bind_ok, requireUser_ok, run_change, SortedMap.contains_iff]
  constructor
  · rintro ⟨⟨hn, old, ho⟩, he, h⟩
    simp only [ho, Prod.mk.injEq, true_and] at h
    exact ⟨hn, he, old, ho, h⟩
  · rintro ⟨hn, he, old, ho, h⟩
    simp only [ho, h]
    exact ⟨⟨hn, old, rfl⟩, he, trivial⟩

theorem deleteUser_ok : (deleteUser n).run s = (.ok (), t) ↔
    n ≠ adminUser ∧ n ≠ "" ∧ s.users.contains n = true ∧
      { s with
        users := s.users.erase n
        groups := s.groups.mapValues fun _ g => { g with users := g.users.erase n } } = t := by
  simp [deleteUser, and_assoc]

theorem createGroup_ok : (createGroup n).run s = (.ok (), t) ↔
    Text.isBlankText n = false ∧ s.groups.contains n = false ∧
      { s with groups := s.groups.insert n Membership.empty } = t := by
  simp [createGroup]

theorem deleteGroup_ok : (deleteGroup n).run s = (.ok (), t) ↔
    n ≠ adminGroup ∧ n ≠ "" ∧ s.groups.contains n = true ∧
      { s with groups := s.groups.erase n } = t := by
  simp [deleteGroup, and_assoc]

theorem addMember_ok {g u : String} : (addMember g u).run s = (.ok (), t) ↔
    (g ≠ "" ∧ s.groups.contains g = true) ∧ (u ≠ "" ∧ s.users.contains u = true) ∧
      s.changeGroup g (fun m => { m with users := m.users.insert u () }) = t := by
  simp [addMember]

theorem removeMember_ok {g u : String} : (removeMember g u).run s = (.ok (), t) ↔
    ¬ (g = adminGroup ∧ u = adminUser) ∧ (g ≠ "" ∧ s.groups.contains g = true) ∧
      (u ≠ "" ∧ s.users.contains u = true) ∧
      s.changeGroup g (fun m => { m with users := m.users.erase u }) = t := by
  simp [removeMember]

theorem addRole_ok {g r : String} : (addRole g r).run s = (.ok (), t) ↔
    (g ≠ "" ∧ s.groups.contains g = true) ∧ (r ≠ "" ∧ s.roles.contains r = true) ∧
      s.changeGroup g (fun m => { m with roles := m.roles.insert r () }) = t := by
  simp [addRole]

theorem removeRole_ok {g r : String} : (removeRole g r).run s = (.ok (), t) ↔
    (g ≠ "" ∧ s.groups.contains g = true) ∧ (r ≠ "" ∧ s.roles.contains r = true) ∧
      s.changeGroup g (fun m => { m with roles := m.roles.erase r }) = t := by
  simp [removeRole]

theorem createRole_ok : (createRole n).run s = (.ok (), t) ↔
    Text.isBlankText n = false ∧ s.roles.contains n = false ∧
      { s with roles := s.roles.insert n ∅ } = t := by
  simp [createRole]

theorem deleteRole_ok : (deleteRole n).run s = (.ok (), t) ↔
    n ≠ "" ∧ s.roles.contains n = true ∧
      { s with
        roles := s.roles.erase n
        groups := s.groups.mapValues fun _ g => { g with roles := g.roles.erase n } } = t := by
  simp [deleteRole, and_assoc]

theorem addGrant_ok {r b p : String} : (addGrant r b p).run s = (.ok (), t) ↔
    (b ≠ "" ∧ ':' ∉ b.toList ∧ p ≠ "") ∧ (r ≠ "" ∧ s.roles.contains r = true) ∧
      { s with roles := s.roles.modify r (GrantSet.add · ⟨b, p⟩) } = t := by
  simp [addGrant, run_check_bind_ok (x := Grant.checked b p), Grant.checked_ok]

theorem removeGrant_ok {r b p : String} : (removeGrant r b p).run s = (.ok (), t) ↔
    (b ≠ "" ∧ ':' ∉ b.toList ∧ p ≠ "") ∧ (r ≠ "" ∧ s.roles.contains r = true) ∧
      { s with roles := s.roles.modify r (GrantSet.remove · ⟨b, p⟩) } = t := by
  simp [removeGrant, run_check_bind_ok (x := Grant.checked b p), Grant.checked_ok]

theorem members_ok {users : List User} : s.members n = .ok users ↔
    ∃ m, s.group n = .ok m ∧ m.users.keys.filterMap s.users.get? = users := by
  unfold members
  split <;> simp_all

theorem rolesOf_ok {roles : List String} : s.rolesOf n = .ok roles ↔
    ∃ m, s.group n = .ok m ∧ m.roles.keys = roles := by
  unfold rolesOf
  split <;> simp_all

theorem groupsOf_ok {groups : List String} : s.groupsOf n = .ok groups ↔
    (n ≠ "" ∧ s.users.contains n = true) ∧
      (s.groups.entries.filter fun e => e.2.users.contains n).map (·.1) = groups := by
  rw [← requireUser_ok]
  unfold groupsOf
  split <;> simp_all

theorem grantsOf_ok {grants : List Grant} : s.grantsOf n = .ok grants ↔
    n ≠ "" ∧ ∃ gs, s.roles.get? n = some gs ∧ gs.values = grants := by
  have h := requireRole_ok (s := s) (n := n)
  rw [SortedMap.contains_iff] at h
  unfold grantsOf
  split
  · obtain ⟨hn, gs, hgs⟩ := h.1 ‹_›
    simp [hn, hgs]
  · simp_all

/-! ## Which calls leave users, groups or roles alone -/

theorem users_kept {c : Call} {r : c.Reply} (h : perform c s = (.ok r, t)) (hc : c.changesUsers = false) :
    t.users = s.users := by
  by_cases hp : c.part? = some .directory
  · cases c with
    | groupCreate n =>
      obtain ⟨-, -, rfl⟩ := createGroup_ok.1 h
      rfl
    | groupDelete n =>
      obtain ⟨-, -, -, rfl⟩ := deleteGroup_ok.1 h
      rfl
    | groupUserAdd n v =>
      obtain ⟨-, -, rfl⟩ := addMember_ok.1 h
      rfl
    | groupUserDelete n v =>
      obtain ⟨-, -, -, rfl⟩ := removeMember_ok.1 h
      rfl
    | groupRoleAdd n v =>
      obtain ⟨-, -, rfl⟩ := addRole_ok.1 h
      rfl
    | groupRoleDelete n v =>
      obtain ⟨-, -, rfl⟩ := removeRole_ok.1 h
      rfl
    | roleCreate n =>
      obtain ⟨-, -, rfl⟩ := createRole_ok.1 h
      rfl
    | roleDelete n =>
      obtain ⟨-, -, rfl⟩ := deleteRole_ok.1 h
      rfl
    | rolePermissionAdd n b p =>
      obtain ⟨-, -, rfl⟩ := addGrant_ok.1 h
      rfl
    | rolePermissionDelete n b p =>
      obtain ⟨-, -, rfl⟩ := removeGrant_ok.1 h
      rfl
    | _ => first | cases hc; done | cases hp
  · obtain ⟨hu, -, -⟩ := perform_directory hp s
    rwa [h] at hu

theorem groups_kept {c : Call} {r : c.Reply} (h : perform c s = (.ok r, t)) (hc : c.changesGroups = false) :
    t.groups = s.groups := by
  by_cases hp : c.part? = some .directory
  · cases c with
    | userCreate x =>
      obtain ⟨-, -, -, rfl⟩ := createUser_ok.1 h
      rfl
    | userUpdate x =>
      obtain ⟨-, -, _, -, rfl⟩ := updateUser_ok.1 h
      rfl
    | roleCreate n =>
      obtain ⟨-, -, rfl⟩ := createRole_ok.1 h
      rfl
    | rolePermissionAdd n b p =>
      obtain ⟨-, -, rfl⟩ := addGrant_ok.1 h
      rfl
    | rolePermissionDelete n b p =>
      obtain ⟨-, -, rfl⟩ := removeGrant_ok.1 h
      rfl
    | _ => first | cases hc; done | cases hp
  · obtain ⟨-, hg, -⟩ := perform_directory hp s
    rwa [h] at hg

theorem roles_kept {c : Call} {r : c.Reply} (h : perform c s = (.ok r, t)) (hc : c.changesRoles = false) :
    t.roles = s.roles := by
  by_cases hp : c.part? = some .directory
  · cases c with
    | userCreate x =>
      obtain ⟨-, -, -, rfl⟩ := createUser_ok.1 h
      rfl
    | userUpdate x =>
      obtain ⟨-, -, _, -, rfl⟩ := updateUser_ok.1 h
      rfl
    | userDelete n =>
      obtain ⟨-, -, -, rfl⟩ := deleteUser_ok.1 h
      rfl
    | groupCreate n =>
      obtain ⟨-, -, rfl⟩ := createGroup_ok.1 h
      rfl
    | groupDelete n =>
      obtain ⟨-, -, -, rfl⟩ := deleteGroup_ok.1 h
      rfl
    | groupUserAdd n v =>
      obtain ⟨-, -, rfl⟩ := addMember_ok.1 h
      rfl
    | groupUserDelete n v =>
      obtain ⟨-, -, -, rfl⟩ := removeMember_ok.1 h
      rfl
    | groupRoleAdd n v =>
      obtain ⟨-, -, rfl⟩ := addRole_ok.1 h
      rfl
    | groupRoleDelete n v =>
      obtain ⟨-, -, rfl⟩ := removeRole_ok.1 h
      rfl
    | _ => first | cases hc; done | cases hp
  · obtain ⟨-, -, hr⟩ := perform_directory hp s
    rwa [h] at hr

/-! ## What holds of every directory -/

structure DirectorySound (s : Store) : Prop where
  usernames : ∀ n u, s.users.get? n = some u → u.username = n
  userNamed : s.users.contains "" = false
  groupNamed : s.groups.contains "" = false
  roleNamed : s.roles.contains "" = false
  members : ∀ g m u, s.groups.get? g = some m → m.users.contains u = true → s.users.contains u = true
  roles : ∀ g m r, s.groups.get? g = some m → m.roles.contains r = true → s.roles.contains r = true
  grants : ∀ r gs, s.roles.get? r = some gs → GrantSet.Keyed gs

theorem directorySound_new (engine : Regex.Engine) : DirectorySound (new engine) where
  usernames _ _ h := by cases h
  userNamed := rfl
  groupNamed := rfl
  roleNamed := rfl
  members _ _ _ h := by cases h
  roles _ _ _ h := by cases h
  grants _ _ h := by cases h

theorem DirectorySound.congr (h : DirectorySound s) (hu : t.users = s.users)
    (hg : t.groups = s.groups) (hr : t.roles = s.roles) : DirectorySound t := by
  obtain ⟨h₁, h₂, h₃, h₄, h₅, h₆, h₇⟩ := h
  constructor <;> simp only [hu, hg, hr] <;> assumption

theorem ne_empty_of_not_blank (h : Text.isBlankText n = false) : n ≠ "" := by
  rintro rfl
  cases h

theorem DirectorySound.group_ne_empty (hs : DirectorySound s) {m : Membership}
    (h : s.groups.get? n = some m) : n ≠ "" := by
  rintro rfl
  simpa [SortedMap.contains, h] using hs.groupNamed

theorem DirectorySound.user_ok (hs : DirectorySound s) {u : User} (h : s.users.get? n = some u) :
    s.user n = .ok u := by
  have hne : n.isEmpty = false := by
    refine Bool.eq_false_iff.2 fun he => ?_
    have hn := hs.userNamed
    rw [← String.isEmpty_iff.1 he, SortedMap.contains, h] at hn
    cases hn
  unfold user
  rw [hne, h]
  rfl

theorem DirectorySound.putUser (hs : DirectorySound s) {u : User} (hn : u.username ≠ "") :
    DirectorySound (s.putUser u) := by
  obtain ⟨h₁, h₂, h₃, h₄, h₅, h₆, h₇⟩ := hs
  refine ⟨?_, ?_, h₃, h₄, ?_, h₆, h₇⟩ <;> grind [Store.putUser]

theorem DirectorySound.step (hs : DirectorySound s) {c : Call} {r : c.Reply}
    (h : perform c s = (.ok r, t)) : DirectorySound t := by
  by_cases hp : c.part? = some .directory
  · have ⟨h₁, h₂, h₃, h₄, h₅, h₆, h₇⟩ := hs
    -- Each call changes one or two of the three maps; what speaks of the others only is kept as it is.
    cases c with
    | userCreate x =>
      obtain ⟨hb, -, -, rfl⟩ := createUser_ok.1 h
      exact hs.putUser (ne_empty_of_not_blank hb)
    | userUpdate x =>
      obtain ⟨hn, -, old, ho, rfl⟩ := updateUser_ok.1 h
      exact hs.putUser hn
    | userDelete n =>
      obtain ⟨-, -, -, rfl⟩ := deleteUser_ok.1 h
      refine ⟨?_, ?_, ?_, h₄, ?_, ?_, h₇⟩ <;> grind [Option.map_eq_some_iff]
    | groupCreate n =>
      obtain ⟨hb, -, rfl⟩ := createGroup_ok.1 h
      have := ne_empty_of_not_blank hb
      refine ⟨h₁, h₂, ?_, h₄, ?_, ?_, h₇⟩ <;>
        grind [Membership.empty, SortedMap.contains, SortedMap.get?_empty]
    | groupDelete n =>
      obtain ⟨-, -, -, rfl⟩ := deleteGroup_ok.1 h
      refine ⟨h₁, h₂, ?_, h₄, ?_, ?_, h₇⟩ <;> grind
    | groupUserAdd n v =>
      obtain ⟨-, ⟨-, hv⟩, rfl⟩ := addMember_ok.1 h
      refine ⟨h₁, h₂, ?_, h₄, ?_, ?_, h₇⟩ <;> grind [changeGroup, Option.map_eq_some_iff]
    | groupUserDelete n v =>
      obtain ⟨-, -, -, rfl⟩ := removeMember_ok.1 h
      refine ⟨h₁, h₂, ?_, h₄, ?_, ?_, h₇⟩ <;> grind [changeGroup, Option.map_eq_some_iff]
    | groupRoleAdd n v =>
      obtain ⟨-, ⟨-, hv⟩, rfl⟩ := addRole_ok.1 h
      refine ⟨h₁, h₂, ?_, h₄, ?_, ?_, h₇⟩ <;> grind [changeGroup, Option.map_eq_some_iff]
    | groupRoleDelete n v =>
      obtain ⟨-, -, rfl⟩ := removeRole_ok.1 h
      refine ⟨h₁, h₂, ?_, h₄, ?_, ?_, h₇⟩ <;> grind [changeGroup, Option.map_eq_some_iff]
    | roleCreate n =>
      obtain ⟨hb, -, rfl⟩ := createRole_ok.1 h
      have := ne_empty_of_not_blank hb
      refine ⟨h₁, h₂, h₃, ?_, h₅, ?_, ?_⟩ <;> grind [GrantSet.keyed_empty]
    | roleDelete n =>
      obtain ⟨-, -, rfl⟩ := deleteRole_ok.1 h
      refine ⟨h₁, h₂, ?_, ?_, ?_, ?_, ?_⟩ <;> grind [Option.map_eq_some_iff]
    | rolePermissionAdd n b p =>
      obtain ⟨⟨-, hb, -⟩, -, rfl⟩ := addGrant_ok.1 h
      refine ⟨h₁, h₂, h₃, ?_, h₅, ?_, ?_⟩ <;> grind [Option.map_eq_some_iff, GrantSet.Keyed.add]
    | rolePermissionDelete n b p =>
      obtain ⟨-, -, rfl⟩ := removeGrant_ok.1 h
      refine ⟨h₁, h₂, h₃, ?_, h₅, ?_, ?_⟩ <;> grind [Option.map_eq_some_iff, GrantSet.Keyed.remove]
    | _ => cases hp
  · obtain ⟨hu, hg, hr⟩ := perform_directory hp s
    rw [h] at hu hg hr
    exact hs.congr hu hg hr

theorem Reachable.directorySound (h : Reachable s) : DirectorySound s :=
  h.induction directorySound_new fun _ _ _ _ _ hs hp => hs.step hp

end Store

end ChatRouter
