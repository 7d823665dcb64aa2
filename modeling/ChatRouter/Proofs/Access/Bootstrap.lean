import ChatRouter.Access.Bootstrap
import ChatRouter.Proofs.Access.Attempts
import ChatRouter.Proofs.Store.Edges
import ChatRouter.Regex.Parser

set_option autoImplicit false

namespace ChatRouter

def Call.builds : Call → Bool
  | groupCreate _ | roleCreate _ | groupRoleAdd _ _ | groupUserAdd _ _ | rolePermissionAdd _ _ _ => true
  | _ => false

theorem Edge.not_mem_enders_of_builds {c : Call} (hc : c.builds = true) (e : Edge) : c ∉ e.enders := by
  cases e <;> cases c <;> simp_all [enders, Call.builds]

namespace Store

variable {s t : Store} {c : Call}

/-- The groups, roles and edges of `s` are in `t` too. -/
structure Grows (s t : Store) : Prop where
  users : t.users = s.users
  groups : ∀ n, s.groupExists n = true → t.groupExists n = true
  roles : ∀ n, s.roleExists n = true → t.roleExists n = true
  edges : ∀ e : Edge, e.isIn s = true → e.isIn t = true

theorem grows_of_builds (hs : s.DirectorySound) (hc : c.builds = true) {r : c.Reply}
    (h : perform c s = (.ok r, t)) : s.Grows t := by
  have hedges (e : Edge) (he : e.isIn s = true) : e.isIn t = true :=
    (Edge.isIn_step hs h e).2 (.inr ⟨he, e.not_mem_enders_of_builds hc⟩)
  cases c with
  | groupCreate n =>
    obtain ⟨-, -, rfl⟩ := createGroup_ok.1 h
    exact ⟨rfl, by grind [groupExists], fun _ => id, hedges⟩
  | roleCreate n =>
    obtain ⟨-, -, rfl⟩ := createRole_ok.1 h
    exact ⟨rfl, fun _ => id, by grind [roleExists], hedges⟩
  | groupRoleAdd g r =>
    obtain ⟨-, -, rfl⟩ := addRole_ok.1 h
    exact ⟨rfl, by grind [groupExists, changeGroup], fun _ => id, hedges⟩
  | groupUserAdd g u =>
    obtain ⟨-, -, rfl⟩ := addMember_ok.1 h
    exact ⟨rfl, by grind [groupExists, changeGroup], fun _ => id, hedges⟩
  | rolePermissionAdd r b p =>
    obtain ⟨-, -, rfl⟩ := addGrant_ok.1 h
    exact ⟨rfl, fun _ => id, by grind [roleExists], hedges⟩
  | _ => cases hc

theorem admin_stays (h : s.userExists adminUser = true) (c : Call) :
    (perform c s).2.userExists adminUser = true := by
  apply perform_induction (P := fun t => t.userExists adminUser = true) h
  intro r t hok
  cases hc : c.changesUsers with
  | false => rwa [userExists, users_kept hok hc]
  | true =>
    cases c with
    | userCreate u =>
      obtain ⟨-, -, -, rfl⟩ := createUser_ok.1 hok
      grind [userExists, putUser]
    | userUpdate u =>
      obtain ⟨-, -, -, -, rfl⟩ := updateUser_ok.1 hok
      grind [userExists, putUser]
    | userDelete n =>
      obtain ⟨hn, -, -, rfl⟩ := deleteUser_ok.1 hok
      grind [userExists]
    | _ => cases hc

theorem admin_after (h : s.userExists adminUser = true) (calls : List Call) :
    (after calls s).userExists adminUser = true := by
  induction calls generalizing s with
  | nil => exact h
  | cons c calls ih => exact ih (admin_stays h c)

end Store

namespace Bootstrap

open Accessing
open Authorization (call)

def membership : Edge := .member adminGroup adminUser

def grants (permissions : List String) : List Edge :=
  permissions.map fun permission => .grant adminRole systemBundle permission

def edges : List Edge := grants adminPermissions ++ [.role adminGroup adminRole, membership]

/-- The user `admin` belongs to the group `admin`, which holds the role `admin` with all permissions to
administer the router. -/
def Administered (s : Store) : Prop := ∀ e ∈ edges, e.isIn s = true

def provideGroup : Accessing Unit := call (.groupExists adminGroup) >>= fun there =>
  if there then pure () else call (.groupCreate adminGroup)

def provideRole : Accessing Unit := call (.roleExists adminRole) >>= fun there =>
  if there then pure () else call (.roleCreate adminRole)

def equip : Accessing Unit :=
  provideGroup >>= fun _ => provideRole >>= fun _ => grantAll adminPermissions >>= fun _ =>
    call (.groupRoleAdd adminGroup adminRole) >>= fun _ => call (.groupUserAdd adminGroup adminUser)

theorem unless_bind {β : Type} (there : Bool) (x : Accessing Unit) (k : Accessing β) :
    ((if there then pure () else x) >>= fun _ => k) = if there then k else x >>= fun _ => k := by
  cases there with
  | false => rfl
  | true => exact pure_bind () fun _ => k

theorem bootstrap_eq (account : Account) (hash : PasswordHash) : bootstrap account hash =
    call (.userExists adminUser) >>= fun there =>
      if there then throw .alreadyBootstrapped
      else call (.userCreate (account.user hash)) >>= fun _ => equip := by
  simp only [equip, provideGroup, provideRole, bind_assoc, unless_bind]
  refine congrArg (call (.userExists adminUser) >>= ·) (funext fun there => ?_)
  cases there <;> rfl

/-- The user `admin` is there, but not in the group `admin`. -/
structure Begun (s : Store) : Prop where
  sound : s.DirectorySound
  marked : s.userExists adminUser = true
  outside : membership.isIn s = false

/-- The group and the role are there too, and so are some edges. -/
structure Joining (made : List Edge) (s : Store) : Prop extends Begun s where
  group : s.groupExists adminGroup = true
  role : s.roleExists adminRole = true
  made : ∀ e ∈ made, e.isIn s = true

variable {s t : Store} {c : Call} {made : List Edge} {fails : String → DataError → Prop}

theorem Begun.step (h : Begun s) (hc : c.builds = true) (hm : c ≠ membership.maker) {r : c.Reply}
    (hp : Store.perform c s = (.ok r, t)) : Begun t where
  sound := h.sound.step hp
  marked := by
    rw [Store.userExists, (Store.grows_of_builds h.sound hc hp).users]
    exact h.marked
  outside := by
    refine Bool.eq_false_iff.2 fun ht => ?_
    rcases (Edge.isIn_step h.sound hp membership).1 ht with hmaker | ⟨hs, -⟩
    · exact hm hmaker
    · exact Bool.false_ne_true (h.outside.symm.trans hs)

theorem Joining.made_step (h : Joining made s) {e : Edge} {r : e.maker.Reply}
    (hp : Store.perform e.maker s = (.ok r, t)) : ∀ d ∈ made ++ [e], d.isIn t = true := by
  have hbuilds : e.maker.builds = true := by cases e <;> rfl
  simp only [List.forall_mem_append, List.forall_mem_singleton]
  refine ⟨fun d hd => ?_, (Edge.isIn_step h.sound hp e).2 (.inl rfl)⟩
  exact (Store.grows_of_builds h.sound hbuilds hp).edges d (h.made d hd)

theorem Joining.step (h : Joining made s) {e : Edge} (hm : e.maker ≠ membership.maker) {r : e.maker.Reply}
    (hp : Store.perform e.maker s = (.ok r, t)) : Joining (made ++ [e]) t := by
  have hbuilds : e.maker.builds = true := by cases e <;> rfl
  have hgrows := Store.grows_of_builds h.sound hbuilds hp
  exact ⟨h.toBegun.step hbuilds hm hp, hgrows.groups _ h.group, hgrows.roles _ h.role, h.made_step hp⟩

/-- What a failed call leaves of a bootstrap that has created the user. -/
def Stuck (fails : String → DataError → Prop) (s : Store) : Prop := Begun s ∧ ∃ kind e, fails kind e

theorem ensures_provideGroup : Ensures fails Begun provideGroup
    (fun _ s => Begun s ∧ s.groupExists adminGroup = true) (Stuck fails) := by
  have hlook : Ensures fails Begun (call (.groupExists adminGroup))
      (fun there s => Begun s ∧ s.groupExists adminGroup = there) (Stuck fails) :=
    ensures_call_ok (fun s h => ⟨_, s, rfl, h, rfl⟩) fun s e h he => ⟨h, _, e, he⟩
  refine hlook.bind fun there => ?_
  cases there with
  | true => exact ensures_pure fun _ h => h
  | false =>
    refine ensures_call_ok (fun s ⟨h, hno⟩ => ?_) fun s e ⟨h, _⟩ he => ⟨h, _, e, he⟩
    have hp : Store.perform (.groupCreate adminGroup) s = (.ok (), _) :=
      Store.createGroup_ok.2 ⟨by decide, hno, rfl⟩
    refine ⟨(), _, hp, h.step rfl (by decide) hp, ?_⟩
    grind [Store.groupExists]

theorem ensures_provideRole : Ensures fails (fun s => Begun s ∧ s.groupExists adminGroup = true) provideRole
    (fun _ => Joining []) (Stuck fails) := by
  have hlook : Ensures fails (fun s => Begun s ∧ s.groupExists adminGroup = true)
      (call (.roleExists adminRole)) (fun there s => (Begun s ∧ s.groupExists adminGroup = true) ∧
        s.roleExists adminRole = there) (Stuck fails) :=
    ensures_call_ok (fun s h => ⟨_, s, rfl, h, rfl⟩) fun s e h he => ⟨h.1, _, e, he⟩
  refine hlook.bind fun there => ?_
  cases there with
  | true => exact ensures_pure fun s ⟨⟨h, hg⟩, hr⟩ => ⟨h, hg, hr, by simp⟩
  | false =>
    refine ensures_call_ok (fun s ⟨⟨h, hg⟩, hno⟩ => ?_) fun s e ⟨⟨h, _⟩, _⟩ he => ⟨h, _, e, he⟩
    have hp : Store.perform (.roleCreate adminRole) s = (.ok (), _) :=
      Store.createRole_ok.2 ⟨by decide, hno, rfl⟩
    have hgrows := Store.grows_of_builds h.sound rfl hp
    refine ⟨(), _, hp, h.step rfl (by decide) hp, hgrows.groups _ hg, ?_, by simp⟩
    grind [Store.roleExists]

theorem ensures_grantAll (permissions : List String) (hne : ∀ p ∈ permissions, p ≠ "") :
    Ensures fails (Joining made) (grantAll permissions) (fun _ => Joining (made ++ grants permissions))
      (Stuck fails) := by
  induction permissions generalizing made with
  | nil => exact ensures_pure fun s h => by rwa [grants, List.map_nil, List.append_nil]
  | cons p permissions ih =>
    obtain ⟨hp, hne⟩ := List.forall_mem_cons.1 hne
    have hgrant : Ensures fails (Joining made) (call (.rolePermissionAdd adminRole systemBundle p))
        (fun _ => Joining (made ++ [.grant adminRole systemBundle p])) (Stuck fails) := by
      refine ensures_call_ok (fun s h => ?_) fun s e h he => ⟨h.toBegun, _, e, he⟩
      have hdone : Store.perform (.rolePermissionAdd adminRole systemBundle p) s = (.ok (), _) :=
        Store.addGrant_ok.2 ⟨⟨by decide, by decide, hp⟩, ⟨by decide, h.role⟩, rfl⟩
      exact ⟨(), _, hdone, Joining.step h (e := .grant adminRole systemBundle p) nofun hdone⟩
    refine hgrant.bind fun _ => (ih hne).mono (fun _ => id) (fun _ s h => ?_) fun _ => id
    rwa [List.append_assoc] at h

theorem ensures_equip : Ensures fails Begun equip (fun _ => Administered) (Stuck fails) := by
  refine ensures_provideGroup.bind fun _ => ensures_provideRole.bind fun _ =>
    (ensures_grantAll adminPermissions (by decide)).bind fun _ => ?_
  have hrole : Ensures fails (Joining ([] ++ grants adminPermissions)) (call (.groupRoleAdd adminGroup adminRole))
      (fun _ => Joining ([] ++ grants adminPermissions ++ [.role adminGroup adminRole])) (Stuck fails) := by
    refine ensures_call_ok (fun s h => ?_) fun s e h he => ⟨h.toBegun, _, e, he⟩
    have hdone : Store.perform (.groupRoleAdd adminGroup adminRole) s = (.ok (), _) :=
      Store.addRole_ok.2 ⟨⟨by decide, h.group⟩, ⟨by decide, h.role⟩, rfl⟩
    exact ⟨(), _, hdone, Joining.step h (e := .role adminGroup adminRole) nofun hdone⟩
  refine hrole.bind fun _ => ensures_call_ok (fun s h => ?_) fun s e h he => ⟨h.toBegun, _, e, he⟩
  have hdone : Store.perform (.groupUserAdd adminGroup adminUser) s = (.ok (), _) :=
    Store.addMember_ok.2 ⟨⟨by decide, h.group⟩, ⟨by decide, h.marked⟩, rfl⟩
  have hall : edges = [] ++ grants adminPermissions ++ [.role adminGroup adminRole] ++ [membership] := by
    simp [edges]
  refine ⟨(), _, hdone, ?_⟩
  rw [Administered, hall]
  exact Joining.made_step h (e := membership) hdone

theorem ensures_userExists {E : Store → Prop} (hfail : ∀ e, fails "user_exists" e → E s) :
    Ensures fails (· = s) (call (.userExists adminUser)) (fun there t => s.userExists adminUser = there ∧ t = s)
      E := by
  refine ensures_call_ok (fun t ht => ?_) fun t e ht he => ?_
  · subst ht
    exact ⟨_, t, rfl, rfl, rfl⟩
  · subst ht
    exact hfail e he

/-- What a failed attempt to create `user` and to equip it makes of `s`. If the e-mail is free, some call has
been made to fail. -/
def Unfinished (fails : String → DataError → Prop) (s : Store) (user : User) (t : Store) : Prop :=
  (t = s ∨ Begun t) ∧ (s.requireEmailFree user = .ok () → ∃ kind e, fails kind e)

theorem unfinished_self {user : User} {kind : String} {e : DataError} (he : fails kind e) :
    Unfinished fails s user s := ⟨.inl rfl, fun _ => ⟨kind, e, he⟩⟩

theorem begun_of_create (hs : s.DirectorySound) {user : User} (hname : user.username = adminUser)
    (hp : Store.perform (.userCreate user) s = (.ok (), t)) : Begun t where
  sound := hs.step hp
  marked := by
    obtain ⟨-, -, -, rfl⟩ := Store.createUser_ok.1 hp
    grind [Store.userExists, Store.putUser]
  outside := Edge.not_isIn_of_foundedBy hs hp (.inr ⟨user, rfl, hname⟩)

theorem ensures_userCreate (hs : s.DirectorySound) (hnew : s.userExists adminUser = false) {user : User}
    (hname : user.username = adminUser) :
    Ensures fails (· = s) (call (.userCreate user)) (fun _ => Begun) (Unfinished fails s user) := by
  refine ensures_call (fun u r t hu hp => ?_) fun u e hu he => ?_
  · subst hu
    exact begun_of_create hs hname hp
  · subst hu
    rcases he with he | he
    · -- The store refuses the user, so the e-mail is not free.
      refine ⟨.inl rfl, fun hfree => ?_⟩
      have hnamed : Text.isBlankText user.username = false := by
        rw [hname]
        decide
      have hp : Store.perform (.userCreate user) u = (.ok (), u.putUser user) :=
        Store.createUser_ok.2 ⟨hnamed, hname ▸ hnew, hfree, rfl⟩
      rw [hp] at he
      cases he
    · exact unfinished_self he

theorem ensures_bootstrap (fails : String → DataError → Prop) (hs : s.DirectorySound)
    (hnew : s.userExists adminUser = false) (account : Account) (hash : PasswordHash) :
    Ensures fails (· = s) (bootstrap account hash) (fun _ => Administered)
      (Unfinished fails s (account.user hash)) := by
  rw [bootstrap_eq]
  refine (ensures_userExists fun e he => unfinished_self he).bind fun there => ?_
  cases there with
  | true =>
    refine ensures_throw fun t ⟨hthere, _⟩ => ?_
    rw [hnew] at hthere
    cases hthere
  | false =>
    have hcreate : Ensures fails (· = s) (call (.userCreate (account.user hash))) (fun _ => Begun)
        (Unfinished fails s (account.user hash)) := ensures_userCreate hs hnew rfl
    have hequip : Ensures fails Begun equip (fun _ => Administered) (Unfinished fails s (account.user hash)) :=
      ensures_equip.mono (fun _ => id) (fun _ _ => id) fun t ht => ⟨.inr ht.1, fun _ => ht.2⟩
    exact (hcreate.mono (fun _ h => h.2) (fun _ _ => id) fun _ => id).bind fun _ => hequip

theorem ensures_refused (fails : String → DataError → Prop) (hmarked : s.userExists adminUser = true)
    (account : Account) (hash : PasswordHash) :
    Ensures fails (· = s) (bootstrap account hash) (fun _ _ => False) (· = s) := by
  have hlook : Ensures fails (· = s) (call (.userExists adminUser))
      (fun there t => s.userExists adminUser = there ∧ t = s) (· = s) := ensures_userExists fun _ _ => rfl
  rw [bootstrap_eq]
  refine hlook.bind fun there => ?_
  cases there with
  | true => exact ensures_throw fun t ht => ht.2
  | false =>
    rintro f - ⟨hthere, -⟩
    rw [hmarked] at hthere
    cases hthere

/-- A bootstrap that succeeds joins everything. One that fails either leaves the store as it was or has
created the user, who is not in the group; then the store counts as bootstrapped for ever and every further
attempt is refused. Without failures it succeeds if the e-mail of the account is free. -/
theorem bootstrap_is_marked_first {s : Store} (hs : s.Reachable) (hnew : s.userExists adminUser = false)
    (account : Account) (hash : PasswordHash) :
    (∀ (faults : Faults) (t : Store),
      ((bootstrap account hash).onFailing faults s = (.ok (), t) → Administered t) ∧
      ∀ e, (bootstrap account hash).onFailing faults s = (.error e, t) →
        t = s ∨ t.userExists adminUser = true ∧ membership.isIn t = false ∧
          ∀ (calls : List Call) (faults' : Faults) (account' : Account) (hash' : PasswordHash),
            (Store.after calls t).userExists adminUser = true ∧
              ∃ e', (bootstrap account' hash').onFailing faults' (Store.after calls t) =
                (.error e', Store.after calls t)) ∧
    (s.requireEmailFree (account.user hash) = .ok () →
      ∃ t, (bootstrap account hash).onFailing ∅ s = (.ok (), t) ∧ Administered t) := by
  refine ⟨fun faults t => ⟨fun h => ?_, fun e h => ?_⟩, fun hfree => ?_⟩
  · exact (ensures_bootstrap _ hs.directorySound hnew account hash).of_ok faults.only_anything rfl h
  · refine ((ensures_bootstrap _ hs.directorySound hnew account hash).of_error faults.only_anything rfl h).1.imp id ?_
    refine fun hbegun => ⟨hbegun.marked, hbegun.outside, fun calls faults' account' hash' => ?_⟩
    have hmarked := Store.admin_after hbegun.marked calls
    have hrefused := ensures_refused (fun _ _ => True) hmarked account' hash'
    refine ⟨hmarked, ?_⟩
    rcases hr : (bootstrap account' hash').onFailing faults' (Store.after calls t) with ⟨e' | _, u⟩
    · exact ⟨e', by rw [hrefused.of_error faults'.only_anything rfl hr]⟩
    · exact (hrefused.of_ok faults'.only_anything rfl hr).elim
  · have hquiet := ensures_bootstrap (fun _ _ => False) hs.directorySound hnew account hash
    rcases hr : (bootstrap account hash).onFailing ∅ s with ⟨e | _, t⟩
    · obtain ⟨-, hfails⟩ := hquiet.of_error (Faults.only_empty _) rfl hr
      obtain ⟨_, _, hfalse⟩ := hfails hfree
      exact hfalse.elim
    · exact ⟨t, rfl, hquiet.of_ok (Faults.only_empty _) rfl hr⟩

def opsStore : Store := Store.after [.groupCreate "ops"] (.new .standard)

def root : Account := ⟨some "root@example.org", none⟩

/-- What bootstrapping makes of that store when the first call of a kind fails. -/
def interrupted (kind : String) : Except AccessError Unit × Store :=
  (bootstrap root (.ofText "hash")).onFailing ((∅ : Faults).insert kind [some (.other "down")]) opsStore

theorem opsStore_interrupted : opsStore.Reachable ∧ opsStore.userExists adminUser = false ∧
    (∃ t, (bootstrap root (.ofText "hash")).onFailing ∅ opsStore = (.ok (), t) ∧ Administered t) ∧
    (interrupted "user_create").2 = opsStore ∧
    membership.isIn (interrupted "role_permission_add").2 = false ∧
    ∃ e, (bootstrap root (.ofText "hash")).onFailing ∅ (interrupted "role_permission_add").2 =
      (.error e, (interrupted "role_permission_add").2) := by
  have hs : opsStore.Reachable := ⟨_, _, rfl⟩
  have hnew : opsStore.userExists adminUser = false := by decide +kernel
  obtain ⟨houtcomes, hsucceeds⟩ := bootstrap_is_marked_first hs hnew root (.ofText "hash")
  have hfailed (kind : String) (h : (interrupted kind).1 = .error (.store (.other "down"))) :=
    (houtcomes _ (interrupted kind).2).2 _ (Prod.ext h rfl)
  have hearly : (interrupted "user_create").2.userExists adminUser = false := by decide +kernel
  have hlate : (interrupted "role_permission_add").2.userExists adminUser = true := by decide +kernel
  refine ⟨hs, hnew, hsucceeds (by decide +kernel), ?_, ?_⟩
  · refine (hfailed "user_create" (by decide +kernel)).resolve_right fun h => ?_
    exact Bool.false_ne_true (hearly.symm.trans h.1)
  · rcases hfailed "role_permission_add" (by decide +kernel) with h | ⟨-, hout, hrefused⟩
    · rw [h, hnew] at hlate
      cases hlate
    · exact ⟨hout, (hrefused [] ∅ root (.ofText "hash")).2⟩

/-- When the group cannot be looked up, the store counts as bootstrapped all the same. -/
theorem failed_bootstrap_leaves_mark : ¬ ∀ (s t : Store) (account : Account) (hash : PasswordHash)
    (faults : Faults) (e : AccessError), s.Reachable → s.userExists adminUser = false →
      (bootstrap account hash).onFailing faults s = (.error e, t) → t.userExists adminUser = false := by
  intro h
  have hfailed : (interrupted "group_exists").1 = .error (.store (.other "down")) := by decide +kernel
  have hunmarked := h opsStore _ root _ _ _ ⟨_, _, rfl⟩ (by decide +kernel) (Prod.ext hfailed rfl)
  have hmarked : (interrupted "group_exists").2.userExists adminUser = true := by decide +kernel
  exact Bool.false_ne_true (hunmarked.symm.trans hmarked)

end Bootstrap

end ChatRouter
