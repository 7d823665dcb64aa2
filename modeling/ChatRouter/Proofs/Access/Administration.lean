import ChatRouter.Proofs.Access.Bootstrap
import ChatRouter.Proofs.Access.Races
import ChatRouter.Proofs.Store.Administrators
import ChatRouter.Regex.Parser

set_option autoImplicit false

namespace ChatRouter

/-- The calls that take the role `admin` from its group, or a permission to administer the router from that role. -/
def Call.disarms : Call → Bool
  | roleDelete role => role == adminRole
  | groupRoleDelete group role => group == adminGroup && role == adminRole
  | rolePermissionDelete role bundle _ => role == adminRole && bundle == Bootstrap.systemBundle
  | _ => false

namespace Faulty

theorem perform_quiet (c : Call) (s : Store) :
    (ofStore s).perform c = ((Store.perform c s).1, ofStore (Store.perform c s).2) := rfl

theorem run_quiet {α : Type} (p : StoreScript α) (s : Store) :
    (ofStore s).run p = ((p.run Store.perform s).1, ofStore (p.run Store.perform s).2) := by
  unfold run
  induction p generalizing s with
  | done a => rfl
  | ask c next ih => rw [Script.run_ask, Script.run_ask, perform_quiet, ih]

end Faulty

theorem Accessing.onFailing_none {α : Type} (x : Accessing α) (s : Store) : x.onFailing ∅ s = x.on s := by
  change (((Faulty.ofStore s).run x.run).1, ((Faulty.ofStore s).run x.run).2.store) = _
  rw [Faulty.run_quiet]
  rfl

theorem Store.Reachable.run {α : Type} {s : Store} (h : s.Reachable) (p : StoreScript α) :
    (p.run Store.perform s).2.Reachable := by
  induction p generalizing s with
  | done a => exact h
  | ask c next ih => exact ih _ (h.perform c)

namespace Bootstrap

open Accessing
open Authorization (userHasPermission)
open Store (after)

variable {s t : Store}

/-- The account has no e-mail, or one that is empty or that no user has. -/
def Account.Unclaimed (account : Account) (s : Store) : Prop :=
  ∀ email, account.email = some email → email = "" ∨ ∀ u ∈ s.users.values, u.hasEmail email = false

theorem Account.Unclaimed.requireEmailFree {account : Account} (h : account.Unclaimed s) (hash : PasswordHash) :
    s.requireEmailFree (account.user hash) = .ok () := by
  have hown : (account.user hash).email = account.email := rfl
  unfold Store.requireEmailFree
  rw [hown]
  cases hemail : account.email with
  | none => rfl
  | some email =>
    rcases h email hemail with rfl | hfree
    · rfl
    · have htaken : s.emailTaken email (account.user hash).username = false := by
        apply List.any_eq_false.2
        intro u hu
        simp [hfree u hu]
      simp [htaken]

theorem on_bootstrap (hs : s.DirectorySound) (hnew : s.userExists adminUser = false) {account : Account}
    (hemail : account.Unclaimed s) (hash : PasswordHash) :
    ∃ t, (bootstrap account hash).on s = (.ok (), t) ∧ Administered t := by
  have hquiet := ensures_bootstrap (fun _ _ => False) hs hnew account hash
  rcases hrun : (bootstrap account hash).onFailing ∅ s with ⟨e | _, t⟩
  · obtain ⟨-, hfails⟩ := hquiet.of_error (Faults.only_empty _) rfl hrun
    obtain ⟨_, _, hfalse⟩ := hfails (hemail.requireEmailFree hash)
    exact hfalse.elim
  · refine ⟨t, ?_, hquiet.of_ok (Faults.only_empty _) rfl hrun⟩
    rw [← onFailing_none, hrun]

theorem disarms_of_ender : ∀ e ∈ edges, ∀ c ∈ e.enders, c.disarms = true ∨ c.barred?.isSome = true := by
  decide +kernel

theorem administered_after (hs : s.DirectorySound) (h : Administered s) {calls : List Call}
    (hspared : ∀ c ∈ calls, c.disarms = false) : Administered (after calls s) := by
  intro e he
  apply Edge.isIn_after hs (h e he)
  intro c hc hends
  rcases disarms_of_ender e he c hends with hdisarms | hbarred
  · exact Bool.false_ne_true ((hspared c (Store.mem_successes hc).1).symm.trans hdisarms)
  · rw [Store.barred?_of_mem_successes hc] at hbarred
    cases hbarred

/-- The administrator is there, belongs to the group and has every permission to administer the router, and the
router counts as bootstrapped for whoever asks and whoever tries again. -/
structure InOffice (s : Store) : Prop where
  there : s.userExists adminUser = true
  member : membership.isIn s = true
  permitted : ∀ p ∈ adminPermissions, ((userHasPermission adminUser systemBundle p).on s).1 = .ok true
  bootstrapped : isBootstrapped.on s = (.ok true, s)
  closed : ∀ account hash, (bootstrap account hash).on s = (.error .alreadyBootstrapped, s)

theorem Administered.hasGrant (h : Administered s) {permission : String} (hp : permission ∈ adminPermissions) :
    s.HasGrant adminUser ⟨systemBundle, permission⟩ := by
  have hgrant : Edge.grant adminRole systemBundle permission ∈ grants adminPermissions := List.mem_map_of_mem hp
  refine ⟨adminGroup, adminRole, h membership ?_, h (.role adminGroup adminRole) ?_, h _ ?_⟩
  · simp [edges]
  · simp [edges]
  · exact List.mem_append_left _ hgrant

theorem Administered.inOffice (hs : s.DirectorySound) (h : Administered s) : InOffice s := by
  have hmember : membership.isIn s = true := h membership (by simp [edges])
  have hthere : s.userExists adminUser = true := (Edge.grounded_of_isIn hs hmember).2
  have hlook : isBootstrapped.on s = (.ok true, s) := on_call (Store.perform_userExists hthere)
  refine ⟨hthere, hmember, ?_, hlook, ?_⟩
  · intro permission hp
    exact (Authorization.userHasPermission_iff hs hthere (by decide)).2 (h.hasGrant hp)
  · intro account hash
    rw [bootstrap_eq]
    exact on_bind_ok hlook

/-- Bootstrapping succeeds on every store without an administrator where the e-mail of the account is free, and the
administrator stays in office through all calls that do not disarm the role. -/
theorem bootstrap_takes_hold (hs : s.Reachable) (hnew : s.userExists adminUser = false) {account : Account}
    (hemail : account.Unclaimed s) (hash : PasswordHash) :
    ∃ t, (bootstrap account hash).on s = (.ok (), t) ∧
      ∀ calls, (∀ c ∈ calls, c.disarms = false) → InOffice (after calls t) := by
  obtain ⟨t, hrun, hdone⟩ := on_bootstrap hs.directorySound hnew hemail hash
  have ht : t.Reachable := by
    have hreach := hs.run (bootstrap account hash).run
    rwa [← Accessing.on, hrun] at hreach
  refine ⟨t, hrun, ?_⟩
  intro calls hspared
  have hlasts := administered_after ht.directorySound hdone hspared
  exact hlasts.inOffice (ht.after calls).directorySound

/-- A store whose group and role `admin` are already in use, and where a user has an e-mail. -/
def usedStore : Store :=
  after [.groupCreate adminGroup, .roleCreate adminRole, .rolePermissionAdd adminRole "logs" "read",
    .groupRoleAdd adminGroup adminRole, .userCreate { User.named "eve" with email := some "eve@example.org" },
    .groupUserAdd adminGroup "eve"] (.new .standard)

def intrigue : List Call :=
  [.userDelete adminUser, .groupUserDelete adminGroup adminUser, .groupDelete adminGroup,
    .userUpdate (.named adminUser), .userDelete "eve", .rolePermissionDelete adminRole "Switchyard" "manage_users",
    .rolePermissionDelete adminRole "logs" "read"]

theorem root_stays_in_office : usedStore.userExists adminUser = false ∧ root.Unclaimed usedStore ∧
    ∃ t, (bootstrap root (.ofText "hash")).on usedStore = (.ok (), t) ∧ InOffice (after intrigue t) := by
  have hnew : usedStore.userExists adminUser = false := by decide +kernel
  have hemail : root.Unclaimed usedStore := by
    rintro email ⟨⟩
    exact .inr (by decide +kernel)
  obtain ⟨t, hrun, hlasts⟩ := bootstrap_takes_hold ⟨_, _, rfl⟩ hnew hemail (.ofText "hash")
  exact ⟨hnew, hemail, t, hrun, hlasts intrigue (by decide +kernel)⟩

end Bootstrap

end ChatRouter
