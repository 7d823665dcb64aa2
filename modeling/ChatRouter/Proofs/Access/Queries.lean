import ChatRouter.Proofs.Access.Effective
import ChatRouter.Regex.Parser

set_option autoImplicit false

namespace ChatRouter

open Store (after perform)
open Authorization

theorem Grant.ofText?_eq_some_iff {text : String} {g : Grant} :
    ofText? text = some g ↔ g.text = text ∧ checked g.bundle g.permission = .ok g := by
  rw [checked_ok, and_iff_left rfl]
  unfold ofText?
  constructor
  · intro h
    split at h
    · rename_i b bs p ps hsplit
      obtain ⟨htext, hcolon⟩ := Text.splitFirst_eq_some hsplit
      cases h
      refine ⟨String.toList_inj.1 ?_, by simp, ?_, by simp⟩
      · simp [Grant.text, htext]
      · rwa [String.toList_ofList]
    · cases h
  · rintro ⟨rfl, hb, hcolon, hp⟩
    have hsplit : Text.splitFirst ':' g.text.toList = some (g.bundle.toList, g.permission.toList) := by
      rw [← Text.splitFirst_append hcolon]
      simp [Grant.text]
    obtain ⟨b, bs, hbundle⟩ := List.exists_cons_of_ne_nil (mt String.toList_eq_nil_iff.1 hb)
    obtain ⟨p, ps, hpermission⟩ := List.exists_cons_of_ne_nil (mt String.toList_eq_nil_iff.1 hp)
    rw [hsplit, hbundle, hpermission]
    dsimp only
    rw [← hbundle, ← hpermission, String.ofList_toList, String.ofList_toList]

namespace Store

variable {s : Store} {username : String} {g : Grant}

/-- The lists of the store lead from the user by a group and a role to the grant. -/
def Awards (s : Store) (username : String) (g : Grant) : Prop :=
  ∃ group role, (Edge.member group username).Listed s ∧ (Edge.role group role).Listed s ∧
    (Edge.grant role g.bundle g.permission).Listed s

theorem awards_iff (hs : s.DirectorySound) : s.Awards username g ↔ s.HasGrant username g := by
  simp only [Awards, HasGrant, Edge.listed_iff_isIn hs]

theorem Reachable.checked (hr : s.Reachable) (h : s.HasGrant username g) :
    Grant.checked g.bundle g.permission = .ok g := by
  obtain ⟨group, role, -, -, hgrant⟩ := h
  obtain ⟨engine, calls, rfl⟩ := hr
  obtain ⟨before, c, rest, hlog, rfl, -⟩ := (Edge.isIn_iff_standing _ engine calls).1 hgrant
  have hmem : (Edge.grant role g.bundle g.permission).maker ∈ successes calls (new engine) := by simp [hlog]
  obtain ⟨-, t, ht⟩ := mem_successes hmem
  obtain ⟨r, hp⟩ := exists_ok_of_isOk ht
  obtain ⟨hnames, -, -⟩ := addGrant_ok.1 (Prod.ext hp rfl)
  exact Grant.checked_ok.2 ⟨hnames, rfl⟩

end Store

namespace Authorization

theorem on_userHasPermission {s : Store} (hr : s.Reachable) {username : String}
    (hu : s.userExists username = true) (b p : String) :
    ∃ answer, (userHasPermission username b p).on s = (.ok answer, s) ∧
      (answer = true ↔ ∃ g, Grant.ofText? (Grant.text ⟨b, p⟩) = some g ∧ s.HasGrant username g) := by
  obtain ⟨set, hset, hkeyed, hiff⟩ := on_userGrants hr.directorySound hu
  refine ⟨set.has ⟨b, p⟩, Accessing.on_bind_ok hset, ?_⟩
  rw [GrantSet.has, SortedMap.contains_iff]
  constructor
  · rintro ⟨g, hg⟩
    have htext := (hkeyed _ g hg).1
    have hgrant := (hiff g).1 (htext.symm ▸ hg)
    exact ⟨g, Grant.ofText?_eq_some_iff.2 ⟨htext, hr.checked hgrant⟩, hgrant⟩
  · rintro ⟨g, hread, hgrant⟩
    have htext := (Grant.ofText?_eq_some_iff.1 hread).1
    exact ⟨g, htext ▸ (hiff g).2 hgrant⟩

/-- The text of a pair with this bundle is split within the bundle. -/
def SplitsEarly (b : String) : Prop := ':' ∈ b.toList ∧ b.toList.head? ≠ some ':'

theorem SplitsEarly.exists_grant {b : String} (h : SplitsEarly b) (p : String) :
    ∃ g, Grant.ofText? (Grant.text ⟨b, p⟩) = some g := by
  obtain ⟨hcolon, hhead⟩ := h
  obtain ⟨first, rest, hb, hfirst⟩ := List.eq_append_cons_of_mem hcolon
  refine ⟨⟨String.ofList first, String.ofList (rest ++ ':' :: p.toList)⟩, Grant.ofText?_eq_some_iff.2 ⟨?_, ?_⟩⟩
  · apply String.toList_inj.1
    simp [Grant.text, hb]
  · have hne : first ≠ [] := by
      rintro rfl
      simp [hb] at hhead
    rw [Grant.checked_ok]
    simp [hne, hfirst]

theorem eq_of_not_splitsEarly {b p : String} (h : ¬ SplitsEarly b) {g : Grant}
    (hg : Grant.ofText? (Grant.text ⟨b, p⟩) = some g) : g = ⟨b, p⟩ := by
  obtain ⟨htext, hchecked⟩ := Grant.ofText?_eq_some_iff.1 hg
  obtain ⟨⟨hne, hcolon, -⟩, -⟩ := Grant.checked_ok.1 hchecked
  refine Grant.eq_of_text hcolon (fun hb => h ⟨hb, fun hhead => ?_⟩) htext
  -- The bundle that is read begins as the text does.
  obtain ⟨first, rest, hbundle⟩ := List.exists_cons_of_ne_nil (mt String.toList_eq_nil_iff.1 hne)
  obtain ⟨tail, hb⟩ := List.head?_eq_some_iff.1 hhead
  have hchars := congrArg (fun t => t.toList.head?) htext
  simp [Grant.text, hbundle, hb] at hchars
  simp [hbundle, hchars] at hcolon

/-- The calls that lead from `ann` to a role, and the role's grant. -/
def staffing : List Call :=
  [.userCreate (.named "ann"), .groupCreate "ops", .groupUserAdd "ops" "ann", .roleCreate "deployer",
    .groupRoleAdd "ops" "deployer"]

theorem hasGrant_staffing {g : Grant} (h : Grant.checked g.bundle g.permission = .ok g) :
    let s := after (staffing ++ [.rolePermissionAdd "deployer" g.bundle g.permission]) (.new .standard)
    s.userExists "ann" = true ∧ s.HasGrant "ann" g := by
  intro s
  have hstaff : Store.DirectorySound (after staffing (.new .standard)) :=
    Store.Reachable.directorySound ⟨_, staffing, rfl⟩
  have hok : (perform (.rolePermissionAdd "deployer" g.bundle g.permission)
      (after staffing (.new .standard))).1 = .ok () :=
    congrArg Prod.fst (Store.addGrant_ok.2 ⟨(Grant.checked_ok.1 h).1, ⟨by decide, by decide +kernel⟩, rfl⟩)
  have hadd : perform (.rolePermissionAdd "deployer" g.bundle g.permission) (after staffing (.new .standard)) =
      (.ok (), s) :=
    Prod.ext hok (Store.after_append staffing [_] (.new .standard)).symm
  have hstep (e : Edge) := Edge.isIn_step hstaff hadd e
  refine ⟨?_, "ops", "deployer", ?_, ?_, ?_⟩
  · rw [Store.userExists, Store.users_kept hadd rfl]
    decide +kernel
  · exact (hstep _).2 (.inr ⟨by decide +kernel, by simp [Edge.enders]⟩)
  · exact (hstep _).2 (.inr ⟨by decide +kernel, by simp [Edge.enders]⟩)
  · exact (hstep _).2 (.inl rfl)

end Authorization

/-- A query is for the grant that its text reads as. So it is for the bundle and the permission that are asked for, in
every store and of every user, exactly if the bundle is not one that goes on after a colon. -/
theorem queries_go_by_text (b p : String) :
    (∀ (s : Store) (username : String), s.Reachable → s.userExists username = true →
      ∃ answer, (userHasPermission username b p).on s = (.ok answer, s) ∧
        (answer = true ↔ ∃ g, Grant.ofText? (Grant.text ⟨b, p⟩) = some g ∧ s.Awards username g)) ∧
    ((∀ (s : Store) (username : String), s.Reachable → s.userExists username = true →
      (((userHasPermission username b p).on s).1 = .ok true ↔ s.Awards username ⟨b, p⟩)) ↔ ¬ SplitsEarly b) := by
  constructor
  · intro s username hr hu
    simp only [Store.awards_iff hr.directorySound]
    exact on_userHasPermission hr hu b p
  · constructor
    · intro hexact hcut
      obtain ⟨g, hg⟩ := hcut.exists_grant p
      obtain ⟨hu, hgrant⟩ := hasGrant_staffing (Grant.ofText?_eq_some_iff.1 hg).2
      generalize hs : after _ _ = s at hu hgrant
      have hr : s.Reachable := ⟨_, _, hs.symm⟩
      obtain ⟨answer, hrun, hiff⟩ := on_userHasPermission hr hu b p
      have hyes : ((userHasPermission "ann" b p).on s).1 = .ok true := by
        rw [hrun, hiff.2 ⟨g, hg, hgrant⟩]
      have hother := (Store.awards_iff hr.directorySound).1 ((hexact s "ann" hr hu).1 hyes)
      exact (Grant.checked_ok.1 (hr.checked hother)).1.2.1 hcut.1
    · intro hcut s username hr hu
      obtain ⟨answer, hrun, hiff⟩ := on_userHasPermission hr hu b p
      rw [hrun, Except.ok.injEq, hiff, Store.awards_iff hr.directorySound]
      constructor
      · rintro ⟨g, hg, hgrant⟩
        rwa [← eq_of_not_splitsEarly hcut hg]
      · intro hgrant
        exact ⟨_, Grant.ofText?_eq_some_iff.2 ⟨rfl, hr.checked hgrant⟩, hgrant⟩

/-- `ann` may `deploy:prod` of `ci`, and is found to have the permission `prod` of `ci:deploy`. -/
theorem query_crosses_bundles : ¬ ∀ (s : Store) (username b p : String), s.Reachable → s.userExists username = true →
    (((userHasPermission username b p).on s).1 = .ok true ↔ s.Awards username ⟨b, p⟩) := by
  intro h
  have hr : Store.Reachable
      (after (staffing ++ [.rolePermissionAdd "deployer" "ci" "deploy:prod"]) (.new .standard)) := ⟨_, _, rfl⟩
  have haward := (h _ "ann" "ci:deploy" "prod" hr (by decide +kernel)).1 (by decide +kernel)
  have hchecked := hr.checked ((Store.awards_iff hr.directorySound).1 haward)
  exact absurd hchecked (by decide)

end ChatRouter
