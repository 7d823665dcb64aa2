import ChatRouter.Proofs.Store.Edges
import ChatRouter.Regex.Parser

set_option autoImplicit false

namespace ChatRouter

/-- What a call would remove that must not be removed. -/
def Call.barred? : Call → Option Protected
  | userDelete n => if n = adminUser then some .user else none
  | groupDelete n => if n = adminGroup then some .group else none
  | groupUserDelete g n => if g = adminGroup && n = adminUser then some .groupMember else none
  | _ => none

namespace Store

variable {s t : Store} {c : Call}

theorem perform_barred {what : Protected} (h : c.barred? = some what) (s : Store) :
    perform c s = (.error (.adminUndeletable what), s) := by
  cases c with
  | userDelete n =>
    simp only [Call.barred?, Option.ite_none_right_eq_some, Option.some.injEq] at h
    obtain ⟨hn, rfl⟩ := h
    simp [perform, editFor, deleteUser, Edit.run_bind, hn]
  | groupDelete n =>
    simp only [Call.barred?, Option.ite_none_right_eq_some, Option.some.injEq] at h
    obtain ⟨hn, rfl⟩ := h
    simp [perform, editFor, deleteGroup, Edit.run_bind, hn]
  | groupUserDelete g n =>
    simp only [Call.barred?, Option.ite_none_right_eq_some, Option.some.injEq] at h
    obtain ⟨hn, rfl⟩ := h
    simp [perform, editFor, removeMember, Edit.run_bind, hn]
  | _ => cases h

theorem barred?_of_mem_successes {calls : List Call} (h : c ∈ successes calls s) : c.barred? = none := by
  obtain ⟨-, t, hok⟩ := mem_successes h
  rw [Option.eq_none_iff_forall_ne_some]
  intro what hbarred
  rw [perform_barred hbarred] at hok
  cases hok

theorem DirectorySound.perform (hs : s.DirectorySound) (c : Call) : (perform c s).2.DirectorySound :=
  perform_induction hs fun _ _ hp => hs.step hp

end Store

namespace Edge

open Store (perform after successes)

variable {s : Store}

theorem isIn_after (hs : s.DirectorySound) {e : Edge} (h : e.isIn s = true) {calls : List Call}
    (hspared : ∀ c ∈ successes calls s, c ∉ e.enders) : e.isIn (after calls s) = true := by
  induction calls generalizing s with
  | nil => exact h
  | cons c calls ih =>
    unfold successes at hspared
    apply ih (hs.perform c)
    · apply Store.perform_induction (P := fun t => e.isIn t = true) h
      intro r t hp
      rw [hp] at hspared
      have hc := hspared c List.mem_cons_self
      exact (isIn_step hs hp e).2 (.inr ⟨h, hc⟩)
    · intro d hd
      apply hspared
      split
      · exact List.mem_cons_of_mem c hd
      · exact hd

theorem isIn_of_ender (hs : s.DirectorySound) {c : Call} {r : c.Reply} {t : Store} (hp : perform c s = (.ok r, t))
    {e : Edge} (hc : c ∈ e.enders) : e.isIn t = false := by
  have hother : c ≠ e.maker := by
    rintro rfl
    cases e <;> simp [enders, maker] at hc
  rw [Bool.eq_false_iff]
  intro hstays
  rcases (isIn_step hs hp e).1 hstays with hmaker | ⟨-, hspared⟩
  · exact hother hmaker
  · exact hspared hc

end Edge

namespace Administrators

open Store (perform after successes)

/-- The membership of a user in the group `admin`. -/
def seat (username : String) : Edge := .member adminGroup username

/-- The calls that would end that membership and are not refused for the group's sake. -/
def dismissals (username : String) : List Call := [.userDelete username, .groupUserDelete adminGroup username]

variable {s : Store} {u : String}

theorem barred?_deleteGroup : (Call.groupDelete adminGroup).barred? = some .group := rfl

theorem seat_after (hs : s.DirectorySound) (h : (seat u).isIn s = true) {calls : List Call}
    (hspared : ∀ c ∈ dismissals u, c ∉ successes calls s) : (seat u).isIn (after calls s) = true := by
  apply Edge.isIn_after hs h
  intro c hc hends
  have hcases : c = .groupUserDelete adminGroup u ∨ c = .userDelete u ∨ c = .groupDelete adminGroup := by
    simpa [seat, Edge.enders] using hends
  rcases hcases with rfl | rfl | rfl
  · exact hspared _ (by simp [dismissals]) hc
  · exact hspared _ (by simp [dismissals]) hc
  · cases barred?_deleteGroup.symm.trans (Store.barred?_of_mem_successes hc)

theorem dismissals_barred : ∀ c ∈ dismissals adminUser, ∀ calls s, c ∉ successes calls s := by
  intro c hc calls s hmem
  have hnone := Store.barred?_of_mem_successes hmem
  have hcases : c = .userDelete adminUser ∨ c = .groupUserDelete adminGroup adminUser := by
    simpa [dismissals] using hc
  rcases hcases with rfl | rfl
  · cases hnone
  · cases hnone

theorem exists_of_seat (hs : s.DirectorySound) (h : (seat u).isIn s = true) :
    s.userExists u = true := (Edge.grounded_of_isIn hs h).2

theorem ne_empty_of_seat (hs : s.DirectorySound) (h : (seat u).isIn s = true) : u ≠ "" := by
  rintro rfl
  exact Bool.false_ne_true (hs.userNamed.symm.trans (exists_of_seat hs h))

theorem deleteUser_of_seat (hs : s.DirectorySound) (h : (seat u).isIn s = true) (hu : u ≠ adminUser) :
    ∃ t, perform (.userDelete u) s = (.ok (), t) ∧ t.userExists u = false ∧ (seat u).isIn t = false := by
  have hp : perform (.userDelete u) s = (.ok (), _) :=
    Store.deleteUser_ok.2 ⟨hu, ne_empty_of_seat hs h, exists_of_seat hs h, rfl⟩
  have hgone : (seat u).isIn _ = false := Edge.isIn_of_ender hs hp (by simp [seat, Edge.enders])
  exact ⟨_, hp, by simp [Store.userExists, SortedMap.contains_erase], hgone⟩

theorem removeMember_of_seat (hs : s.DirectorySound) (h : (seat u).isIn s = true) (hu : u ≠ adminUser) :
    ∃ t, perform (.groupUserDelete adminGroup u) s = (.ok (), t) ∧ t.userExists u = true ∧
      (seat u).isIn t = false := by
  obtain ⟨hgroup, hthere⟩ := Edge.grounded_of_isIn hs h
  have hother : ¬(adminGroup = adminGroup ∧ u = adminUser) := fun hboth => hu hboth.2
  have hp : perform (.groupUserDelete adminGroup u) s = (.ok (), _) :=
    Store.removeMember_ok.2 ⟨hother, ⟨by decide, hgroup⟩, ⟨ne_empty_of_seat hs h, hthere⟩, rfl⟩
  have hgone : (seat u).isIn _ = false := Edge.isIn_of_ender hs hp (by simp [seat, Edge.enders])
  exact ⟨_, hp, hthere, hgone⟩

/-- The group `admin` cannot be deleted, and its member `admin` can be neither deleted nor removed. Any other member
stays until it is dismissed, and each way to dismiss it succeeds. So `admin` is the one member that always stays. -/
theorem only_the_administrator_is_kept (hs : s.Reachable) (h : (seat u).isIn s = true) :
    perform (.groupDelete adminGroup) s = (.error (.adminUndeletable .group), s) ∧
    (u = adminUser →
      perform (.userDelete u) s = (.error (.adminUndeletable .user), s) ∧
        perform (.groupUserDelete adminGroup u) s = (.error (.adminUndeletable .groupMember), s)) ∧
    (u ≠ adminUser →
      (∃ t, perform (.userDelete u) s = (.ok (), t) ∧ t.userExists u = false ∧ (seat u).isIn t = false) ∧
        ∃ t, perform (.groupUserDelete adminGroup u) s = (.ok (), t) ∧ t.userExists u = true ∧
          (seat u).isIn t = false) ∧
    (∀ calls, (∀ c ∈ dismissals u, c ∉ successes calls s) →
      (after calls s).userExists u = true ∧ (seat u).isIn (after calls s) = true) ∧
    ((∀ calls, (after calls s).userExists u = true ∧ (seat u).isIn (after calls s) = true) ↔ u = adminUser) := by
  have hsound := hs.directorySound
  have hstays : ∀ calls, (∀ c ∈ dismissals u, c ∉ successes calls s) →
      (after calls s).userExists u = true ∧ (seat u).isIn (after calls s) = true := by
    intro calls hspared
    have hseat := seat_after hsound h hspared
    exact ⟨exists_of_seat (hs.after calls).directorySound hseat, hseat⟩
  refine ⟨Store.perform_barred barred?_deleteGroup s, ?_, ?_, hstays, ?_, ?_⟩
  · rintro rfl
    exact ⟨Store.perform_barred rfl s, Store.perform_barred rfl s⟩
  · intro hu
    exact ⟨deleteUser_of_seat hsound h hu, removeMember_of_seat hsound h hu⟩
  · intro hall
    by_contra hu
    obtain ⟨t, hp, -, hgone⟩ := deleteUser_of_seat hsound h hu
    have hseat : (seat u).isIn (perform (.userDelete u) s).2 = true := (hall [.userDelete u]).2
    rw [hp, hgone] at hseat
    cases hseat
  · rintro rfl calls
    exact hstays calls fun c hc => dismissals_barred c hc calls s

def board : List Call :=
  [.userCreate (.named adminUser), .userCreate (.named "bob"), .groupCreate adminGroup,
    .groupUserAdd adminGroup adminUser, .groupUserAdd adminGroup "bob"]

theorem admin_is_kept_and_bob_is_not :
    (∀ calls, (seat adminUser).isIn (after calls (after board (.new .standard))) = true) ∧
      ∃ t, perform (.userDelete "bob") (after board (.new .standard)) = (.ok (), t) ∧ (seat "bob").isIn t = false := by
  have hadmin : (seat adminUser).isIn (after board (.new .standard)) = true := by decide +kernel
  have hbob : (seat "bob").isIn (after board (.new .standard)) = true := by decide +kernel
  obtain ⟨-, -, -, -, hkept⟩ := only_the_administrator_is_kept ⟨_, board, rfl⟩ hadmin
  obtain ⟨-, -, hdismissed, -⟩ := only_the_administrator_is_kept ⟨_, board, rfl⟩ hbob
  obtain ⟨t, hp, -, hgone⟩ := (hdismissed (by decide)).1
  exact ⟨fun calls => (hkept.2 rfl calls).2, t, hp, hgone⟩

theorem bob_is_not_protected : ¬ ∀ (s : Store) (u : String) (calls : List Call), s.Reachable →
    (seat u).isIn s = true → (after calls s).userExists u = true ∧ (seat u).isIn (after calls s) = true := by
  intro h
  have hkept := (h (after board (.new .standard)) "bob" [.userDelete "bob"] ⟨_, board, rfl⟩ (by decide +kernel)).1
  have hgone : (after [.userDelete "bob"] (after board (.new .standard))).userExists "bob" = false := by decide +kernel
  exact Bool.false_ne_true (hgone.symm.trans hkept)

end Administrators

end ChatRouter
