import ChatRouter.Proofs.Access.Attempts
import ChatRouter.Proofs.Access.Races
import ChatRouter.Regex.Parser

set_option autoImplicit false

/-!
# The policy of provisioning

Nobody shares an e-mail, so the user that an identity is known as is one user. Who is not known is enrolled if
the policy allows it, as a user that holds nothing yet. Whatever calls fail, only an enrolment changes the store.
-/

namespace ChatRouter

def Identity.SharesEmail (who : Identity) (user : User) : Prop :=
  ∃ email, filled? who.email = some email ∧ user.hasEmail email = true

/-- The user that the identity is known as: by its e-mail or, if nobody has that, by the first mapping of
the adapter to it. -/
inductive Identity.KnownAs (who : Identity) (adapter : String) (s : Store) (user : User) : Prop where
  | byEmail (hu : user ∈ s.users.values) (he : who.SharesEmail user)
  | byMapping (hu : user ∈ s.users.values) (hm : user.isMapped adapter who.id = true)
      (hnone : ∀ v ∈ s.users.values, ¬who.SharesEmail v)
      (hfirst : ∀ v ∈ s.users.values, v.isMapped adapter who.id = true → user.username ≤ v.username)

theorem filled?_ne_empty {text : Option String} {t : String} (h : filled? text = some t) : t ≠ "" := by
  simpa using (Option.filter_eq_some_iff.1 h).2

namespace User

variable {u v : User} {email : String}

theorem exists_email_of_shared (hu : u.hasEmail email = true) (hv : v.hasEmail email = true) (hne : email ≠ "") :
    ∃ own, u.email = some own ∧ own ≠ "" ∧ v.hasEmail own = true := by
  unfold hasEmail at hu
  split at hu
  · rename_i own he
    have hsame : own.toList.map Char.toLower = email.toList.map Char.toLower := by
      simpa [Text.sameLetters] using hu
    refine ⟨own, he, ?_, ?_⟩
    · rintro rfl
      have hnil : email.toList = [] := List.map_eq_nil_iff.1 hsame.symm
      exact hne (String.toList_eq_nil_iff.1 hnil)
    · unfold hasEmail at hv ⊢
      split at hv
      · simpa [Text.sameLetters, hsame] using hv
      · cases hv
  · cases hu

end User

namespace Store

variable {s t : Store} {u v : User} {email : String}

/-- No two users have the same e-mail. -/
def EmailsUnique (s : Store) : Prop :=
  ∀ u ∈ s.users.values, ∀ v ∈ s.users.values, ∀ email, email ≠ "" → u.hasEmail email = true →
    v.hasEmail email = true → u.username = v.username

theorem requireEmailFree_ok (h : s.requireEmailFree u = .ok ()) (hne : email ≠ "") (hu : u.hasEmail email = true)
    (hv : v ∈ s.users.values) (hve : v.hasEmail email = true) : v.username = u.username := by
  obtain ⟨own, hown, hfilled, hshared⟩ := User.exists_email_of_shared hu hve hne
  have htaken : s.emailTaken own u.username = false := by
    unfold requireEmailFree at h
    simpa [hown, hfilled] using h
  have hother := List.any_eq_false.1 htaken v hv
  simpa [hshared] using hother

theorem EmailsUnique.putUser (hs : s.EmailsUnique) (h : s.requireEmailFree u = .ok ())
    (hname : v.username = u.username) (hemail : v.email = u.email) : (s.putUser v).EmailsUnique := by
  have hown (email : String) : v.hasEmail email = u.hasEmail email := by simp only [User.hasEmail, hemail]
  intro a ha b hb email hne hae hbe
  rcases mem_values_putUser ha with rfl | ha' <;> rcases mem_values_putUser hb with rfl | hb'
  · rfl
  · rw [hown] at hae
    exact hname.trans (requireEmailFree_ok h hne hae hb' hbe).symm
  · rw [hown] at hbe
    exact (requireEmailFree_ok h hne hbe ha' hae).trans hname.symm
  · exact hs a ha' b hb' email hne hae hbe

theorem EmailsUnique.step (hs : s.EmailsUnique) {c : Call} {r : c.Reply} (h : perform c s = (.ok r, t)) :
    t.EmailsUnique := by
  by_cases hc : c.changesUsers = false
  · unfold EmailsUnique
    rw [users_kept h hc]
    exact hs
  · cases c with
    | userCreate u =>
      obtain ⟨-, -, hfree, rfl⟩ := createUser_ok.1 h
      exact hs.putUser hfree rfl rfl
    | userUpdate u =>
      obtain ⟨-, hfree, old, -, rfl⟩ := updateUser_ok.1 h
      exact hs.putUser hfree rfl rfl
    | userDelete n =>
      obtain ⟨-, -, -, rfl⟩ := deleteUser_ok.1 h
      have hsub : ∀ u ∈ (s.users.erase n).values, u ∈ s.users.values := by
        intro u hu
        obtain ⟨k, hk⟩ := (SortedMap.mem_values_iff _ _).1 hu
        rw [SortedMap.get?_erase_ite] at hk
        split at hk
        · cases hk
        · exact (SortedMap.mem_values_iff _ _).2 ⟨k, hk⟩
      exact fun a ha b hb => hs a (hsub a ha) b (hsub b hb)
    | _ => exact absurd rfl hc

theorem Reachable.emailsUnique (h : s.Reachable) : s.EmailsUnique := by
  refine h.induction ?_ fun _ _ _ _ _ hs hp => hs.step hp
  intro engine u hu
  cases hu

theorem DirectorySound.eq_of_username (hs : s.DirectorySound) (hu : u ∈ s.users.values)
    (hv : v ∈ s.users.values) (h : u.username = v.username) : u = v := by
  have hget := hs.get?_username hu
  rw [h, hs.get?_username hv] at hget
  exact (Option.some.inj hget).symm

theorem DirectorySound.usersIncreasing (hs : s.DirectorySound) :
    s.users.values.Pairwise fun u v => u.username < v.username := by
  have hname : ∀ e ∈ s.users.entries, e.2.username = e.1 := fun e he =>
    hs.usernames e.1 e.2 ((SortedMap.mem_entries_iff _ _ _).1 he)
  rw [SortedMap.values, List.pairwise_map]
  refine s.users.sorted.imp_of_mem fun ha hb hlt => ?_
  rw [hname _ ha, hname _ hb]
  exact compareOfLessAndEq_eq_lt.1 hlt

theorem DirectorySound.find?_users (hs : s.DirectorySound) (p : User → Bool) :
    s.users.values.find? p = some u ↔
      u ∈ s.users.values ∧ p u = true ∧ ∀ v ∈ s.users.values, p v = true → u.username ≤ v.username := by
  have hleast {w : User} (h : s.users.values.find? p = some w) :
      ∀ v ∈ s.users.values, p v = true → w.username ≤ v.username := by
    obtain ⟨-, before, after, hsplit, hbefore⟩ := List.find?_eq_some_iff_append.1 h
    have hincreasing := hs.usersIncreasing
    rw [hsplit] at hincreasing ⊢
    intro v hv hp
    rcases List.mem_append.1 hv with hv | hv
    · have hnot := hbefore v hv
      simp [hp] at hnot
    · rcases List.mem_cons.1 hv with rfl | hv
      · exact String.le_refl _
      · exact Std.le_of_lt (List.rel_of_pairwise_cons (List.pairwise_append.1 hincreasing).2.1 hv)
  constructor
  · intro h
    exact ⟨List.mem_of_find?_eq_some h, List.find?_some h, hleast h⟩
  · rintro ⟨hu, hp, hfirst⟩
    cases hf : s.users.values.find? p with
    | none =>
      have hnot := List.find?_eq_none.1 hf u hu
      exact absurd hp hnot
    | some w =>
      have hw := List.mem_of_find?_eq_some hf
      have hname := String.le_antisymm (hfirst w hw (List.find?_some hf)) (hleast hf u hu hp)
      rw [hs.eq_of_username hu hw hname]

end Store

namespace Provisioning

open Accessing
open Authorization (call userGrants)

variable {s t : Store} {adapter : String} {who : Identity} {user : User} {hash : PasswordHash} {allow : Bool}

/-! ## When no call fails -/

theorem on_findExisting (adapter : String) (who : Identity) (hs : s.DirectorySound) (hunique : s.EmailsUnique) :
    ∃ found, (findExisting adapter who).on s = (.ok found, s) ∧ ∀ u, found = some u ↔ who.KnownAs adapter s u := by
  have hmapped (hnone : ∀ v ∈ s.users.values, ¬who.SharesEmail v) (u : User) :
      s.users.values.find? (·.isMapped adapter who.id) = some u ↔ who.KnownAs adapter s u := by
    rw [hs.find?_users]
    constructor
    · rintro ⟨hu, hm, hfirst⟩
      exact .byMapping hu hm hnone hfirst
    · intro h
      cases h with
      | byEmail hu he => exact absurd he (hnone u hu)
      | byMapping hu hm _ hfirst => exact ⟨hu, hm, hfirst⟩
  cases hemail : filled? who.email with
  | none =>
    have hnone : ∀ v ∈ s.users.values, ¬who.SharesEmail v := by
      rintro v - ⟨email, he, -⟩
      rw [hemail] at he
      cases he
    refine ⟨_, ?_, hmapped hnone⟩
    rw [findExisting, hemail]
    exact on_findMapped adapter who s
  | some email =>
    rw [findExisting, hemail]
    cases hfound : s.users.values.find? (fun u => !email.isEmpty && u.hasEmail email) with
    | none =>
      have hfree : ∀ v ∈ s.users.values, v.hasEmail email = false := by
        intro v hv
        have hnot := List.find?_eq_none.1 hfound v hv
        simpa [filled?_ne_empty hemail] using hnot
      have hnone : ∀ v ∈ s.users.values, ¬who.SharesEmail v := by
        rintro v hv ⟨own, he, hshared⟩
        rw [hemail] at he
        cases he
        exact Bool.false_ne_true ((hfree v hv).symm.trans hshared)
      have hcall : Store.perform (.userGetByEmail email) s = (.error (.noSuchUser email), s) :=
        Prod.ext (Store.userByEmail_unknown hfree) rfl
      refine ⟨_, ?_, hmapped hnone⟩
      exact (on_ask_bind hcall).trans (on_findMapped adapter who s)
    | some found =>
      have hget : s.userByEmail email = .ok found := by rw [Store.userByEmail, hfound]
      have hcall : Store.perform (.userGetByEmail email) s = (.ok found, s) := Prod.ext hget rfl
      obtain ⟨hin, hshared⟩ := Store.userByEmail_ok hget
      refine ⟨some found, on_ask_bind hcall, fun u => ?_⟩
      constructor
      · rintro ⟨⟩
        exact .byEmail hin ⟨email, hemail, hshared⟩
      · intro h
        cases h with
        | byEmail hu he =>
          obtain ⟨own, he, hown⟩ := he
          rw [hemail] at he
          cases he
          have hname := hunique found hin u hu email (filled?_ne_empty hemail) hshared hown
          rw [hs.eq_of_username hin hu hname]
        | byMapping _ _ hnone _ => exact absurd ⟨email, hemail, hshared⟩ (hnone found hin)

/-- What the store gains when the identity is enrolled: a user with its name, its e-mail and its mapping, who is
in no group and holds nothing. -/
structure Enrolls (s : Store) (adapter : String) (who : Identity) (user : User) (t : Store) : Prop where
  named : user.username = if Text.isBlankText who.name then who.id else who.name
  email : user.email = filled? who.email
  mapped : user.mappings.entries = [(adapter, who.id)]
  new : s.userExists user.username = false
  added : t = s.putUser user
  ungrouped : Store.perform (.userGroupList user.username) t = (.ok [], t)
  unprivileged : (userGrants user.username).on t = (.ok ∅, t)

theorem ungrouped_of_new (hs : s.DirectorySound) (hne : user.username ≠ "")
    (hnew : s.userExists user.username = false) :
    Store.perform (.userGroupList user.username) (s.putUser user) = (.ok [], s.putUser user) := by
  have hthere : (s.putUser user).users.contains user.username = true := by
    rw [Store.putUser, SortedMap.contains_insert]
    simp
  have hnone : (s.groups.entries.filter fun e => e.2.users.contains user.username) = [] := by
    refine List.filter_eq_nil_iff.2 fun e he hmember => ?_
    have hget := (SortedMap.mem_entries_iff _ _ _).1 he
    have hold := hs.members e.1 e.2 user.username hget hmember
    exact Bool.false_ne_true (hnew.symm.trans hold)
  refine Prod.ext (Store.groupsOf_ok.2 ⟨⟨hne, hthere⟩, ?_⟩) rfl
  change (s.groups.entries.filter _).map _ = []
  rw [hnone]
  rfl

theorem enrolls_newUser (hs : s.DirectorySound) (hne : (newUser adapter who hash).username ≠ "")
    (hnew : s.userExists (newUser adapter who hash).username = false) :
    Enrolls s adapter who (newUser adapter who hash) (s.putUser (newUser adapter who hash)) where
  named := rfl
  email := rfl
  mapped := rfl
  new := hnew
  added := rfl
  ungrouped := ungrouped_of_new hs hne hnew
  unprivileged := on_bind_ok (on_call (ungrouped_of_new hs hne hnew))

/-- Why an identity that nobody is known as is turned away, if it is. -/
def refusal? (allow : Bool) (s : Store) (name : String) : Option AccessError :=
  if allow = false then some .selfRegistrationOff
  else if s.userExists adminUser = false then some .notBootstrapped
  else if Text.isBlankText name then some (.store .emptyUserName)
  else if s.userExists name then some (.store (.userExists name))
  else none

theorem requireEmailFree_newUser (hnone : ∀ v ∈ s.users.values, ¬who.SharesEmail v) :
    s.requireEmailFree (newUser adapter who hash) = .ok () := by
  have hown : (newUser adapter who hash).email = filled? who.email := rfl
  unfold Store.requireEmailFree
  rw [hown]
  cases hemail : filled? who.email with
  | none => rfl
  | some email =>
    have htaken : s.emailTaken email (newUser adapter who hash).username = false := by
      refine List.any_eq_false.2 fun v hv => ?_
      have hfree : v.hasEmail email = false := Bool.eq_false_iff.2 fun h => hnone v hv ⟨email, hemail, h⟩
      simp [hfree]
    simp [htaken]

theorem perform_userCreate_blank (hblank : Text.isBlankText user.username = true) :
    Store.perform (.userCreate user) s = (.error .emptyUserName, s) := by
  simp [Store.perform, Store.editFor, Store.createUser, Edit.run_bind, hblank]

theorem on_unknown (hs : s.DirectorySound) (hfind : (findExisting adapter who).on s = (.ok none, s))
    (hnone : ∀ v ∈ s.users.values, ¬who.SharesEmail v) :
    match refusal? allow s (newUser adapter who hash).username with
    | some e => (resolveOrCreate allow hash adapter who).on s = (.error e, s)
    | none => ∃ u t, Enrolls s adapter who u t ∧
        (resolveOrCreate allow hash adapter who).on s = (.ok (u, true), t) := by
  let user := newUser adapter who hash
  cases allow with
  | false =>
    rw [resolveOrCreate_eq]
    exact on_bind_ok hfind
  | true =>
    have hrun : (resolveOrCreate true hash adapter who).on s = (enroll user none).on s := by
      rw [resolveOrCreate_eq_enroll]
      exact on_bind_ok hfind
    cases hadmin : s.userExists adminUser with
    | false =>
      have hrefusal : refusal? true s user.username = some .notBootstrapped := by simp [refusal?, hadmin]
      rw [hrefusal]
      exact hrun.trans (on_bind_ok (on_call (Store.perform_userExists hadmin)))
    | true =>
      replace hrun : (resolveOrCreate true hash adapter who).on s = (register user).on s :=
        hrun.trans (on_bind_ok (on_call (Store.perform_userExists hadmin)))
      cases hblank : Text.isBlankText user.username with
      | true =>
        have hrefusal : refusal? true s user.username = some (.store .emptyUserName) := by
          simp [refusal?, hadmin, hblank]
        rw [hrefusal]
        exact hrun.trans (on_ask_bind (perform_userCreate_blank hblank))
      | false =>
        cases hnew : s.userExists user.username with
        | true =>
          have hrefusal : refusal? true s user.username = some (.store (.userExists user.username)) := by
            simp [refusal?, hadmin, hblank, hnew]
          rw [hrefusal]
          exact hrun.trans (on_ask_bind (Store.perform_userCreate_taken hblank hnew))
        | false =>
          have hrefusal : refusal? true s user.username = none := by simp [refusal?, hadmin, hblank, hnew]
          have hcreate : Store.perform (.userCreate user) s = (.ok (), s.putUser user) :=
            Store.createUser_ok.2 ⟨hblank, hnew, requireEmailFree_newUser hnone, rfl⟩
          rw [hrefusal]
          refine ⟨user, s.putUser user, ?_, hrun.trans (on_ask_bind hcreate)⟩
          exact enrolls_newUser hs (Store.ne_empty_of_not_blank hblank) hnew

/-! ## When calls fail -/

variable {fails : String → DataError → Prop}

theorem ensures_register : Ensures fails (· = s) (register user)
    (fun r t => if r.2 then t = s.putUser r.1 else t = s) (· = s) := by
  refine ensures_ask_bind fun a => ?_
  split
  · refine ensures_pure ?_
    rintro t ⟨_, rfl, ha⟩
    obtain ⟨-, -, -, ht⟩ := Store.createUser_ok.1 ha.perform_eq
    exact ht.symm
  · rename_i email
    have hsame : ∀ t, (∃ s', s' = s ∧ (Surroundings.failing fails).Answered s' (.userCreate user)
        (.error (.duplicateEmail email)) t) → t = s := by
      rintro t ⟨_, rfl, ha⟩
      exact ha.eq_of_error
    refine .bind (Q := fun _ t => t = s) ?_ fun winner => ensures_pure fun _ ht => ht
    refine ensures_call (fun t winner t' ht hp => ?_) fun t _ ht _ => hsame t ht
    rw [← hsame t ht, ← Store.perform_read (c := .userGetByEmail email) rfl t, hp]
  · refine ensures_throw ?_
    rintro t ⟨_, rfl, ha⟩
    exact ha.eq_of_error

theorem ensures_resolveOrCreate : Ensures fails (· = s) (resolveOrCreate allow hash adapter who)
    (fun r t => if r.2 then t = s.putUser r.1 else t = s) (· = s) := by
  rw [resolveOrCreate_eq]
  refine (ensures_reads (asks_findExisting adapter who)).bind fun found => ?_
  split
  · exact ensures_pure fun _ ht => ht
  · split
    · refine (ensures_reads (Call.asks_adapt rfl)).bind fun bootstrapped => ?_
      split
      · exact ensures_register
      · exact ensures_throw fun _ ht => ht
    · exact ensures_throw fun _ ht => ht

theorem onFailing_changes (faults : Faults) :
    let r := (resolveOrCreate allow hash adapter who).onFailing faults s
    r.2 = s ∨ ∃ u, r.1 = .ok (u, true) ∧ r.2 = s.putUser u := by
  have hensures : Ensures (fun _ _ => True) (· = s) (resolveOrCreate allow hash adapter who)
      (fun r t => if r.2 then t = s.putUser r.1 else t = s) (· = s) := ensures_resolveOrCreate
  have hend := hensures.onFailing faults.only_anything rfl
  rcases hrun : (resolveOrCreate allow hash adapter who).onFailing faults s with ⟨e | ⟨u, _ | _⟩, t⟩
  all_goals rw [hrun] at hend
  · exact .inl hend
  · exact .inl hend
  · exact .inr ⟨u, rfl, hend⟩

/-- The calls of an attempt and what they were answered, when calls fail as scheduled. -/
def attemptLog (allow : Bool) (hash : PasswordHash) (adapter : String) (who : Identity) (faults : Faults)
    (s : Store) : CallLog :=
  (resolveOrCreate allow hash adapter who).run.exchanges Faulty.perform ⟨s, faults⟩

theorem attemptLog_keepsContract {faults : Faults} (h : faults.Only Genuine) :
    (attemptLog allow hash adapter who faults s).KeepsContract := by
  have hl : Chronicle (.failing Genuine) s (attemptLog allow hash adapter who faults s) _ :=
    Faulty.chronicle_run (f := ⟨s, faults⟩) h (resolveOrCreate allow hash adapter who).run
  exact hl.keepsContract fun _ _ => id

theorem onFailing_finds (hs : s.DirectorySound) {faults : Faults}
    (h : ((resolveOrCreate allow hash adapter who).onFailing faults s).1 = .ok (user, false)) :
    user ∈ s.users.values ∧
      ((attemptLog allow hash adapter who faults s).KeepsContract → who.Matches adapter user) := by
  have hlead := Script.leads_exchanges Faulty.perform (resolveOrCreate allow hash adapter who).run ⟨s, faults⟩
  have hrun : ((resolveOrCreate allow hash adapter who).run.run Faulty.perform ⟨s, faults⟩).1 =
      .ok (user, false) := h
  rw [hrun] at hlead
  have hl : Chronicle .routing s (attemptLog allow hash adapter who faults s) _ :=
    Faulty.chronicle_run (f := ⟨s, faults⟩) faults.only_anything (resolveOrCreate allow hash adapter who).run
  rcases resolveOrCreate_sound hs hl hlead with ⟨-, hthere, -, hmatches⟩ | ⟨hcreated, -⟩
  · exact ⟨(SortedMap.mem_values_iff _ _).2 ⟨_, hthere⟩, hmatches⟩
  · cases hcreated

/-- Another identity with the e-mail of `alice`. -/
def alicia : Identity := ⟨"U2", "alicia", none, none, some "Alice@Example.org"⟩

def aliceUser : User := newUser "slack" alice onSlack.2

def aliceStore : Store := Store.after [.userCreate (.named adminUser), .userCreate aliceUser] (.new .standard)

def blinded : Faults := (∅ : Faults).insert "user_get_by_email" [some (.noSuchUser "injected")]

/-- A store that breaks its contract is believed. -/
example : ((resolveOrCreate true onIrc.2 "irc" ⟨"U3", "mallory", none, none, none⟩).onFailing
    ((∅ : Faults).insert "user_create" [some (.duplicateEmail "alice@example.org")]) aliceStore).1 =
      .ok (aliceUser, false) := by decide +kernel

end Provisioning

end ChatRouter
