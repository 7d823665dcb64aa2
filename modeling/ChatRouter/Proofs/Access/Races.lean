import ChatRouter.Proofs.Access.Effective
import ChatRouter.Proofs.Access.Provisioning
import ChatRouter.Proofs.Interleaving
import ChatRouter.Regex.Parser

set_option autoImplicit false

namespace ChatRouter

theorem User.hasEmail_own {u : User} {email : String} (h : u.email = some email) : u.hasEmail email = true := by
  simp [hasEmail, h, Text.sameLetters]

namespace Store

variable {s : Store} {email : String} {u other : User}

theorem mem_values_putUser (h : u ∈ (s.putUser other).users.values) : u = other ∨ u ∈ s.users.values := by
  obtain ⟨n, hn⟩ := (SortedMap.mem_values_iff _ _).1 h
  rw [putUser, SortedMap.get?_insert_ite] at hn
  split at hn
  · exact .inl (Option.some.inj hn).symm
  · exact .inr ((SortedMap.mem_values_iff _ _).2 ⟨n, hn⟩)

theorem putUser_mem_values (s : Store) (u : User) : u ∈ (s.putUser u).users.values :=
  (SortedMap.mem_values_iff _ _).2 ⟨u.username, by simp [putUser, SortedMap.get?_insert_ite]⟩

theorem userByEmail_unknown (h : ∀ u ∈ s.users.values, u.hasEmail email = false) :
    s.userByEmail email = .error (.noSuchUser email) := by
  have hnone : (s.users.values.find? fun u => !email.isEmpty && u.hasEmail email) = none :=
    List.find?_eq_none.2 fun u hu => by simp [h u hu]
  rw [userByEmail, hnone]

theorem userByEmail_putUser (h : ∀ u ∈ s.users.values, u.hasEmail email = false) (hne : email ≠ "")
    (hother : other.email = some email) : (s.putUser other).userByEmail email = .ok other := by
  cases hf : (s.putUser other).users.values.find? fun u => !email.isEmpty && u.hasEmail email with
  | none =>
    have := List.find?_eq_none.1 hf other (s.putUser_mem_values other)
    simp [User.hasEmail_own hother, hne] at this
  | some u =>
    have hu := List.find?_some hf
    rcases mem_values_putUser (List.mem_of_find?_eq_some hf) with rfl | hin
    · rw [userByEmail, hf]
    · simp [h u hin] at hu

theorem userExists_putUser (s : Store) (u : User) (n : String) :
    (s.putUser u).userExists n = (decide (n = u.username) || s.userExists n) := by
  simp [userExists, putUser, SortedMap.contains_insert]

theorem perform_userCreate_taken (hblank : Text.isBlankText u.username = false)
    (h : s.userExists u.username = true) :
    perform (.userCreate u) s = (.error (.userExists u.username), s) := by
  have hthere : s.users.contains u.username = true := h
  simp [perform, editFor, createUser, Edit.run_bind, hblank, hthere]

theorem perform_userExists {n : String} {there : Bool} (h : s.userExists n = there) :
    perform (.userExists n) s = (.ok there, s) := Prod.ext (congrArg Except.ok h) rfl

end Store

namespace Provisioning

open Accessing
open Script (Contends interleave)

theorem on_findMapped (adapter : String) (who : Identity) (s : Store) : (findMapped adapter who).on s =
    (.ok (s.users.values.find? (·.isMapped adapter who.id)), s) := on_bind_ok (on_call rfl)

/-- What is left once an identity has been looked for, when self-registration is on. -/
def enroll (user : User) : Option User → Accessing (User × Bool)
  | some found => return (found, false)
  | none => Bootstrap.isBootstrapped >>= fun bootstrapped =>
    if bootstrapped then register user else throw .notBootstrapped

theorem resolveOrCreate_eq_enroll (hash : PasswordHash) (adapter : String) (who : Identity) :
    resolveOrCreate true hash adapter who = findExisting adapter who >>= enroll (newUser adapter who hash) := by
  rw [resolveOrCreate_eq]
  exact congrArg (findExisting adapter who >>= ·) (funext fun found => by cases found <;> rfl)

/-- What the call that comes second may get: the user that the first one has created, or that the name of
this user is taken. -/
def Follows (first : User) (r : Except AccessError (User × Bool)) : Prop :=
  r = .ok (first, false) ∨ r = .error (.store (.userExists first.username))

/-- Two users that could be created, but not both. -/
structure Rivals (s : Store) (email : String) (mine other : User) : Prop where
  admin : s.userExists adminUser = true
  named : Text.isBlankText mine.username = false
  sameName : other.username = mine.username
  nameFree : s.userExists mine.username = false
  filled : email ≠ ""
  myEmail : mine.email = some email
  otherEmail : other.email = some email
  emailFree : ∀ u ∈ s.users.values, u.hasEmail email = false

/-- The script creates `mine` if it meets the store as it is, and follows if it meets `other` in it. If only
the creation is left, it is refused. -/
abbrev Registers (s : Store) (mine other : User) (x : Accessing (User × Bool)) : Prop :=
  Contends Store.perform s (s.putUser mine) (s.putUser other) (.ok (mine, true)) (Follows other)
    (· = .error (.store (.userExists mine.username))) x.run

namespace Rivals

variable {s : Store} {email adapter : String} {mine other : User} {who : Identity}

theorem symm (h : Rivals s email mine other) : Rivals s email other mine where
  admin := h.admin
  named := h.sameName ▸ h.named
  sameName := h.sameName.symm
  nameFree := h.sameName ▸ h.nameFree
  filled := h.filled
  myEmail := h.otherEmail
  otherEmail := h.myEmail
  emailFree := h.emailFree

theorem follows (h : Rivals s email mine other) :
    Follows other (.error (.store (.userExists mine.username))) := .inr (by rw [h.sameName])

theorem perform_create (h : Rivals s email mine other) :
    Store.perform (.userCreate mine) s = (.ok (), s.putUser mine) := by
  have htaken : s.emailTaken email mine.username = false :=
    List.any_eq_false.2 fun u hu => by simp [h.emailFree u hu]
  have hfree : s.requireEmailFree mine = .ok () := by simp [Store.requireEmailFree, h.myEmail, htaken]
  exact Store.createUser_ok.2 ⟨h.named, h.nameFree, hfree, rfl⟩

theorem on_register (h : Rivals s email mine other) : (register mine).on (s.putUser other) =
    (.error (.store (.userExists mine.username)), s.putUser other) := by
  have hthere : (s.putUser other).userExists mine.username = true := by
    simp [Store.userExists_putUser, h.sameName]
  exact on_ask_bind (Store.perform_userCreate_taken h.named hthere)

theorem on_enroll (h : Rivals s email mine other) : (enroll mine none).on (s.putUser other) =
    (.error (.store (.userExists mine.username)), s.putUser other) := by
  have hadmin : (s.putUser other).userExists adminUser = true := by
    simp [Store.userExists_putUser, h.admin]
  exact (on_bind_ok (on_call (Store.perform_userExists hadmin))).trans h.on_register

theorem on_findMapped_enroll (h : Rivals s email mine other)
    (hunmapped : ∀ u ∈ s.users.values, u.isMapped adapter who.id = false) :
    ∃ r, Follows other r ∧ (findMapped adapter who >>= enroll mine).on (s.putUser other) =
      (r, s.putUser other) := by
  rw [on_bind_ok (on_findMapped adapter who _)]
  cases hf : (s.putUser other).users.values.find? (·.isMapped adapter who.id) with
  | none => exact ⟨_, h.follows, h.on_enroll⟩
  | some u =>
    have hmapped : u.isMapped adapter who.id = true := by simpa using List.find?_some hf
    rcases Store.mem_values_putUser (List.mem_of_find?_eq_some hf) with rfl | hin
    · exact ⟨_, .inl rfl, on_pure _ _⟩
    · simp [hunmapped u hin] at hmapped

theorem registers_register (h : Rivals s email mine other) : Registers s mine other (register mine) :=
  .acts h.on_register h.follows rfl h.perform_create rfl

theorem registers_enroll (h : Rivals s email mine other) : Registers s mine other (enroll mine none) :=
  .reads h.on_enroll h.follows (Store.perform_userExists h.admin) h.registers_register

theorem registers_findMapped (h : Rivals s email mine other)
    (hunmapped : ∀ u ∈ s.users.values, u.isMapped adapter who.id = false) :
    Registers s mine other (findMapped adapter who >>= enroll mine) := by
  obtain ⟨r, hr, hon⟩ := h.on_findMapped_enroll hunmapped
  have hnone : s.users.values.find? (·.isMapped adapter who.id) = none :=
    List.find?_eq_none.2 fun u hu => by simp [hunmapped u hu]
  refine .reads hon hr rfl ?_
  change Registers s mine other (enroll mine (s.users.values.find? (·.isMapped adapter who.id)))
  rw [hnone]
  exact h.registers_enroll

theorem registers_findExisting (h : Rivals s email mine other) (hemail : filled? who.email = some email)
    (hunmapped : ∀ u ∈ s.users.values, u.isMapped adapter who.id = false) :
    Registers s mine other (findExisting adapter who >>= enroll mine) := by
  have hmeets : (findExisting adapter who >>= enroll mine).on (s.putUser other) =
      (.ok (other, false), s.putUser other) := by
    have hfound : Store.perform (.userGetByEmail email) (s.putUser other) = (.ok other, s.putUser other) :=
      Prod.ext (Store.userByEmail_putUser h.emailFree h.filled h.otherEmail) rfl
    have hfind : (findExisting adapter who).on (s.putUser other) = (.ok (some other), s.putUser other) := by
      rw [findExisting, hemail]
      exact on_ask_bind hfound
    exact on_bind_ok hfind
  have hunknown : Store.perform (.userGetByEmail email) s = (.error (.noSuchUser email), s) :=
    Prod.ext (Store.userByEmail_unknown h.emailFree) rfl
  rw [findExisting, hemail] at hmeets ⊢
  exact .reads hmeets (.inl rfl) hunknown (h.registers_findMapped hunmapped)

end Rivals

/-- Two calls for one identity beside each other, each with its adapter and the hash of a new user. -/
def race (turns : List Bool) (who : Identity) (left right : String × PasswordHash) (s : Store) :
    (Except AccessError (User × Bool) × Except AccessError (User × Bool)) × Store :=
  interleave Store.perform turns (resolveOrCreate true left.2 left.1 who).run
    (resolveOrCreate true right.2 right.1 who).run s

/-- However two calls for one unknown identity are interleaved, exactly one creates the user, which is all
that changes, and the other one follows. In some schedule the other one has looked too early and is refused. -/
theorem race_has_one_winner {s : Store} {who : Identity} {email : String} {left right : String × PasswordHash}
    (hadmin : s.userExists adminUser = true) (hemail : filled? who.email = some email)
    (hnamed : Text.isBlankText who.name = false) (hfree : s.userExists who.name = false)
    (hleft : ∀ u ∈ s.users.values, ¬who.Matches left.1 u)
    (hright : ∀ u ∈ s.users.values, ¬who.Matches right.1 u) :
    (∀ turns,
      (∃ r, Follows (newUser left.1 who left.2) r ∧ race turns who left right s =
        ((.ok (newUser left.1 who left.2, true), r), s.putUser (newUser left.1 who left.2))) ∨
      ∃ r, Follows (newUser right.1 who right.2) r ∧ race turns who left right s =
        ((r, .ok (newUser right.1 who right.2, true)), s.putUser (newUser right.1 who right.2))) ∧
    ∃ turns, race turns who left right s =
      ((.ok (newUser left.1 who left.2, true), .error (.store (.userExists who.name))),
        s.putUser (newUser left.1 who left.2)) := by
  have hname (adapter : String) (hash : PasswordHash) : (newUser adapter who hash).username = who.name := by
    simp [newUser, hnamed]
  have hunmapped {adapter : String} (h : ∀ u ∈ s.users.values, ¬who.Matches adapter u) :
      ∀ u ∈ s.users.values, u.isMapped adapter who.id = false :=
    fun u hu => Bool.eq_false_iff.2 fun hm => h u hu (.inr hm)
  have hrivals : Rivals s email (newUser left.1 who left.2) (newUser right.1 who right.2) :=
    { admin := hadmin
      named := by rw [hname, hnamed]
      sameName := by rw [hname, hname]
      nameFree := by rw [hname, hfree]
      filled := by simpa using (Option.filter_eq_some_iff.1 hemail).2
      myEmail := hemail
      otherEmail := hemail
      emailFree := fun u hu => Bool.eq_false_iff.2 fun hm => hleft u hu (.inl ⟨email, hemail, hm⟩) }
  have hfirst := hrivals.registers_findExisting hemail (hunmapped hleft)
  have hsecond := hrivals.symm.registers_findExisting hemail (hunmapped hright)
  rw [← resolveOrCreate_eq_enroll] at hfirst hsecond
  refine ⟨Script.interleave_of_contends hfirst hsecond, ?_⟩
  obtain ⟨turns, missed, rfl, hrun⟩ := Script.exists_interleave_missed hfirst hsecond
  rw [hname] at hrun
  exact ⟨turns, hrun⟩

theorem not_matches_named (who : Identity) (adapter username : String) :
    ¬who.Matches adapter (.named username) := by
  simp [Identity.Matches, User.named, User.hasEmail, User.isMapped]

def adminStore : Store := Store.after [.userCreate (.named adminUser)] (.new .standard)

def alice : Identity := ⟨"U1", "alice", none, none, some "alice@example.org"⟩

/-- The adapters of two calls and the hashes that they would store. -/
def onSlack : String × PasswordHash := ("slack", .ofText "first")

def onIrc : String × PasswordHash := ("irc", .ofText "second")

theorem adminStore_matches {who : Identity} {adapter : String} :
    ∀ u ∈ adminStore.users.values, ¬who.Matches adapter u := by
  have hvalues : adminStore.users.values = [.named adminUser] := by decide +kernel
  rw [hvalues, List.forall_mem_singleton]
  exact not_matches_named who adapter adminUser

theorem alice_has_one_winner : adminStore.userExists adminUser = true ∧
    filled? alice.email = some "alice@example.org" ∧ Text.isBlankText alice.name = false ∧
    adminStore.userExists alice.name = false ∧
    ∃ turns, race turns alice onSlack onIrc adminStore =
      ((.ok (newUser "slack" alice onSlack.2, true), .error (.store (.userExists "alice"))),
        adminStore.putUser (newUser "slack" alice onSlack.2)) := by
  have hadmin : adminStore.userExists adminUser = true := by decide +kernel
  have hemail : filled? alice.email = some "alice@example.org" := by decide +kernel
  have hnamed : Text.isBlankText alice.name = false := by decide +kernel
  have hfree : adminStore.userExists alice.name = false := by decide +kernel
  refine ⟨hadmin, hemail, hnamed, hfree, ?_⟩
  exact (race_has_one_winner hadmin hemail hnamed hfree adminStore_matches adminStore_matches).2

def lockstep : List Bool := [true, false, true, false, true, false, true, false]

/-- In lockstep the call that comes second fails, though the user that it looks for is there. -/
theorem lockstep_refuses_second : ¬ ∀ (s : Store) (who : Identity) (left right : String × PasswordHash)
    (turns : List Bool), s.Reachable → s.userExists adminUser = true → (∃ email, filled? who.email = some email) →
      Text.isBlankText who.name = false → s.userExists who.name = false →
        (∀ u ∈ s.users.values, ¬who.Matches left.1 u) → (∀ u ∈ s.users.values, ¬who.Matches right.1 u) →
          ∃ first second created,
            (race turns who left right s).1 = (.ok (first, created), .ok (second, !created)) ∧
              first.username = second.username ∧ first.email = second.email := by
  intro h
  obtain ⟨first, second, created, hrun, -⟩ := h adminStore alice onSlack onIrc lockstep ⟨_, _, rfl⟩
    (by decide +kernel) ⟨"alice@example.org", by decide +kernel⟩ (by decide +kernel) (by decide +kernel)
    adminStore_matches adminStore_matches
  have hsecond : (race lockstep alice onSlack onIrc adminStore).1.2 = .error (.store (.userExists "alice")) := by
    decide +kernel
  rw [hrun] at hsecond
  cases hsecond

end Provisioning

end ChatRouter
