import ChatRouter.Proofs.Access.Policy

set_option autoImplicit false

namespace ChatRouter

theorem Identity.matches_iff {who : Identity} {adapter : String} {user : User} : who.Matches adapter user ↔
    ((filled? who.email).any user.hasEmail || user.isMapped adapter who.id) = true := by
  rw [Bool.or_eq_true, Option.any_eq_true]
  rfl

instance (who : Identity) (adapter : String) (user : User) : Decidable (who.Matches adapter user) :=
  decidable_of_iff _ Identity.matches_iff.symm

namespace Store

variable {s : Store} {u v : User}

theorem putUser_comm (s : Store) (h : u.username ≠ v.username) :
    (s.putUser u).putUser v = (s.putUser v).putUser u := by
  simp only [putUser, SortedMap.insert_comm s.users h]

theorem find?_putUser {p : User → Bool} (hp : p u = false) (hnew : s.userExists u.username = false) :
    (s.putUser u).users.values.find? p = s.users.values.find? p :=
  SortedMap.find?_values_insert hp hnew

theorem userByEmail_putUser_other {email : String} (hu : u.hasEmail email = false)
    (hnew : s.userExists u.username = false) : (s.putUser u).userByEmail email = s.userByEmail email := by
  have hpass : (!email.isEmpty && u.hasEmail email) = false := by rw [hu, Bool.and_false]
  unfold userByEmail
  rw [find?_putUser (p := fun v => !email.isEmpty && v.hasEmail email) hpass hnew]

theorem requireEmailFree_putUser_other (hu : ∀ email, v.email = some email → u.hasEmail email = false)
    (hnew : s.userExists u.username = false) : (s.putUser u).requireEmailFree v = s.requireEmailFree v := by
  unfold requireEmailFree
  cases hv : v.email with
  | none => rfl
  | some email =>
    have hpass : (u.username != v.username && u.hasEmail email) = false := by rw [hu email hv, Bool.and_false]
    have htaken : (s.putUser u).emailTaken email v.username = s.emailTaken email v.username := by
      unfold emailTaken
      rw [← List.isSome_find?, ← List.isSome_find?]
      rw [find?_putUser (p := fun w => w.username != v.username && w.hasEmail email) hpass hnew]
    simp only [htaken]

end Store

namespace Provisioning

open Accessing
open Script (Oblivious interleave)

/-- One call: whether users may register, the hash for a new user, the adapter and the identity. -/
structure Attempt where
  allow : Bool
  hash : PasswordHash
  adapter : String
  who : Identity

namespace Attempt

variable (x y : Attempt)

def script : Accessing (User × Bool) := resolveOrCreate x.allow x.hash x.adapter x.who

def user : User := newUser x.adapter x.who x.hash

def proceed : Option User → Accessing (User × Bool)
  | some found => return (found, false)
  | none =>
    if x.allow then Bootstrap.isBootstrapped >>= fun bootstrapped =>
      if bootstrapped then register x.user else throw .notBootstrapped
    else throw .selfRegistrationOff

theorem script_eq : x.script = findExisting x.adapter x.who >>= x.proceed := by
  rw [script, resolveOrCreate_eq]
  apply congrArg (findExisting x.adapter x.who >>= ·)
  funext found
  cases found <;> rfl

/-- The attempts are for different people: their users would have different names, and neither identity matches,
by its e-mail or by its mapping, the user that the other attempt would create. -/
structure Apart : Prop where
  names : x.user.username ≠ y.user.username
  left : ¬x.who.Matches x.adapter y.user
  right : ¬y.who.Matches y.adapter x.user

end Attempt

variable {s u : Store} {x y : Attempt}

namespace Attempt.Apart

theorem symm (h : x.Apart y) : y.Apart x := ⟨h.names.symm, h.right, h.left⟩

theorem hasEmail (h : x.Apart y) {email : String} (he : filled? x.who.email = some email) :
    y.user.hasEmail email = false := Bool.eq_false_iff.2 fun hown => h.left (.inl ⟨email, he, hown⟩)

theorem isMapped (h : x.Apart y) : y.user.isMapped x.adapter x.who.id = false :=
  Bool.eq_false_iff.2 fun hm => h.left (.inr hm)

end Attempt.Apart

/-- All that the attempt asks about is alike in both stores. -/
structure Unnoticed (x : Attempt) (s u : Store) : Prop where
  byEmail : ∀ email, filled? x.who.email = some email → u.userByEmail email = s.userByEmail email
  byMapping : u.users.values.find? (·.isMapped x.adapter x.who.id) =
    s.users.values.find? (·.isMapped x.adapter x.who.id)
  admin : u.userExists adminUser = s.userExists adminUser
  name : u.userExists x.user.username = s.userExists x.user.username
  free : u.requireEmailFree x.user = s.requireEmailFree x.user

theorem Unnoticed.refl (x : Attempt) (s : Store) : Unnoticed x s s := ⟨fun _ _ => rfl, rfl, rfl, rfl, rfl⟩

theorem unnoticed_putUser (h : x.Apart y) (hadmin : s.userExists adminUser = true)
    (hnew : s.userExists y.user.username = false) : Unnoticed x s (s.putUser y.user) where
  byEmail _ he := Store.userByEmail_putUser_other (h.hasEmail he) hnew
  byMapping := Store.find?_putUser h.isMapped hnew
  admin := by rw [Store.userExists_putUser, hadmin, Bool.or_true]
  name := by rw [Store.userExists_putUser, decide_eq_false h.names, Bool.false_or]
  free := Store.requireEmailFree_putUser_other (fun _ he => h.hasEmail he) hnew

def settle (r : Except AccessError (User × Bool)) (s : Store) : Store :=
  match r with
  | .ok (user, true) => s.putUser user
  | _ => s

/-- The script goes the same way on both stores, and adds the user of the attempt or nobody. -/
def Ends (x : Attempt) (s u : Store) (p : Accessing (User × Bool)) : Prop :=
  ∃ r, Oblivious Store.perform s u (settle r) r p.run ∧
    ∀ v, r = .ok (v, true) → v = x.user ∧ s.userExists adminUser = true ∧ s.userExists v.username = false

theorem ends_error {e : AccessError} : Ends x s u (throw e) := ⟨.error e, .ends rfl rfl, nofun⟩

theorem ends_found (found : User) : Ends x s u (x.proceed (some found)) :=
  ⟨.ok (found, false), .ends rfl rfl, nofun⟩

theorem ends_register (hu : Unnoticed x s u) (hadmin : s.userExists adminUser = true)
    (hfree : s.requireEmailFree x.user = .ok ()) : Ends x s u (register x.user) := by
  have hfreeAlike : u.requireEmailFree x.user = .ok () := hu.free.trans hfree
  cases hblank : Text.isBlankText x.user.username with
  | true =>
    let blank : Except DataError Unit := .error .emptyUserName
    refine ⟨.error (.store .emptyUserName), .acts (x := blank) (y := blank) ?_ ?_ rfl rfl, nofun⟩
    · exact perform_userCreate_blank hblank
    · exact perform_userCreate_blank hblank
  | false =>
    cases hname : s.userExists x.user.username with
    | true =>
      let taken : DataError := .userExists x.user.username
      refine ⟨.error (.store taken), .acts (x := .error taken) (y := .error taken) ?_ ?_ rfl rfl, nofun⟩
      · exact Store.perform_userCreate_taken hblank hname
      · exact Store.perform_userCreate_taken hblank (hu.name.trans hname)
    | false =>
      refine ⟨.ok (x.user, true), .acts (x := .ok ()) (y := .ok ()) ?_ ?_ rfl rfl, ?_⟩
      · exact Store.createUser_ok.2 ⟨hblank, hname, hfree, rfl⟩
      · exact Store.createUser_ok.2 ⟨hblank, hu.name.trans hname, hfreeAlike, rfl⟩
      · rintro v ⟨⟩
        exact ⟨rfl, hadmin, hname⟩

theorem ends_unknown (hu : Unnoticed x s u) (hfree : s.requireEmailFree x.user = .ok ()) :
    Ends x s u (x.proceed none) := by
  unfold Attempt.proceed
  cases x.allow with
  | false => exact ends_error
  | true =>
    have hsame (there : Bool) (h : s.userExists adminUser = there) :
        Store.perform (.userExists adminUser) u = (.ok there, u) :=
      Store.perform_userExists (hu.admin.trans h)
    have hread (there : Bool) (h : s.userExists adminUser = there)
        (hrest : Ends x s u (if there then register x.user else throw .notBootstrapped)) :
        Ends x s u (Bootstrap.isBootstrapped >>= fun bootstrapped =>
          if bootstrapped then register x.user else throw .notBootstrapped) := by
      obtain ⟨r, hr, hgain⟩ := hrest
      exact ⟨r, .reads (Store.perform_userExists h) (hsame there h) rfl hr, hgain⟩
    cases hadmin : s.userExists adminUser with
    | false => exact hread false hadmin ends_error
    | true => exact hread true hadmin (ends_register hu hadmin hfree)

theorem ends_proceed (hu : Unnoticed x s u) (hfree : s.requireEmailFree x.user = .ok ()) (found : Option User) :
    Ends x s u (x.proceed found) := by
  cases found with
  | none => exact ends_unknown hu hfree
  | some v => exact ends_found v

theorem ends_findMapped (hu : Unnoticed x s u) (hnone : ∀ v ∈ s.users.values, ¬x.who.SharesEmail v) :
    Ends x s u (findMapped x.adapter x.who >>= x.proceed) := by
  have hfree : s.requireEmailFree x.user = .ok () := requireEmailFree_newUser hnone
  obtain ⟨r, hr, hgain⟩ := ends_proceed hu hfree (s.users.values.find? (·.isMapped x.adapter x.who.id))
  -- The lists of users differ, but not in whom the adapter knows by that identifier.
  refine ⟨r, .reads (x := .ok s.users.values) (y := .ok u.users.values) rfl rfl ?_ hr, hgain⟩
  exact congrArg (fun found => (x.proceed found).run) hu.byMapping

theorem ends_script (hu : Unnoticed x s u) : Ends x s u x.script := by
  rw [Attempt.script_eq, findExisting]
  cases hemail : filled? x.who.email with
  | none =>
    apply ends_findMapped hu
    rintro v - ⟨email, he, -⟩
    cases hemail.symm.trans he
  | some email =>
    have hsame := hu.byEmail email hemail
    cases hfound : s.users.values.find? (fun v => !email.isEmpty && v.hasEmail email) with
    | some found =>
      have hget : s.userByEmail email = .ok found := by rw [Store.userByEmail, hfound]
      obtain ⟨r, hr, hgain⟩ := ends_found (x := x) (s := s) (u := u) found
      refine ⟨r, .reads (x := .ok found) (y := .ok found) ?_ ?_ rfl hr, hgain⟩
      · exact Prod.ext hget rfl
      · exact Prod.ext (hsame.trans hget) rfl
    | none =>
      have hget : s.userByEmail email = .error (.noSuchUser email) := by rw [Store.userByEmail, hfound]
      have hnone : ∀ v ∈ s.users.values, ¬x.who.SharesEmail v := by
        rintro v hv ⟨own, he, hown⟩
        cases hemail.symm.trans he
        have hnot := List.find?_eq_none.1 hfound v hv
        simp [filled?_ne_empty hemail, hown] at hnot
      obtain ⟨r, hr, hgain⟩ := ends_findMapped hu hnone
      refine ⟨r, .reads (x := .error (.noSuchUser email)) (y := .error (.noSuchUser email)) ?_ ?_ rfl hr, hgain⟩
      · exact Prod.ext hget rfl
      · exact Prod.ext (hsame.trans hget) rfl

theorem unnoticed_settle (h : x.Apart y) {r : Except AccessError (User × Bool)}
    (hgain : ∀ v, r = .ok (v, true) → v = y.user ∧ s.userExists adminUser = true ∧
      s.userExists v.username = false) : Unnoticed x s (settle r s) := by
  unfold settle
  split
  · rename_i v
    obtain ⟨rfl, hadmin, hnew⟩ := hgain v rfl
    exact unnoticed_putUser h hadmin hnew
  · exact Unnoticed.refl x s

theorem settle_comm {r q : Except AccessError (User × Bool)}
    (h : ∀ v w, r = .ok (v, true) → q = .ok (w, true) → v.username ≠ w.username) (s : Store) :
    settle r (settle q s) = settle q (settle r s) := by
  unfold settle
  split
  · rename_i v
    split
    · rename_i w
      exact Store.putUser_comm s (h v w rfl rfl).symm
    · rfl
  · rfl

theorem settled_of_oblivious {r : Except AccessError (User × Bool)} {p : Accessing (User × Bool)}
    (h : Oblivious Store.perform s u (settle r) r p.run) :
    p.on s = (r, settle r s) ∧ p.on u = (r, settle r u) := ⟨h.run_first, h.run_second⟩

/-- Two attempts on one store, in the order of a schedule. -/
def together (turns : List Bool) (x y : Attempt) (s : Store) :
    (Except AccessError (User × Bool) × Except AccessError (User × Bool)) × Store :=
  interleave Store.perform turns x.script.run y.script.run s

/-- In every schedule, attempts for different people answer what each answers alone, and leave the store that they
leave one after the other, either way round. -/
theorem attempts_do_not_interfere (s : Store) {x y : Attempt} (h : x.Apart y) :
    (∀ turns, together turns x y s =
      (((x.script.on s).1, (y.script.on s).1), (y.script.on (x.script.on s).2).2)) ∧
    y.script.on (x.script.on s).2 = ((y.script.on s).1, (y.script.on (x.script.on s).2).2) ∧
    x.script.on (y.script.on s).2 = ((x.script.on s).1, (y.script.on (x.script.on s).2).2) := by
  -- What each gains is known from its run alone, and says what the other one would meet.
  obtain ⟨a, halone, hx⟩ := ends_script (Unnoticed.refl x s)
  obtain ⟨b, hbeside, hy⟩ := ends_script (Unnoticed.refl y s)
  have hxalone := (settled_of_oblivious halone).1
  have hyalone := (settled_of_oblivious hbeside).1
  obtain ⟨a', ha, -⟩ := ends_script (unnoticed_settle h hy)
  obtain ⟨b', hb, -⟩ := ends_script (unnoticed_settle h.symm hx)
  obtain ⟨hxs, hxb⟩ := settled_of_oblivious ha
  obtain ⟨hys, hya⟩ := settled_of_oblivious hb
  obtain rfl : a = a' := congrArg Prod.fst (hxalone.symm.trans hxs)
  obtain rfl : b = b' := congrArg Prod.fst (hyalone.symm.trans hys)
  have hcomm : settle a (settle b s) = settle b (settle a s) := by
    apply settle_comm
    intro v w hv hw
    rw [(hx v hv).1, (hy w hw).1]
    exact h.names
  rw [hxs, hys, hya, hxb, hcomm]
  exact ⟨Script.interleave_of_oblivious ha hb hcomm, rfl, rfl⟩

theorem Attempt.on_script {user : User} (h : (x.script.on s).1 = .ok (user, true)) :
    x.script.on s = (.ok (user, true), s.putUser user) := by
  obtain ⟨r, hr, -⟩ := ends_script (Unnoticed.refl x s)
  obtain ⟨hrun, -⟩ := settled_of_oblivious hr
  rw [hrun] at h ⊢
  cases h
  rfl

def aliceOnSlack : Attempt := ⟨true, onSlack.2, "slack", alice⟩

/-- Somebody else whom another adapter knows by the same identifier. -/
def bobOnIrc : Attempt := ⟨true, onIrc.2, "irc", ⟨"U1", "bob", none, none, some "bob@example.org"⟩⟩

theorem alice_and_bob_are_enrolled : aliceOnSlack.Apart bobOnIrc ∧
    ∀ turns, together turns aliceOnSlack bobOnIrc adminStore =
      ((.ok (aliceOnSlack.user, true), .ok (bobOnIrc.user, true)),
        (adminStore.putUser aliceOnSlack.user).putUser bobOnIrc.user) := by
  have hapart : aliceOnSlack.Apart bobOnIrc := ⟨by decide +kernel, by decide +kernel, by decide +kernel⟩
  have hfirst : aliceOnSlack.script.on adminStore =
      (.ok (aliceOnSlack.user, true), adminStore.putUser aliceOnSlack.user) := Attempt.on_script (by decide +kernel)
  have hsecond : bobOnIrc.script.on (adminStore.putUser aliceOnSlack.user) =
      (.ok (bobOnIrc.user, true), (adminStore.putUser aliceOnSlack.user).putUser bobOnIrc.user) :=
    Attempt.on_script (by decide +kernel)
  have halone : (bobOnIrc.script.on adminStore).1 = .ok (bobOnIrc.user, true) := by decide +kernel
  refine ⟨hapart, fun turns => ?_⟩
  rw [(attempts_do_not_interfere adminStore hapart).1 turns, hfirst, hsecond, halone]

end Provisioning

end ChatRouter
