import ChatRouter.Proofs.Access.Policy

set_option autoImplicit false

namespace ChatRouter

/-- A store in use: attempts are under way on it, each with the calls that it has yet to make. -/
structure Workplace where
  data : Faulty
  attempts : List (StoreScript Unit)

namespace Workplace

inductive Act where
  | call (c : Call)
  | bootstrap (account : Bootstrap.Account) (hash : PasswordHash)
  | provision (allow : Bool) (hash : PasswordHash) (adapter : String) (who : Identity)
  | turn (attempt : Nat)
  /-- The next calls of a kind have these outcomes. -/
  | outage (kind : String) (outcomes : List (Option DataError))

def new (engine : Regex.Engine) : Workplace := ⟨.ofStore (.new engine), []⟩

def begin {α : Type} (w : Workplace) (attempt : Accessing α) : Workplace :=
  { w with attempts := w.attempts ++ [attempt.run >>= fun _ => .done ()] }

def turn (w : Workplace) (i : Nat) : Workplace :=
  match w.attempts[i]? with
  | some (.ask c next) => ⟨(w.data.perform c).2, w.attempts.set i (next (w.data.perform c).1)⟩
  | _ => w

def act (w : Workplace) : Act → Workplace
  | .call c => { w with data := (w.data.perform c).2 }
  | .bootstrap account hash => w.begin (Bootstrap.bootstrap account hash)
  | .provision allow hash adapter who => w.begin (Provisioning.resolveOrCreate allow hash adapter who)
  | .turn i => w.turn i
  | .outage kind outcomes => { w with data := w.data.schedule kind outcomes }

def after (acts : List Act) (w : Workplace) : Workplace := acts.foldl act w

theorem store_act (w : Workplace) (a : Act) :
    (w.act a).data.store = w.data.store ∨ ∃ c, (w.act a).data.store = (Store.perform c w.data.store).2 := by
  have hperform (c : Call) : (w.data.perform c).2.store = w.data.store ∨
      ∃ d, (w.data.perform c).2.store = (Store.perform d w.data.store).2 :=
    (Faulty.store_perform c w.data).imp_right fun h => ⟨c, h⟩
  cases a with
  | call c => exact hperform c
  | bootstrap account hash => exact .inl rfl
  | provision allow hash adapter who => exact .inl rfl
  | turn i =>
    change (w.turn i).data.store = _ ∨ ∃ d, (w.turn i).data.store = (Store.perform d w.data.store).2
    unfold turn
    split
    · rename_i c next _
      exact hperform c
    · exact .inl rfl
  | outage kind outcomes => exact .inl rfl

theorem reachable_act {w : Workplace} (h : w.data.store.Reachable) (a : Act) : (w.act a).data.store.Reachable := by
  rcases store_act w a with hsame | ⟨c, hcall⟩
  · rwa [hsame]
  · rw [hcall]
    exact h.perform c

theorem reachable_after (engine : Regex.Engine) (acts : List Act) : (after acts (new engine)).data.store.Reachable := by
  suffices ∀ w : Workplace, w.data.store.Reachable → (after acts w).data.store.Reachable from
    this (new engine) (Store.reachable_new engine)
  intro w h
  induction acts generalizing w with
  | nil => exact h
  | cons a acts ih => exact ih (w.act a) (reachable_act h a)

end Workplace

namespace Store

variable {s : Store} {u v : User} {email : String}

theorem userByEmail_empty (s : Store) : s.userByEmail "" = .error (.noSuchUser "") := by
  have hnone : (s.users.values.find? fun u => !"".isEmpty && u.hasEmail "") = none :=
    List.find?_eq_none.2 fun _ _ => Bool.false_ne_true
  rw [userByEmail, hnone]

theorem EmailsUnique.eq_of_hasEmail (hunique : s.EmailsUnique) (hs : s.DirectorySound) (hu : u ∈ s.userList)
    (hv : v ∈ s.userList) (hne : email ≠ "") (hue : u.hasEmail email = true) (hve : v.hasEmail email = true) :
    u = v := hs.eq_of_username hu hv (hunique u hu v hv email hne hue hve)

theorem EmailsUnique.userByEmail_iff (hunique : s.EmailsUnique) (hs : s.DirectorySound) (hne : email ≠ "") :
    s.userByEmail email = .ok u ↔ u ∈ s.userList ∧ u.hasEmail email = true := by
  refine ⟨userByEmail_ok, fun ⟨hu, hue⟩ => ?_⟩
  cases hfound : s.userByEmail email with
  | ok v =>
    obtain ⟨hv, hve⟩ := userByEmail_ok hfound
    rw [hunique.eq_of_hasEmail hs hu hv hne hue hve]
  | error e =>
    unfold userByEmail at hfound
    split at hfound
    · cases hfound
    · rename_i hnone
      have hnot := List.find?_eq_none.1 hnone u hu
      simp [hne, hue] at hnot

theorem EmailsUnique.pairwise (hunique : s.EmailsUnique) (hs : s.DirectorySound) :
    s.userList.Pairwise fun u v => ∀ a b, u.email = some a → v.email = some b → a ≠ "" →
      Text.sameLetters a b = false := by
  refine hs.usersIncreasing.imp_of_mem fun {u v} hu hv hlt a b ha hb hne => ?_
  rw [Bool.eq_false_iff]
  intro hsame
  have hue : u.hasEmail a = true := by simp [User.hasEmail, ha, Text.sameLetters]
  have hve : v.hasEmail a = true := by
    rw [Text.sameLetters, beq_iff_eq] at hsame
    simp [User.hasEmail, hb, Text.sameLetters, hsame]
  exact String.ne_of_lt hlt (hunique u hu v hv a hne hue hve)

theorem filled_of_userByEmail (h : s.userByEmail email = .ok u) : ∃ own, u.email = some own ∧ own ≠ "" := by
  have hne : email ≠ "" := by
    rintro rfl
    rw [userByEmail_empty] at h
    cases h
  obtain ⟨-, hue⟩ := userByEmail_ok h
  obtain ⟨own, hown, hfilled, -⟩ := User.exists_email_of_shared hue hue hne
  exact ⟨own, hown, hfilled⟩

end Store

namespace Workplace

open Store (perform)

/-- Whatever is done to users, by calls and by attempts to bootstrap and to provision, in any order: no two users have
e-mails that differ only in the case of letters; looking for an e-mail finds the user who has it, who is the only one,
or says that there is none; and a user without an e-mail, or with an empty one, is never found. -/
theorem email_names_one_user (engine : Regex.Engine) (acts : List Act) :
    let s := (after acts (new engine)).data.store
    (s.userList.Pairwise fun u v => ∀ a b, u.email = some a → v.email = some b → a ≠ "" →
      Text.sameLetters a b = false) ∧
    (∀ email, email ≠ "" → ∀ u, (perform (.userGetByEmail email) s).1 = .ok u ↔
      u ∈ s.userList ∧ u.hasEmail email = true) ∧
    (∀ email, email ≠ "" → ∀ u ∈ s.userList, ∀ v ∈ s.userList, u.hasEmail email = true →
      v.hasEmail email = true → u = v) ∧
    (∀ email, (∀ u, (perform (.userGetByEmail email) s).1 ≠ .ok u) →
      (perform (.userGetByEmail email) s).1 = .error (.noSuchUser email)) ∧
    ∀ email u, (perform (.userGetByEmail email) s).1 = .ok u → ∃ own, u.email = some own ∧ own ≠ "" := by
  intro s
  have hreachable : s.Reachable := reachable_after engine acts
  have hs := hreachable.directorySound
  have hunique := hreachable.emailsUnique
  refine ⟨hunique.pairwise hs, fun email hne u => hunique.userByEmail_iff hs hne, ?_, ?_, ?_⟩
  · intro email hne u hu v hv
    exact hunique.eq_of_hasEmail hs hu hv hne
  · intro email hnobody
    change ∀ u, s.userByEmail email ≠ .ok u at hnobody
    change s.userByEmail email = .error (.noSuchUser email)
    unfold Store.userByEmail at hnobody ⊢
    split at hnobody
    · exact absurd rfl (hnobody _)
    · rfl
  · intro email u h
    exact Store.filled_of_userByEmail h

end Workplace

end ChatRouter
