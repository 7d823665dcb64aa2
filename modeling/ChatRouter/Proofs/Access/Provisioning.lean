import ChatRouter.Access.Provisioning
import ChatRouter.Proofs.Resolution

set_option autoImplicit false

namespace ChatRouter

open Script (Leads Asks)

/-- The user has the identity's e-mail, up to case, or the adapter's mapping to the identity. -/
def Identity.Matches (who : Identity) (adapter : String) (user : User) : Prop :=
  (∃ email, filled? who.email = some email ∧ user.hasEmail email = true) ∨
    user.isMapped adapter who.id = true

theorem Call.leads_ask_bind {ε β : Type} {log : CallLog} {c : Call}
    {f : c.Answer → ExceptT ε (Script Call Call.Answer) β} {r : Except ε β} :
    Leads ((liftM c.ask : ExceptT ε (Script Call Call.Answer) c.Answer) >>= f).run log (.done r) ↔
      ∃ a rest, log = ⟨c, a⟩ :: rest ∧ Leads (f a).run rest (.done r) :=
  Script.leads_ask

theorem Call.asks_ask_bind {ε β : Type} {P : Call → Prop} {c : Call}
    {f : c.Answer → ExceptT ε (Script Call Call.Answer) β} (h : P c) (hf : ∀ a, Asks P (f a).run) :
    Asks P ((liftM c.ask : ExceptT ε (Script Call Call.Answer) c.Answer) >>= f).run := ⟨h, hf⟩

namespace Store

variable {s t : Store}

theorem userByEmail_ok {email : String} {u : User} (h : s.userByEmail email = .ok u) :
    u ∈ s.users.values ∧ u.hasEmail email = true := by
  unfold userByEmail at h
  split at h
  · rename_i found hf
    cases h
    have := List.find?_some hf
    rw [Bool.and_eq_true] at this
    exact ⟨List.mem_of_find?_eq_some hf, this.2⟩
  · cases h

theorem createUser_duplicate {u : User} {email : String}
    (h : ((createUser u).run s).1 = .error (.duplicateEmail email)) : u.email = some email := by
  rcases Edit.run_check_bind_error.1 h with h | ⟨_, -, h⟩
  · split at h <;> cases h
  rcases Edit.run_ask_bind_error.1 h with h | ⟨_, -, h⟩
  · split at h <;> cases h
  rcases Edit.run_ask_bind_error.1 h with h | ⟨_, -, h⟩
  · unfold requireEmailFree at h
    split at h
    · rename_i own he
      split at h <;> cases h
      exact he
    · cases h
  · cases h

end Store

/-- By the contract of a store, a creation fails for a taken e-mail only if that is the e-mail of the user. -/
def CallLog.KeepsContract (log : CallLog) : Prop :=
  ∀ user email, ⟨.userCreate user, .error (.duplicateEmail email)⟩ ∈ log → user.email = some email

def CallLog.keepsContract (log : CallLog) : Bool :=
  log.all fun
    | ⟨.userCreate user, .error (.duplicateEmail email)⟩ => user.email == some email
    | _ => true

instance (log : CallLog) : Decidable log.KeepsContract := by
  refine decidable_of_iff (log.keepsContract = true) ⟨fun h user email hmem => ?_, fun h => ?_⟩
  · simpa using List.all_eq_true.1 h _ hmem
  · refine List.all_eq_true.2 fun x hx => ?_
    split
    · rename_i user email
      simp [h user email hx]
    · rfl

theorem CallLog.KeepsContract.append {log log' : CallLog} (h : log.KeepsContract) (h' : log'.KeepsContract) :
    (log ++ log').KeepsContract := by
  intro user email hmem
  rcases List.mem_append.1 hmem with hmem | hmem
  · exact h user email hmem
  · exact h' user email hmem

/-- A failure that says nothing of e-mails that are taken. -/
def Genuine (kind : String) (e : DataError) : Prop := kind = "user_create" → ∀ email, e ≠ .duplicateEmail email

theorem Chronicle.keepsContract {around : Surroundings} {s t : Store} {log : CallLog}
    (h : Chronicle around s log t) (hf : ∀ kind e, around.fails kind e → Genuine kind e) :
    log.KeepsContract := by
  induction h with
  | rest _ => exact fun _ _ hmem => nomatch hmem
  | call _ ha _ ih =>
    intro user email hmem
    rcases List.mem_cons.1 hmem with he | hmem
    · cases he
      rcases ha with ha | ⟨-, e, hfail, he⟩
      · exact Store.createUser_duplicate (congrArg Prod.fst ha)
      · cases he
        exact absurd rfl (hf _ _ hfail rfl email)
    · exact ih user email hmem

namespace Store

variable {s t : Store}

theorem DirectorySound.get?_username (hs : s.DirectorySound) {u : User} (h : u ∈ s.users.values) :
    s.users.get? u.username = some u := by
  obtain ⟨n, hn⟩ := (SortedMap.mem_values_iff _ _).1 h
  rwa [hs.usernames n u hn]

end Store

namespace Provisioning

variable {log : CallLog} {adapter : String} {who : Identity} {user : User}

/-- The log has an answer by which the identity was found to be the user. -/
def Finds (log : CallLog) (adapter : String) (who : Identity) (user : User) : Prop :=
  (∃ email, filled? who.email = some email ∧ ⟨.userGetByEmail email, .ok user⟩ ∈ log) ∨
    ∃ users, (⟨.userList, .ok users⟩ : Exchange ..) ∈ log ∧
      users.find? (·.isMapped adapter who.id) = some user

theorem leads_findMapped {found : Option User}
    (h : Leads (findMapped adapter who).run log (.done (.ok found))) :
    ∃ users, log = [⟨.userList, .ok users⟩] ∧ users.find? (·.isMapped adapter who.id) = found := by
  obtain ⟨first, users, rest, rfl, hc, hr⟩ := Script.leads_except_bind_ok.1 h
  obtain rfl := Call.leads_adapt_ok.1 hc
  obtain ⟨rfl, hf⟩ := (Script.leads_pure ..).1 hr
  exact ⟨users, rfl, Except.ok.inj hf⟩

theorem leads_findExisting (h : Leads (findExisting adapter who).run log (.done (.ok (some user)))) :
    Finds log adapter who user := by
  have mapped {log : CallLog} (h : Leads (findMapped adapter who).run log (.done (.ok (some user)))) :
      ∃ users, (⟨.userList, .ok users⟩ : Exchange ..) ∈ log ∧
        users.find? (·.isMapped adapter who.id) = some user := by
    obtain ⟨users, rfl, hf⟩ := leads_findMapped h
    exact ⟨users, by simp, hf⟩
  unfold findExisting at h
  split at h
  · exact .inr (mapped h)
  · rename_i email he
    obtain ⟨a, rest, rfl, hr⟩ := Call.leads_ask_bind.1 h
    split at hr
    · obtain ⟨-, hu⟩ := (Script.leads_pure ..).1 hr
      cases hu
      exact .inl ⟨email, he, by simp⟩
    · obtain ⟨users, hl, hf⟩ := mapped hr
      exact .inr ⟨users, by simp [hl], hf⟩
    · cases ((Script.leads_pure ..).1 hr).2

theorem asks_findMapped (adapter : String) (who : Identity) :
    Asks (fun c => c.part? = none) (findMapped adapter who).run :=
  Asks.except_bind (Call.asks_adapt rfl) fun _ => Script.asks_pure _

theorem asks_findExisting (adapter : String) (who : Identity) :
    Asks (fun c => c.part? = none) (findExisting adapter who).run := by
  unfold findExisting
  split
  · exact asks_findMapped adapter who
  · refine Call.asks_ask_bind rfl fun a => ?_
    split
    · exact Script.asks_pure _
    · exact asks_findMapped adapter who
    · exact Script.asks_pure _

theorem resolveOrCreate_eq (allow : Bool) (hash : PasswordHash) (adapter : String) (who : Identity) :
    resolveOrCreate allow hash adapter who = findExisting adapter who >>= fun found =>
      match found with
      | some user => return (user, false)
      | none =>
        if allow then Bootstrap.isBootstrapped >>= fun bootstrapped =>
          if bootstrapped then register (newUser adapter who hash) else throw .notBootstrapped
        else throw .selfRegistrationOff := by
  unfold resolveOrCreate
  refine congrArg (findExisting adapter who >>= ·) (funext fun found => ?_)
  cases found with
  | some user => rfl
  | none =>
    cases allow with
    | false => rfl
    | true =>
      refine congrArg (Bootstrap.isBootstrapped >>= ·) (funext fun bootstrapped => ?_)
      cases bootstrapped <;> rfl

theorem leads_register {u : User} {created : Bool}
    (h : Leads (register u).run log (.done (.ok (user, created)))) :
    created = true ∧ user = u ∧ log = [⟨.userCreate user, .ok ()⟩] ∨
      created = false ∧ ∃ email,
        log = [⟨.userCreate u, .error (.duplicateEmail email)⟩, ⟨.userGetByEmail email, .ok user⟩] := by
  obtain ⟨a, rest, rfl, hr⟩ := Call.leads_ask_bind.1 h
  split at hr
  · obtain ⟨rfl, hu⟩ := (Script.leads_pure ..).1 hr
    cases hu
    exact .inl ⟨rfl, rfl, rfl⟩
  · rename_i email
    obtain ⟨first, winner, rest, rfl, hc, hw⟩ := Script.leads_except_bind_ok.1 hr
    obtain rfl := Call.leads_adapt_ok.1 hc
    obtain ⟨rfl, hu⟩ := (Script.leads_pure ..).1 hw
    cases hu
    exact .inr ⟨rfl, email, rfl⟩
  · cases ((Script.leads_pure ..).1 hr).2

/-- The three ways to a user: it was found, it has been created, or it has taken the e-mail just before
it could be created. -/
theorem leads_resolveOrCreate {allow created : Bool} {hash : PasswordHash}
    (h : Leads (resolveOrCreate allow hash adapter who).run log (.done (.ok (user, created)))) :
    (created = false ∧ Finds log adapter who user ∧ ∀ x ∈ log, x.1.part? = none) ∨
      ∃ first rest, log = first ++ rest ∧ (∀ x ∈ first, x.1.part? = none) ∧ allow = true ∧
        ⟨.userExists adminUser, .ok true⟩ ∈ first ∧
        (created = true ∧ user = newUser adapter who hash ∧ rest = [⟨.userCreate user, .ok ()⟩] ∨
          created = false ∧ ∃ email,
            rest = [⟨.userCreate (newUser adapter who hash), .error (.duplicateEmail email)⟩,
              ⟨.userGetByEmail email, .ok user⟩]) := by
  rw [resolveOrCreate_eq] at h
  obtain ⟨looked, found, rest, rfl, hf, hr⟩ := Script.leads_except_bind_ok.1 h
  have hreads := (Asks.of_leads hf (asks_findExisting adapter who)).2
  cases found with
  | some u =>
    obtain ⟨rfl, hu⟩ := (Script.leads_pure ..).1 hr
    cases hu
    rw [List.append_nil]
    exact .inl ⟨rfl, leads_findExisting hf, hreads⟩
  | none =>
    cases allow with
    | false => cases ((Script.leads_pure ..).1 hr).2
    | true =>
      obtain ⟨asked, bootstrapped, rest, rfl, hb, hreg⟩ := Script.leads_except_bind_ok.1 hr
      obtain rfl := Call.leads_adapt_ok.1 hb
      cases bootstrapped with
      | false => cases ((Script.leads_pure ..).1 hreg).2
      | true =>
        refine .inr ⟨looked ++ [⟨.userExists adminUser, .ok true⟩], rest, by simp, ?_, rfl, by simp, ?_⟩
        · intro x hx
          rcases List.mem_append.1 hx with hx | hx
          · exact hreads x hx
          · rw [List.mem_singleton.1 hx]
            rfl
        · exact leads_register hreg

theorem asks_resolveOrCreate (allow : Bool) (hash : PasswordHash) (adapter : String) (who : Identity) :
    Asks (fun c => c.part? = none ∨ ∃ u, c = .userCreate u)
      (resolveOrCreate allow hash adapter who).run := by
  rw [resolveOrCreate_eq]
  refine Asks.except_bind ((asks_findExisting adapter who).mono fun _ => .inl) fun found => ?_
  split
  · exact Script.asks_pure _
  · split
    · refine Asks.except_bind (Call.asks_adapt (.inl rfl)) fun bootstrapped => ?_
      split
      · refine Call.asks_ask_bind (.inr ⟨_, rfl⟩) fun a => ?_
        split
        · exact Script.asks_pure _
        · exact Asks.except_bind (Call.asks_adapt (.inl rfl)) fun _ => Script.asks_pure _
        · exact Script.asks_pure _
      · exact Script.asks_pure _
    · exact Script.asks_pure _

variable {s t : Store}

theorem matches_of_finds (hs : s.DirectorySound) (hl : Chronicle .routing s log t)
    (hr : ∀ x ∈ log, x.1.part? = none) (h : Finds log adapter who user) :
    who.Matches adapter user ∧ s.users.get? user.username = some user := by
  rcases h with ⟨email, he, hmem⟩ | ⟨users, hmem, hf⟩
  · obtain ⟨u, hu, hg⟩ := hl.exists_of_read hr hmem
    obtain ⟨hv, hemail⟩ := Store.userByEmail_ok hg
    rw [hu.users] at hv
    exact ⟨.inl ⟨email, he, hemail⟩, hs.get?_username hv⟩
  · obtain ⟨u, hu, hg⟩ := hl.exists_of_read hr hmem
    have hv : users = u.users.values := (Except.ok.inj hg).symm
    have hin := List.mem_of_find?_eq_some hf
    rw [hv, hu.users] at hin
    have hmapped : user.isMapped adapter who.id = true := by simpa using List.find?_some hf
    exact ⟨.inr hmapped, hs.get?_username hin⟩

/-- The user is there, and the identity matches it if the store keeps its contract; or it was created from the
identity, which takes self-registration and an administrator. -/
theorem resolveOrCreate_sound {allow created : Bool} {hash : PasswordHash} (hs : s.DirectorySound)
    (hl : Chronicle .routing s log t)
    (h : Leads (resolveOrCreate allow hash adapter who).run log (.done (.ok (user, created)))) :
    (created = false ∧ s.users.get? user.username = some user ∧ s.Alike t ∧
        (log.KeepsContract → who.Matches adapter user)) ∨
      created = true ∧ allow = true ∧ s.userExists adminUser = true ∧ s.userExists user.username = false ∧
        user.username ≠ "" ∧ ⟨.userCreate user, .ok ()⟩ ∈ log ∧ (s.putUser user).Alike t := by
  rcases leads_resolveOrCreate h with ⟨hold, hf, hr⟩ | ⟨first, rest, rfl, hr, hallow, hadmin, hrest⟩
  · obtain ⟨hm, hu⟩ := matches_of_finds hs hl hr hf
    exact .inl ⟨hold, hu, hl.drifts_of_reads hr, fun _ => hm⟩
  · obtain ⟨u, hfirst, hl⟩ := Chronicle.append_iff.1 hl
    have hu : s.Alike u := hfirst.drifts_of_reads hr
    have hexists : s.userExists adminUser = true := by
      obtain ⟨w, hw, hc⟩ := hfirst.exists_of_read hr hadmin
      have hc : w.users.contains adminUser = true := Except.ok.inj hc
      rwa [hw.users] at hc
    rcases hrest with ⟨hnew, rfl, rfl⟩ | ⟨hold, email, rfl⟩
    · obtain ⟨w, v, hw, ha, hl⟩ := Chronicle.cons_iff.1 hl
      obtain ⟨hblank, hfree, -, rfl⟩ := Store.createUser_ok.1 ha.perform_eq
      have hw := hu.trans hw
      rw [hw.users] at hfree
      exact .inr ⟨hnew, hallow, hexists, hfree, Store.ne_empty_of_not_blank hblank, by simp,
        (hw.putUser _).trans (Chronicle.nil_iff.1 hl)⟩
    · -- The user is there by whichever e-mail the creation has failed for; the contract says that it is the identity's.
      obtain ⟨w, v, hw, ha, hl⟩ := Chronicle.cons_iff.1 hl
      obtain rfl := ha.eq_of_error
      have hl := hl.after_drift (hu.trans hw)
      have hr : ∀ x ∈ ([⟨.userGetByEmail email, .ok user⟩] : CallLog), x.1.part? = none := by simp [Call.part?]
      obtain ⟨x, hx, hget⟩ := hl.exists_of_read hr (List.mem_singleton_self _)
      obtain ⟨hin, hshared⟩ := Store.userByEmail_ok hget
      rw [hx.users] at hin
      refine .inl ⟨hold, hs.get?_username hin, hl.drifts_of_reads hr, fun hkeeps => .inl ⟨email, ?_, hshared⟩⟩
      exact hkeeps (newUser adapter who hash) email (by simp)

end Provisioning

end ChatRouter
