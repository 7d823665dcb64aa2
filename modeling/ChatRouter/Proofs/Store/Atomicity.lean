import ChatRouter.Proofs.Store.Ledger
import ChatRouter.Regex.Parser

set_option autoImplicit false

namespace ChatRouter

theorem Edit.ext {α : Type} {e e' : Edit α} (h : ∀ s, e.run s = e'.run s) : e = e' := funext h

namespace Store

variable {s : Store}

theorem after_successes (calls : List Call) (s : Store) : after (successes calls s) s = after calls s := by
  induction calls generalizing s with
  | nil => rfl
  | cons c calls ih =>
    change after (successes (c :: calls) s) s = after calls (perform c s).2
    rw [← ih, successes]
    cases hp : (perform c s).1 with
    | ok r => rfl
    | error e =>
      rw [perform_refused hp]
      rfl

/-- Moves the old hash out of the store, unless there is a new one, and then replaces the user. -/
def replaceByWrites (u : User) : Edit Unit := do
  let old ← Edit.ask fun s => .ok (s.users.get? u.username)
  if u.passwordHash.isNone then
    Edit.change fun s => { s with users := s.users.modify u.username fun o => { o with passwordHash := none } }
  Edit.change fun s => { s with users := s.users.modify u.username fun _ =>
    { u with passwordHash := u.passwordHash <|> old.bind (·.passwordHash) } }

def updateUserByWrites (u : User) : Edit Unit := do
  Edit.ask fun s => s.requireUser u.username
  Edit.ask fun s => s.requireEmailFree u
  replaceByWrites u

/-- Removes the value before it fails for want of one. -/
def deleteLayeredByWrites (layer bundle owner key : String) : Edit Unit := do
  let slot ← Edit.check (Slot.parse layer bundle owner key)
  let found ← Edit.ask fun s => .ok (s.layered.contains slot)
  Edit.change fun s => { s with layered := s.layered.erase slot }
  Edit.check (if found then .ok () else .error (.noSuchConfiguration slot.path))

def editByWrites : (c : Call) → Edit c.Reply
  | .userUpdate u => updateUserByWrites u
  | .configDelete l b o k => deleteLayeredByWrites l b o k
  | c => editFor c

theorem replaceByWrites_run (u : User) (s : Store) : (replaceByWrites u).run s = (.ok (),
    match s.users.get? u.username with
    | some old => s.putUser { u with passwordHash := u.passwordHash <|> old.passwordHash }
    | none => s) := by
  rw [replaceByWrites, Edit.run_bind, Edit.run_ask]
  cases hnew : u.passwordHash with
  | some hash => cases hold : s.users.get? u.username <;> simp [SortedMap.modify, hold, putUser]
  | none =>
    -- The second write covers the first.
    simp only [Option.isNone_none, if_true, Edit.run_change_bind, Edit.run_change, SortedMap.modify_modify]
    cases hold : s.users.get? u.username <;> simp [SortedMap.modify, hold, putUser]

theorem updateUserByWrites_eq (u : User) : updateUserByWrites u = updateUser u := by
  have hreplace : replaceByWrites u = Edit.change _ := Edit.ext (replaceByWrites_run u)
  rw [updateUserByWrites, hreplace]
  rfl

theorem deleteLayeredByWrites_eq (layer bundle owner key : String) :
    deleteLayeredByWrites layer bundle owner key = deleteLayered layer bundle owner key := by
  apply Edit.ext
  intro s
  rw [deleteLayeredByWrites, deleteLayered, Edit.run_bind, Edit.run_bind, Edit.run_check]
  cases Slot.parse layer bundle owner key with
  | error e => rfl
  | ok slot =>
    simp only [Edit.run_bind, Edit.run_ask, Edit.run_change, Edit.run_check]
    cases hfound : s.layered.contains slot with
    | true => rfl
    | false => simp [SortedMap.erase_of_absent hfound]

theorem editByWrites_eq (c : Call) : editByWrites c = editFor c := by
  cases c with
  | userUpdate u => exact updateUserByWrites_eq u
  | configDelete l b o k => exact deleteLayeredByWrites_eq l b o k
  | _ => rfl

/-- A computation on a request and the store. What it has written into either before it fails stays written. -/
abbrev Beginning (α : Type) : Type := ExceptT DataError (StateM (Request × Store)) α

def refuseBegun : Beginning Unit := do
  let (held, _) ← get
  if held.id ≠ 0 then throw (.requestAlreadyBegun held.id)

def assignHeld (id : Int) : Beginning Unit := do
  refuseBegun
  modify fun (held, s) => ({ held with id }, s)

def beginHeld : Beginning Unit := do
  refuseBegun
  let id := (← get).2.lastRequest + 1
  assignHeld id
  modify fun (held, s) => (held, { s with lastRequest := id })
  modify fun (held, s) => (held, { s with requests := s.requests.insert id ⟨held, none, none, false⟩ })

theorem run_refuseBegun_bind {α : Type} (f : Unit → Beginning α) (r : Request) (s : Store) :
    (refuseBegun >>= f).run.run (r, s) =
      if r.id ≠ 0 then (.error (.requestAlreadyBegun r.id), r, s) else (f ()).run.run (r, s) := by
  change (ExceptT.run ((if r.id ≠ 0 then throw (.requestAlreadyBegun r.id) else pure () : Beginning Unit) >>= f)).run
    (r, s) = _
  by_cases hid : r.id ≠ 0
  · rw [if_pos hid, if_pos hid]
    rfl
  · rw [if_neg hid, if_neg hid]
    rfl

theorem beginHeld_run (r : Request) (s : Store) : beginHeld.run.run (r, s) =
    match perform (.requestBegin r) s with
    | (.ok numbered, t) => (.ok (), numbered, t)
    | (.error e, t) => (.error e, r, t) := by
  rw [beginHeld, run_refuseBegun_bind]
  by_cases hid : r.id ≠ 0
  · have hp : perform (.requestBegin r) s = (.error (.requestAlreadyBegun r.id), s) := by
      simp [perform, editFor, beginRequest, Edit.run_bind, Request.assign, hid]
    rw [hp, if_pos hid]
  · have hp : perform (.requestBegin r) s = (.ok { r with id := s.lastRequest + 1 }, _) :=
      beginRequest_ok.2 ⟨not_not.1 hid, rfl, rfl⟩
    rw [hp, if_neg hid]
    -- The number is checked again before it is written.
    change (assignHeld (s.lastRequest + 1) >>= fun _ => _).run.run (r, s) = _
    rw [assignHeld, bind_assoc, run_refuseBegun_bind, if_neg hid]
    rfl

theorem beginHeld_refused {r held : Request} {t : Store} {e : DataError}
    (h : beginHeld.run.run (r, s) = (.error e, held, t)) : held = r ∧ t = s := by
  rw [beginHeld_run] at h
  cases hp : perform (.requestBegin r) s with
  | mk answer u =>
    rw [hp] at h
    cases answer with
    | ok numbered => cases h
    | error x =>
      cases h
      have hsame : (perform (.requestBegin r) s).2 = s := perform_refused (congrArg Prod.fst hp)
      rw [hp] at hsame
      exact ⟨rfl, hsame⟩

/-- A call that fails leaves the store as it was, whatever it has written before, and so does one that begins a request,
with the request itself. The writes are those of the calls, so a history is the history of its successes. -/
theorem failed_calls_leave_no_trace (s : Store) :
    (∀ c e, ((editByWrites c).run s).1 = .error e → ((editByWrites c).run s).2 = s) ∧
    (∀ r e held t, beginHeld.run.run (r, s) = (.error e, held, t) → held = r ∧ t = s) ∧
    (∀ c, (editByWrites c).run s = perform c s) ∧
    (∀ r, beginHeld.run.run (r, s) =
      match perform (.requestBegin r) s with
      | (.ok numbered, t) => (.ok (), numbered, t)
      | (.error e, t) => (.error e, r, t)) ∧
    ∀ calls, after (successes calls s) s = after calls s := by
  refine ⟨?_, ?_, ?_, fun r => beginHeld_run r s, fun calls => after_successes calls s⟩
  · intro c e h
    rw [editByWrites_eq] at h ⊢
    exact perform_refused h
  · intro r e held t h
    exact beginHeld_refused h
  · intro c
    rw [editByWrites_eq]
    rfl

/-- A bundle and two users, one with an e-mail address and one with a password. -/
def furnished : Store :=
  after [.bundleCreate (.named "ops" "1.0.0"),
    .userCreate { User.named "ann" with email := some "ann@example.org" },
    .userCreate { User.named "bob" with passwordHash := some (.ofText "hash") }] (.new .standard)

def numbered : Request :=
  ⟨⟨.named "ops" "1.0.0", { Command.empty with name := "stop" }⟩, "slack", "C1", [], "U1", "ann", none, 7⟩

/-- The same version in another spelling, an address that is taken, and a value that is not there. -/
def clashes : List Call :=
  [.bundleCreate (.named "ops" "v1"), .userUpdate { User.named "bob" with email := some "Ann@Example.org" },
    .configDelete "bundle" "ops" "" "region"]

theorem clashes_leave_no_trace :
    (∀ c ∈ clashes,
      ((editByWrites c).run furnished).1.isOk = false ∧ ((editByWrites c).run furnished).2 = furnished) ∧
      beginHeld.run.run (numbered, furnished) = (.error (.requestAlreadyBegun 7), numbered, furnished) := by
  obtain ⟨hcalls, hbegin, -⟩ := failed_calls_leave_no_trace furnished
  constructor
  · intro c hc
    have hfails : ((editByWrites c).run furnished).1.isOk = false := by
      revert c hc
      decide +kernel
    cases he : ((editByWrites c).run furnished).1 with
    | ok r =>
      rw [he] at hfails
      cases hfails
    | error e => exact ⟨rfl, hcalls c e he⟩
  · have hfails : (beginHeld.run.run (numbered, furnished)).1 = .error (.requestAlreadyBegun 7) := by decide +kernel
    have hsame := hbegin numbered _ _ _ (Prod.ext hfails rfl)
    exact Prod.ext hfails (Prod.ext hsame.1 hsame.2)

end Store

end ChatRouter
