import ChatRouter.Proofs.Store.History

set_option autoImplicit false

namespace ChatRouter.Store

open Edit

variable {s t : Store}

theorem beginRequest_ok {r r' : Request} : (beginRequest r).run s = (.ok r', t) ↔
    r.id = 0 ∧ { r with id := s.lastRequest + 1 } = r' ∧
      { s with
        requests := s.requests.insert (s.lastRequest + 1) ⟨r', none, none, false⟩
        lastRequest := s.lastRequest + 1 } = t := by
  have hask : ∀ {f : Int → Edit Request},
      (ask (fun s => .ok (s.lastRequest + 1)) >>= f).run s = (f (s.lastRequest + 1)).run s := fun {f} => rfl
  rw [beginRequest, hask, run_check_bind_ok]
  unfold Request.assign
  by_cases h : r.id = 0
  · simp only [h, ne_eq, not_true_eq_false, if_false, Except.ok.injEq, true_and]
    constructor
    · rintro ⟨_, rfl, h⟩
      cases h
      exact ⟨rfl, rfl⟩
    · rintro ⟨rfl, rfl⟩
      exact ⟨_, rfl, rfl⟩
  · simp [h]

theorem closeRequest_ok {id status : Int} {error : Option String} :
    (closeRequest id status error).run s = (.ok (), t) ↔
      ∃ record, s.requests.get? id = some record ∧
        { s with
          requests := s.requests.insert id
            { record with status := some status, error, closed := true } } = t := by
  rw [closeRequest, run_ask_bind_ok]
  refine exists_congr fun record => and_congr ?_ (by simp)
  unfold request
  split <;> simp_all

structure LedgerSound (s : Store) : Prop where
  counted : 0 ≤ s.lastRequest
  recorded : ∀ id record, s.requests.get? id = some record →
    0 < id ∧ id ≤ s.lastRequest ∧ record.request.id = id

theorem ledgerSound_new (engine : Regex.Engine) : LedgerSound (new engine) where
  counted := Int.le_refl 0
  recorded _ _ h := by cases h

theorem LedgerSound.step (hs : LedgerSound s) {c : Call} {r : c.Reply} (h : perform c s = (.ok r, t)) :
    LedgerSound t := by
  by_cases hp : c.part? = some .ledger
  · obtain ⟨hcount, hrec⟩ := hs
    cases c with
    | requestBegin q =>
      obtain ⟨-, rfl, rfl⟩ := beginRequest_ok.1 h
      refine ⟨?_, fun id record hid => ?_⟩
      · change 0 ≤ s.lastRequest + 1
        omega
      · change 0 < id ∧ id ≤ s.lastRequest + 1 ∧ _
        rw [SortedMap.get?_insert_ite] at hid
        split at hid
        · cases hid
          subst id
          exact ⟨by omega, by omega, rfl⟩
        · obtain ⟨h₁, h₂, h₃⟩ := hrec id record hid
          exact ⟨h₁, by omega, h₃⟩
    | requestClose id status error =>
      obtain ⟨old, hold, rfl⟩ := closeRequest_ok.1 h
      refine ⟨hcount, fun i record hi => ?_⟩
      rw [SortedMap.get?_insert_ite] at hi
      split at hi
      · cases hi
        subst i
        exact hrec id old hold
      · exact hrec i record hi
    | _ => cases hp
  · obtain ⟨hr, hl⟩ := perform_ledger hp s
    rw [h] at hr hl
    exact ⟨hl ▸ hs.counted, fun id record hid => hl ▸ hs.recorded id record (hr ▸ hid)⟩

theorem Reachable.ledgerSound (h : Reachable s) : LedgerSound s :=
  h.induction ledgerSound_new fun _ _ _ _ _ hs hp => hs.step hp

/-- The request is on record under its number. -/
def Records (s : Store) (r : Request) : Prop :=
  ∃ record, s.requests.get? r.id = some record ∧ record.request = r

theorem Records.number_le {r : Request} (h : s.Records r) (hs : LedgerSound s) : r.id ≤ s.lastRequest := by
  obtain ⟨record, hrec, -⟩ := h
  exact (hs.recorded r.id record hrec).2.1

theorem Records.step {q : Request} (h : s.Records q) (hs : LedgerSound s) {c : Call} {r : c.Reply}
    (hc : perform c s = (.ok r, t)) : t.Records q := by
  obtain ⟨record, hrec, hq⟩ := h
  have hnumber := (hs.recorded q.id record hrec).2.1
  by_cases hp : c.part? = some .ledger
  · cases c with
    | requestBegin x =>
      obtain ⟨-, -, rfl⟩ := beginRequest_ok.1 hc
      refine ⟨record, ?_, hq⟩
      rw [SortedMap.get?_insert_ite, if_neg (by omega)]
      exact hrec
    | requestClose id status error =>
      obtain ⟨old, hold, rfl⟩ := closeRequest_ok.1 hc
      by_cases hid : q.id = id
      · subst hid
        rw [hrec] at hold
        cases hold
        refine ⟨{ record with status := some status, error, closed := true }, ?_, hq⟩
        rw [SortedMap.get?_insert_ite, if_pos rfl]
      · refine ⟨record, ?_, hq⟩
        rw [SortedMap.get?_insert_ite, if_neg hid]
        exact hrec
    | _ => cases hp
  · obtain ⟨hr, -⟩ := perform_ledger hp s
    rw [hc] at hr
    exact ⟨record, hr ▸ hrec, hq⟩

theorem Records.perform {q : Request} (h : s.Records q) (hs : LedgerSound s) (c : Call) :
    (perform c s).2.Records q := perform_induction h fun _ _ hc => h.step hs hc

end ChatRouter.Store
