import ChatRouter.Proofs.Store.Ledger

set_option autoImplicit false

namespace ChatRouter

def Call.begun? : Call → Option Request
  | requestBegin r => some r
  | _ => none

def Call.outcome? (id : Int) : Call → Option (Int × Option String)
  | requestClose i status error => if i = id then some (status, error) else none
  | _ => none

def Record.ending (r : Request) : Option (Int × Option String) → Record
  | none => ⟨r, none, none, false⟩
  | some (status, error) => ⟨r, some status, error, true⟩

theorem Record.request_ending (r : Request) (o : Option (Int × Option String)) :
    (Record.ending r o).request = r := by
  cases o <;> rfl

namespace Store

variable {s t : Store} {log : List Call} {c : Call} {id : Int}

def begun (log : List Call) : List Request := log.filterMap Call.begun?

def lastOutcome? (log : List Call) (id : Int) : Option (Int × Option String) :=
  (log.filterMap (Call.outcome? id)).getLast?

/-- What the log says of the record under a number. -/
def recordAt? (log : List Call) (id : Int) : Option Record :=
  if 0 < id then
    (begun log)[(id - 1).toNat]?.map fun r => Record.ending { r with id } (lastOutcome? log id)
  else none

theorem begun_append (log more : List Call) : begun (log ++ more) = begun log ++ begun more :=
  List.filterMap_append

theorem lastOutcome?_append (log more : List Call) (id : Int) :
    lastOutcome? (log ++ more) id = (lastOutcome? more id).or (lastOutcome? log id) := by
  rw [lastOutcome?, List.filterMap_append, List.getLast?_append]
  rfl

theorem begun_concat (log : List Call) (c : Call) : begun (log ++ [c]) = begun log ++ c.begun?.toList := by
  rw [begun_append]
  cases c <;> rfl

theorem lastOutcome?_concat (log : List Call) (c : Call) (id : Int) :
    lastOutcome? (log ++ [c]) id = (c.outcome? id).or (lastOutcome? log id) := by
  rw [lastOutcome?_append]
  congr 1
  cases h : c.outcome? id <;> simp [lastOutcome?, h]

theorem recordAt?_eq_some_iff {record : Record} : recordAt? log id = some record ↔
    ∃ (k : Nat) (r : Request), id = k + 1 ∧ (begun log)[k]? = some r ∧
      Record.ending { r with id } (lastOutcome? log id) = record := by
  unfold recordAt?
  split
  · rename_i hpos
    rw [Option.map_eq_some_iff]
    constructor
    · rintro ⟨r, hr, rfl⟩
      exact ⟨(id - 1).toNat, r, by omega, hr, rfl⟩
    · rintro ⟨k, r, hid, hr, rfl⟩
      have hk : (id - 1).toNat = k := by omega
      exact ⟨r, hk ▸ hr, rfl⟩
  · simp only [false_iff, reduceCtorEq]
    rintro ⟨k, r, hid, -, -⟩
    omega

theorem recordAt?_isSome : (recordAt? log id).isSome = true ↔ 1 ≤ id ∧ id ≤ (begun log).length := by
  unfold recordAt?
  split
  · simp only [Option.isSome_map, isSome_getElem?]
    omega
  · simp only [Option.isSome_none, Bool.false_eq_true, false_iff]
    omega

theorem begun_idle (hc : c.part? ≠ some .ledger) : begun (log ++ [c]) = begun log := by
  rw [begun_concat]
  cases c with
  | requestBegin => exact absurd rfl hc
  | _ => exact List.append_nil _

theorem lastOutcome?_other (hc : c.outcome? id = none) : lastOutcome? (log ++ [c]) id = lastOutcome? log id := by
  rw [lastOutcome?_concat, hc, Option.none_or]

theorem outcome?_idle (hc : c.part? ≠ some .ledger) : c.outcome? id = none := by
  cases c with
  | requestClose => exact absurd rfl hc
  | _ => rfl

theorem recordAt?_begin (q : Request) : recordAt? (log ++ [.requestBegin q]) id =
    if id = (begun log).length + 1 then some (Record.ending { q with id } (lastOutcome? log id))
    else recordAt? log id := by
  have hbegun : begun (log ++ [.requestBegin q]) = begun log ++ [q] := begun_concat log _
  have hlast : lastOutcome? (log ++ [.requestBegin q]) id = lastOutcome? log id := lastOutcome?_other rfl
  unfold recordAt?
  rw [hbegun, hlast]
  by_cases hid : id = (begun log).length + 1
  · subst hid
    have hpos : (0 : Int) < (begun log).length + 1 := by omega
    rw [if_pos hpos, if_pos rfl]
    simp
  · rw [if_neg hid]
    split
    · congr 1
      rcases Nat.lt_or_ge (id - 1).toNat (begun log).length with h | h
      · exact List.getElem?_append_left h
      · rw [List.getElem?_eq_none h, List.getElem?_eq_none]
        rw [List.length_append, List.length_singleton]
        omega
    · rfl

theorem recordAt?_close (i status : Int) (error : Option String) :
    recordAt? (log ++ [.requestClose i status error]) id =
      if id = i then (recordAt? log id).map fun record => Record.ending record.request (some (status, error))
      else recordAt? log id := by
  have hbegun : begun (log ++ [.requestClose i status error]) = begun log := by
    rw [begun_concat]
    exact List.append_nil _
  have hlast := lastOutcome?_concat log (.requestClose i status error) id
  unfold recordAt?
  rw [hbegun, hlast]
  by_cases hid : id = i
  · subst hid
    simp only [Call.outcome?, if_true, Option.some_or]
    split
    · rw [Option.map_map]
      congr 1
      funext r
      exact congrArg (Record.ending · _) (Record.request_ending _ _).symm
    · rfl
  · simp only [Call.outcome?, if_neg (Ne.symm hid), Option.none_or, if_neg hid]

theorem recordAt?_idle (hc : c.part? ≠ some .ledger) : recordAt? (log ++ [c]) id = recordAt? log id := by
  rw [recordAt?, begun_idle hc, lastOutcome?_other (outcome?_idle hc), recordAt?]

/-- The ledger is what the log says of it, and nothing was closed before it was begun. -/
structure Trail (log : List Call) (s : Store) : Prop where
  counted : s.lastRequest = (begun log).length
  recorded : ∀ id, s.requests.get? id = recordAt? log id
  unclosed : ∀ id, s.requests.get? id = none → lastOutcome? log id = none

theorem Trail.begins (h : Trail log s) {q r : Request} (hc : perform (.requestBegin q) s = (.ok r, t)) :
    Trail (log ++ [.requestBegin q]) t := by
  obtain ⟨-, rfl, rfl⟩ := beginRequest_ok.1 hc
  -- A closing of the new number would have been refused so far, so its record begins without an outcome.
  have hnew : s.requests.get? (s.lastRequest + 1) = none := by
    rw [h.recorded, ← Option.not_isSome_iff_eq_none, recordAt?_isSome, h.counted]
    omega
  refine ⟨?_, fun id => ?_, fun id hid => ?_⟩
  · rw [begun_concat]
    simp [Call.begun?, h.counted]
  · rw [SortedMap.get?_insert_ite, recordAt?_begin, ← h.counted, ← h.recorded]
    split
    · rename_i hid
      subst hid
      rw [h.unclosed _ hnew, Record.ending]
    · rfl
  · rw [lastOutcome?_other rfl]
    rw [SortedMap.get?_insert_ite] at hid
    split at hid
    · cases hid
    · exact h.unclosed id hid

theorem Trail.closes (h : Trail log s) {i status : Int} {error : Option String} {r : Unit}
    (hc : perform (.requestClose i status error) s = (.ok r, t)) :
    Trail (log ++ [.requestClose i status error]) t := by
  obtain ⟨record, hrecord, rfl⟩ := closeRequest_ok.1 hc
  refine ⟨?_, fun id => ?_, fun id hid => ?_⟩
  · rw [begun_concat]
    exact h.counted.trans (by simp [Call.begun?])
  · rw [SortedMap.get?_insert_ite, recordAt?_close, ← h.recorded]
    split
    · rename_i hid
      rw [hid, hrecord]
      rfl
    · rfl
  · rw [SortedMap.get?_insert_ite] at hid
    split at hid
    · cases hid
    · rename_i hne
      rw [lastOutcome?_other (c := .requestClose i status error) (if_neg (Ne.symm hne))]
      exact h.unclosed id hid

theorem Trail.step (h : Trail log s) {r : c.Reply} (hc : perform c s = (.ok r, t)) : Trail (log ++ [c]) t := by
  by_cases hp : c.part? = some .ledger
  · cases c with
    | requestBegin q => exact h.begins hc
    | requestClose i status error => exact h.closes hc
    | _ => cases hp
  · obtain ⟨hrequests, hcount⟩ := perform_ledger hp s
    rw [hc] at hrequests hcount
    refine ⟨?_, fun id => ?_, fun id hid => ?_⟩
    · rw [hcount, h.counted, begun_idle hp]
    · rw [hrequests, recordAt?_idle hp, h.recorded]
    · rw [lastOutcome?_other (outcome?_idle hp)]
      exact h.unclosed id (hrequests ▸ hid)

theorem trail_new (engine : Regex.Engine) : Trail [] (new engine) :=
  ⟨rfl, fun id => by simp [recordAt?, begun, new], fun _ _ => rfl⟩

theorem trail_after (engine : Regex.Engine) (calls : List Call) :
    Trail (successes calls (new engine)) (after calls (new engine)) :=
  successes_induction (trail_new engine) (fun _ _ _ _ _ _ h hc => h.step hc) calls

theorem beginRequest_fresh {q : Request} (h : q.id = 0) (s : Store) :
    (perform (.requestBegin q) s).1 = .ok { q with id := s.lastRequest + 1 } := by
  have hok := (beginRequest_ok (s := s)).2 ⟨h, rfl, rfl⟩
  exact congrArg Prod.fst hok

theorem beginRequest_numbered {q : Request} (h : q.id ≠ 0) (s : Store) :
    perform (.requestBegin q) s = (.error (.requestAlreadyBegun q.id), s) := by
  have hassign : q.assign (s.lastRequest + 1) = .error (.requestAlreadyBegun q.id) := if_pos h
  simp [perform, editFor, beginRequest, Edit.run_bind, hassign]

theorem closeRequest_answer (id status : Int) (error : Option String) (s : Store) :
    (perform (.requestClose id status error) s).1 =
      if (s.requests.get? id).isSome then .ok () else .error (.noSuchRequest id) := by
  cases h : s.requests.get? id with
  | none => simp [perform, editFor, closeRequest, Edit.run_bind, request, h]
  | some record => simp [perform, editFor, closeRequest, Edit.run_bind, request, h]

theorem requestGet_ok {record : Record} :
    (perform (.requestGet id) s).1 = .ok record ↔ s.requests.get? id = some record := by
  change s.request id = .ok record ↔ _
  unfold request
  split <;> simp_all

theorem recordAt?_more {record : Record} (h : recordAt? log id = some record) (more : List Call) :
    ∃ later, recordAt? (log ++ more) id = some later ∧ later.request = record.request ∧
      ((∀ c ∈ more, c.outcome? id = none) → later = record) := by
  obtain ⟨k, r, hid, hr, rfl⟩ := recordAt?_eq_some_iff.1 h
  have hstill : (begun (log ++ more))[k]? = some r := by
    rw [begun_append, List.getElem?_append_left, hr]
    exact (List.getElem?_eq_some_iff.1 hr).1
  refine ⟨_, recordAt?_eq_some_iff.2 ⟨k, r, hid, hstill, rfl⟩, ?_, fun hmore => ?_⟩
  · rw [Record.request_ending, Record.request_ending]
  · have hnone : lastOutcome? more id = none := by
      rw [lastOutcome?, List.filterMap_eq_nil_iff.2 hmore]
      rfl
    rw [lastOutcome?_append, hnone, Option.none_or]

/-- Numbers are assigned once and records are never rewritten. After any calls, `n` of which have begun a request:
the next request that has no number gets `n + 1`, and one that has a number is refused and uses up none; the numbers
on record, and so those that can be closed, are `1` to `n`; the record under `k` holds the `k`-th request with number
`k` and the outcome of the last closing of `k`, if there was one; and later calls leave the request there as it is and
the rest too unless they close it. -/
theorem requests_numbered_once_and_kept (engine : Regex.Engine) (calls : List Call) :
    let s := after calls (new engine)
    let log := successes calls (new engine)
    let n := (begun log).length
    (∀ r : Request, r.id = 0 → (perform (.requestBegin r) s).1 = .ok { r with id := n + 1 }) ∧
    (∀ r : Request, r.id ≠ 0 → perform (.requestBegin r) s = (.error (.requestAlreadyBegun r.id), s)) ∧
    (∀ id, s.requests.contains id = true ↔ 1 ≤ id ∧ id ≤ n) ∧
    (∀ id status error, (perform (.requestClose id status error) s).1 =
      if 1 ≤ id ∧ id ≤ n then .ok () else .error (.noSuchRequest id)) ∧
    (∀ (k : Nat) (r : Request), (begun log)[k]? = some r → (perform (.requestGet (k + 1)) s).1 =
      .ok (Record.ending { r with id := k + 1 } (lastOutcome? log (k + 1)))) ∧
    (∀ id record more, (perform (.requestGet id) s).1 = .ok record →
      ∃ later, (perform (.requestGet id) (after more s)).1 = .ok later ∧ later.request = record.request ∧
        ((∀ c ∈ more, c.outcome? id = none) → later = record)) := by
  intro s log n
  have htrail : Trail log s := trail_after engine calls
  have hcontains (id : Int) : (s.requests.get? id).isSome = true ↔ 1 ≤ id ∧ id ≤ n := by
    rw [htrail.recorded, recordAt?_isSome]
  refine ⟨fun r hr => ?_, fun r hr => beginRequest_numbered hr s, hcontains, ?_, ?_, ?_⟩
  · rw [beginRequest_fresh hr, htrail.counted]
  · intro id status error
    rw [closeRequest_answer]
    exact if_congr (hcontains id) rfl rfl
  · intro k r hr
    rw [requestGet_ok, htrail.recorded, recordAt?_eq_some_iff]
    exact ⟨k, r, rfl, hr, rfl⟩
  · intro id record more hrecord
    have hmore : Trail (log ++ successes more s) (after more s) := by
      rw [← successes_append, ← after_append]
      exact trail_after engine (calls ++ more)
    rw [requestGet_ok, htrail.recorded] at hrecord
    obtain ⟨later, hlater, hrequest, hsame⟩ := recordAt?_more hrecord (successes more s)
    refine ⟨later, ?_, hrequest, fun hnone => hsame fun c hc => hnone c (mem_successes hc).1⟩
    rw [requestGet_ok, hmore.recorded, hlater]

end Store

end ChatRouter
