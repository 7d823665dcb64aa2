import ChatRouter.Proofs.Exchanges
import ChatRouter.Proofs.Store.Directory
import ChatRouter.Proofs.Store.Ledger
import ChatRouter.Store.Access

set_option autoImplicit false

/-!
# Chronicles of store calls

A chronicle says which calls a script has made on a store and what came back, while the surroundings may
change the store between the calls and let calls fail. What a script reads it reads of a store that differs
from its first one only by what the surroundings do.
-/

namespace ChatRouter

abbrev CallLog := List (Exchange Call Call.Answer)

/-- What others do to a store between two calls, and how calls of a kind may fail without reaching it. -/
structure Surroundings where
  drifts : Store → Store → Prop
  fails : String → DataError → Prop
  refl (s : Store) : drifts s s
  trans {s t u : Store} (h : drifts s t) (h' : drifts t u) : drifts s u

def Surroundings.alone : Surroundings where
  drifts := Eq
  fails _ _ := True
  refl _ := rfl
  trans := Eq.trans

namespace Store

/-- Equal but for how the requests on record have ended. -/
structure Alike (s t : Store) : Prop where
  bundles : t.bundles = s.bundles
  users : t.users = s.users
  groups : t.groups = s.groups
  roles : t.roles = s.roles
  lastRequest : t.lastRequest = s.lastRequest
  requests : ∀ id, (t.requests.get? id).map (·.request) = (s.requests.get? id).map (·.request)

variable {s t u v : Store}

theorem Alike.refl (s : Store) : Alike s s := ⟨rfl, rfl, rfl, rfl, rfl, fun _ => rfl⟩

theorem Alike.trans (h : Alike s t) (h' : Alike t u) : Alike s u where
  bundles := h'.bundles.trans h.bundles
  users := h'.users.trans h.users
  groups := h'.groups.trans h.groups
  roles := h'.roles.trans h.roles
  lastRequest := h'.lastRequest.trans h.lastRequest
  requests id := (h'.requests id).trans (h.requests id)

theorem alike_close (id status : Int) (error : Option String) (s : Store) :
    Alike s (perform (.requestClose id status error) s).2 := by
  apply perform_induction (Alike.refl s)
  intro r t hp
  obtain ⟨record, hr, rfl⟩ := closeRequest_ok.1 hp
  refine ⟨rfl, rfl, rfl, rfl, rfl, fun i => ?_⟩
  rw [SortedMap.get?_insert_ite]
  split
  · subst i
    rw [hr]
    rfl
  · rfl

theorem Alike.directorySound (h : Alike s t) (hs : DirectorySound s) : DirectorySound t :=
  hs.congr h.users h.groups h.roles

theorem Alike.records (h : Alike s t) {r : Request} (hr : s.Records r) : t.Records r := by
  obtain ⟨record, hrec, hreq⟩ := hr
  have hsame := h.requests r.id
  rw [hrec] at hsame
  obtain ⟨record', hrec', hreq'⟩ := Option.map_eq_some_iff.1 hsame
  exact ⟨record', hrec', hreq'.trans hreq⟩

theorem Alike.putUser (h : Alike s t) (u : User) : Alike (s.putUser u) (t.putUser u) where
  bundles := h.bundles
  users := congrArg (·.insert u.username u) h.users
  groups := h.groups
  roles := h.roles
  lastRequest := h.lastRequest
  requests := h.requests

end Store

/-- A response router closes requests meanwhile; any call may fail in any way. -/
def Surroundings.routing : Surroundings where
  drifts := Store.Alike
  fails _ _ := True
  refl := .refl
  trans := .trans

/-- The answer of a store in the surroundings: its own, or a failure that leaves it alone. -/
def Surroundings.Answered (around : Surroundings) (s : Store) (c : Call) (a : c.Answer) (t : Store) : Prop :=
  Store.perform c s = (a, t) ∨ t = s ∧ ∃ e, around.fails c.name e ∧ a = .error e

/-- The calls of the log, one after the other, lead from the one store to the other. -/
inductive Chronicle (around : Surroundings) : Store → CallLog → Store → Prop where
  | rest {s t : Store} (h : around.drifts s t) : Chronicle around s [] t
  | call {s u v t : Store} {c : Call} {a : c.Answer} {log : CallLog} (h : around.drifts s u)
      (ha : around.Answered u c a v) (rest : Chronicle around v log t) :
      Chronicle around s (⟨c, a⟩ :: log) t

variable {around : Surroundings} {s t u v : Store} {log : CallLog} {c : Call}

theorem Surroundings.Answered.perform_eq {r : c.Reply} (h : around.Answered s c (.ok r) t) :
    Store.perform c s = (.ok r, t) := by
  rcases h with h | ⟨-, e, -, h⟩
  · exact h
  · cases h

theorem Surroundings.Answered.eq_of_error {e : DataError} (h : around.Answered s c (.error e) t) :
    t = s := by
  rcases h with h | ⟨h, -⟩
  · rw [← Store.perform_refused (congrArg Prod.fst h), h]
  · exact h

theorem Surroundings.Answered.eq_of_read {a : c.Answer} (h : around.Answered s c a t)
    (hc : c.part? = none) : t = s := by
  rcases h with h | ⟨h, -⟩
  · rw [← Store.perform_read hc s, h]
  · exact h

namespace Chronicle

@[simp] theorem nil_iff : Chronicle around s [] t ↔ around.drifts s t := by
  constructor
  · intro h
    cases h with
    | rest h => exact h
  · exact .rest

theorem cons_iff {a : c.Answer} : Chronicle around s (⟨c, a⟩ :: log) t ↔
    ∃ u v, around.drifts s u ∧ around.Answered u c a v ∧ Chronicle around v log t := by
  constructor
  · intro h
    cases h with
    | call h ha rest => exact ⟨_, _, h, ha, rest⟩
  · rintro ⟨u, v, h, ha, rest⟩
    exact .call h ha rest

theorem after_drift (h : around.drifts s u) (hl : Chronicle around u log t) : Chronicle around s log t := by
  cases hl with
  | rest h' => exact .rest (around.trans h h')
  | call h' ha rest => exact .call (around.trans h h') ha rest

theorem drift (hl : Chronicle around s log t) (h : around.drifts t u) : Chronicle around s log u := by
  induction hl with
  | rest h' => exact .rest (around.trans h' h)
  | call h' ha _ ih => exact .call h' ha (ih h)

theorem append_iff {more : CallLog} : Chronicle around s (log ++ more) t ↔
    ∃ u, Chronicle around s log u ∧ Chronicle around u more t := by
  constructor
  · intro h
    induction log generalizing s with
    | nil => exact ⟨s, .rest (around.refl s), h⟩
    | cons x log ih =>
      obtain ⟨c, a⟩ := x
      obtain ⟨u, v, hd, ha, h⟩ := cons_iff.1 h
      obtain ⟨w, hl, hm⟩ := ih h
      exact ⟨w, .call hd ha hl, hm⟩
  · rintro ⟨u, hl, hm⟩
    induction hl with
    | rest h => exact hm.after_drift h
    | call h ha _ ih => exact .call h ha (ih hm)

theorem concat {a : c.Answer} (hl : Chronicle around s log t) (ha : around.Answered t c a u) :
    Chronicle around s (log ++ [⟨c, a⟩]) u :=
  append_iff.2 ⟨t, hl, .call (around.refl t) ha (.rest (around.refl u))⟩

theorem drifts_of_reads (h : Chronicle around s log t) (hr : ∀ x ∈ log, x.1.part? = none) :
    around.drifts s t := by
  induction h with
  | rest h => exact h
  | call h ha _ ih =>
    obtain ⟨hc, hr⟩ := List.forall_mem_cons.1 hr
    exact around.trans h (ha.eq_of_read hc ▸ ih hr)

theorem exists_of_read (h : Chronicle around s log t) (hr : ∀ x ∈ log, x.1.part? = none) {r : c.Reply}
    (hc : ⟨c, .ok r⟩ ∈ log) : ∃ u, around.drifts s u ∧ (Store.perform c u).1 = .ok r := by
  induction h with
  | rest h => cases hc
  | @call s u v t d a log hd ha _ ih =>
    obtain ⟨hp, hr⟩ := List.forall_mem_cons.1 hr
    rcases List.mem_cons.1 hc with hc | hc
    · cases hc
      exact ⟨u, hd, congrArg Prod.fst ha.perform_eq⟩
    · obtain ⟨w, hw, hc⟩ := ih hr hc
      exact ⟨w, around.trans hd (ha.eq_of_read hp ▸ hw), hc⟩

end Chronicle

end ChatRouter
