import ChatRouter.Proofs.Dispatch.Courses
import ChatRouter.Proofs.Store.Failures

set_option autoImplicit false

namespace ChatRouter

namespace Dispatch

open Script (Leads Asks)
open WorkLog (calls sends ofCalls)

namespace World

variable {around : Surroundings} {w : World}

theorem chronicle_perform (h : w.data.faults.Only around.fails) (e : Effect) :
    Chronicle around w.data.store (calls [⟨e, (perform e w).1⟩]) (perform e w).2.data.store := by
  cases e with
  | store c => exact .call (around.refl _) (Faulty.answered_perform h c) (.rest (around.refl _))
  | chat adapter c => exact .rest (around.refl _)
  | report f => exact .rest (around.refl _)
  | count s => exact .rest (around.refl _)

theorem only_perform {P : String → DataError → Prop} (h : w.data.faults.Only P) (e : Effect) :
    (perform e w).2.data.faults.Only P := by
  cases e with
  | store c => exact Faulty.only_perform h c
  | chat adapter c => exact h
  | report f => exact h
  | count s => exact h

theorem store_perform (e : Effect) (w : World) : (perform e w).2.data.store = w.data.store ∨
    ∃ c, e = .store c ∧ (perform e w).2.data.store = (Store.perform c w.data.store).2 := by
  cases e with
  | store c =>
    rcases Faulty.store_perform c w.data with hs | hs
    · exact .inl hs
    · exact .inr ⟨c, rfl, hs⟩
  | chat adapter c => exact .inl rfl
  | report f => exact .inl rfl
  | count s => exact .inl rfl

theorem reachable_perform (h : w.data.store.Reachable) (e : Effect) : (perform e w).2.data.store.Reachable := by
  rcases store_perform e w with hs | ⟨c, -, hs⟩
  · rwa [hs]
  · rw [hs]
    exact h.perform c

theorem records_perform {r : Request} (hr : w.data.store.Records r) (h : w.data.store.Reachable) (e : Effect) :
    (perform e w).2.data.store.Records r := by
  rcases store_perform e w with hs | ⟨c, -, hs⟩
  · rwa [hs]
  · rw [hs]
    exact hr.perform h.ledgerSound c

theorem chronicle_run {α : Type} (h : w.data.faults.Only around.fails) (p : Work α) :
    Chronicle around w.data.store (calls (p.exchanges perform w)) (w.run p).2.data.store := by
  unfold run
  induction p generalizing w with
  | done a => exact .rest (around.refl _)
  | ask e next ih =>
    have first := chronicle_perform h e
    have rest := ih (perform e w).1 (only_perform h e)
    rw [Script.exchanges, ← List.singleton_append, WorkLog.calls_append]
    exact Chronicle.append_iff.2 ⟨_, first, rest⟩

end World

theorem requests_of_ledgerIdle {s t : Store} {log : CallLog} (h : Chronicle .alone s log t)
    (hl : LedgerIdle log) : t.requests = s.requests ∧ t.lastRequest = s.lastRequest := by
  induction h with
  | rest h =>
    cases h
    exact ⟨rfl, rfl⟩
  | @call s u v t c a log hd ha _ ih =>
    cases hd
    obtain ⟨hc, hl⟩ := List.forall_mem_cons.1 hl
    obtain ⟨hr, hn⟩ := ih hl
    rw [hr, hn]
    by_cases hp : c.part? = some .ledger
    · obtain ⟨e, he⟩ := hc hp
      change a = .error e at he
      rw [he] at ha
      rw [ha.eq_of_error]
      exact ⟨rfl, rfl⟩
    · rcases ha with ha | ⟨rfl, -⟩
      · have := Store.perform_ledger hp s
        rwa [ha] at this
      · exact ⟨rfl, rfl⟩

end Dispatch

end ChatRouter
