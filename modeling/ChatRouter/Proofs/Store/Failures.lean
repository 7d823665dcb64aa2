import ChatRouter.Proofs.Store.Chronicle

set_option autoImplicit false

namespace ChatRouter

/-- Every failure that is scheduled for a kind of call satisfies `P`. -/
def Faults.Only (P : String → DataError → Prop) (faults : Faults) : Prop :=
  ∀ kind outcomes, faults.get? kind = some outcomes → ∀ e, some e ∈ outcomes → P kind e

def Surroundings.failing (fails : String → DataError → Prop) : Surroundings where
  drifts := Eq
  fails := fails
  refl _ := rfl
  trans := Eq.trans

theorem Faults.only_empty (P : String → DataError → Prop) : Faults.Only P ∅ := fun _ _ h => by cases h

theorem Faults.only_anything (faults : Faults) : faults.Only fun _ _ => True := fun _ _ _ _ _ => trivial

namespace Faulty

variable {around : Surroundings} {f : Faulty}

theorem only_perform {P : String → DataError → Prop} (h : f.faults.Only P) (c : Call) :
    (f.perform c).2.faults.Only P := by
  have shorter {o : Option DataError} {rest : List (Option DataError)}
      (hf : f.faults.get? c.name = some (o :: rest)) : Faults.Only P (f.faults.insert c.name rest) := by
    intro kind outcomes hk e he
    rw [SortedMap.get?_insert_ite] at hk
    split at hk
    · cases hk
      subst kind
      exact h c.name _ hf e (List.mem_cons_of_mem _ he)
    · exact h kind outcomes hk e he
  unfold perform
  split
  · exact shorter ‹_›
  · exact shorter ‹_›
  · exact h

theorem answered_perform (h : f.faults.Only around.fails) (c : Call) :
    around.Answered f.store c (f.perform c).1 (f.perform c).2.store := by
  unfold perform
  split
  · rename_i e rest hf
    exact .inr ⟨rfl, e, h c.name _ hf e (List.mem_cons_self ..), rfl⟩
  · exact .inl rfl
  · exact .inl rfl

theorem store_perform (c : Call) (f : Faulty) :
    (f.perform c).2.store = f.store ∨ (f.perform c).2.store = (Store.perform c f.store).2 := by
  unfold perform
  split
  · exact .inl rfl
  · exact .inr rfl
  · exact .inr rfl

theorem only_schedule {P : String → DataError → Prop} (h : f.faults.Only P) (kind : String)
    {outcomes : List (Option DataError)} (ho : ∀ e, some e ∈ outcomes → P kind e) :
    (f.schedule kind outcomes).faults.Only P := by
  intro kind' all hk e he
  rw [schedule, SortedMap.get?_insert_ite] at hk
  split at hk
  · cases hk
    subst kind'
    rcases List.mem_append.1 he with he | he
    · cases hf : f.faults.get? kind with
      | none => simp [hf] at he
      | some old =>
        rw [hf] at he
        exact h kind old hf e he
    · exact ho e he
  · exact h kind' all hk e he

theorem only_run {α : Type} {P : String → DataError → Prop} (h : f.faults.Only P) (p : StoreScript α) :
    (f.run p).2.faults.Only P := by
  unfold run
  induction p generalizing f with
  | done a => exact h
  | ask c next ih => exact ih _ (only_perform h c)

theorem chronicle_run {α : Type} (h : f.faults.Only around.fails) (p : StoreScript α) :
    Chronicle around f.store (p.exchanges perform f) (f.run p).2.store := by
  unfold run
  induction p generalizing f with
  | done a => exact .rest (around.refl _)
  | ask c next ih => exact .call (around.refl _) (answered_perform h c) (ih _ (only_perform h c))

end Faulty

end ChatRouter
