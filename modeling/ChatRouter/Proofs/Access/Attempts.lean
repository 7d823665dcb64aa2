import ChatRouter.Access.Authorization
import ChatRouter.Proofs.Resolution
import ChatRouter.Proofs.Store.Failures

set_option autoImplicit false

namespace ChatRouter

namespace Accessing

open Authorization (call)

variable {α β : Type} {fails : String → DataError → Prop} {P P' E E' : Store → Prop} {c : Call}

def onFailing (x : Accessing α) (faults : Faults) (s : Store) : Except AccessError α × Store :=
  ((Faulty.run x.run ⟨s, faults⟩).1, (Faulty.run x.run ⟨s, faults⟩).2.store)

/-- Run on a store that satisfies `P`, where calls may fail as `fails` says, the script ends with a value and
a store that satisfy `Q`, or with an error and a store that satisfies `E`. -/
def Ensures (fails : String → DataError → Prop) (P : Store → Prop) (x : Accessing α) (Q : α → Store → Prop)
    (E : Store → Prop) : Prop :=
  ∀ f : Faulty, f.faults.Only fails → P f.store →
    match f.run x.run with
    | (.ok a, g) => Q a g.store
    | (.error _, g) => E g.store

theorem ensures_pure {a : α} {Q : α → Store → Prop} (h : ∀ s, P s → Q a s) :
    Ensures fails P (pure a) Q E := fun f _ hP => h f.store hP

theorem ensures_throw {e : AccessError} {Q : α → Store → Prop} (h : ∀ s, P s → E s) :
    Ensures fails P (throw e) Q E := fun f _ hP => h f.store hP

theorem Ensures.bind {x : Accessing α} {k : α → Accessing β} {Q : α → Store → Prop} {R : β → Store → Prop}
    (hx : Ensures fails P x Q E) (hk : ∀ a, Ensures fails (Q a) (k a) R E) :
    Ensures fails P (x >>= k) R E := by
  intro f hf hP
  have hfaults : (f.run x.run).2.faults.Only fails := Faulty.only_run hf x.run
  have hxf := hx f hf hP
  unfold Faulty.run at hxf hfaults ⊢
  rw [Script.run_except_bind]
  cases hr : x.run.run Faulty.perform f with
  | mk r g =>
    rw [hr] at hxf hfaults
    cases r with
    | ok a => exact hk a g hfaults hxf
    | error e => exact hxf

theorem Ensures.mono {x : Accessing α} {Q Q' : α → Store → Prop} (hx : Ensures fails P x Q E)
    (hP : ∀ s, P' s → P s) (hQ : ∀ a s, Q a s → Q' a s) (hE : ∀ s, E s → E' s) :
    Ensures fails P' x Q' E' := by
  intro f hf hP'
  have hxf := hx f hf (hP f.store hP')
  rcases hr : f.run x.run with ⟨e | a, g⟩
  · rw [hr] at hxf
    exact hE g.store hxf
  · rw [hr] at hxf
    exact hQ _ g.store hxf

theorem Ensures.onFailing {x : Accessing α} {Q : α → Store → Prop} (hx : Ensures fails P x Q E)
    {faults : Faults} (hf : faults.Only fails) {s : Store} (hP : P s) :
    match x.onFailing faults s with
    | (.ok a, t) => Q a t
    | (.error _, t) => E t := by
  have hxf := hx ⟨s, faults⟩ hf hP
  unfold Accessing.onFailing
  rcases hrun : Faulty.run x.run ⟨s, faults⟩ with ⟨e | a, g⟩
  · rwa [hrun] at hxf
  · rwa [hrun] at hxf

theorem Ensures.of_ok {x : Accessing α} {Q : α → Store → Prop} (hx : Ensures fails P x Q E)
    {faults : Faults} (hf : faults.Only fails) {s t : Store} {a : α} (hP : P s)
    (h : x.onFailing faults s = (.ok a, t)) : Q a t := by
  have hrun := hx.onFailing hf hP
  rwa [h] at hrun

theorem Ensures.of_error {x : Accessing α} {Q : α → Store → Prop} (hx : Ensures fails P x Q E)
    {faults : Faults} (hf : faults.Only fails) {s t : Store} {e : AccessError} (hP : P s)
    (h : x.onFailing faults s = (.error e, t)) : E t := by
  have hrun := hx.onFailing hf hP
  rwa [h] at hrun

theorem ensures_reads {x : Accessing α} {s : Store} (hx : Script.Asks (fun c => c.part? = none) x.run) :
    Ensures fails (· = s) x (fun _ t => t = s) (· = s) := by
  rintro f hf rfl
  have hreads := (Script.Asks.of_leads (Script.leads_exchanges Faulty.perform x.run f) hx).2
  have hl : Chronicle (.failing fails) f.store (x.run.exchanges Faulty.perform f) (f.run x.run).2.store :=
    Faulty.chronicle_run hf x.run
  have hsame : f.store = (f.run x.run).2.store := hl.drifts_of_reads hreads
  rcases hr : f.run x.run with ⟨_ | _, g⟩ <;> rw [hr] at hsame <;> exact hsame.symm

theorem ensures_call {Q : c.Reply → Store → Prop}
    (hok : ∀ s r t, P s → Store.perform c s = (.ok r, t) → Q r t)
    (herror : ∀ s e, P s → (Store.perform c s).1 = .error e ∨ fails c.name e → E s) :
    Ensures fails P (call c) Q E := by
  intro f hf hP
  have hrun : f.run (call c).run = ((f.perform c).1.mapError .store, (f.perform c).2) := rfl
  have hanswer : (Surroundings.failing fails).Answered f.store c (f.perform c).1 (f.perform c).2.store :=
    Faulty.answered_perform hf c
  rw [hrun]
  cases hp : (f.perform c).1 with
  | ok r =>
    rw [hp] at hanswer
    exact hok _ _ _ hP hanswer.perform_eq
  | error e =>
    rw [hp] at hanswer
    change E (f.perform c).2.store
    rw [hanswer.eq_of_error]
    refine herror _ e hP ?_
    rcases hanswer with hs | ⟨-, e', hfail, he⟩
    · exact .inl (congrArg Prod.fst hs)
    · cases he
      exact .inr hfail

theorem ensures_call_ok {Q : c.Reply → Store → Prop}
    (hdo : ∀ s, P s → ∃ r t, Store.perform c s = (.ok r, t) ∧ Q r t)
    (hfail : ∀ s e, P s → fails c.name e → E s) : Ensures fails P (call c) Q E := by
  refine ensures_call (fun s r t hP hp => ?_) fun s e hP he => ?_
  · obtain ⟨r', t', hp', hQ⟩ := hdo s hP
    cases hp.symm.trans hp'
    exact hQ
  · rcases he with he | he
    · obtain ⟨r, t, hp, -⟩ := hdo s hP
      rw [hp] at he
      cases he
    · exact hfail s e hP he

theorem ensures_ask_bind {k : c.Answer → Accessing β} {Q : β → Store → Prop}
    (h : ∀ a, Ensures fails (fun t => ∃ s, P s ∧ (Surroundings.failing fails).Answered s c a t) (k a) Q E) :
    Ensures fails P ((liftM c.ask : Accessing c.Answer) >>= k) Q E := by
  intro f hf hP
  have hanswer : (Surroundings.failing fails).Answered f.store c (f.perform c).1 (f.perform c).2.store :=
    Faulty.answered_perform hf c
  exact h (f.perform c).1 (f.perform c).2 (Faulty.only_perform hf c) ⟨f.store, hP, hanswer⟩

end Accessing

end ChatRouter
