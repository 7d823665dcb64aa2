import ChatRouter.Proofs.Store.Edits
import Mathlib.Data.List.Induction

set_option autoImplicit false

namespace ChatRouter.Store

/-- The call succeeds, with a reply that `p` holds of. -/
def Answers (s : Store) (c : Call) (p : c.Reply → Prop) : Prop := ∃ r, (perform c s).1 = .ok r ∧ p r

theorem answers_iff {s : Store} {c : Call} {r : c.Reply} (h : (perform c s).1 = .ok r) {p : c.Reply → Prop} :
    Answers s c p ↔ p r := by
  refine ⟨fun ⟨r', h', hp⟩ => ?_, fun hp => ⟨r, h, hp⟩⟩
  cases h.symm.trans h'
  exact hp

theorem exists_ok_of_isOk {c : Call} {s : Store} (h : (perform c s).1.isOk = true) :
    ∃ r, (perform c s).1 = .ok r := by
  cases hp : (perform c s).1 with
  | error e =>
    rw [hp] at h
    cases h
  | ok r => exact ⟨r, rfl⟩

def successes : List Call → Store → List Call
  | [], _ => []
  | c :: rest, s =>
    if (perform c s).1.isOk then c :: successes rest (perform c s).2
    else successes rest (perform c s).2

/-- Some call sets it and no later one clears it. -/
def InForce (sets clears : Call → Prop) (log : List Call) : Prop :=
  ∃ before c after, log = before ++ c :: after ∧ sets c ∧ ∀ d ∈ after, ¬ clears d

variable {sets clears : Call → Prop} {engine : Regex.Engine}

theorem not_inForce_nil : ¬ InForce sets clears [] := by
  rintro ⟨before, c, after, h, -⟩
  simp at h

theorem inForce_concat (log : List Call) (c : Call) :
    InForce sets clears (log ++ [c]) ↔ sets c ∨ (InForce sets clears log ∧ ¬ clears c) := by
  constructor
  · rintro ⟨before, d, after, h, hd, hafter⟩
    rcases List.eq_nil_or_concat after with rfl | ⟨after, e, rfl⟩
    · obtain ⟨-, hcd⟩ := List.append_inj' h rfl
      simp only [List.cons.injEq, and_true] at hcd
      exact .inl (hcd ▸ hd)
    · rw [List.concat_eq_append, ← List.cons_append, ← List.append_assoc] at h
      obtain ⟨hlog, hce⟩ := List.append_inj' h rfl
      simp only [List.cons.injEq, and_true] at hce
      refine .inr ⟨⟨before, d, after, hlog, hd, fun x hx => hafter x (by simp [hx])⟩, ?_⟩
      exact hce ▸ hafter e (by simp)
  · rintro (hc | ⟨⟨before, d, after, h, hd, hafter⟩, hc⟩)
    · exact ⟨log, c, [], rfl, hc, by simp⟩
    · refine ⟨before, d, after ++ [c], by simp [h], hd, fun x hx => ?_⟩
      rcases List.mem_append.1 hx with hx | hx
      · exact hafter x hx
      · exact List.mem_singleton.1 hx ▸ hc

theorem successes_append (calls more : List Call) (s : Store) :
    successes (calls ++ more) s = successes calls s ++ successes more (after calls s) := by
  induction calls generalizing s with
  | nil => rfl
  | cons c calls ih =>
    simp only [List.cons_append, successes, ih]
    split <;> rfl

theorem after_append (calls more : List Call) (s : Store) :
    after (calls ++ more) s = after more (after calls s) := List.foldl_append ..

theorem reachable_new (engine : Regex.Engine) : Reachable (new engine) := ⟨engine, [], rfl⟩

theorem Reachable.after {s : Store} (h : Reachable s) (calls : List Call) :
    Reachable (Store.after calls s) := by
  obtain ⟨engine, first, rfl⟩ := h
  exact ⟨engine, first ++ calls, (after_append first calls (new engine)).symm⟩

theorem Reachable.perform {s : Store} (h : Reachable s) (c : Call) : Reachable (perform c s).2 :=
  h.after [c]

theorem mem_successes {calls : List Call} {s : Store} {c : Call} (h : c ∈ successes calls s) :
    c ∈ calls ∧ ∃ t, (perform c t).1.isOk = true := by
  induction calls generalizing s with
  | nil => cases h
  | cons d calls ih =>
    unfold successes at h
    split at h
    · rename_i hok
      rcases List.mem_cons.1 h with rfl | h
      · exact ⟨List.mem_cons_self, s, hok⟩
      · exact (ih h).imp_left (List.mem_cons_of_mem d)
    · exact (ih h).imp_left (List.mem_cons_of_mem d)

/-- What holds of the empty store with an empty log and after each further success holds of every history. -/
theorem successes_induction {P : List Call → Store → Prop} (hempty : P [] (new engine))
    (hstep : ∀ ⦃log s c r t⦄, Reachable s → P log s → perform c s = (.ok r, t) → P (log ++ [c]) t)
    (calls : List Call) : P (successes calls (new engine)) (after calls (new engine)) := by
  -- Calls are added at the end, so what came before is a reachable store.
  induction calls using List.reverseRecOn with
  | nil => exact hempty
  | append_singleton calls c ih =>
    rw [after_append, successes_append]
    change P (_ ++ if _ then [c] else []) (perform c (after calls (new engine))).2
    cases hp : (perform c (after calls (new engine))).1 with
    | error e => simpa [perform_refused hp, Except.isOk, Except.toBool] using ih
    | ok r =>
      have hnext := hstep ((reachable_new engine).after calls) ih (Prod.ext hp rfl)
      simpa [Except.isOk, Except.toBool] using hnext

/-- What the empty store satisfies and every successful call keeps. -/
theorem Reachable.induction {P : Store → Prop} (hempty : ∀ engine, P (new engine))
    (hstep : ∀ ⦃s c r t⦄, Reachable s → P s → Store.perform c s = (.ok r, t) → P t) {s : Store}
    (h : Reachable s) : P s := by
  obtain ⟨engine, calls, rfl⟩ := h
  refine successes_induction (P := fun _ s => P s) (hempty engine) ?_ calls
  intro log s c r t hs hP hc
  exact hstep hs hP hc

theorem holds_iff_inForce {P : Store → Prop} (hempty : ¬ P (new engine))
    (hstep : ∀ ⦃s c r t⦄, Reachable s → perform c s = (.ok r, t) →
      (P t ↔ sets c ∨ (P s ∧ ¬ clears c))) (calls : List Call) :
    P (after calls (new engine)) ↔ InForce sets clears (successes calls (new engine)) := by
  refine successes_induction (P := fun log s => P s ↔ InForce sets clears log) ?_ ?_ calls
  · exact iff_of_false hempty not_inForce_nil
  · intro log s c r t hs ih hc
    rw [hstep hs hc, ih, inForce_concat]

end ChatRouter.Store
