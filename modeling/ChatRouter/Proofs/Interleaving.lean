import ChatRouter.Script

set_option autoImplicit false

/-!
# Scripts beside each other

Two scripts share a state and are answered one question at a time, in the order of a schedule. When each of
them only reads until its last question changes the state, one comes first, and the other meets what that one
has left (`interleave_of_contends`), perhaps too late (`exists_interleave_missed`). When neither notices what the
other one changes, every schedule ends like one after the other (`interleave_of_oblivious`).
-/

namespace ChatRouter.Script

variable {Question : Type} {Answer : Question → Type} {α β σ : Type}

/-- Runs two scripts on one state. The schedule says whose question comes next: the left script's for `true`.
A script that is done is passed over, and at the end of the schedule the left one goes on first. -/
def interleave (answer : (q : Question) → σ → Answer q × σ) :
    List Bool → Script Question Answer α → Script Question Answer β → σ → (α × β) × σ
  | [], p, q, s =>
    let (a, t) := p.run answer s
    let (b, u) := q.run answer t
    ((a, b), u)
  | true :: turns, ask c next, q, s => interleave answer turns (next (answer c s).1) q (answer c s).2
  | false :: turns, p, ask c next, s => interleave answer turns p (next (answer c s).1) (answer c s).2
  | _ :: turns, p, q, s => interleave answer turns p q s

variable {answer : (q : Question) → σ → Answer q × σ} {s t u : σ}

theorem interleave_done_left (turns : List Bool) (a : α) (q : Script Question Answer β) (s : σ) :
    interleave answer turns (done a) q s = ((a, (q.run answer s).1), (q.run answer s).2) := by
  induction turns generalizing q s with
  | nil => rfl
  | cons turn turns ih =>
    cases turn with
    | true => exact ih q s
    | false =>
      cases q with
      | done b => exact ih (done b) s
      | ask c next => exact ih _ _

theorem interleave_done_right (turns : List Bool) (p : Script Question Answer α) (b : β) (s : σ) :
    interleave answer turns p (done b) s = (((p.run answer s).1, b), (p.run answer s).2) := by
  induction turns generalizing p s with
  | nil => rfl
  | cons turn turns ih =>
    cases turn with
    | false => exact ih p s
    | true =>
      cases p with
      | done a => exact ih (done a) s
      | ask c next => exact ih _ _

/-- On `s` the script only reads, until its last question makes `t` of it and it ends with `a`. If it meets
`u` instead, however far it is, it only reads and ends with a value that is `Late`; the value is `Missed` if
nothing was left but the last question. -/
inductive Contends (answer : (q : Question) → σ → Answer q × σ) (s t u : σ) (a : α) (Late Missed : α → Prop) :
    Script Question Answer α → Prop where
  | acts {c : Question} {next : Answer c → Script Question Answer α} {x : Answer c} {late : α}
      (meets : (ask c next).run answer u = (late, u)) (isLate : Late late) (isMissed : Missed late)
      (act : answer c s = (x, t)) (ends : next x = done a) : Contends answer s t u a Late Missed (ask c next)
  | reads {c : Question} {next : Answer c → Script Question Answer α} {x : Answer c} {late : α}
      (meets : (ask c next).run answer u = (late, u)) (isLate : Late late) (read : answer c s = (x, s))
      (rest : Contends answer s t u a Late Missed (next x)) : Contends answer s t u a Late Missed (ask c next)

variable {a : α} {b : β} {LateLeft MissedLeft : α → Prop} {LateRight MissedRight : β → Prop}
  {p : Script Question Answer α} {q : Script Question Answer β}

theorem Contends.run_eq (h : Contends answer s t u a LateLeft MissedLeft p) : p.run answer s = (a, t) := by
  induction h with
  | acts meets isLate isMissed act ends => rw [run_ask, act, ends, run_done]
  | reads meets isLate read rest ih => rw [run_ask, read, ih]

theorem Contends.exists_late (h : Contends answer s t u a LateLeft MissedLeft p) :
    ∃ late, LateLeft late ∧ p.run answer u = (late, u) := by
  cases h with
  | acts meets isLate isMissed act ends => exact ⟨_, isLate, meets⟩
  | reads meets isLate read rest => exact ⟨_, isLate, meets⟩

/-- In every schedule exactly one of two contenders changes the state, as if it were alone, and the other one
is late. -/
theorem interleave_of_contends (hp : Contends answer s t u a LateLeft MissedLeft p)
    (hq : Contends answer s u t b LateRight MissedRight q) (turns : List Bool) :
    (∃ late, LateRight late ∧ interleave answer turns p q s = ((a, late), t)) ∨
      ∃ late, LateLeft late ∧ interleave answer turns p q s = ((late, b), u) := by
  -- Until one of them acts, both are contenders in the first state.
  induction turns generalizing p q with
  | nil =>
    obtain ⟨late, hlate, hrun⟩ := hq.exists_late
    refine .inl ⟨late, hlate, ?_⟩
    simp only [interleave, hp.run_eq, hrun]
  | cons turn turns ih =>
    cases turn with
    | true =>
      cases hp with
      | acts meets isLate isMissed act ends =>
        obtain ⟨late, hlate, hrun⟩ := hq.exists_late
        refine .inl ⟨late, hlate, ?_⟩
        rw [interleave, act, ends, interleave_done_left, hrun]
      | reads meets isLate read rest =>
        rw [interleave, read]
        exact ih rest hq
    | false =>
      cases hq with
      | acts meets isLate isMissed act ends =>
        obtain ⟨late, hlate, hrun⟩ := hp.exists_late
        refine .inr ⟨late, hlate, ?_⟩
        rw [interleave, act, ends, interleave_done_right, hrun]
      | reads meets isLate read rest =>
        rw [interleave, read]
        exact ih hp rest

theorem exists_interleave_missed (hp : Contends answer s t u a LateLeft MissedLeft p)
    (hq : Contends answer s u t b LateRight MissedRight q) :
    ∃ turns missed, MissedRight missed ∧ interleave answer turns p q s = ((a, missed), t) := by
  induction hq with
  | acts meets isLate isMissed act ends =>
    refine ⟨[], _, isMissed, ?_⟩
    simp only [interleave, hp.run_eq, meets]
  | reads meets isLate read rest ih =>
    obtain ⟨turns, missed, hmissed, hrun⟩ := ih
    exact ⟨false :: turns, missed, hmissed, by rw [interleave, read, hrun]⟩

/-- Met with `s` or with `u`, the script goes the same way and ends with `a`: it only reads, until its last
question makes `f s` of the one and `f u` of the other. -/
inductive Oblivious (answer : (q : Question) → σ → Answer q × σ) (s u : σ) (f : σ → σ) (a : α) :
    Script Question Answer α → Prop where
  | ends (first : f s = s) (second : f u = u) : Oblivious answer s u f a (done a)
  | acts {c : Question} {next : Answer c → Script Question Answer α} {x y : Answer c}
      (first : answer c s = (x, f s)) (second : answer c u = (y, f u)) (ends : next x = done a)
      (alike : next y = done a) : Oblivious answer s u f a (ask c next)
  | reads {c : Question} {next : Answer c → Script Question Answer α} {x y : Answer c}
      (first : answer c s = (x, s)) (second : answer c u = (y, u)) (alike : next y = next x)
      (rest : Oblivious answer s u f a (next x)) : Oblivious answer s u f a (ask c next)

variable {f g : σ → σ}

theorem Oblivious.run_first (h : Oblivious answer s u f a p) : p.run answer s = (a, f s) := by
  induction h with
  | ends first second => rw [run_done, first]
  | acts first second ends alike => rw [run_ask, first, ends, run_done]
  | reads first second alike rest ih => rw [run_ask, first, ih]

theorem Oblivious.run_second (h : Oblivious answer s u f a p) : p.run answer u = (a, f u) := by
  induction h with
  | ends first second => rw [run_done, second]
  | acts first second ends alike => rw [run_ask, second, alike, run_done]
  | reads first second alike rest ih => rw [run_ask, second, alike, ih]

theorem interleave_of_oblivious (hp : Oblivious answer s (g s) f a p) (hq : Oblivious answer s (f s) g b q)
    (hfg : f (g s) = g (f s)) (turns : List Bool) : interleave answer turns p q s = ((a, b), g (f s)) := by
  -- As long as both only read, the state is the first one. Whoever acts is done, and the other one goes on alone.
  induction turns generalizing p q with
  | nil => simp only [interleave, hp.run_first, hq.run_second]
  | cons turn turns ih =>
    cases turn with
    | true =>
      cases hp with
      | ends first second => rw [interleave_done_left, hq.run_first, ← hfg, second]
      | acts first second ends alike => rw [interleave, first, ends, interleave_done_left, hq.run_second]
      | reads first second alike rest =>
        rw [interleave, first]
        exact ih rest hq
    | false =>
      cases hq with
      | ends first second => rw [interleave_done_right, hp.run_first, second]
      | acts first second ends alike =>
        rw [interleave, first, ends, interleave_done_right, hp.run_second, hfg]
      | reads first second alike rest =>
        rw [interleave, first]
        exact ih hp rest

end ChatRouter.Script
