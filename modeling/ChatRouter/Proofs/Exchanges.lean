import ChatRouter.Script

set_option autoImplicit false

/-!
# The exchanges of a script

What a script does is what it asks, whatever it is answered. `Script.Leads p log q` says that `p` goes on as
`q` after the exchanges of the log; a script is inverted along its text (`leads_bind`), and every run makes
some log (`leads_exchanges`).
-/

namespace ChatRouter

/-- A question and the answer to it. -/
abbrev Exchange (Question : Type) (Answer : Question → Type) : Type := (q : Question) × Answer q

namespace Script

variable {Question Question' : Type} {Answer : Question → Type} {Answer' : Question' → Type}
variable {α β σ ε : Type} {log : List (Exchange Question Answer)}

instance : LawfulMonad (Script Question Answer) :=
  LawfulMonad.mk' _ bind_done (fun _ _ => rfl) fun p f g => by
    induction p with
    | done a => rfl
    | ask q next ih => exact congrArg (ask q) (funext ih)

/-- `p` asks the questions of the log and goes on as `r` with its answers. -/
def Leads : Script Question Answer α → List (Exchange Question Answer) → Script Question Answer α → Prop
  | p, [], r => p = r
  | done _, _ :: _, _ => False
  | ask q next, x :: log, r => ∃ a, x = ⟨q, a⟩ ∧ Leads (next a) log r

@[simp] theorem leads_nil (p r : Script Question Answer α) : Leads p [] r ↔ p = r := by
  cases p <;> rfl

@[simp] theorem leads_done (a b : α) : Leads (done a) log (done b) ↔ log = [] ∧ a = b := by
  cases log with
  | nil => simp
  | cons x log => simp [Leads]

@[simp] theorem leads_pure (a b : α) :
    Leads (pure a : Script Question Answer α) log (done b) ↔ log = [] ∧ a = b := leads_done a b

theorem leads_ask {q : Question} {next : Answer q → Script Question Answer α} {b : α} :
    Leads (ask q next) log (done b) ↔ ∃ a rest, log = ⟨q, a⟩ :: rest ∧ Leads (next a) rest (done b) := by
  cases log with
  | nil => simp
  | cons x log =>
    constructor
    · rintro ⟨a, rfl, h⟩
      exact ⟨a, log, rfl, h⟩
    · rintro ⟨a, rest, h, hr⟩
      cases h
      exact ⟨a, rfl, hr⟩

theorem leads_question {q : Question} {a : Answer q} :
    Leads (question q) log (done a) ↔ log = [⟨q, a⟩] := by
  simp only [question, leads_ask, leads_done]
  constructor
  · rintro ⟨_, _, rfl, rfl, rfl⟩
    rfl
  · rintro rfl
    exact ⟨a, [], rfl, rfl, rfl⟩

theorem leads_bind {p : Script Question Answer α} {f : α → Script Question Answer β} {b : β} :
    Leads (p >>= f) log (done b) ↔
      ∃ first a rest, log = first ++ rest ∧ Leads p first (done a) ∧ Leads (f a) rest (done b) := by
  induction p generalizing log with
  | done a =>
    constructor
    · intro h
      exact ⟨[], a, log, rfl, by simp, h⟩
    · rintro ⟨first, a', rest, rfl, h, hr⟩
      obtain ⟨rfl, rfl⟩ := (leads_done ..).1 h
      exact hr
  | ask q next ih =>
    rw [show ask q next >>= f = ask q fun a => next a >>= f from rfl, leads_ask]
    constructor
    · rintro ⟨a, tail, rfl, h⟩
      obtain ⟨first, a', rest, rfl, hf, hr⟩ := (ih a).1 h
      exact ⟨⟨q, a⟩ :: first, a', rest, rfl, leads_ask.2 ⟨a, first, rfl, hf⟩, hr⟩
    · rintro ⟨first, a', rest, rfl, h, hr⟩
      obtain ⟨a, tail, rfl, hf⟩ := leads_ask.1 h
      exact ⟨a, tail ++ rest, rfl, (ih a).2 ⟨tail, a', rest, rfl, hf, hr⟩⟩

theorem leads_question_bind {q : Question} {f : Answer q → Script Question Answer β} {b : β} :
    Leads (question q >>= f) log (done b) ↔ ∃ a rest, log = ⟨q, a⟩ :: rest ∧ Leads (f a) rest (done b) :=
  leads_ask

theorem Leads.concat {p : Script Question Answer α} {q : Question}
    {next : Answer q → Script Question Answer α} (h : Leads p log (ask q next)) (a : Answer q) :
    Leads p (log ++ [⟨q, a⟩]) (next a) := by
  induction log generalizing p with
  | nil =>
    obtain rfl := (leads_nil ..).1 h
    exact ⟨a, rfl, (leads_nil ..).2 rfl⟩
  | cons x log ih =>
    cases p with
    | done b => exact h.elim
    | ask q' next' =>
      obtain ⟨a', rfl, h⟩ := h
      exact ⟨a', rfl, ih h⟩

theorem leads_mapQuestions {word : Question → Question'}
    {back : (q : Question) → Answer' (word q) → Answer q} {p : Script Question Answer α} {b : α}
    {log : List (Exchange Question' Answer')} (h : Leads (p.mapQuestions word back) log (done b)) :
    ∃ said : List ((q : Question) × Answer' (word q)), log = said.map (fun x => ⟨word x.1, x.2⟩) ∧
      Leads p (said.map fun x => ⟨x.1, back x.1 x.2⟩) (done b) := by
  induction p generalizing log with
  | done a =>
    obtain ⟨rfl, rfl⟩ := (leads_done ..).1 h
    exact ⟨[], rfl, by simp⟩
  | ask q next ih =>
    obtain ⟨a, rest, rfl, hn⟩ := leads_ask.1 h
    obtain ⟨said, rfl, hp⟩ := ih _ hn
    exact ⟨⟨q, a⟩ :: said, rfl, leads_ask.2 ⟨_, _, rfl, hp⟩⟩

theorem leads_except_bind {x : ExceptT ε (Script Question Answer) α}
    {f : α → ExceptT ε (Script Question Answer) β} {r : Except ε β} :
    Leads (x >>= f).run log (done r) ↔
      (∃ e, r = .error e ∧ Leads x.run log (done (.error e))) ∨
        ∃ first a rest, log = first ++ rest ∧ Leads x.run first (done (.ok a)) ∧
          Leads (f a).run rest (done r) := by
  rw [ExceptT.run_bind, leads_bind]
  constructor
  · rintro ⟨first, a, rest, rfl, hx, h⟩
    cases a with
    | ok a => exact .inr ⟨first, a, rest, rfl, hx, h⟩
    | error e =>
      obtain ⟨rfl, rfl⟩ := (leads_pure ..).1 h
      exact .inl ⟨e, rfl, by rwa [List.append_nil]⟩
  · rintro (⟨e, rfl, hx⟩ | ⟨first, a, rest, rfl, hx, h⟩)
    · exact ⟨log, .error e, [], by simp, hx, (leads_pure ..).2 ⟨rfl, rfl⟩⟩
    · exact ⟨first, .ok a, rest, rfl, hx, h⟩

theorem leads_except_bind_ok {x : ExceptT ε (Script Question Answer) α}
    {f : α → ExceptT ε (Script Question Answer) β} {b : β} :
    Leads (x >>= f).run log (done (.ok b)) ↔
      ∃ first a rest, log = first ++ rest ∧ Leads x.run first (done (.ok a)) ∧
        Leads (f a).run rest (done (.ok b)) := by
  rw [leads_except_bind]
  simp

/-- Whatever it is answered, every question that it asks satisfies `P`. -/
def Asks (P : Question → Prop) : Script Question Answer α → Prop
  | done _ => True
  | ask q next => P q ∧ ∀ a, Asks P (next a)

variable {P : Question → Prop}

theorem asks_pure (a : α) : Asks P (pure a : Script Question Answer α) := trivial

theorem asks_question {q : Question} (h : P q) : Asks P (question q : Script Question Answer (Answer q)) :=
  ⟨h, fun _ => trivial⟩

theorem Asks.mono {P' : Question → Prop} {p : Script Question Answer α} (h : Asks P p)
    (hP : ∀ q, P q → P' q) : Asks P' p := by
  induction p with
  | done a => trivial
  | ask q next ih => exact ⟨hP q h.1, fun a => ih a (h.2 a)⟩

theorem Asks.bind {p : Script Question Answer α} {f : α → Script Question Answer β} (hp : Asks P p)
    (hf : ∀ a, Asks P (f a)) : Asks P (p >>= f) := by
  induction p with
  | done a => exact hf a
  | ask q next ih => exact ⟨hp.1, fun a => ih a (hp.2 a)⟩

theorem Asks.except_bind {x : ExceptT ε (Script Question Answer) α}
    {f : α → ExceptT ε (Script Question Answer) β} (hx : Asks P x.run) (hf : ∀ a, Asks P (f a).run) :
    Asks P (x >>= f).run := by
  rw [ExceptT.run_bind]
  refine hx.bind fun a => ?_
  cases a with
  | ok a => exact hf a
  | error e => exact asks_pure _

theorem Asks.of_leads {p r : Script Question Answer α} (h : Leads p log r) (hp : Asks P p) :
    Asks P r ∧ ∀ x ∈ log, P x.1 := by
  induction log generalizing p with
  | nil =>
    obtain rfl := (leads_nil ..).1 h
    exact ⟨hp, by simp⟩
  | cons x log ih =>
    cases p with
    | done a => exact h.elim
    | ask q next =>
      obtain ⟨a, rfl, h⟩ := h
      obtain ⟨hr, hl⟩ := ih h (hp.2 a)
      exact ⟨hr, List.forall_mem_cons.2 ⟨hp.1, hl⟩⟩

theorem asks_mapQuestions {word : Question → Question'} {back : (q : Question) → Answer' (word q) → Answer q}
    {P : Question' → Prop} {p : Script Question Answer α} (h : Asks (fun q => P (word q)) p) :
    Asks P (p.mapQuestions word back) := by
  induction p with
  | done a => trivial
  | ask q next ih => exact ⟨h.1, fun a => ih _ (h.2 _)⟩

/-- A watch has a state that follows the exchanges and says which questions are in order. -/
structure Watch (Question : Type) (Answer : Question → Type) (σ : Type) where
  next : σ → (q : Question) → Answer q → σ
  good : σ → Question → Prop

/-- Whatever it is answered, the script asks what is in order and ends as it should. -/
def Heeds (w : Watch Question Answer σ) (final : σ → α → Prop) : σ → Script Question Answer α → Prop
  | s, done a => final s a
  | s, ask q next => w.good s q ∧ ∀ a, Heeds w final (w.next s q a) (next a)

variable {w : Watch Question Answer σ} {s : σ} {middle : σ → α → Prop} {final : σ → β → Prop}
  {p : Script Question Answer α} {f : α → Script Question Answer β}

theorem Heeds.bind (hp : Heeds w middle s p) (hf : ∀ t a, middle t a → Heeds w final t (f a)) :
    Heeds w final s (p >>= f) := by
  induction p generalizing s with
  | done a => exact hf s a hp
  | ask q next ih => exact ⟨hp.1, fun a => ih a (hp.2 a)⟩

theorem Asks.heeds_bind (hp : Asks P p) (hP : ∀ q, P q → w.good s q ∧ ∀ a, w.next s q a = s)
    (hf : ∀ a, Heeds w final s (f a)) : Heeds w final s (p >>= f) := by
  induction p with
  | done a => exact hf a
  | ask q next ih =>
    obtain ⟨hgood, hnext⟩ := hP q hp.1
    refine ⟨hgood, fun a => ?_⟩
    rw [hnext]
    exact ih a (hp.2 a)

theorem Heeds.asks (h : Heeds w middle s p) (hP : ∀ s q, w.good s q → P q) : Asks P p := by
  induction p generalizing s with
  | done a => trivial
  | ask q next ih => exact ⟨hP s q h.1, fun a => ih a (h.2 a)⟩

theorem run_except_bind (answer : (q : Question) → σ → Answer q × σ)
    (x : ExceptT ε (Script Question Answer) α) (f : α → ExceptT ε (Script Question Answer) β) (s : σ) :
    (x >>= f).run.run answer s = match x.run.run answer s with
      | (.ok a, t) => (f a).run.run answer t
      | (.error e, t) => (.error e, t) := by
  rw [ExceptT.run_bind, run_bind]
  rcases x.run.run answer s with ⟨a | e, t⟩ <;> rfl

def exchanges (answer : (q : Question) → σ → Answer q × σ) :
    Script Question Answer α → σ → List (Exchange Question Answer)
  | done _, _ => []
  | ask q next, s => ⟨q, (answer q s).1⟩ :: exchanges answer (next (answer q s).1) (answer q s).2

theorem exchanges_bind (answer : (q : Question) → σ → Answer q × σ) (p : Script Question Answer α)
    (f : α → Script Question Answer β) (s : σ) : (p >>= f).exchanges answer s =
      p.exchanges answer s ++ (f (p.run answer s).1).exchanges answer (p.run answer s).2 := by
  induction p generalizing s with
  | done a => rfl
  | ask q next ih => exact congrArg (_ :: ·) (ih _ _)

theorem answer_of_exchanges {answer : (q : Question) → σ → Answer q × σ} {p : Script Question Answer α}
    {s : σ} {q : Question} {a : Answer q} (h : p.exchanges answer s = ⟨q, a⟩ :: log) :
    (answer q s).1 = a := by
  cases p with
  | done b => cases h
  | ask q' next =>
    cases h
    rfl

theorem leads_exchanges (answer : (q : Question) → σ → Answer q × σ) (p : Script Question Answer α)
    (s : σ) : Leads p (p.exchanges answer s) (done (p.run answer s).1) := by
  induction p generalizing s with
  | done a => simp [exchanges]
  | ask q next ih => exact leads_ask.2 ⟨_, _, rfl, ih _ _⟩

end Script

end ChatRouter
