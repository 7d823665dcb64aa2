import ChatRouter.Dispatch.Pipeline

set_option autoImplicit false

/-!
# Running until nothing moves

Every step uses something up: an event moves on towards the host as a request, a response towards the
router, or a task's work gets shorter. So the tasks, scheduled in any way, come to rest.
-/

namespace ChatRouter.Dispatch

def Forwarder.load : Forwarder → Nat
  | running => 1
  | waiting | ended => 0

def Connection.load (c : Connection) : Nat := 8 * c.inbox.length + c.forwarder.load

namespace EventLoop

def load : EventLoop → Nat
  | idle => 1
  | handling _ _ => 6
  | offering _ _ => 5
  | finished => 0

def work : EventLoop → Work (Option Request)
  | handling _ work => work
  | _ => .done none

end EventLoop

namespace Router

def load : Router → Nat
  | idle => 1
  | routing _ => 2
  | finished => 0

def work : Router → Work Unit
  | routing work => work
  | _ => .done ()

end Router

namespace Pipeline

def load (p : Pipeline) : Nat :=
  2 * p.unopened.length + p.connections.total Connection.load + 7 * p.held.length +
    6 * p.merged.length + p.events.load + 3 * p.requests.waiting.length + 2 * p.responses.length +
    p.router.load

def Nearer (q p : Pipeline) : Prop :=
  Prod.Lex (· < ·) (Prod.Lex Script.Rest Script.Rest)
    (q.load, q.events.work, q.router.work) (p.load, p.events.work, p.router.work)

theorem wf_nearer : WellFounded Nearer :=
  InvImage.wf _ (Prod.lex ⟨_, Nat.lt_wfRel.wf⟩
    (Prod.lex ⟨_, Script.wf_rest⟩ ⟨_, Script.wf_rest⟩)).wf

instance : WellFoundedRelation Pipeline := ⟨Nearer, wf_nearer⟩

theorem Nearer.of_load {q p : Pipeline} (h : q.load < p.load) : Nearer q p := Prod.Lex.left _ _ h

theorem Nearer.of_work {q p : Pipeline} (h : q.load = p.load)
    (hw : Prod.Lex Script.Rest Script.Rest (q.events.work, q.router.work) (p.events.work, p.router.work)) :
    Nearer q p := by
  unfold Nearer
  rw [h]
  exact Prod.Lex.right _ hw

theorem Nearer.load_le {q p : Pipeline} (h : Nearer q p) : q.load ≤ p.load := by
  rcases Prod.lex_def.1 h with h | h
  · exact Nat.le_of_lt h
  · exact Nat.le_of_eq h.1

theorem nearer_of_stepOpening {p q : Pipeline} (h : p.stepOpening = some q) : Nearer q p := by
  apply Nearer.of_load
  unfold stepOpening at h
  split at h
  · contradiction
  · rename_i a rest hu
    simp only at h
    split at h
    · rename_i adapter c _ hc
      have w := fun d => p.connections.total_insert Connection.load (b := d) hc
      split at h
      · cases h
        have := w { c with state := .listening, forwarder := .running }
        simp only [load, hu, List.length_cons, Connection.load, Forwarder.load] at this ⊢
        omega
      · cases h
        have := w { c with state := .errored }
        simp only [load, hu, List.length_cons, Connection.load] at this ⊢
        omega
    · cases h
      simp only [load, hu, List.length_cons]
      omega

theorem nearer_of_stepForwarder {p q : Pipeline} {a : String} (h : p.stepForwarder a = some q) :
    Nearer q p := by
  apply Nearer.of_load
  unfold stepForwarder at h
  split at h
  · rename_i e he
    split at h
    · cases h
      have hm := List.mem_of_find?_eq_some he
      have := List.find?_some he
      have := List.length_eraseP_of_mem (p := (·.1 == a)) hm this
      have := List.length_pos_of_mem hm
      simp only [load, List.length_append, List.length_singleton] at *
      omega
    · contradiction
  · split at h
    · rename_i c hc
      have w := fun d => p.connections.total_insert Connection.load (b := d) hc
      split at h
      · rename_i e rest hf hi
        cases h
        have := w { c with inbox := rest, state := c.state.after e }
        simp only [load, Connection.load, Forwarder.load, hi, List.length_append, List.length_cons,
          List.length_nil] at this ⊢
        omega
      · rename_i hf hi _
        cases h
        have := w { c with state := .closed, forwarder := .ended }
        simp only [load, Connection.load, Forwarder.load, hf, hi] at this ⊢
        omega
      · contradiction
    · contradiction

theorem nearer_of_stepEvents {p q : Pipeline} (h : p.stepEvents = some q) : Nearer q p := by
  unfold stepEvents at h
  split at h
  · rename_i he
    apply Nearer.of_load
    split at h
    · rename_i hm
      cases h
      simp only [load, hm, he, EventLoop.load, List.length_cons]
      omega
    · split at h
      · contradiction
      · cases h
        simp only [load, he, EventLoop.load]
        omega
  · rename_i a effect next he
    obtain rfl := Option.some.inj h
    refine Nearer.of_work (by simp only [load, he, EventLoop.load]) (Prod.Lex.left _ _ ?_)
    rw [he]
    exact ⟨_, rfl⟩
  · rename_i he
    cases h
    apply Nearer.of_load
    simp only [load, he, EventLoop.load]
    omega
  · rename_i he
    cases h
    apply Nearer.of_load
    simp only [load, he, EventLoop.load]
    omega
  · rename_i he
    apply Nearer.of_load
    split at h
    · cases h
      simp only [load, he, EventLoop.load]
      omega
    · split at h
      · cases h
        simp only [load, he, EventLoop.load, Outbox.push, List.length_append, List.length_singleton]
        omega
      · contradiction
  · contradiction

theorem nearer_of_stepRouter {p q : Pipeline} (h : p.stepRouter = some q) : Nearer q p := by
  unfold stepRouter at h
  split at h
  · rename_i hr
    apply Nearer.of_load
    split at h
    · rename_i hm
      cases h
      simp only [load, hm, hr, Router.load, List.length_cons]
      omega
    · split at h
      · contradiction
      · cases h
        simp only [load, hr, Router.load]
        omega
  · rename_i effect next hr
    obtain rfl := Option.some.inj h
    refine Nearer.of_work (by simp only [load, hr, Router.load]) (Prod.Lex.right _ ?_)
    rw [hr]
    exact ⟨_, rfl⟩
  · rename_i hr
    cases h
    apply Nearer.of_load
    simp only [load, hr, Router.load]
    omega
  · contradiction

theorem nearer_of_step? {p q : Pipeline} {t : Task} (h : p.step? t = some q) : Nearer q p := by
  cases t with
  | opening => exact nearer_of_stepOpening h
  | forwarder a => exact nearer_of_stepForwarder h
  | events =>
    simp only [step?] at h
    split at h
    · exact nearer_of_stepEvents h
    · contradiction
  | router =>
    simp only [step?] at h
    split at h
    · exact nearer_of_stepRouter h
    · contradiction

/-- The tasks in the order in which they are tried. Forwarders that wait for room get it in the order in
which they began to wait. -/
def schedule (p : Pipeline) : List Task :=
  .opening :: (p.connections.keys.filter fun a => !p.held.any (·.1 == a)).map .forwarder ++
    p.held.map (fun e => .forwarder e.1) ++ [.events, .router]

def next? (p : Pipeline) : Option Pipeline := p.schedule.findSome? p.step?

theorem step_of_next? {p q : Pipeline} (h : p.next? = some q) : p.Step q := by
  obtain ⟨t, -, h⟩ := List.exists_of_findSome?_eq_some h
  exact ⟨t, h⟩

theorem nearer_of_step {p q : Pipeline} (h : p.Step q) : Nearer q p := h.elim fun _ => nearer_of_step?

def settle (p : Pipeline) : Pipeline :=
  match _h : p.next? with
  | some q => settle q
  | none => p
termination_by p
decreasing_by exact nearer_of_step (step_of_next? _h)

theorem load_settle_le (p : Pipeline) : p.settle.load ≤ p.load := by
  fun_induction settle p with
  | case1 p q h ih => exact Nat.le_trans ih (nearer_of_step (step_of_next? h)).load_le
  | case2 p h => exact Nat.le_refl _

theorem next?_settle (p : Pipeline) : p.settle.next? = none := by
  fun_induction settle p with
  | case1 p q h ih => exact ih
  | case2 p h => exact h

end Pipeline

end ChatRouter.Dispatch
