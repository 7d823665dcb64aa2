import ChatRouter.Dispatch.Host
import ChatRouter.Host.Echo

set_option autoImplicit false

/-!
# A session

The pipeline together with the executor that answers its requests, one after the other. The executor is
one more task: it moves by one request or one response at a time.
-/

namespace ChatRouter.Dispatch

def EventLoop.isFinished : EventLoop → Bool
  | finished => true
  | idle | handling _ _ | offering _ _ => false

def Router.isFinished : Router → Bool
  | finished => true
  | idle | routing _ => false

end ChatRouter.Dispatch

namespace ChatRouter.Host

open Dispatch

inductive Executor where
  | idle
  /-- Waits for room in the queue of responses. -/
  | answering (response : Response)
  | finished
deriving DecidableEq

structure Session where
  pipeline : Pipeline
  executor : Executor

namespace Session

def ofPipeline (p : Pipeline) : Session := ⟨p, .idle⟩

inductive Actor where
  | task (task : Task)
  | executor
deriving DecidableEq

def endExecutor (s : Session) : Session := ⟨s.pipeline.dropResponses.2.dropRequests.2, .finished⟩

/-- The executor ends with the requests, and also when nobody takes its responses. -/
def stepExecutor (s : Session) : Option Session :=
  match s.executor with
  | .idle =>
    match s.pipeline.requests.waiting with
    | request :: rest =>
      some ⟨{ s.pipeline with requests := { s.pipeline.requests with waiting := rest } },
        .answering (echo request)⟩
    | [] => if s.pipeline.events.isFinished then some s.endExecutor else none
  | .answering response =>
    if s.pipeline.router.isFinished then some s.endExecutor
    else if s.pipeline.takesResponses then
      some ⟨{ s.pipeline with responses := s.pipeline.responses ++ [response] }, .idle⟩
    else none
  | .finished => none

def step? (s : Session) : Actor → Option Session
  | .task t => (s.pipeline.step? t).map fun p => { s with pipeline := p }
  | .executor => s.stepExecutor

def Step (s t : Session) : Prop := ∃ a, s.step? a = some t

def finished (s : Session) : Bool := s.pipeline.finished && s.executor = .finished

end Session

def Executor.load : Executor → Nat
  | idle => 1
  | answering _ => 6
  | finished => 0

namespace Session

def load (s : Session) : Nat := 2 * s.pipeline.load + s.executor.load

def Nearer (t s : Session) : Prop :=
  Prod.Lex (· < ·) (Prod.Lex Script.Rest Script.Rest)
    (t.load, t.pipeline.events.work, t.pipeline.router.work)
    (s.load, s.pipeline.events.work, s.pipeline.router.work)

theorem wf_nearer : WellFounded Nearer :=
  InvImage.wf _ (Prod.lex ⟨_, Nat.lt_wfRel.wf⟩
    (Prod.lex ⟨_, Script.wf_rest⟩ ⟨_, Script.wf_rest⟩)).wf

instance : WellFoundedRelation Session := ⟨Nearer, wf_nearer⟩

theorem Nearer.of_load {t s : Session} (h : t.load < s.load) : Nearer t s := Prod.Lex.left _ _ h

theorem Nearer.of_pipeline {s : Session} {p : Pipeline} (h : p.Nearer s.pipeline) :
    Nearer { s with pipeline := p } s := by
  rcases Prod.lex_def.1 h with h | ⟨h, hw⟩
  · exact Nearer.of_load (by simp only [load] at h ⊢; omega)
  · unfold Nearer load
    simp only at h
    rw [h]
    exact Prod.Lex.right _ hw

theorem load_endExecutor_le (s : Session) : s.endExecutor.load ≤ 2 * s.pipeline.load := by
  simp only [load, endExecutor, Pipeline.dropRequests, Pipeline.dropResponses, Pipeline.load,
    Outbox.release, Executor.load, List.length_nil]
  omega

theorem nearer_of_stepExecutor {s t : Session} (h : s.stepExecutor = some t) : Nearer t s := by
  apply Nearer.of_load
  have he := load_endExecutor_le s
  unfold stepExecutor at h
  split at h
  · rename_i hs
    split at h
    · rename_i hw
      cases h
      simp only [load, hs, Executor.load, Pipeline.load, hw, List.length_cons]
      omega
    · split at h
      · cases h
        simp only [load, hs, Executor.load] at he ⊢
        omega
      · contradiction
  · rename_i hs
    split at h
    · cases h
      simp only [load, hs, Executor.load] at he ⊢
      omega
    · split at h
      · cases h
        simp only [load, hs, Executor.load, Pipeline.load, List.length_append, List.length_singleton]
        omega
      · contradiction
  · contradiction

theorem nearer_of_step {s t : Session} (h : s.Step t) : Nearer t s := by
  obtain ⟨a, h⟩ := h
  cases a with
  | task u =>
    obtain ⟨p, hp, rfl⟩ := Option.map_eq_some_iff.1 h
    exact Nearer.of_pipeline (Pipeline.nearer_of_step? hp)
  | executor => exact nearer_of_stepExecutor h

def schedule (s : Session) : List Actor := s.pipeline.schedule.map .task ++ [.executor]

def next? (s : Session) : Option Session := s.schedule.findSome? s.step?

theorem step_of_next? {s t : Session} (h : s.next? = some t) : s.Step t := by
  obtain ⟨a, -, h⟩ := List.exists_of_findSome?_eq_some h
  exact ⟨a, h⟩

def settle (s : Session) : Session :=
  match _h : s.next? with
  | some t => settle t
  | none => s
termination_by s
decreasing_by exact nearer_of_step (step_of_next? _h)

theorem next?_settle (s : Session) : s.settle.next? = none := by
  fun_induction settle s with
  | case1 s t h ih => exact ih
  | case2 s h => exact h

def deliver (s : Session) (adapter : String) (events : List Event) : Session :=
  { s with pipeline := events.foldl (fun p e => (p.deliver adapter e).2) s.pipeline }

def endStream (s : Session) (adapter : String) : Session :=
  { s with pipeline := (s.pipeline.endStream adapter).2 }

def takeSent (s : Session) : List Sent × Session :=
  let (sent, p) := s.pipeline.takeSent
  (sent, { s with pipeline := p })

end Session

end ChatRouter.Host
