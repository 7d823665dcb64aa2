import ChatRouter.Host.Session
import ChatRouter.Proofs.Dispatch.FanIn

set_option autoImplicit false

namespace ChatRouter

namespace Dispatch

theorem EventLoop.isFinished_iff {l : EventLoop} : l.isFinished = true ↔ l = .finished := by
  cases l <;> simp [isFinished]

theorem Router.isFinished_iff {r : Router} : r.isFinished = true ↔ r = .finished := by
  cases r <;> simp [isFinished]

namespace Pipeline

variable {p : Pipeline}

theorem takesResponses_iff : p.takesResponses = true ↔ p.router ≠ .finished ∧ p.responding = true ∧
    p.responses.length < max 1 p.settings.buffers.responses := by
  unfold takesResponses
  cases p.router <;> simp

theorem exists_opening (hu : p.unopened ≠ []) : ∃ q, p.Moves .opening q := by
  obtain ⟨a, rest, hu⟩ := List.exists_cons_of_ne_nil hu
  cases ha : p.world.adapters.get? a with
  | none => exact ⟨_, .passes hu (.inl ha)⟩
  | some adapter =>
    cases hc : p.connections.get? a with
    | none => exact ⟨_, .passes hu (.inr hc)⟩
    | some c =>
      cases hlisten : adapter.listen with
      | ok u => exact ⟨_, .listens hu ha hc hlisten⟩
      | error cause => exact ⟨_, .declines hu ha hc hlisten⟩

theorem exists_forwarder {a : String} {c : Connection} (hc : p.connections.get? a = some c)
    (hrun : c.forwarder = .running) (hend : c.ended = true) (hroom : p.hasRoom = true) :
    ∃ q, p.Moves (.forwarder a) q := by
  cases hheld : p.held.find? (·.1 == a) with
  | some e => exact ⟨_, .merges hheld hroom⟩
  | none =>
    cases hin : c.inbox with
    | cons e rest => exact ⟨_, .reads hheld hc hrun hin⟩
    | nil => exact ⟨_, .closes hheld hc hrun hin hend⟩

theorem exists_loop (hu : p.unopened = []) (hbusy : p.events ≠ .finished)
    (hidle : p.events = .idle → p.merged ≠ [] ∨ p.listening = false)
    (hoffering : ∀ a r, p.events = .offering a r → p.requests.held = true → p.requests.hasRoom = true) :
    ∃ q, p.Moves .events q := by
  cases hloop : p.events with
  | idle =>
    cases hm : p.merged with
    | cons e rest => exact ⟨_, .takes hu hloop hm⟩
    | nil => exact ⟨_, .finishes hu hloop hm ((hidle hloop).resolve_left (absurd hm))⟩
  | handling a work =>
    cases work with
    | ask effect next => exact ⟨_, .works hu hloop⟩
    | done result =>
      cases result with
      | none => exact ⟨_, .ignores hu hloop⟩
      | some r => exact ⟨_, .offers hu hloop⟩
  | offering a r =>
    cases hheld : p.requests.held with
    | false => exact ⟨_, .loses hu hloop hheld⟩
    | true => exact ⟨_, .emits hu hloop hheld (hoffering a r hloop hheld)⟩
  | finished => exact absurd hloop hbusy

theorem exists_router (hu : p.unopened = []) (hbusy : p.router ≠ .finished)
    (hwait : p.router = .idle → p.responses ≠ [] ∨ p.responding = false) : ∃ q, p.Moves .router q := by
  cases hr : p.router with
  | idle =>
    cases hresponses : p.responses with
    | cons r rest => exact ⟨_, .routes hu hr hresponses⟩
    | nil => exact ⟨_, .retires hu hr hresponses ((hwait hr).resolve_left (absurd hresponses))⟩
  | routing work =>
    cases work with
    | ask effect next => exact ⟨_, .answers hu hr⟩
    | done u => exact ⟨_, .rests hu hr⟩
  | finished => exact absurd hr hbusy

theorem exists_forwarding (h : p.listening = true) (hu : p.unopened = []) :
    ∃ a c, p.connections.get? a = some c ∧ c.forwarder = .running := by
  simp only [listening, hu, List.isEmpty_nil, Bool.not_true, Bool.false_or, List.any_eq_true] at h
  obtain ⟨c, hc, hrun⟩ := h
  obtain ⟨a, ha⟩ := (SortedMap.mem_values_iff _ _).1 hc
  exact ⟨a, c, ha, by simpa [Connection.isForwarding] using hrun⟩

/-- The pipeline belongs to a run on whole streams. -/
def Ordered (adapters : Registry Adapter) (streams : String → List Event) (p : Pipeline) : Prop :=
  ∃ handled raised, (⟨p, handled, raised⟩ : Gathering).InOrder adapters streams

variable {adapters : Registry Adapter} {streams : String → List Event}

theorem Ordered.moves {q : Pipeline} {t : Task} (h : p.Ordered adapters streams) (hm : p.Moves t q) :
    q.Ordered adapters streams := by
  obtain ⟨handled, raised, h⟩ := h
  exact ⟨_, _, h.moves hm⟩

theorem Ordered.calm {requests : Outbox Request} {responses : List Response} {responding : Bool}
    (h : p.Ordered adapters streams) :
    Ordered adapters streams { p with requests, responses, responding } := by
  obtain ⟨handled, raised, h⟩ := h
  exact ⟨handled, raised, h.calm rfl (List.Sublist.refl _)⟩

theorem Ordered.ended (h : p.Ordered adapters streams) {a : String} {c : Connection}
    (hc : p.connections.get? a = some c) : c.ended = true := by
  obtain ⟨handled, raised, h⟩ := h
  exact (h.carries a c hc).ended

theorem Ordered.drained (h : p.Ordered adapters streams) : Gathering.Drained p := by
  obtain ⟨handled, raised, h⟩ := h
  exact h.drained

end Pipeline

end Dispatch

namespace Host.Session

open Dispatch

inductive Moves (s : Session) : Actor → Session → Prop where
  | proceeds {t : Task} {q : Pipeline} (hmove : s.pipeline.Moves t q) : Moves s (.task t) { s with pipeline := q }
  | executes {r : Request} {rest : List Request} (hidle : s.executor = .idle)
      (hwait : s.pipeline.requests.waiting = r :: rest) :
      Moves s .executor
        ⟨{ s.pipeline with requests := { s.pipeline.requests with waiting := rest } }, .answering (echo r)⟩
  | ends (hidle : s.executor = .idle) (hwait : s.pipeline.requests.waiting = [])
      (hlast : s.pipeline.events = .finished) : Moves s .executor s.endExecutor
  | abandons {r : Response} (hanswer : s.executor = .answering r) (hgone : s.pipeline.router = .finished) :
      Moves s .executor s.endExecutor
  | responds {r : Response} (hanswer : s.executor = .answering r) (htakes : s.pipeline.takesResponses = true) :
      Moves s .executor ⟨{ s.pipeline with responses := s.pipeline.responses ++ [r] }, .idle⟩

variable {s t : Session}

theorem stepExecutor_iff : s.stepExecutor = some t ↔ s.Moves .executor t := by
  unfold stepExecutor
  constructor
  · intro h
    split at h
    · rename_i hidle
      split at h
      · rename_i hwait
        cases h
        exact .executes hidle hwait
      · rename_i hwait
        split at h
        · rename_i hlast
          cases h
          exact .ends hidle hwait (EventLoop.isFinished_iff.1 hlast)
        · cases h
    · rename_i hanswer
      split at h
      · rename_i hgone
        cases h
        exact .abandons hanswer (Router.isFinished_iff.1 hgone)
      · split at h
        · rename_i htakes
          cases h
          exact .responds hanswer htakes
        · cases h
    · cases h
  · intro h
    cases h with
    | executes hidle hwait => simp [hidle, hwait]
    | ends hidle hwait hlast => simp [hidle, hwait, EventLoop.isFinished_iff.2 hlast]
    | abandons hanswer hgone => simp [hanswer, Router.isFinished_iff.2 hgone]
    | responds hanswer htakes =>
      have hthere := (Pipeline.takesResponses_iff.1 htakes).1
      simp [hanswer, htakes, Router.isFinished_iff, hthere]

theorem step?_iff {a : Actor} : s.step? a = some t ↔ s.Moves a t := by
  cases a with
  | task u =>
    rw [step?, Option.map_eq_some_iff]
    constructor
    · rintro ⟨q, hq, rfl⟩
      exact .proceeds (Pipeline.step?_iff.1 hq)
    · rintro (h | _)
      exact ⟨_, Pipeline.step?_iff.2 h, rfl⟩
  | executor => exact stepExecutor_iff

/-- The executor holds its ends of the queues until the loop has finished and it has taken all requests, and the
router goes on until the executor has let go. -/
structure Linked (s : Session) : Prop where
  roomy : 0 < s.pipeline.requests.capacity
  active : s.executor ≠ .finished →
    s.pipeline.requests.held = true ∧ s.pipeline.responding = true ∧ s.pipeline.router ≠ .finished
  ended : s.executor = .finished →
    s.pipeline.events = .finished ∧ s.pipeline.requests.waiting = [] ∧ s.pipeline.responding = false
  silent : s.pipeline.router = .finished → s.pipeline.responses = []

theorem Linked.executor_ne_finished (h : s.Linked) (hbusy : s.pipeline.events ≠ .finished) :
    s.executor ≠ .finished := fun hover => hbusy (h.ended hover).1

theorem Linked.aside (h : s.Linked) {q : Pipeline} (hrequests : q.requests = s.pipeline.requests)
    (hresponses : q.responses = s.pipeline.responses) (hresponding : q.responding = s.pipeline.responding)
    (hevents : s.pipeline.events = .finished → q.events = .finished)
    (hrouter : q.router = .finished ↔ s.pipeline.router = .finished) : Linked { s with pipeline := q } := by
  refine ⟨?_, fun he => ?_, fun he => ?_, fun hr => ?_⟩
  · change 0 < q.requests.capacity
    rw [hrequests]
    exact h.roomy
  · obtain ⟨hheld, hopen, hthere⟩ := h.active he
    refine ⟨?_, hresponding.trans hopen, mt hrouter.1 hthere⟩
    change q.requests.held = true
    rw [hrequests]
    exact hheld
  · obtain ⟨hlast, hwait, hclosed⟩ := h.ended he
    refine ⟨hevents hlast, ?_, hresponding.trans hclosed⟩
    change q.requests.waiting = []
    rw [hrequests]
    exact hwait
  · exact hresponses.trans (h.silent (hrouter.1 hr))

theorem Linked.task (h : s.Linked) {u : Task} {q : Pipeline} (hm : s.pipeline.Moves u q) :
    Linked { s with pipeline := q } := by
  have haside := h.aside (q := q)
  cases hm with
  | passes | listens | declines | merges | reads | closes => exact haside rfl rfl rfl id Iff.rfl
  | takes _ hloop | works _ hloop | ignores _ hloop | offers _ hloop | finishes _ hloop | loses _ hloop =>
    exact haside rfl rfl rfl (by simp [hloop]) Iff.rfl
  | emits _ hloop =>
    -- A loop that moves has not finished, so neither has the executor.
    have hactive := h.executor_ne_finished (by simp [hloop])
    exact ⟨h.roomy, h.active, fun hover => absurd hover hactive, h.silent⟩
  | routes _ hr =>
    refine ⟨h.roomy, fun he => ?_, h.ended, nofun⟩
    obtain ⟨hheld, hopen, -⟩ := h.active he
    exact ⟨hheld, hopen, nofun⟩
  | answers _ hr | rests _ hr => exact haside rfl rfl rfl id (by simp [hr])
  | retires _ hr hwait hend =>
    refine ⟨h.roomy, fun he => ?_, h.ended, fun _ => hwait⟩
    -- Responses end when the executor does, not before.
    have hopen := (h.active he).2.1
    rw [hend] at hopen
    cases hopen

theorem Linked.moves (h : s.Linked) {a : Actor} (hm : s.Moves a t) : t.Linked := by
  cases hm with
  | proceeds hmove => exact h.task hmove
  | executes hidle hwait =>
    have hactive := h.active (by simp [hidle])
    exact ⟨h.roomy, fun _ => hactive, nofun, h.silent⟩
  | ends hidle hwait hlast =>
    exact ⟨h.roomy, fun hne => absurd rfl hne, fun _ => ⟨hlast, rfl, rfl⟩, h.silent⟩
  | abandons hanswer hgone => exact absurd hgone (h.active (by simp [hanswer])).2.2
  | responds hanswer htakes =>
    have hactive := h.active (by simp [hanswer])
    exact ⟨h.roomy, fun _ => hactive, nofun, fun hgone => absurd hgone hactive.2.2⟩

section Progress

variable {adapters : Registry Adapter} {streams : String → List Event}

theorem ordered_of_moves (h : s.pipeline.Ordered adapters streams) {a : Actor} (hm : s.Moves a t) :
    t.pipeline.Ordered adapters streams := by
  cases hm with
  | proceeds hmove => exact h.moves hmove
  | executes | ends | abandons | responds => exact h.calm

theorem exists_task {u : Task} (h : ∃ q, s.pipeline.Moves u q) : ∃ a t, s.Moves a t := by
  obtain ⟨q, hmove⟩ := h
  exact ⟨_, _, .proceeds hmove⟩

theorem Linked.exists_of_idle (h : s.Linked) (ho : s.pipeline.Ordered adapters streams)
    (hu : s.pipeline.unopened = []) (hidle : s.executor = .idle) : ∃ a t, s.Moves a t := by
  cases hwait : s.pipeline.requests.waiting with
  | cons r rest => exact ⟨_, _, .executes hidle hwait⟩
  | nil =>
    by_cases hlast : s.pipeline.events = .finished
    · exact ⟨_, _, .ends hidle hwait hlast⟩
    · by_cases hquiet : s.pipeline.merged = [] ∧ s.pipeline.listening = true
      · obtain ⟨hmerged, hlistening⟩ := hquiet
        obtain ⟨a, c, hc, hrun⟩ := Pipeline.exists_forwarding hlistening hu
        -- Nothing is merged, so there is room for what a forwarder holds.
        have hroom : s.pipeline.hasRoom = true := by
          rw [Pipeline.hasRoom, hmerged, decide_eq_true_iff, List.length_nil]
          omega
        exact exists_task (Pipeline.exists_forwarder hc hrun (ho.ended hc) hroom)
      · have hroom : s.pipeline.requests.hasRoom = true := by
          rw [Outbox.hasRoom, hwait]
          exact decide_eq_true h.roomy
        rw [not_and_or, Bool.not_eq_true] at hquiet
        exact exists_task (Pipeline.exists_loop hu hlast (fun _ => hquiet) fun _ _ _ _ => hroom)

theorem Linked.exists_of_answering (h : s.Linked) (hu : s.pipeline.unopened = []) {r : Response}
    (hanswer : s.executor = .answering r) : ∃ a t, s.Moves a t := by
  obtain ⟨-, hopen, hthere⟩ := h.active (by simp [hanswer])
  by_cases hresponses : s.pipeline.responses = []
  · refine ⟨_, _, .responds hanswer (Pipeline.takesResponses_iff.2 ⟨hthere, hopen, ?_⟩)⟩
    rw [hresponses, List.length_nil]
    omega
  · exact exists_task (Pipeline.exists_router hu hthere fun _ => .inl hresponses)

theorem Linked.exists_of_over (h : s.Linked) (ho : s.pipeline.Ordered adapters streams)
    (hu : s.pipeline.unopened = []) (hover : s.executor = .finished) (hf : s.finished = false) :
    ∃ a t, s.Moves a t := by
  obtain ⟨hlast, -, hclosed⟩ := h.ended hover
  have hquiet : s.pipeline.listening = false := by
    rw [← Bool.not_eq_true]
    intro hlistening
    obtain ⟨a, c, hc, hrun⟩ := Pipeline.exists_forwarding hlistening hu
    exact (ho.drained hlast).2.2 a c hc hrun
  refine exists_task (Pipeline.exists_router hu (fun hgone => ?_) fun _ => .inr hclosed)
  simp [finished, Pipeline.finished, hquiet, hlast, hgone, hover] at hf

theorem Linked.exists_moves (h : s.Linked) (ho : s.pipeline.Ordered adapters streams)
    (hf : s.finished = false) : ∃ a t, s.Moves a t := by
  by_cases hu : s.pipeline.unopened = []
  · cases he : s.executor with
    | idle => exact h.exists_of_idle ho hu he
    | answering r => exact h.exists_of_answering hu he
    | finished => exact h.exists_of_over ho hu he hf
  · exact exists_task (Pipeline.exists_opening hu)

end Progress

end Host.Session

end ChatRouter
