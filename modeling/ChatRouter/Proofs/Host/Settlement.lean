import ChatRouter.Host.Console
import ChatRouter.Host.Startup
import ChatRouter.Proofs.Host.Progress
import ChatRouter.Proofs.Store.Books
import ChatRouter.Regex.Parser

set_option autoImplicit false

/-!
# Every request of a session is settled

A request is with the loop that has begun it, in the queue, with the executor as its response, in the other queue,
or with the router, and goes this way in order. Its record is closed before the router takes the next one. So when
all have finished, every request has been executed and routed once, and no record is left open.
-/

namespace ChatRouter

namespace Dispatch

open Store (Books)

variable {s t : Store} {begun closed : List Request} {w : World} {a : String} {pending current : Option Request}
  {effect : Effect}

theorem World.perform_ofStore (hw : w.data = .ofStore t) (c : Call) :
    (w.perform (.store c)).1 = (Store.perform c t).1 ∧
      (w.perform (.store c)).2.data = .ofStore (Store.perform c t).2 := by
  constructor
  · change (w.data.perform c).1 = _
    rw [hw]
    rfl
  · change (w.data.perform c).2 = _
    rw [hw]
    rfl

theorem World.data_perform (hw : w.data = .ofStore t) (hs : ∀ c, effect ≠ .store c) :
    (w.perform effect).2.data = .ofStore t := by
  cases effect with
  | store c => exact absurd rfl (hs c)
  | chat | report | count => exact hw

/-! ## The loop -/

theorem toList_loopWatch_next (hgood : (loopWatch a).good pending effect) (answer : effect.Answer) :
    ((loopWatch a).next pending effect answer).toList = pending.toList ++ (begunBy? effect answer).toList := by
  change (begunBy? effect answer <|> pending).toList = _
  rcases hgood with hplain | ⟨rfl, -, rfl, -⟩
  · simp [begunBy?_of_plain hplain]
  · simp

theorem books_works (h : Books s t begun closed) (hw : w.data = .ofStore t)
    (hgood : (loopWatch a).good pending effect) :
    (∀ r ∈ begunBy? effect (w.perform effect).1, r.adapter = a) ∧
      ∃ u, (w.perform effect).2.data = .ofStore u ∧
        Books s u (begun ++ (begunBy? effect (w.perform effect).1).toList) closed := by
  rcases hgood with hplain | ⟨-, x, rfl, hx⟩
  · rw [begunBy?_of_plain hplain, Option.toList_none, List.append_nil]
    refine ⟨by simp, ?_⟩
    cases effect with
    | store c =>
      refine ⟨_, (World.perform_ofStore hw c).2, h.idle ?_⟩
      rcases hplain with hnone | ⟨user, rfl⟩
      · simp [hnone]
      · simp [Call.part?]
    | chat | report | count => exact ⟨t, World.data_perform hw (by simp), h⟩
  · obtain ⟨hanswer, hdata⟩ := World.perform_ofStore hw (.requestBegin x)
    rw [hanswer]
    cases hb : (Store.perform (.requestBegin x) t).1 with
    | error cause =>
      refine ⟨fun q hq => ?_, t, ?_, ?_⟩
      · cases hq
      · rw [hdata, Store.perform_refused hb]
      · change Books s t (begun ++ []) closed
        rwa [List.append_nil]
    | ok r =>
      refine ⟨fun q hq => ?_, _, hdata, h.begins (Prod.ext hb rfl)⟩
      obtain rfl : r = q := Option.some.inj hq
      obtain ⟨-, rfl, -⟩ := Store.beginRequest_ok.1 (Prod.ext hb rfl)
      exact hx

def LoopOwes (adapters : Registry Adapter) (pending : Option Request) : EventLoop → Prop
  | .handling a work => (adapters.get? a).isSome = true ∧ HandsOut a pending work
  | .offering _ r => pending = some r
  | .idle | .finished => pending = none

/-! ## The router -/

/-- The request whose record the router is about to close, if it has not yet done so. -/
def RouterOwes (current : Option Request) : Router → Prop
  | .routing work =>
    match current with
    | some r => Closes (.requestClose r.id 0 none) false work
    | none => ∃ c, Closes c true work
  | .idle | .finished => current = none

theorem RouterOwes.ask {next : effect.Answer → Work Unit} (h : RouterOwes current (.routing (.ask effect next)))
    (answer : effect.Answer) :
    (∀ c, effect ≠ .store c) ∧ RouterOwes current (.routing (next answer)) ∨
      ∃ r, current = some r ∧ effect = .store (.requestClose r.id 0 none) ∧
        RouterOwes none (.routing (next answer)) := by
  cases current with
  | none =>
    obtain ⟨c, hgood, hnext⟩ := h
    cases effect with
    | store d => cases hgood.1
    | chat | report | count => exact .inl ⟨by simp, c, hnext answer⟩
  | some r =>
    obtain ⟨hgood, hnext⟩ := h
    cases effect with
    | store d =>
      obtain ⟨-, rfl⟩ := hgood
      exact .inr ⟨r, rfl, rfl, _, hnext answer⟩
    | chat | report | count => exact .inl ⟨by simp, hnext answer⟩

theorem RouterOwes.eq_none (h : RouterOwes current (.routing (.done ()))) : current = none := by
  cases current with
  | none => rfl
  | some r => cases h

theorem closing_echo {known : String → Bool} {r : Request} (h : known r.adapter = true) :
    closing known (Host.echo r) = .requestClose r.id 0 none := by
  change Call.requestClose r.id 0 (none <|> if known r.adapter then none else _) = _
  rw [if_pos h]
  rfl

namespace Pipeline.Ordered

variable {p : Pipeline} {adapters : Registry Adapter} {streams : String → List Event}

theorem isRegistered_eq (h : p.Ordered adapters streams) (a : String) :
    p.isRegistered a = (adapters.get? a).isSome := by
  obtain ⟨handled, raised, h⟩ := h
  rw [isRegistered, ← h.kept]

theorem isSome_of_merged (h : p.Ordered adapters streams) {a : String} {e : Event} {rest : List (String × Event)}
    (hm : p.merged = (a, e) :: rest) : (adapters.get? a).isSome = true := by
  obtain ⟨handled, raised, h⟩ := h
  rw [← h.keyed a]
  by_contra hnone
  have hpassed := h.strangers a (Option.not_isSome_iff_eq_none.1 hnone)
  have hempty : eventsOf a p.merged = [] := (List.append_eq_nil_iff.1 (List.append_eq_nil_iff.1 hpassed).1).2
  rw [hm, eventsOf_cons, eventsOf_own] at hempty
  cases hempty

end Pipeline.Ordered

end Dispatch

namespace Host

open Dispatch
open Store (Books)

def Executor.answer? : Executor → Option Response
  | answering r => some r
  | idle | finished => none

namespace Session

/-! ## What is recorded of a session -/

/-- The request that is begun by a move of the actor; the executor and the router are recorded likewise. -/
def begins (s : Session) : Actor → List Request
  | .task .events =>
    match s.pipeline.events with
    | .handling _ (.ask effect _) => (begunBy? effect (s.pipeline.world.perform effect).1).toList
    | _ => []
  | _ => []

def executes (s : Session) : Actor → List Request
  | .executor =>
    match s.executor, s.pipeline.requests.waiting with
    | .idle, r :: _ => [r]
    | _, _ => []
  | .task _ => []

def routes (s : Session) : Actor → List Response
  | .task .router =>
    match s.pipeline.router, s.pipeline.responses with
    | .idle, r :: _ => [r]
    | _, _ => []
  | _ => []

end Session

/-- A session, the requests begun and executed so far, and the responses routed. -/
structure Audit where
  session : Session
  begun : List Request
  executed : List Request
  routed : List Response

namespace Audit

open Session

def after (w : Audit) (a : Actor) (t : Session) : Audit :=
  ⟨t, w.begun ++ w.session.begins a, w.executed ++ w.session.executes a, w.routed ++ w.session.routes a⟩

def step (w : Audit) (a : Actor) : Audit :=
  match w.session.step? a with
  | some t => w.after a t
  | none => w

def run (w : Audit) (actors : List Actor) : Audit := actors.foldl step w

def start (settings : Settings) (hashes : Nat → PasswordHash) (s : Store) (adapters : Registry Adapter)
    (streams : String → List Event) : Audit :=
  ⟨.ofPipeline ((Pipeline.initial settings hashes (.ofStore s) adapters).fed streams), [], [], []⟩

def store (w : Audit) : Store := w.session.pipeline.world.data.store

/-! ## What holds throughout a session -/

/-- Where the requests are: `pending` with the loop, `current` and before it `closed` with the router. -/
structure Balanced (adapters : Registry Adapter) (s t : Store) (pending current : Option Request)
    (closed : List Request) (w : Audit) : Prop where
  data : w.session.pipeline.world.data = .ofStore t
  books : Books s t w.begun closed
  known : ∀ r ∈ w.begun, (adapters.get? r.adapter).isSome = true
  loop : LoopOwes adapters pending w.session.pipeline.events
  router : RouterOwes current w.session.pipeline.router
  begun : w.begun = w.executed ++ w.session.pipeline.requests.waiting ++ pending.toList
  executed : w.executed.map echo = w.routed ++ w.session.pipeline.responses ++ w.session.executor.answer?.toList
  routed : w.routed = (closed ++ current.toList).map echo

theorem after_eq {w : Audit} {a : Actor} (t : Session) (hb : w.session.begins a = [])
    (he : w.session.executes a = []) (hr : w.session.routes a = []) : w.after a t = { w with session := t } := by
  rw [after, hb, he, hr, List.append_nil, List.append_nil, List.append_nil]

variable {adapters : Registry Adapter} {streams : String → List Event} {s t : Store}
  {pending current : Option Request} {closed : List Request} {w : Audit}

theorem Balanced.aside (h : w.Balanced adapters s t pending current closed) {u : Task} {q : Pipeline}
    (hb : w.session.begins (.task u) = []) (hr : w.session.routes (.task u) = [])
    (hdata : q.world.data = w.session.pipeline.world.data) (hloop : LoopOwes adapters pending q.events)
    (hrouter : RouterOwes current q.router) (hrequests : q.requests = w.session.pipeline.requests)
    (hresponses : q.responses = w.session.pipeline.responses) :
    (w.after (.task u) { w.session with pipeline := q }).Balanced adapters s t pending current closed := by
  rw [after_eq _ hb rfl hr]
  refine ⟨hdata.trans h.data, h.books, h.known, hloop, hrouter, ?_, ?_, h.routed⟩
  · change _ = w.executed ++ q.requests.waiting ++ _
    rw [hrequests]
    exact h.begun
  · change _ = w.routed ++ q.responses ++ _
    rw [hresponses]
    exact h.executed

theorem Balanced.works (h : w.Balanced adapters s t pending current closed) {a : String} {effect : Effect}
    {next : effect.Answer → Work (Option Request)}
    (hloop : w.session.pipeline.events = .handling a (.ask effect next)) :
    let p := w.session.pipeline
    let r := p.world.perform effect
    ∃ u begun, (w.after (.task .events)
      { w.session with pipeline := { p with world := r.2, events := .handling a (next r.1) } }).Balanced
        adapters s u begun current closed := by
  intro p r
  have howes := h.loop
  rw [hloop] at howes
  obtain ⟨hadapter, hgood, hnext⟩ := howes
  obtain ⟨hfrom, u, hdata, hbooks⟩ := books_works h.books h.data hgood
  have hafter (q : Session) : w.after (.task .events) q =
      ⟨q, w.begun ++ (begunBy? effect r.1).toList, w.executed, w.routed⟩ := by
    simp [after, begins, executes, Session.routes, hloop, p, r]
  rw [hafter]
  refine ⟨u, (loopWatch a).next pending effect r.1, hdata, hbooks, fun q hq => ?_, ⟨hadapter, hnext r.1⟩, h.router,
    ?_, h.executed, h.routed⟩
  · rcases List.mem_append.1 hq with hq | hq
    · exact h.known q hq
    · rw [hfrom q (Option.mem_toList.1 hq)]
      exact hadapter
  · rw [toList_loopWatch_next hgood, ← List.append_assoc, h.begun]

theorem Balanced.emits (h : w.Balanced adapters s t pending current closed) {a : String} {r : Request} {v : World}
    (hloop : w.session.pipeline.events = .offering a r) (hv : v.data = w.session.pipeline.world.data) :
    let p := w.session.pipeline
    (w.after (.task .events)
      { w.session with
        pipeline := { p with requests := p.requests.push r, world := v, events := .idle } }).Balanced
        adapters s t none current closed := by
  intro p
  have howes := h.loop
  rw [hloop] at howes
  have hpending : pending = some r := howes
  rw [after_eq _ (by simp only [begins, hloop]) rfl rfl]
  refine ⟨hv.trans h.data, h.books, h.known, rfl, h.router, ?_, h.executed, h.routed⟩
  change w.begun = w.executed ++ (p.requests.waiting ++ [r]) ++ []
  rw [h.begun, hpending, List.append_nil, List.append_assoc]
  rfl

theorem Balanced.mem_begun (h : w.Balanced adapters s t pending current closed) {x : Request}
    (hx : echo x ∈ w.executed.map echo) : x ∈ w.begun := by
  obtain ⟨y, hy, hxy⟩ := List.mem_map.1 hx
  obtain rfl : y = x := congrArg Response.request hxy
  rw [h.begun, List.append_assoc]
  exact List.mem_append_left _ hy

theorem Balanced.routes (h : w.Balanced adapters s t pending current closed)
    (ho : w.session.pipeline.Ordered adapters streams) {r : Response} {rest : List Response}
    (hr : w.session.pipeline.router = .idle) (hwait : w.session.pipeline.responses = r :: rest) :
    let p := w.session.pipeline
    ∃ x, (w.after (.task .router)
      { w.session with
        pipeline := { p with responses := rest, router := .routing (route p.isRegistered r) } }).Balanced
        adapters s t pending (some x) closed := by
  intro p
  have howes := h.router
  rw [hr] at howes
  have hcurrent : current = none := howes
  have hexecuted := h.executed
  rw [hwait] at hexecuted
  -- What waits for the router is the echo of a request, whose adapter is registered.
  obtain ⟨x, -, rfl⟩ : ∃ x ∈ w.executed, echo x = r := by
    have hmem : r ∈ w.executed.map echo := by simp [hexecuted]
    exact List.mem_map.1 hmem
  have hknown : p.isRegistered x.adapter = true := by
    rw [ho.isRegistered_eq]
    exact h.known x (h.mem_begun (by simp [hexecuted]))
  have hafter (q : Session) : w.after (.task .router) q = ⟨q, w.begun, w.executed, w.routed ++ [echo x]⟩ := by
    simp [after, begins, executes, Session.routes, hr, hwait]
  rw [hafter]
  refine ⟨x, h.data, h.books, h.known, h.loop, ?_, h.begun, ?_, ?_⟩
  · change Closes (.requestClose x.id 0 none) false _
    rw [← closing_echo hknown]
    exact closes_route _ _
  · rw [hexecuted]
    simp
  · rw [h.routed, hcurrent]
    simp

theorem Balanced.answers (h : w.Balanced adapters s t pending current closed) {effect : Effect}
    {next : effect.Answer → Work Unit} (hr : w.session.pipeline.router = .routing (.ask effect next)) :
    let p := w.session.pipeline
    let r := p.world.perform effect
    ∃ u still done, (w.after (.task .router)
      { w.session with pipeline := { p with world := r.2, router := .routing (next r.1) } }).Balanced
        adapters s u pending still done := by
  intro p r
  have hroutes : w.session.routes (.task .router) = [] := by simp only [Session.routes, hr]
  have howes := h.router
  rw [hr] at howes
  rw [after_eq _ rfl rfl hroutes]
  rcases howes.ask r.1 with ⟨hother, hnext⟩ | ⟨x, rfl, rfl, hnext⟩
  · refine ⟨t, current, closed, World.data_perform h.data hother, h.books, h.known, h.loop, hnext, h.begun,
      h.executed, h.routed⟩
  · have hx : x ∈ w.begun := h.mem_begun (by simp [h.executed, h.routed])
    refine ⟨_, none, closed ++ [x], (World.perform_ofStore h.data _).2, h.books.closes hx, h.known, h.loop, hnext,
      h.begun, h.executed, ?_⟩
    rw [Option.toList_none, List.append_nil]
    exact h.routed

theorem Balanced.task (h : w.Balanced adapters s t pending current closed) (hl : w.session.Linked)
    (ho : w.session.pipeline.Ordered adapters streams) {u : Task} {q : Pipeline}
    (hm : w.session.pipeline.Moves u q) :
    ∃ t pending current closed,
      (w.after (.task u) { w.session with pipeline := q }).Balanced adapters s t pending current closed := by
  have hloops := h.loop
  have hrouter := h.router
  cases hm with
  | passes | listens | declines | merges | reads | closes =>
    exact ⟨_, _, _, _, h.aside rfl rfl rfl hloops hrouter rfl rfl⟩
  | takes _ hloop hmerged =>
    rw [hloop] at hloops
    obtain rfl : pending = none := hloops
    have howes := handsOut_handle w.session.pipeline.settings
    exact ⟨_, none, _, _, h.aside (by simp only [begins, hloop]) rfl rfl ⟨ho.isSome_of_merged hmerged, howes ..⟩
      hrouter rfl rfl⟩
  | finishes _ hloop =>
    rw [hloop] at hloops
    exact ⟨_, _, _, _, h.aside (by simp only [begins, hloop]) rfl rfl hloops hrouter rfl rfl⟩
  | ignores _ hloop | offers _ hloop =>
    rw [hloop] at hloops
    exact ⟨_, _, _, _, h.aside (by simp only [begins, hloop]) rfl rfl hloops.2 hrouter rfl rfl⟩
  | works _ hloop =>
    obtain ⟨u, begun, h⟩ := h.works hloop
    exact ⟨_, _, _, _, h⟩
  | loses _ hloop hheld =>
    -- The executor lets go of the requests only after the loop has finished.
    have hactive := (hl.active (hl.executor_ne_finished (by simp [hloop]))).1
    rw [hheld] at hactive
    cases hactive
  | emits _ hloop => exact ⟨_, _, _, _, h.emits hloop rfl⟩
  | routes _ hr hwait =>
    obtain ⟨x, h⟩ := h.routes ho hr hwait
    exact ⟨_, _, _, _, h⟩
  | retires _ hr hwait =>
    rw [hr] at hrouter
    exact ⟨_, _, _, _, h.aside rfl (by simp only [Session.routes, hr, hwait]) rfl hloops hrouter rfl rfl⟩
  | answers _ hr =>
    obtain ⟨u, still, done, h⟩ := h.answers hr
    exact ⟨_, _, _, _, h⟩
  | rests _ hr =>
    rw [hr] at hrouter
    exact ⟨_, _, _, _, h.aside rfl (by simp only [Session.routes, hr]) rfl hloops hrouter.eq_none rfl rfl⟩

theorem Balanced.moves (h : w.Balanced adapters s t pending current closed) (hl : w.session.Linked)
    (ho : w.session.pipeline.Ordered adapters streams) {a : Actor} {q : Session} (hm : w.session.Moves a q) :
    ∃ t pending current closed, (w.after a q).Balanced adapters s t pending current closed := by
  obtain ⟨hdata, hbooks, hknown, hloop, hrouter, hbegun, hexecuted, hrouted⟩ := id h
  cases hm with
  | proceeds hmove => exact h.task hl ho hmove
  | @executes r rest hidle hwait =>
    have hafter (q : Session) : w.after .executor q = ⟨q, w.begun, w.executed ++ [r], w.routed⟩ := by
      simp [after, begins, Session.executes, Session.routes, hidle, hwait]
    rw [hafter]
    refine ⟨t, pending, current, closed, hdata, hbooks, hknown, hloop, hrouter, ?_, ?_, hrouted⟩
    · rw [hbegun, hwait]
      simp
    · rw [List.map_append, hexecuted, hidle]
      simp [Executor.answer?]
  | ends hidle hwait hlast =>
    rw [after_eq _ rfl (by simp only [Session.executes, hidle, hwait]) rfl]
    refine ⟨t, pending, current, closed, hdata, hbooks, hknown, hloop, hrouter, ?_, ?_, hrouted⟩
    · rw [hbegun, hwait]
      rfl
    · rw [hexecuted, hidle]
      rfl
  | abandons hanswer hgone => exact absurd hgone (hl.active (by simp [hanswer])).2.2
  | @responds r hanswer htakes =>
    rw [after_eq _ rfl (by simp only [Session.executes, hanswer]) rfl]
    refine ⟨t, pending, current, closed, hdata, hbooks, hknown, hloop, hrouter, hbegun, ?_, hrouted⟩
    rw [hexecuted, hanswer]
    simp [Executor.answer?]

structure Sound (adapters : Registry Adapter) (streams : String → List Event) (s : Store) (w : Audit) : Prop where
  linked : w.session.Linked
  ordered : w.session.pipeline.Ordered adapters streams
  balanced : ∃ t pending current closed, w.Balanced adapters s t pending current closed

theorem Sound.step (h : w.Sound adapters streams s) (a : Actor) : (w.step a).Sound adapters streams s := by
  unfold Audit.step
  split
  · rename_i q hq
    have hm := step?_iff.1 hq
    obtain ⟨t, pending, current, closed, hbalanced⟩ := h.balanced
    exact ⟨h.linked.moves hm, ordered_of_moves h.ordered hm, hbalanced.moves h.linked h.ordered hm⟩
  · exact h

theorem Sound.run (h : w.Sound adapters streams s) (actors : List Actor) :
    (w.run actors).Sound adapters streams s := by
  induction actors generalizing w with
  | nil => exact h
  | cons a rest ih => exact ih (h.step a)

theorem sound_start (settings : Settings) (hashes : Nat → PasswordHash) (hs : s.Reachable)
    (adapters : Registry Adapter) (streams : String → List Event) :
    (start settings hashes s adapters streams).Sound adapters streams s where
  linked := by
    refine ⟨?_, fun _ => ⟨rfl, rfl, nofun⟩, nofun, nofun⟩
    change 0 < max 1 settings.buffers.requests
    omega
  ordered := ⟨[], [], Gathering.inOrder_start settings hashes (.ofStore s) adapters streams⟩
  balanced := ⟨s, none, none, [], rfl, Store.books_refl hs, nofun, rfl, rfl, rfl, rfl, rfl⟩

theorem Sound.exists_finish (h : w.Sound adapters streams s) : ∃ more, (w.run more).session.finished = true := by
  induction hsession : w.session using wf_nearer.induction generalizing w with
  | _ session ih =>
    cases hf : w.session.finished with
    | true => exact ⟨[], hf⟩
    | false =>
      obtain ⟨a, q, hm⟩ := h.linked.exists_moves h.ordered hf
      have hq : w.session.step? a = some q := step?_iff.2 hm
      have hstep : w.step a = w.after a q := by simp only [Audit.step, hq]
      have hsound := h.step a
      rw [hstep] at hsound
      obtain ⟨more, hmore⟩ := ih q (hsession ▸ nearer_of_step ⟨a, hq⟩) hsound rfl
      refine ⟨a :: more, ?_⟩
      change ((w.step a).run more).session.finished = true
      rw [hstep]
      exact hmore

theorem Sound.settled (h : w.Sound adapters streams s) (hf : w.session.finished = true) :
    w.executed = w.begun ∧ w.routed = w.begun.map echo ∧ Books s w.store w.begun w.begun := by
  obtain ⟨t, pending, current, closed, hdata, hbooks, -, hloop, hrouter, hbegun, hexecuted, hrouted⟩ := h.balanced
  rw [Session.finished, Bool.and_eq_true, decide_eq_true_iff] at hf
  obtain ⟨hpipeline, hover⟩ := hf
  obtain ⟨hlast, hwait, -⟩ := h.linked.ended hover
  have hgone : w.session.pipeline.router = .finished := by
    rw [Pipeline.finished, hlast] at hpipeline
    cases hr : w.session.pipeline.router with
    | finished => rfl
    | idle | routing => simp [hr] at hpipeline
  rw [hlast] at hloop
  rw [hgone] at hrouter
  obtain rfl : pending = none := hloop
  obtain rfl : current = none := hrouter
  have hresponses := h.linked.silent hgone
  rw [hwait] at hbegun
  rw [hresponses, hover] at hexecuted
  -- Nobody holds a request or a response, so what has come in at one end has gone out at the other.
  have hall : w.executed = w.begun := by simp [hbegun]
  have hecho : w.executed.map echo = closed.map echo := by simpa [Executor.answer?, hrouted] using hexecuted
  have hclosed : w.executed = closed := by
    -- An echo carries its request.
    have hback := congrArg (List.map Response.request) hecho
    simpa [Function.comp_def, echo, Response.success] using hback
  have hstore : w.store = t := congrArg Faulty.store hdata
  refine ⟨hall, ?_, ?_⟩
  · rw [hrouted, ← hall, hclosed]
    simp
  · rw [hstore]
    have hsame : closed = w.begun := hclosed.symm.trans hall
    rw [hsame] at hbooks
    exact hbooks

/-- Whatever the adapters answer and in whatever order the actors move, with any room in the queues: until all have
finished someone can move, and all can finish; and when they have, the requests executed and the responses routed
are those of the requests begun, in the order of their numbers, and each of these is closed with success. -/
theorem sessions_settle_every_request (settings : Settings) (hashes : Nat → PasswordHash) (engine : Regex.Engine)
    (made : List Call) (adapters : Registry Adapter) (streams : String → List Event) (actors : List Actor) :
    let s := Store.after made (.new engine)
    let w := (start settings hashes s adapters streams).run actors
    (w.session.finished = false → ∃ t, w.session.Step t) ∧
    (∃ more, (w.run more).session.finished = true) ∧
    (w.session.finished = true →
      w.executed = w.begun ∧ w.routed = w.begun.map echo ∧ (w.begun.map (·.id)).Pairwise (· < ·) ∧
      (∀ r ∈ w.begun, w.store.requests.get? r.id = some ⟨r, some 0, none, true⟩) ∧
      ∀ id record, w.store.requests.get? id = some record →
        s.requests.get? id = some record ∨ ∃ r ∈ w.begun, record = ⟨r, some 0, none, true⟩) := by
  intro s w
  have hs : s.Reachable := ⟨engine, made, rfl⟩
  have h : w.Sound adapters streams s := (sound_start settings hashes hs adapters streams).run actors
  refine ⟨fun hf => ?_, h.exists_finish, fun hf => ?_⟩
  · obtain ⟨a, t, hm⟩ := h.linked.exists_moves h.ordered hf
    exact ⟨t, a, step?_iff.2 hm⟩
  · obtain ⟨hexecuted, hrouted, hbooks⟩ := h.settled hf
    refine ⟨hexecuted, hrouted, hbooks.numbered, hbooks.closed, fun id record hid => ?_⟩
    refine (hbooks.others id record hid).imp_right ?_
    rintro ⟨r, hr, rfl⟩
    have hsettled := hbooks.closed r hr
    rw [hid] at hsettled
    exact ⟨r, hr, Option.some.inj hsettled⟩

def blank : Adapter where
  listen := .ok ()
  answer turn
    | .identify id => (Console.adapter (Console.operator none)).answer turn (.identify id)
    | c => c.refuse (.unavailable "closed")

def blankConsole : Registry Adapter := .ofMap ((∅ : SortedMap String Adapter).insert Console.name blank)

def oneLine (_ : String) : List Event :=
  [Console.opening, .directMessage ⟨Console.channelId, Console.operatorId, "!echo:echo hello"⟩, Console.closing]

def installed : List Call :=
  [.bundleCreate { Startup.echoBundle with enabled := true },
    .userCreate { User.named adminUser with email := some Console.operatorEmail }]

def narrow : Settings := ⟨some '!', true, false, false, false, ⟨1, 1, 1, 1⟩⟩

def rounds : List Actor :=
  (List.replicate 24 [.task .opening, .task (.forwarder Console.name), .task .events, .executor, .task .router]).flatten

theorem unseen_echo_is_settled :
    let w :=
      (start narrow (fun _ => .ofText "") (Store.after installed (.new .standard)) blankConsole oneLine).run rounds
    w.session.finished = true ∧ w.begun.map (·.parameters) = [["hello"]] ∧ w.executed = w.begun ∧
      w.routed = w.begun.map echo ∧ w.session.pipeline.world.sent = [] ∧
      ∀ id record, w.store.requests.get? id = some record → ∃ r ∈ w.begun, record = ⟨r, some 0, none, true⟩ := by
  have hsettles :=
    (sessions_settle_every_request narrow (fun _ => .ofText "") .standard installed blankConsole oneLine rounds).2.2
  have hfinished : ((start narrow (fun _ => .ofText "") (Store.after installed (.new .standard)) blankConsole
      oneLine).run rounds).session.finished = true := by decide +kernel
  have hbegun : ((start narrow (fun _ => .ofText "") (Store.after installed (.new .standard)) blankConsole oneLine).run
      rounds).begun.map (·.parameters) = [["hello"]] := by decide +kernel
  have hsent : ((start narrow (fun _ => .ofText "") (Store.after installed (.new .standard)) blankConsole oneLine).run
      rounds).session.pipeline.world.sent = [] := by decide +kernel
  have hnew : (Store.after installed (.new .standard)).requests.entries = [] := by decide +kernel
  revert hsettles hfinished hbegun hsent hnew
  generalize
    (start narrow (fun _ => .ofText "") (Store.after installed (.new .standard)) blankConsole oneLine).run rounds = w
  generalize Store.after installed (.new .standard) = s
  intro hsettles hfinished hbegun hsent hnew
  obtain ⟨hexecuted, hrouted, -, -, hrecords⟩ := hsettles hfinished
  refine ⟨hfinished, hbegun, hexecuted, hrouted, hsent, fun id record hid => ?_⟩
  refine (hrecords id record hid).resolve_left fun hold => ?_
  have hmem := (SortedMap.mem_entries_iff _ _ _).2 hold
  rw [hnew] at hmem
  cases hmem

end Audit

end Host

end ChatRouter
