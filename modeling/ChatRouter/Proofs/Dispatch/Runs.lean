import ChatRouter.Proofs.Dispatch.Emissions

set_option autoImplicit false

/-!
# Runs of a pipeline

The tasks and the host act in any order, adapters are replaced, store calls are made to fail, and between
two messages the host changes the store. Whatever happens, every request that goes out is sound, and the
requests are numbered upwards (`requests_are_sound`).
-/

namespace ChatRouter.Dispatch

open Script (Leads Asks)
open WorkLog (calls sends ofCalls)

/-! ## What happens -/

inductive Happening where
  | task (task : Task)
  | deliver (adapter : String) (event : Event)
  | endStream (adapter : String)
  | takeRequest
  | takeFailure
  | takeSent
  | respond (response : Response)
  | dropRequests
  | dropFailures
  | dropResponses
  | abort
  | replaceAdapter (name : String) (change : Adapter → Adapter)
  /-- The next store calls of the kind will meet these outcomes. -/
  | outage (kind : String) (outcomes : List (Option DataError))
  | call (call : Call)

namespace Pipeline

def happen (p : Pipeline) : Happening → Pipeline
  | .task t => (p.step? t).getD p
  | .deliver a e => (p.deliver a e).2
  | .endStream a => (p.endStream a).2
  | .takeRequest => p.takeRequest.2
  | .takeFailure => p.takeFailure.2
  | .takeSent => p.takeSent.2
  | .respond r => (p.respond r).2
  | .dropRequests => p.dropRequests.2
  | .dropFailures => p.dropFailures.2
  | .dropResponses => p.dropResponses.2
  | .abort => p.abort
  | .replaceAdapter name f => p.replaceAdapter name f
  | .outage kind outcomes => { p with world := { p.world with data := p.world.data.schedule kind outcomes } }
  | .call c => { p with world := { p.world with data := (p.world.data.perform c).2 } }

end Pipeline

def Happening.Genuine : Happening → Prop
  | .outage kind outcomes => ∀ e, some e ∈ outcomes → ChatRouter.Genuine kind e
  | _ => True

/-! ## What is recorded of a run -/

/-- A pipeline, the turn of its loop and the requests that have gone out so far. -/
structure Observed where
  pipeline : Pipeline
  turn : Option Turn
  emitted : List Emission

namespace Observed

def store (o : Observed) : Store := o.pipeline.world.data.store

def onMessage (o : Observed) : Bool :=
  match o.pipeline.events with
  | .handling _ _ => o.turn.any (·.event.message?.isSome)
  | _ => false

/-- Records a step of the loop to `q`: it takes an event, it has an effect, or it hands out a request. -/
def record (o : Observed) (q : Pipeline) : Observed :=
  match o.pipeline.events, o.pipeline.merged with
  | .idle, (a, e) :: _ => { o with pipeline := q, turn := some ⟨a, e, o.store, [], o.store⟩ }
  | .handling _ (.ask effect _), _ =>
    let answer := (o.pipeline.world.perform effect).1
    let extend (t : Turn) : Turn :=
      { t with log := t.log ++ [⟨effect, answer⟩], after := q.world.data.store }
    { o with pipeline := q, turn := o.turn.map extend }
  | .offering _ r, _ =>
    let out := if o.pipeline.requests.held then o.turn.toList.map fun t => ⟨t, r⟩ else []
    { o with pipeline := q, emitted := o.emitted ++ out }
  | _, _ => { o with pipeline := q }

def step (o : Observed) : Happening → Observed
  | .task .events =>
    match o.pipeline.step? .events with
    | some q => o.record q
    | none => o
  | .call c => if o.onMessage then o else { o with pipeline := o.pipeline.happen (.call c) }
  | h => { o with pipeline := o.pipeline.happen h }

def run (o : Observed) (happenings : List Happening) : Observed := happenings.foldl step o

end Observed

/-! ## What holds throughout a run -/

def Closing : Effect → Prop
  | .store c => ∃ id status error, c = .requestClose id status error
  | .chat _ _ | .report _ | .count _ => True

/-- The turn of a message: it began in a reachable store that knew all requests so far, and whatever has
happened to the store since is on its log, but for what the router does. -/
structure Turn.Follows (t : Turn) (emitted : List Emission) (s : Store) : Prop where
  reachable : t.before.Reachable
  chronicle : Chronicle .routing t.before (calls t.log) t.after
  since : t.after.Alike s
  later : ∀ e ∈ emitted, e.request.id ≤ t.before.lastRequest

/-- What the state of the loop promises. -/
def LoopSound (settings : Settings) (turn : Option Turn) (emitted : List Emission) (s : Store) :
    EventLoop → Prop
  | .handling a work => ∃ t hash, turn = some t ∧ t.adapter = a ∧
    Leads (handle settings hash a t.event) t.log work ∧
    (t.event.message?.isSome = true → t.Follows emitted s)
  | .offering _ r => ∃ t, turn = some t ∧ Emission.Sound ⟨t, r⟩ ∧
    ((calls t.log).KeepsContract → Emission.Identified settings ⟨t, r⟩) ∧
    (∀ e ∈ emitted, e.request.id < r.id) ∧ s.Records r
  | .idle | .finished => True

structure Observed.Sound (settings : Settings) (o : Observed) : Prop where
  configured : o.pipeline.settings = settings
  reachable : o.store.Reachable
  routing : Asks Closing o.pipeline.router.work
  loop : LoopSound settings o.turn o.emitted o.store o.pipeline.events
  emitted : ∀ e ∈ o.emitted, e.Sound ∧ ((calls e.turn.log).KeepsContract → e.Identified settings)
  numbered : (o.emitted.map (·.request.id)).Pairwise (· < ·)
  recorded : ∀ e ∈ o.emitted, o.store.Records e.request
  waiting : o.pipeline.requests.waiting <:+ o.emitted.map (·.request)

/-! ### Routing -/

theorem asks_closeRecord (r : Response) (fallback : Option String) :
    Asks Closing (closeRecord r fallback) := by
  refine Asks.bind (Script.asks_question ⟨_, _, _, rfl⟩) fun a => ?_
  split
  · exact Script.asks_pure _
  · exact Script.asks_question trivial

theorem asks_countRouted (adapter : String) : Asks Closing (countRouted adapter) :=
  Asks.bind (Script.asks_question trivial) fun _ => Script.asks_question trivial

theorem asks_deliver (r : Response) (c : ChatCall) : Asks Closing (deliver r c) := by
  refine Asks.bind (Script.asks_question trivial) fun a => ?_
  split
  · exact asks_countRouted _
  · exact Script.asks_question trivial

theorem asks_route (known : String → Bool) (r : Response) : Asks Closing (route known r) := by
  unfold route
  split
  · exact Asks.bind (Script.asks_question trivial) fun _ => asks_closeRecord r _
  · split
    · exact Asks.bind (asks_deliver r _) fun _ => asks_closeRecord r _
    · exact Asks.bind (asks_countRouted _) fun _ => asks_closeRecord r _

theorem World.alike_perform {e : Effect} (h : Closing e) (w : World) :
    w.data.store.Alike (w.perform e).2.data.store := by
  rcases World.store_perform e w with hs | ⟨c, rfl, hs⟩
  · rw [hs]
    exact .refl _
  · obtain ⟨id, status, error, rfl⟩ := h
    rw [hs]
    exact Store.alike_close ..

namespace Pipeline

variable {p q : Pipeline}

/-- From `p` to `q` neither the store nor the work of the loop changes, though the loop may end. -/
structure Aside (p q : Pipeline) : Prop where
  settings : q.settings = p.settings
  data : q.world.data = p.world.data
  events : q.events = p.events ∨ q.events = .idle ∨ q.events = .finished
  waiting : q.requests.waiting <:+ p.requests.waiting
  routing : Asks Closing p.router.work → Asks Closing q.router.work

theorem Aside.refl (p : Pipeline) : p.Aside p := ⟨rfl, rfl, .inl rfl, List.suffix_refl _, id⟩

theorem aside_stepOpening (h : p.stepOpening = some q) : p.Aside q := by
  unfold stepOpening at h
  split at h
  · contradiction
  · dsimp only at h
    split at h
    · split at h
      all_goals
        cases h
        exact ⟨rfl, rfl, .inl rfl, List.suffix_refl _, id⟩
    · cases h
      exact ⟨rfl, rfl, .inl rfl, List.suffix_refl _, id⟩

theorem aside_stepForwarder {a : String} (h : p.stepForwarder a = some q) : p.Aside q := by
  unfold stepForwarder at h
  split at h
  · split at h
    · cases h
      exact ⟨rfl, rfl, .inl rfl, List.suffix_refl _, id⟩
    · contradiction
  · split at h
    · split at h
      · cases h
        exact ⟨rfl, rfl, .inl rfl, List.suffix_refl _, id⟩
      · cases h
        exact ⟨rfl, rfl, .inl rfl, List.suffix_refl _, id⟩
      · contradiction
    · contradiction

theorem aside_onOpen (p : Pipeline) (a : String) (accepts : Connection → Bool)
    (change : Connection → Connection) : p.Aside (p.onOpen a accepts change).2 := by
  unfold onOpen
  split
  · split
    · exact ⟨rfl, rfl, .inl rfl, List.suffix_refl _, id⟩
    · exact .refl p
  · exact .refl p

theorem aside_takeRequest (p : Pipeline) : p.Aside p.takeRequest.2 := by
  refine ⟨rfl, rfl, .inl rfl, ?_, id⟩
  unfold takeRequest Outbox.take
  dsimp only
  split
  · rename_i hw
    rw [hw]
    exact List.suffix_cons ..
  · exact List.suffix_refl _

theorem aside_respond (p : Pipeline) (r : Response) : p.Aside (p.respond r).2 := by
  unfold respond
  split
  · exact ⟨rfl, rfl, .inl rfl, List.suffix_refl _, id⟩
  · exact .refl p

end Pipeline

theorem Turn.Follows.perform {t : Turn} {emitted : List Emission} {w : World}
    (h : t.Follows emitted w.data.store) (e : Effect) :
    Turn.Follows
      { t with log := t.log ++ [⟨e, (w.perform e).1⟩], after := (w.perform e).2.data.store } emitted
      (w.perform e).2.data.store where
  reachable := h.reachable
  chronicle := by
    rw [WorkLog.calls_append]
    exact Chronicle.append_iff.2 ⟨_, h.chronicle.drift h.since, World.chronicle_perform w.data.faults.only_anything e⟩
  since := .refl _
  later := h.later

namespace Observed

open Pipeline (openSettings openStore annsAdapter)

variable {settings : Settings} {o : Observed} {p q : Pipeline}

theorem Sound.change (h : o.Sound settings) (hset : q.settings = o.pipeline.settings)
    (hreach : q.world.data.store.Reachable)
    (hrouting : Asks Closing q.router.work)
    (hevents : q.events = o.pipeline.events ∨ q.events = .idle ∨ q.events = .finished)
    (halike : o.onMessage = true → o.store.Alike q.world.data.store)
    (hrecords : ∀ r, o.store.Records r → q.world.data.store.Records r)
    (hwaiting : q.requests.waiting <:+ o.pipeline.requests.waiting) :
    ({ o with pipeline := q } : Observed).Sound settings where
  configured := hset.trans h.configured
  reachable := hreach
  routing := hrouting
  loop := by
    change LoopSound settings o.turn o.emitted q.world.data.store q.events
    rcases hevents with he | he | he
    · have hloop := h.loop
      rw [he]
      cases hp : o.pipeline.events with
      | handling a work =>
        rw [hp] at hloop
        obtain ⟨t, hash, ht, ha, hlead, hfollows⟩ := hloop
        refine ⟨t, hash, ht, ha, hlead, fun hm => ?_⟩
        have hf := hfollows hm
        have hon : o.onMessage = true := by simp [onMessage, hp, ht, hm]
        exact ⟨hf.reachable, hf.chronicle, hf.since.trans (halike hon), hf.later⟩
      | offering a r =>
        rw [hp] at hloop
        obtain ⟨t, ht, hs, hid, hlt, hr⟩ := hloop
        exact ⟨t, ht, hs, hid, hlt, hrecords r hr⟩
      | idle => trivial
      | finished => trivial
    · rw [he]
      trivial
    · rw [he]
      trivial
  emitted := h.emitted
  numbered := h.numbered
  recorded e he := hrecords _ (h.recorded e he)
  waiting := hwaiting.trans h.waiting

theorem Sound.aside (h : o.Sound settings) (hq : o.pipeline.Aside q) :
    ({ o with pipeline := q } : Observed).Sound settings := by
  have hstore : q.world.data.store = o.store := congrArg Faulty.store hq.data
  refine h.change hq.settings ?_ (hq.routing h.routing) hq.events ?_ ?_ hq.waiting
  · rw [hstore]
    exact h.reachable
  · intro _
    rw [hstore]
    exact .refl _
  · rw [hstore]
    exact fun _ => id

theorem Sound.stepRouter (h : o.Sound settings) (hq : o.pipeline.stepRouter = some q) :
    ({ o with pipeline := q } : Observed).Sound settings := by
  have hrouting := h.routing
  unfold Pipeline.stepRouter at hq
  split at hq
  · split at hq
    · cases hq
      exact h.aside ⟨rfl, rfl, .inl rfl, List.suffix_refl _, fun _ => asks_route _ _⟩
    · split at hq
      · contradiction
      · cases hq
        exact h.aside ⟨rfl, rfl, .inl rfl, List.suffix_refl _, fun _ => trivial⟩
  · rename_i effect next he
    cases hq
    rw [he] at hrouting
    obtain ⟨hclosing, hnext⟩ := hrouting
    exact h.change rfl (World.reachable_perform h.reachable effect) (hnext _) (.inl rfl)
      (fun _ => World.alike_perform hclosing _) (fun _ hr => World.records_perform hr h.reachable effect)
      (List.suffix_refl _)
  · cases hq
    exact h.aside ⟨rfl, rfl, .inl rfl, List.suffix_refl _, fun _ => trivial⟩
  · contradiction

theorem Sound.takes (h : o.Sound settings) {a : String} {e : Event} {rest : List (String × Event)} :
    let p := o.pipeline
    (⟨{ p with
        merged := rest
        taken := p.taken + 1
        world := p.world.count ⟨.eventsReceived, [a]⟩
        events := .handling a (handle p.settings (p.hashes p.taken) a e) },
      some ⟨a, e, o.store, [], o.store⟩, o.emitted⟩ : Observed).Sound settings := by
  intro p
  obtain ⟨hset, hreach, hrouting, -, hem, hnum, hrec, hwait⟩ := h
  refine ⟨hset, hreach, hrouting, ?_, hem, hnum, hrec, hwait⟩
  have hlater : ∀ x ∈ o.emitted, x.request.id ≤ o.store.lastRequest :=
    fun x hx => (hrec x hx).number_le hreach.ledgerSound
  refine ⟨_, p.hashes p.taken, rfl, rfl, ?_, fun _ => ⟨hreach, .rest (.refl _), .refl _, hlater⟩⟩
  rw [← hset]
  exact (Script.leads_nil ..).2 rfl

theorem Sound.works (h : o.Sound settings) {a : String} {effect : Effect}
    {next : effect.Answer → Work (Option Request)} (he : o.pipeline.events = .handling a (.ask effect next)) :
    let p := o.pipeline
    let r := p.world.perform effect
    let extend (t : Turn) : Turn := { t with log := t.log ++ [⟨effect, r.1⟩], after := r.2.data.store }
    (⟨{ p with world := r.2, events := .handling a (next r.1) }, o.turn.map extend, o.emitted⟩
      : Observed).Sound settings := by
  intro p r extend
  obtain ⟨hset, hreach, hrouting, hloop, hem, hnum, hrec, hwait⟩ := h
  rw [he] at hloop
  obtain ⟨t, hash, ht, ha, hlead, hfollows⟩ := hloop
  refine ⟨hset, World.reachable_perform hreach effect, hrouting, ?_, hem, hnum,
    fun x hx => World.records_perform (hrec x hx) hreach effect, hwait⟩
  exact ⟨extend t, hash, by rw [ht]; rfl, ha, hlead.concat r.1, fun hm => (hfollows hm).perform effect⟩

theorem Sound.offers (h : o.Sound settings) {a : String} {r : Request}
    (he : o.pipeline.events = .handling a (.done (some r))) :
    ({ o with pipeline := { o.pipeline with events := .offering a r } } : Observed).Sound settings := by
  obtain ⟨hset, hreach, hrouting, hloop, hem, hnum, hrec, hwait⟩ := h
  rw [he] at hloop
  obtain ⟨t, hash, ht, rfl, hlead, hfollows⟩ := hloop
  obtain ⟨m, hm, -⟩ := message_of_leads hlead
  have hf := hfollows (by rw [hm]; rfl)
  obtain ⟨hsound, hidentified, hid⟩ := Turn.sound_of_leads hlead hf.reachable hf.chronicle
  refine ⟨hset, hreach, hrouting, ?_, hem, hnum, hrec, hwait⟩
  refine ⟨t, ht, hsound, hidentified, fun x hx => ?_, hf.since.records hsound.recorded⟩
  have := hf.later x hx
  omega

theorem Sound.emits (h : o.Sound settings) {a : String} {r : Request}
    (he : o.pipeline.events = .offering a r) :
    let p := o.pipeline
    (⟨{ p with
        requests := p.requests.push r
        world := p.world.count ⟨.requestsEmitted, [a]⟩
        events := .idle },
      o.turn, o.emitted ++ o.turn.toList.map fun t => ⟨t, r⟩⟩ : Observed).Sound settings := by
  intro p
  obtain ⟨hset, hreach, hrouting, hloop, hem, hnum, hrec, hwait⟩ := h
  rw [he] at hloop
  obtain ⟨t, ht, hsound, hidentified, hlt, hr⟩ := hloop
  rw [ht]
  refine ⟨hset, hreach, hrouting, trivial, ?_, ?_, ?_, ?_⟩
  · exact fun x hx => (List.mem_append.1 hx).elim (hem x) fun hx =>
      List.mem_singleton.1 hx ▸ ⟨hsound, hidentified⟩
  · simp only [Option.toList_some, List.map_append, List.map_cons, List.map_nil]
    refine List.pairwise_append.2 ⟨hnum, List.pairwise_singleton .., fun i hi j hj => ?_⟩
    obtain ⟨x, hx, rfl⟩ := List.mem_map.1 hi
    rw [List.mem_singleton.1 hj]
    exact hlt x hx
  · exact fun x hx => (List.mem_append.1 hx).elim (hrec x) fun hx => List.mem_singleton.1 hx ▸ hr
  · obtain ⟨before, hbefore⟩ := hwait
    refine ⟨before, ?_⟩
    change before ++ (o.pipeline.requests.waiting ++ [r]) = _
    simp [← hbefore]

theorem Sound.record (h : o.Sound settings) (hq : o.pipeline.stepEvents = some q) :
    (o.record q).Sound settings := by
  unfold Pipeline.stepEvents at hq
  unfold Observed.record
  split at hq
  · rename_i he
    rw [he]
    split at hq
    · rename_i a e rest hm
      cases hq
      rw [hm]
      exact h.takes
    · rename_i hm
      split at hq
      · contradiction
      · cases hq
        rw [hm]
        exact h.aside ⟨rfl, rfl, .inr (.inr rfl), List.suffix_refl _, id⟩
  · rename_i he
    cases hq
    rw [he]
    exact h.works he
  · rename_i he
    cases hq
    rw [he]
    exact h.aside ⟨rfl, rfl, .inr (.inl rfl), List.suffix_refl _, id⟩
  · rename_i he
    cases hq
    rw [he]
    exact h.offers he
  · rename_i he
    rw [he]
    split at hq
    · rename_i hheld
      cases hq
      have hlost : o.pipeline.requests.held = false := by simpa using hheld
      simp only [hlost, Bool.false_eq_true, if_false, List.append_nil]
      exact h.aside ⟨rfl, rfl, .inr (.inl rfl), List.suffix_refl _, id⟩
    · rename_i hheld
      split at hq
      · cases hq
        have hkept : o.pipeline.requests.held = true := by simpa using hheld
        simp only [hkept, if_true]
        exact h.emits he
      · contradiction
  · contradiction

theorem Sound.moves (h : o.Sound settings) {t : Task} (ht : t ≠ .events) (hq : o.pipeline.step? t = some q) :
    ({ o with pipeline := q } : Observed).Sound settings := by
  cases t with
  | opening => exact h.aside (Pipeline.aside_stepOpening hq)
  | forwarder a => exact h.aside (Pipeline.aside_stepForwarder hq)
  | events => exact absurd rfl ht
  | router =>
    unfold Pipeline.step? at hq
    dsimp only at hq
    split at hq
    · exact h.stepRouter hq
    · contradiction

/-- A task moves or not, and only what the loop does is recorded. -/
theorem step_task (o : Observed) (t : Task) : o.step (.task t) = o ∨
    ∃ q, o.pipeline.step? t = some q ∧
      (t = .events ∧ o.step (.task t) = o.record q ∨ t ≠ .events ∧ o.step (.task t) = { o with pipeline := q }) := by
  cases hq : o.pipeline.step? t with
  | none => exact .inl (by cases t <;> simp [Observed.step, Pipeline.happen, hq])
  | some q =>
    refine .inr ⟨q, rfl, ?_⟩
    cases t with
    | events => exact .inl ⟨rfl, by simp [Observed.step, hq]⟩
    | opening | forwarder a | router => exact .inr ⟨by simp, by simp [Observed.step, Pipeline.happen, hq]⟩

theorem Sound.task (h : o.Sound settings) (t : Task) : (o.step (.task t)).Sound settings := by
  rcases o.step_task t with hstays | ⟨q, hq, ⟨rfl, hrecord⟩ | ⟨ht, hmoves⟩⟩
  · rw [hstays]
    exact h
  · rw [hrecord]
    unfold Pipeline.step? at hq
    dsimp only at hq
    split at hq
    · exact h.record hq
    · contradiction
  · rw [hmoves]
    exact h.moves ht hq

theorem Sound.step (h : o.Sound settings) (e : Happening) : (o.step e).Sound settings := by
  have aside {q : Pipeline} (hq : o.pipeline.Aside q) : ({ o with pipeline := q } : Observed).Sound settings :=
    h.aside hq
  cases e with
  | task t => exact h.task t
  | call c =>
    unfold Observed.step
    dsimp only
    split
    · exact h
    · rename_i hon
      exact h.change rfl (World.reachable_perform h.reachable (.store c)) h.routing (.inl rfl)
        (fun hm => absurd hm hon) (fun _ hr => World.records_perform hr h.reachable (.store c)) (List.suffix_refl _)
  | outage kind outcomes =>
    exact h.change rfl h.reachable h.routing (.inl rfl) (fun _ => .refl _) (fun _ => id) (List.suffix_refl _)
  | deliver a e => exact aside (Pipeline.aside_onOpen ..)
  | endStream a => exact aside (Pipeline.aside_onOpen ..)
  | takeRequest => exact aside (Pipeline.aside_takeRequest _)
  | respond r => exact aside (Pipeline.aside_respond _ r)
  | abort => exact aside ⟨rfl, rfl, .inr (.inr rfl), List.suffix_refl _, fun _ => trivial⟩
  | dropRequests => exact aside ⟨rfl, rfl, .inl rfl, List.nil_suffix, id⟩
  | takeFailure | takeSent | dropFailures | dropResponses | replaceAdapter name f =>
    exact aside ⟨rfl, rfl, .inl rfl, List.suffix_refl _, id⟩

theorem Sound.run (h : o.Sound settings) (happenings : List Happening) : (o.run happenings).Sound settings := by
  induction happenings generalizing o with
  | nil => exact h
  | cons e happenings ih => exact ih (h.step e)

def initial (settings : Settings) (hashes : Nat → PasswordHash) (engine : Regex.Engine) (made : List Call)
    (adapters : Registry Adapter) : Observed where
  pipeline := .initial settings hashes (.ofStore (Store.after made (.new engine))) adapters
  turn := none
  emitted := []

theorem sound_initial (settings : Settings) (hashes : Nat → PasswordHash) (engine : Regex.Engine) (made : List Call)
    (adapters : Registry Adapter) : (initial settings hashes engine made adapters).Sound settings where
  configured := rfl
  reachable := (Store.reachable_new engine).after made
  routing := trivial
  loop := trivial
  emitted _ h := by cases h
  numbered := .nil
  recorded _ h := by cases h
  waiting := List.suffix_refl _

/-! ### Outages that are genuine -/

/-- The store has kept its contract so far, and no failure to come is against it. -/
structure Trusted (o : Observed) : Prop where
  faults : o.pipeline.world.data.faults.Only Genuine
  turn : ∀ t, o.turn = some t → (calls t.log).KeepsContract
  emitted : ∀ e ∈ o.emitted, (calls e.turn.log).KeepsContract

theorem only_of_moves {P : String → DataError → Prop} {t : Task} (h : p.world.data.faults.Only P)
    (hm : p.Moves t q) : q.world.data.faults.Only P := by
  cases hm with
  | works | answers => exact World.only_perform h _
  | _ => exact h

theorem Trusted.record (h : o.Trusted) (hq : q.world.data.faults.Only Genuine) : (o.record q).Trusted := by
  unfold Observed.record
  split
  · refine ⟨hq, fun t ht => ?_, h.emitted⟩
    cases ht
    exact fun _ _ hmem => nomatch hmem
  · rename_i effect _ _
    refine ⟨hq, fun t ht => ?_, h.emitted⟩
    obtain ⟨t, hold, rfl⟩ := Option.map_eq_some_iff.1 ht
    have hcall : Chronicle (.failing Genuine) _ (calls [⟨effect, _⟩]) _ := World.chronicle_perform h.faults effect
    dsimp only
    rw [WorkLog.calls_append]
    exact (h.turn t hold).append (hcall.keepsContract fun _ _ => id)
  · refine ⟨hq, h.turn, fun e he => ?_⟩
    rcases List.mem_append.1 he with he | he
    · exact h.emitted e he
    · split at he
      · obtain ⟨t, ht, rfl⟩ := List.mem_map.1 he
        exact h.turn t (Option.mem_toList.1 ht)
      · cases he
  · exact ⟨hq, h.turn, h.emitted⟩

theorem Trusted.step (h : o.Trusted) {e : Happening} (he : e.Genuine) : (o.step e).Trusted := by
  have beside {q : Pipeline} (hq : o.pipeline.Aside q) : ({ o with pipeline := q } : Observed).Trusted :=
    ⟨hq.data ▸ h.faults, h.turn, h.emitted⟩
  cases e with
  | task t =>
    rcases o.step_task t with hstays | ⟨q, hq, ⟨-, hrecord⟩ | ⟨-, hmoves⟩⟩
    · rw [hstays]
      exact h
    · rw [hrecord]
      exact h.record (only_of_moves h.faults (Pipeline.step?_iff.1 hq))
    · rw [hmoves]
      exact ⟨only_of_moves h.faults (Pipeline.step?_iff.1 hq), h.turn, h.emitted⟩
  | call c =>
    unfold Observed.step
    dsimp only
    split
    · exact h
    · exact ⟨Faulty.only_perform h.faults c, h.turn, h.emitted⟩
  | outage kind outcomes => exact ⟨Faulty.only_schedule h.faults kind he, h.turn, h.emitted⟩
  | deliver a e => exact beside (Pipeline.aside_onOpen ..)
  | endStream a => exact beside (Pipeline.aside_onOpen ..)
  | takeRequest => exact beside (Pipeline.aside_takeRequest _)
  | respond r => exact beside (Pipeline.aside_respond _ r)
  | abort | dropRequests | takeFailure | takeSent | dropFailures | dropResponses | replaceAdapter =>
    exact ⟨h.faults, h.turn, h.emitted⟩

theorem Trusted.run (h : o.Trusted) {happenings : List Happening} (hall : ∀ e ∈ happenings, e.Genuine) :
    (o.run happenings).Trusted := by
  induction happenings generalizing o with
  | nil => exact h
  | cons e happenings ih =>
    obtain ⟨he, hrest⟩ := List.forall_mem_cons.1 hall
    exact ih (h.step he) hrest

/-- When every outage is genuine, every request that goes out names its sender. -/
theorem identified_of_genuine (settings : Settings) (hashes : Nat → PasswordHash) (engine : Regex.Engine)
    (made : List Call) (adapters : Registry Adapter) {happenings : List Happening}
    (h : ∀ e ∈ happenings, e.Genuine) :
    ∀ e ∈ ((initial settings hashes engine made adapters).run happenings).emitted, e.Identified settings := by
  have hsound := (sound_initial settings hashes engine made adapters).run happenings
  have htrusted : (initial settings hashes engine made adapters).Trusted :=
    ⟨Faults.only_empty _, nofun, fun _ he => nomatch he⟩
  intro e he
  exact (hsound.emitted e he).2 ((htrusted.run h).emitted e he)

/-- The first attempt to create `ann` fails, once her e-mail has not been looked up. -/
def troubled : List Happening :=
  [.outage "user_get_by_email" [some (.noSuchUser "injected")], .outage "user_create" [some (.other "down")],
    .deliver "chat" (.directMessage ⟨"general", "U1", "!ops:run now"⟩),
    .deliver "chat" (.directMessage ⟨"general", "U1", "!ops:run again"⟩), .task .opening,
    .task (.forwarder "chat"), .task (.forwarder "chat"), .task (.forwarder "chat"), .task (.forwarder "chat")] ++
    List.replicate 60 (.task .events)

end Observed

end ChatRouter.Dispatch
