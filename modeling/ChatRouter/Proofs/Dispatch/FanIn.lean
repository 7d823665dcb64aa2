import ChatRouter.Proofs.Dispatch.Duties
import ChatRouter.Proofs.Dispatch.Moves
import ChatRouter.Proofs.Dispatch.Runs
import ChatRouter.Regex.Parser

set_option autoImplicit false

/-!
# Merging the event streams

Forwarders and the loop pass events on in any order. At every moment an adapter's stream is, from its front, what
the loop has taken, what is merged, what its forwarder holds and what it has not read; so nothing is lost, doubled
or mixed up.
-/

namespace ChatRouter

theorem Registry.order_nodup {Adapter : Type} (r : Registry Adapter) : r.order.Nodup := by
  refine r.order_perm.nodup_iff.2 ?_
  rw [SortedMap.keys, List.Nodup, List.pairwise_map]
  refine r.adapters.sorted.imp fun h he => ?_
  rw [he] at h
  simp at h

theorem Registry.mem_order_iff {Adapter : Type} (r : Registry Adapter) (name : String) :
    name ∈ r.order ↔ (r.get? name).isSome = true :=
  r.order_perm.mem_iff.trans (SortedMap.mem_keys_iff ..)

namespace Dispatch

open Script (Asks)

def eventsOf (a : String) (events : List (String × Event)) : List Event :=
  events.filterMap fun e => if e.1 = a then some e.2 else none

@[simp] theorem eventsOf_nil (a : String) : eventsOf a [] = [] := rfl

@[simp] theorem eventsOf_append (a : String) (events more : List (String × Event)) :
    eventsOf a (events ++ more) = eventsOf a events ++ eventsOf a more := List.filterMap_append

theorem eventsOf_cons (a : String) (e : String × Event) (events : List (String × Event)) :
    eventsOf a (e :: events) = eventsOf a [e] ++ eventsOf a events := eventsOf_append a [e] events

theorem eventsOf_own (a : String) (e : Event) : eventsOf a [(a, e)] = [e] := by simp [eventsOf]

theorem eventsOf_other {a : String} {e : String × Event} (h : e.1 ≠ a) : eventsOf a [e] = [] := by
  simp [eventsOf, h]

theorem eventsOf_eraseP {a : String} {events : List (String × Event)} {e : String × Event}
    (h : events.find? (·.1 == a) = some e) (b : String) :
    eventsOf b events = eventsOf b [e] ++ eventsOf b (events.eraseP (·.1 == a)) := by
  induction events with
  | nil => cases h
  | cons f rest ih =>
    have ha : e.1 = a := by simpa using List.find?_some h
    rw [List.find?_cons] at h
    cases hf : f.1 == a with
    | true =>
      rw [hf] at h
      cases h
      rw [List.eraseP_cons, hf]
      exact eventsOf_cons b _ rest
    | false =>
      rw [hf] at h
      have hne : f.1 ≠ e.1 := by
        rw [ha]
        exact beq_eq_false_iff_ne.1 hf
      rw [List.eraseP_cons, hf, eventsOf_cons, ih h]
      change _ = _ ++ eventsOf b (f :: rest.eraseP _)
      rw [eventsOf_cons b f (rest.eraseP _)]
      by_cases hb : e.1 = b
      · simp [eventsOf_other (a := b) (hb ▸ hne)]
      · simp [eventsOf_other hb]

theorem eventsOf_eq_nil {a : String} {events : List (String × Event)} (h : events.find? (·.1 == a) = none) :
    eventsOf a events = [] := by
  refine List.filterMap_eq_nil_iff.2 fun e he => ?_
  have hne := List.find?_eq_none.1 h e he
  rw [if_neg (by simpa using hne)]

/-- Why the adapter could not be listened to, each time that this was reported. -/
def listenErrors (a : String) (failures : List Failure) : List ChatError :=
  failures.filterMap fun
    | .listen b cause => if b = a then some cause else none
    | _ => none

@[simp] theorem listenErrors_nil (a : String) : listenErrors a [] = [] := rfl

@[simp] theorem listenErrors_append (a : String) (failures more : List Failure) :
    listenErrors a (failures ++ more) = listenErrors a failures ++ listenErrors a more := List.filterMap_append

theorem listenErrors_listen (a b : String) (cause : ChatError) :
    listenErrors b [.listen a cause] = if b = a then [cause] else [] := by
  by_cases h : b = a
  · simp [listenErrors, h]
  · simp [listenErrors, h, Ne.symm h]

/-- An effect that does not report that a stream could not be opened. -/
def Unlistening : Effect → Prop
  | .report f => ∀ a cause, f ≠ .listen a cause
  | .store _ | .chat _ _ | .count _ => True

theorem asks_handle (settings : Settings) (hash : PasswordHash) (adapter : String) (e : Event) :
    Asks Unlistening (handle settings hash adapter e) := by
  refine (handsOut_handle settings hash adapter e).asks fun begun effect hgood => ?_
  rcases hgood with hplain | ⟨-, r, rfl, -⟩
  · cases effect with
    | report f => exact hplain
    | _ => trivial
  · trivial

theorem asks_route_unlistening (known : String → Bool) (r : Response) : Asks Unlistening (route known r) := by
  refine (closes_route known r).asks fun made effect hgood => ?_
  cases effect with
  | report f => exact hgood
  | _ => trivial

namespace Pipeline

/-! ## What is recorded of a run -/

/-- The whole streams wait at the connections, and have ended. -/
def fed (p : Pipeline) (streams : String → List Event) : Pipeline :=
  { p with connections := p.connections.mapValues fun a c => { c with inbox := streams a, ended := true } }

def handles (p : Pipeline) (t : Task) : List (String × Event) :=
  match t, p.events, p.merged with
  | .events, .idle, e :: _ => [e]
  | _, _, _ => []

/-- The failures that are raised by a move of the task. -/
def raises (p : Pipeline) : Task → List Failure
  | .opening =>
    match p.unopened with
    | [] => []
    | a :: _ =>
      match p.world.adapters.get? a, p.connections.get? a with
      | some adapter, some _ =>
        match adapter.listen with
        | .ok () => []
        | .error cause => [.listen a cause]
      | _, _ => []
  | .forwarder _ => []
  | .events =>
    match p.events with
    | .handling _ (.ask (.report f) _) => [f]
    | .offering _ r => if p.requests.held then [] else [.requestChannelClosed r.id]
    | _ => []
  | .router =>
    match p.router with
    | .routing (.ask (.report f) _) => [f]
    | _ => []

end Pipeline

theorem World.errors_perform (w : World) (e : Effect) :
    (w.perform e).2.errors = match e with
      | .report f => w.errors.offer f
      | _ => w.errors := by
  cases e <;> rfl

theorem Outbox.offers_sublist {α : Type} (offered : List α) (o : Outbox α) :
    (offered.foldl Outbox.offer o).waiting.Sublist (o.waiting ++ offered) := by
  induction offered generalizing o with
  | nil => simp
  | cons a rest ih =>
    have hone : (o.offer a).waiting.Sublist (o.waiting ++ [a]) := by
      unfold offer
      split
      · exact List.Sublist.refl _
      · exact List.sublist_append_left _ _
    have hall := (ih (o.offer a)).trans (hone.append_right rest)
    rwa [List.append_assoc] at hall

theorem Outbox.take_sublist {α : Type} (o : Outbox α) : o.take.2.waiting.Sublist o.waiting := by
  unfold take
  split
  · rename_i hw
    rw [hw]
    exact List.sublist_cons_self ..
  · exact List.Sublist.refl _

theorem Pipeline.errors_of_moves {p q : Pipeline} {t : Task} (h : p.Moves t q) :
    q.world.errors = (p.raises t).foldl Outbox.offer p.world.errors := by
  cases h with
  | passes hu hnone =>
    rcases hnone with hnone | hnone <;> simp [raises, hu, hnone]
  | listens hu ha hc hlisten => simp [raises, hu, ha, hc, hlisten]
  | declines hu ha hc hlisten =>
    simp only [raises, hu, ha, hc, hlisten]
    rfl
  | merges | reads | closes => rfl
  | takes _ hloop | finishes _ hloop | ignores _ hloop | offers _ hloop =>
    simp only [raises, hloop]
    rfl
  | @works _ effect next _ hloop =>
    rw [World.errors_perform]
    cases effect <;> simp [raises, hloop]
  | loses _ hloop hheld =>
    simp only [raises, hloop, hheld]
    rfl
  | emits _ hloop hheld =>
    simp only [raises, hloop, hheld]
    rfl
  | routes _ hr | retires _ hr | rests _ hr => simp [raises, hr]
  | @answers effect next _ hr =>
    rw [World.errors_perform]
    cases effect <;> simp [raises, hr]

theorem World.adapters_perform (w : World) (e : Effect) : (w.perform e).2.adapters = w.adapters := by
  cases e <;> rfl

/-- It leaves the streams and the adapters as they are. -/
def Happening.keepsStreams : Happening → Bool
  | .deliver _ _ | .endStream _ | .abort | .replaceAdapter _ _ => false
  | _ => true

/-- A pipeline, what its loop has taken and the failures raised so far. -/
structure Gathering where
  pipeline : Pipeline
  handled : List (String × Event)
  raised : List Failure

namespace Gathering

def step (g : Gathering) : Happening → Gathering
  | .task t =>
    match g.pipeline.step? t with
    | some q => ⟨q, g.handled ++ g.pipeline.handles t, g.raised ++ g.pipeline.raises t⟩
    | none => g
  | h => { g with pipeline := g.pipeline.happen h }

def run (g : Gathering) (happenings : List Happening) : Gathering := happenings.foldl step g

def start (settings : Settings) (hashes : Nat → PasswordHash) (data : Faulty) (adapters : Registry Adapter)
    (streams : String → List Event) : Gathering :=
  ⟨(Pipeline.initial settings hashes data adapters).fed streams, [], []⟩

def passed (g : Gathering) (a : String) : List Event :=
  eventsOf a g.handled ++ eventsOf a g.pipeline.merged ++ eventsOf a g.pipeline.held

/-! ## What holds throughout a run -/

/-- A connection and what its forwarder has read make up the stream. -/
structure Carries (passed held stream : List Event) (c : Connection) : Prop where
  whole : passed ++ c.inbox = stream
  ended : c.ended = true
  unheard : c.forwarder = .waiting → c.inbox = stream
  closed : c.forwarder = .ended → c.inbox = [] ∧ held = []

theorem Carries.passed_of_waiting {passed held stream : List Event} {c : Connection}
    (h : Carries passed held stream c) (hf : c.forwarder = .waiting) : passed = [] := by
  have hwhole := h.whole
  rw [h.unheard hf] at hwhole
  exact List.append_left_eq_self.1 hwhole

/-- A loop that has finished leaves nothing behind, and nothing more will come. -/
def Drained (p : Pipeline) : Prop :=
  p.events = .finished →
    p.unopened = [] ∧ p.merged = [] ∧ ∀ a c, p.connections.get? a = some c → c.forwarder ≠ .running

end Gathering

def refusals (adapter : Adapter) : List ChatError :=
  match adapter.listen with
  | .ok () => []
  | .error cause => [cause]

theorem refusals_eq_nil {adapter : Adapter} (h : adapter.listen = .ok ()) : refusals adapter = [] := by
  simp [refusals, h]

theorem refusals_of_error {adapter : Adapter} {cause : ChatError} (h : adapter.listen = .error cause) :
    refusals adapter = [cause] := by
  simp [refusals, h]

namespace Gathering

structure InOrder (adapters : Registry Adapter) (streams : String → List Event) (g : Gathering) : Prop where
  kept : g.pipeline.world.adapters = adapters
  keyed : ∀ a, g.pipeline.connections.contains a = (adapters.get? a).isSome
  nodup : g.pipeline.unopened.Nodup
  carries : ∀ a c, g.pipeline.connections.get? a = some c →
    Carries (g.passed a) (eventsOf a g.pipeline.held) (streams a) c
  strangers : ∀ a, g.pipeline.connections.get? a = none → g.passed a = []
  opened : ∀ a c adapter, g.pipeline.connections.get? a = some c → adapters.get? a = some adapter →
    (c.forwarder = .waiting ↔ a ∈ g.pipeline.unopened ∨ refusals adapter ≠ [])
  reported : ∀ a adapter, adapters.get? a = some adapter →
    listenErrors a g.raised = if a ∈ g.pipeline.unopened then [] else refusals adapter
  queued : g.pipeline.world.errors.waiting.Sublist g.raised
  drained : Drained g.pipeline
  loop : Asks Unlistening g.pipeline.events.work
  router : Asks Unlistening g.pipeline.router.work

/-- Events move on without being reordered, and nothing else that concerns the streams changes. -/
structure Regroups (g g' : Gathering) : Prop where
  adapters : g'.pipeline.world.adapters = g.pipeline.world.adapters
  unopened : g'.pipeline.unopened = g.pipeline.unopened
  connections : g'.pipeline.connections = g.pipeline.connections
  passed : ∀ a, g'.passed a = g.passed a
  held : ∀ a, eventsOf a g.pipeline.held = [] → eventsOf a g'.pipeline.held = []
  raised : ∀ a, listenErrors a g'.raised = listenErrors a g.raised

variable {adapters : Registry Adapter} {streams : String → List Event} {g g' : Gathering}

theorem InOrder.regroups (h : g.InOrder adapters streams) (hg : g.Regroups g')
    (hqueued : g'.pipeline.world.errors.waiting.Sublist g'.raised) (hdrained : Drained g'.pipeline)
    (hloop : Asks Unlistening g'.pipeline.events.work) (hrouter : Asks Unlistening g'.pipeline.router.work) :
    g'.InOrder adapters streams where
  kept := hg.adapters.trans h.kept
  keyed := by
    rw [hg.connections]
    exact h.keyed
  nodup := hg.unopened ▸ h.nodup
  carries a c hc := by
    rw [hg.connections] at hc
    obtain ⟨hwhole, hended, hunheard, hclosed⟩ := h.carries a c hc
    refine ⟨?_, hended, hunheard, fun hf => ?_⟩
    · rw [hg.passed]
      exact hwhole
    · exact ⟨(hclosed hf).1, hg.held a (hclosed hf).2⟩
  strangers a ha := by
    rw [hg.connections] at ha
    rw [hg.passed]
    exact h.strangers a ha
  opened := by
    rw [hg.connections, hg.unopened]
    exact h.opened
  reported a adapter ha := by
    rw [hg.raised, hg.unopened]
    exact h.reported a adapter ha
  queued := hqueued
  drained := hdrained
  loop := hloop
  router := hrouter

theorem InOrder.running_of_held (h : g.InOrder adapters streams) {a : String}
    (ha : eventsOf a g.pipeline.held ≠ []) :
    ∃ c, g.pipeline.connections.get? a = some c ∧ c.forwarder = .running := by
  have hpassed : g.passed a ≠ [] := by simp [passed, ha]
  cases hc : g.pipeline.connections.get? a with
  | none => exact absurd (h.strangers a hc) hpassed
  | some c =>
    have hcarries := h.carries a c hc
    cases hf : c.forwarder with
    | waiting => exact absurd (hcarries.passed_of_waiting hf) hpassed
    | running => exact ⟨c, rfl, hf⟩
    | ended => exact absurd (hcarries.closed hf).2 ha

/-! ### Steps of the tasks -/

variable {p q : Pipeline} {t : Task}

def after (g : Gathering) (t : Task) (q : Pipeline) : Gathering :=
  ⟨q, g.handled ++ g.pipeline.handles t, g.raised ++ g.pipeline.raises t⟩

theorem InOrder.queued_after (h : g.InOrder adapters streams) (hm : g.pipeline.Moves t q) :
    (g.after t q).pipeline.world.errors.waiting.Sublist (g.after t q).raised := by
  change q.world.errors.waiting.Sublist (g.raised ++ _)
  rw [Pipeline.errors_of_moves hm]
  exact (Outbox.offers_sublist ..).trans (h.queued.append_right _)

theorem after_of_opening (g : Gathering) (q : Pipeline) :
    g.after .opening q = ⟨q, g.handled, g.raised ++ g.pipeline.raises .opening⟩ := by
  change (⟨q, g.handled ++ [], _⟩ : Gathering) = _
  rw [List.append_nil]

theorem after_of_forwarder (g : Gathering) (a : String) (q : Pipeline) :
    g.after (.forwarder a) q = ⟨q, g.handled, g.raised⟩ := by
  change (⟨q, g.handled ++ [], g.raised ++ []⟩ : Gathering) = _
  rw [List.append_nil, List.append_nil]

theorem InOrder.passes (h : g.InOrder adapters streams) {a : String} {rest : List String}
    (hu : g.pipeline.unopened = a :: rest)
    (hnone : g.pipeline.world.adapters.get? a = none ∨ g.pipeline.connections.get? a = none) :
    InOrder adapters streams ⟨{ g.pipeline with unopened := rest }, g.handled, g.raised⟩ := by
  have hstranger : adapters.get? a = none := by
    rcases hnone with hnone | hnone
    · rw [← h.kept]
      exact hnone
    · have hkey := h.keyed a
      rw [SortedMap.contains, hnone] at hkey
      exact Option.isNone_iff_eq_none.1 (Option.isSome_eq_false_iff.1 hkey.symm)
  have hmem (b : String) (adapter : Adapter) (hb : adapters.get? b = some adapter) :
      b ∈ rest ↔ b ∈ g.pipeline.unopened := by
    have hne : b ≠ a := by
      rintro rfl
      rw [hstranger] at hb
      cases hb
    simp [hu, hne]
  have hnodup := h.nodup
  rw [hu] at hnodup
  exact {
    kept := h.kept
    keyed := h.keyed
    nodup := hnodup.of_cons
    carries := h.carries
    strangers := h.strangers
    opened := fun b c adapter hc hb => (h.opened b c adapter hc hb).trans (by rw [hmem b adapter hb])
    reported := fun b adapter hb => by
      rw [h.reported b adapter hb]
      simp only [hmem b adapter hb]
    queued := h.queued
    drained := fun hf => by
      have hnil := (h.drained hf).1
      rw [hu] at hnil
      cases hnil
    loop := h.loop
    router := h.router }

theorem InOrder.opens (h : g.InOrder adapters streams) {a : String} {rest : List String} {adapter : Adapter}
    {c c' : Connection} {w : World} {more : List Failure} (hu : g.pipeline.unopened = a :: rest)
    (ha : g.pipeline.world.adapters.get? a = some adapter) (hc : g.pipeline.connections.get? a = some c)
    (hinbox : c'.inbox = c.inbox) (hended : c'.ended = c.ended)
    (hforwarder : c'.forwarder = if refusals adapter = [] then .running else .waiting)
    (hw : w.adapters = g.pipeline.world.adapters) (hqueued : w.errors.waiting.Sublist (g.raised ++ more))
    (hmore : ∀ b, listenErrors b more = if b = a then refusals adapter else []) :
    InOrder adapters streams
      ⟨{ g.pipeline with
          unopened := rest
          connections := g.pipeline.connections.insert a c'
          world := w },
        g.handled, g.raised ++ more⟩ := by
  have hregistered : adapters.get? a = some adapter := by
    rw [← h.kept]
    exact ha
  have hnodup := h.nodup
  rw [hu] at hnodup
  have hgone : a ∉ rest := (List.nodup_cons.1 hnodup).1
  have hmem (b : String) (hb : b ≠ a) : b ∈ rest ↔ b ∈ g.pipeline.unopened := by simp [hu, hb]
  have hwaits : c.forwarder = .waiting := (h.opened a c adapter hc hregistered).2 (.inl (by simp [hu]))
  refine
    { kept := hw.trans h.kept
      keyed := fun b => ?_
      nodup := hnodup.of_cons
      carries := fun b d hd => ?_
      strangers := fun b hb => ?_
      opened := fun b d adapter' hd hb => ?_
      reported := fun b adapter' hb => ?_
      queued := hqueued
      drained := fun hf => ?_
      loop := h.loop
      router := h.router }
  · have hkey := h.keyed b
    rw [SortedMap.contains_insert]
    by_cases hba : b = a
    · simp [hba, hregistered]
    · simpa [hba] using hkey
  · rw [SortedMap.get?_insert_ite] at hd
    split at hd
    · cases hd
      subst b
      obtain ⟨hwhole, hend, hunheard, -⟩ := h.carries a c hc
      refine ⟨?_, hended.trans hend, fun _ => hinbox.trans (hunheard hwaits), fun hf => ?_⟩
      · rw [hinbox]
        exact hwhole
      · rw [hforwarder] at hf
        split at hf <;> cases hf
    · exact h.carries b d hd
  · rw [SortedMap.get?_insert_ite] at hb
    split at hb
    · cases hb
    · exact h.strangers b hb
  · rw [SortedMap.get?_insert_ite] at hd
    split at hd
    · cases hd
      subst b
      rw [hregistered] at hb
      cases hb
      rw [hforwarder]
      simp [hgone]
    · rename_i hne
      rw [h.opened b d adapter' hd hb, hmem b hne]
  · rw [listenErrors_append, h.reported b adapter' hb, hmore]
    by_cases hba : b = a
    · subst b
      rw [hregistered] at hb
      cases hb
      simp [hu, hgone]
    · simp [hmem b hba, hba]
  · have hnil := (h.drained hf).1
    rw [hu] at hnil
    cases hnil

theorem InOrder.forwards (h : g.InOrder adapters streams) {a : String} {c c' : Connection}
    {held : List (String × Event)} (hc : g.pipeline.connections.get? a = some c) (hrun : c.forwarder = .running)
    (hforwarder : c'.forwarder ≠ .waiting)
    (hother : ∀ b, b ≠ a → eventsOf b held = eventsOf b g.pipeline.held)
    (hcarries : Carries (eventsOf a g.handled ++ eventsOf a g.pipeline.merged ++ eventsOf a held)
      (eventsOf a held) (streams a) c') :
    InOrder adapters streams
      ⟨{ g.pipeline with connections := g.pipeline.connections.insert a c', held }, g.handled, g.raised⟩ := by
  have hpassed {b : String} (hb : b ≠ a) :
      eventsOf b g.handled ++ eventsOf b g.pipeline.merged ++ eventsOf b held = g.passed b := by
    rw [hother b hb, passed]
  refine
    { kept := h.kept
      keyed := fun b => ?_
      nodup := h.nodup
      carries := fun b d hd => ?_
      strangers := fun b hb => ?_
      opened := fun b d adapter hd hb => ?_
      reported := h.reported
      queued := h.queued
      drained := fun hf => absurd hrun ((h.drained hf).2.2 a c hc)
      loop := h.loop
      router := h.router }
  · rw [SortedMap.contains_insert, ← h.keyed b]
    by_cases hba : b = a
    · simp [hba, SortedMap.contains, hc]
    · simp [hba]
  · rw [SortedMap.get?_insert_ite] at hd
    split at hd
    · cases hd
      subst b
      exact hcarries
    · rename_i hne
      obtain ⟨hwhole, hend, hunheard, hclosed⟩ := h.carries b d hd
      refine ⟨?_, hend, hunheard, fun hf => ⟨(hclosed hf).1, (hother b hne).trans (hclosed hf).2⟩⟩
      rw [← hpassed hne] at hwhole
      exact hwhole
  · rw [SortedMap.get?_insert_ite] at hb
    split at hb
    · cases hb
    · rename_i hne
      exact (hpassed hne).trans (h.strangers b hb)
  · rw [SortedMap.get?_insert_ite] at hd
    split at hd
    · cases hd
      subst b
      refine iff_of_false hforwarder ?_
      rw [← h.opened a c adapter hc hb, hrun]
      simp
    · exact h.opened b d adapter hd hb

theorem InOrder.reads (h : g.InOrder adapters streams) {a : String} {c : Connection} {e : Event}
    {rest : List Event} {state : ConnectionState} (hc : g.pipeline.connections.get? a = some c)
    (hrun : c.forwarder = .running) (hin : c.inbox = e :: rest) :
    InOrder adapters streams
      ⟨{ g.pipeline with
          connections := g.pipeline.connections.insert a { c with inbox := rest, state }
          held := g.pipeline.held ++ [(a, e)] },
        g.handled, g.raised⟩ := by
  obtain ⟨hwhole, hend, -, -⟩ := h.carries a c hc
  have hleft {f : Forwarder} (hf : f ≠ .running) : c.forwarder ≠ f := by
    rw [hrun]
    exact hf.symm
  refine h.forwards hc hrun (hleft (by simp)) (fun b hb => ?_) ⟨?_, hend, ?_, ?_⟩
  · simp [eventsOf_other (a := b) (e := (a, e)) (Ne.symm hb)]
  · rw [← hwhole, hin]
    simp [passed, eventsOf_own]
  · exact fun hf => absurd hf (hleft (by simp))
  · exact fun hf => absurd hf (hleft (by simp))

theorem InOrder.closes (h : g.InOrder adapters streams) {a : String} {c : Connection} {state : ConnectionState}
    (hheld : g.pipeline.held.find? (·.1 == a) = none) (hc : g.pipeline.connections.get? a = some c)
    (hrun : c.forwarder = .running) (hin : c.inbox = []) :
    InOrder adapters streams
      ⟨{ g.pipeline with
          connections := g.pipeline.connections.insert a { c with state, forwarder := .ended } },
        g.handled, g.raised⟩ := by
  obtain ⟨hwhole, hend, -, -⟩ := h.carries a c hc
  refine h.forwards hc hrun (by simp) (fun _ _ => rfl) ⟨hwhole, hend, by simp, fun _ => ⟨hin, ?_⟩⟩
  exact eventsOf_eq_nil hheld

theorem InOrder.merges (h : g.InOrder adapters streams) {a : String} {e : String × Event}
    (hheld : g.pipeline.held.find? (·.1 == a) = some e) :
    InOrder adapters streams
      ⟨{ g.pipeline with
          held := g.pipeline.held.eraseP (·.1 == a)
          merged := g.pipeline.merged ++ [e] },
        g.handled, g.raised⟩ := by
  have hsplit := eventsOf_eraseP hheld
  refine h.regroups ⟨rfl, rfl, rfl, fun b => ?_, fun b hb => ?_, fun _ => rfl⟩ h.queued (fun hf => ?_) h.loop h.router
  · simp only [passed, hsplit b, eventsOf_append, List.append_assoc]
  · rw [hsplit b] at hb
    exact (List.append_eq_nil_iff.1 hb).2
  · have hown : eventsOf e.1 g.pipeline.held ≠ [] := by
      rw [hsplit e.1]
      simp [eventsOf]
    obtain ⟨c, hc, hrun⟩ := h.running_of_held hown
    exact absurd hrun ((h.drained hf).2.2 e.1 c hc)

theorem InOrder.takes (h : g.InOrder adapters streams) {a : String} {e : Event} {rest : List (String × Event)}
    {w : World} {taken : Nat} {work : Work (Option Request)} (hm : g.pipeline.merged = (a, e) :: rest)
    (hadapters : w.adapters = g.pipeline.world.adapters) (herrors : w.errors = g.pipeline.world.errors)
    (hwork : Asks Unlistening work) :
    InOrder adapters streams
      ⟨{ g.pipeline with merged := rest, taken, world := w, events := .handling a work },
        g.handled ++ [(a, e)], g.raised⟩ := by
  refine h.regroups ⟨hadapters, rfl, rfl, fun b => ?_, fun _ => id, fun _ => rfl⟩ ?_ nofun hwork h.router
  · simp only [passed, hm, eventsOf_append, eventsOf_cons b (a, e) rest, List.append_assoc]
  · change w.errors.waiting.Sublist g.raised
    rw [herrors]
    exact h.queued

theorem InOrder.finishes (h : g.InOrder adapters streams) (hu : g.pipeline.unopened = [])
    (hm : g.pipeline.merged = []) (hl : g.pipeline.listening = false) :
    InOrder adapters streams ⟨{ g.pipeline with events := .finished }, g.handled, g.raised⟩ := by
  refine h.regroups ⟨rfl, rfl, rfl, fun _ => rfl, fun _ => id, fun _ => rfl⟩ h.queued (fun _ => ?_) trivial h.router
  refine ⟨hu, hm, fun a c hc hrun => ?_⟩
  have hquiet : g.pipeline.connections.values.any Connection.isForwarding = false := by
    rw [Pipeline.listening, Bool.or_eq_false_iff] at hl
    exact hl.2
  have hmem := (SortedMap.mem_values_iff _ _).2 ⟨a, hc⟩
  have hnot := List.any_eq_false.1 hquiet c hmem
  simp [Connection.isForwarding, hrun] at hnot

theorem InOrder.aside (h : g.InOrder adapters streams) (hm : g.pipeline.Moves t q)
    (hhandles : g.pipeline.handles t = [])
    (hraises : ∀ f ∈ g.pipeline.raises t, Unlistening (.report f))
    (hadapters : q.world.adapters = g.pipeline.world.adapters) (hunopened : q.unopened = g.pipeline.unopened)
    (hconnections : q.connections = g.pipeline.connections) (hheld : q.held = g.pipeline.held)
    (hmerged : q.merged = g.pipeline.merged) (hfinished : q.events = .finished → g.pipeline.events = .finished)
    (hloop : Asks Unlistening q.events.work) (hrouter : Asks Unlistening q.router.work) :
    (g.after t q).InOrder adapters streams := by
  have hnone (a : String) : listenErrors a (g.pipeline.raises t) = [] := by
    refine List.filterMap_eq_nil_iff.2 fun f hf => ?_
    cases f with
    | listen b cause => exact absurd rfl (hraises _ hf b cause)
    | _ => rfl
  refine h.regroups
    { adapters := hadapters
      unopened := hunopened
      connections := hconnections
      passed := fun a => ?_
      held := fun a ha => ?_
      raised := fun a => ?_ } (h.queued_after hm) (fun hf => ?_) hloop hrouter
  · change eventsOf a (g.handled ++ g.pipeline.handles t) ++ eventsOf a q.merged ++ eventsOf a q.held = g.passed a
    rw [hhandles, hmerged, hheld, List.append_nil, passed]
  · change eventsOf a q.held = []
    rwa [hheld]
  · change listenErrors a (g.raised ++ g.pipeline.raises t) = _
    rw [listenErrors_append, hnone, List.append_nil]
  · obtain ⟨hu, hmnil, hstill⟩ := h.drained (hfinished hf)
    refine ⟨hunopened.trans hu, hmerged.trans hmnil, ?_⟩
    change ∀ a c, q.connections.get? a = some c → _
    rw [hconnections]
    exact hstill

theorem InOrder.moves (h : g.InOrder adapters streams) (hmove : g.pipeline.Moves t q) :
    (g.after t q).InOrder adapters streams := by
  have hqueued := h.queued_after hmove
  have hwork := h.loop
  have hrouting := h.router
  have haside := h.aside hmove
  cases hmove with
  | passes hu hnone =>
    have hquiet : g.pipeline.raises .opening = [] := by
      rcases hnone with hnone | hnone <;> simp [Pipeline.raises, hu, hnone]
    rw [after_of_opening, hquiet, List.append_nil]
    exact h.passes hu hnone
  | listens hu ha hc hlisten =>
    have hopen := refusals_eq_nil hlisten
    rw [after_of_opening] at hqueued ⊢
    refine h.opens hu ha hc rfl rfl (by rw [hopen]; rfl) rfl hqueued fun b => ?_
    simp [Pipeline.raises, hu, ha, hc, hlisten, hopen]
  | declines hu ha hc hlisten =>
    have hclosed := refusals_of_error hlisten
    have hc' := (h.opened _ _ _ hc (h.kept ▸ ha)).2 (.inl (by simp [hu]))
    rw [after_of_opening] at hqueued ⊢
    refine h.opens hu ha hc rfl rfl (by rw [hclosed]; exact hc') rfl hqueued fun b => ?_
    simp [Pipeline.raises, hu, ha, hc, hlisten, hclosed, listenErrors_listen]
  | merges hheld hroom =>
    rw [after_of_forwarder]
    exact h.merges hheld
  | reads hheld hc hrun hin =>
    rw [after_of_forwarder]
    exact h.reads hc hrun hin
  | closes hheld hc hrun hin hend =>
    rw [after_of_forwarder]
    exact h.closes hheld hc hrun hin
  | @takes a e rest hu hloop hmerged =>
    have hhandles : g.pipeline.handles .events = [(a, e)] := by simp only [Pipeline.handles, hloop, hmerged]
    have hraises : g.pipeline.raises .events = [] := by simp only [Pipeline.raises, hloop]
    rw [after, hhandles, hraises, List.append_nil]
    exact h.takes hmerged rfl rfl (asks_handle _ _ _ _)
  | finishes hu hloop hmerged hl =>
    have hhandles : g.pipeline.handles .events = [] := by simp only [Pipeline.handles, hloop, hmerged]
    have hraises : g.pipeline.raises .events = [] := by simp only [Pipeline.raises, hloop]
    rw [after, hhandles, hraises, List.append_nil, List.append_nil]
    exact h.finishes hu hmerged hl
  | @works a effect next hu hloop =>
    rw [hloop] at hwork
    refine haside (by simp only [Pipeline.handles, hloop]) ?_ (World.adapters_perform _ _) rfl rfl rfl rfl nofun
      (hwork.2 _) hrouting
    intro f hf
    have hgood := hwork.1
    cases effect with
    | report raised =>
      simp only [Pipeline.raises, hloop, List.mem_singleton] at hf
      rw [hf]
      exact hgood
    | _ => simp [Pipeline.raises, hloop] at hf
  | ignores hu hloop =>
    exact haside (by simp only [Pipeline.handles, hloop]) (by simp [Pipeline.raises, hloop]) rfl rfl rfl rfl rfl
      nofun trivial hrouting
  | offers hu hloop =>
    exact haside (by simp only [Pipeline.handles, hloop]) (by simp [Pipeline.raises, hloop]) rfl rfl rfl rfl rfl
      nofun trivial hrouting
  | loses hu hloop hheld =>
    refine haside (by simp only [Pipeline.handles, hloop]) ?_ rfl rfl rfl rfl rfl nofun trivial hrouting
    intro f hf
    simp [Pipeline.raises, hloop, hheld] at hf
    rw [hf]
    exact nofun
  | emits hu hloop hheld hroom =>
    exact haside (by simp only [Pipeline.handles, hloop]) (by simp [Pipeline.raises, hloop, hheld]) rfl rfl rfl rfl rfl
      nofun trivial hrouting
  | routes hu hr hwait =>
    exact haside rfl (by simp [Pipeline.raises, hr]) rfl rfl rfl rfl rfl id hwork (asks_route_unlistening _ _)
  | retires hu hr hwait hend =>
    exact haside rfl (by simp [Pipeline.raises, hr]) rfl rfl rfl rfl rfl id hwork trivial
  | @answers effect next hu hr =>
    rw [hr] at hrouting
    refine haside rfl ?_ (World.adapters_perform _ _) rfl rfl rfl rfl id hwork (hrouting.2 _)
    intro f hf
    have hgood := hrouting.1
    cases effect with
    | report raised =>
      simp only [Pipeline.raises, hr, List.mem_singleton] at hf
      rw [hf]
      exact hgood
    | _ => simp [Pipeline.raises, hr] at hf
  | rests hu hr => exact haside rfl (by simp [Pipeline.raises, hr]) rfl rfl rfl rfl rfl id hwork trivial

/-! ### Steps of the host, and runs -/

theorem InOrder.calm (h : g.InOrder adapters streams) {w : World} {requests : Outbox Request}
    {responses : List Response} {responding : Bool} (hw : w.adapters = g.pipeline.world.adapters)
    (herrors : w.errors.waiting.Sublist g.pipeline.world.errors.waiting) :
    InOrder adapters streams
      { g with pipeline := { g.pipeline with world := w, requests, responses, responding } } :=
  h.regroups ⟨hw, rfl, rfl, fun _ => rfl, fun _ => id, fun _ => rfl⟩ (herrors.trans h.queued) h.drained
    h.loop h.router

theorem InOrder.happens (h : g.InOrder adapters streams) {e : Happening} (he : e.keepsStreams = true) :
    (g.step e).InOrder adapters streams := by
  cases e with
  | task t =>
    unfold step
    dsimp only
    split
    · rename_i q hq
      exact h.moves (Pipeline.step?_iff.1 hq)
    · exact h
  | takeFailure => exact h.calm rfl (Outbox.take_sublist _)
  | dropFailures => exact h.calm rfl (List.nil_sublist _)
  | respond r =>
    change InOrder adapters streams { g with pipeline := (g.pipeline.respond r).2 }
    unfold Pipeline.respond
    split
    · exact h.calm rfl (List.Sublist.refl _)
    · exact h
  | takeRequest | takeSent | dropRequests | dropResponses | outage | call =>
    exact h.calm rfl (List.Sublist.refl _)
  | deliver | endStream | abort | replaceAdapter => cases he

theorem InOrder.run (h : g.InOrder adapters streams) {happenings : List Happening}
    (he : ∀ e ∈ happenings, e.keepsStreams = true) : (g.run happenings).InOrder adapters streams := by
  induction happenings generalizing g with
  | nil => exact h
  | cons e rest ih =>
    obtain ⟨hfirst, hrest⟩ := List.forall_mem_cons.1 he
    exact ih (h.happens hfirst) hrest

theorem inOrder_start (settings : Settings) (hashes : Nat → PasswordHash) (data : Faulty)
    (adapters : Registry Adapter) (streams : String → List Event) :
    (start settings hashes data adapters streams).InOrder adapters streams := by
  have hconnections (a : String) : (start settings hashes data adapters streams).pipeline.connections.get? a =
      (adapters.get? a).map fun _ => ⟨.idle, streams a, true, .waiting⟩ := by
    simp only [start, Pipeline.fed, Pipeline.initial, SortedMap.get?_mapValues, Option.map_map]
    rfl
  exact {
    kept := rfl
    keyed := fun a => by rw [SortedMap.contains, hconnections, Option.isSome_map]
    nodup := adapters.order_nodup
    carries := fun a c hc => by
      rw [hconnections] at hc
      obtain ⟨_, -, rfl⟩ := Option.map_eq_some_iff.1 hc
      exact ⟨rfl, rfl, fun _ => rfl, by simp⟩
    strangers := fun _ _ => rfl
    opened := fun a c adapter hc ha => by
      rw [hconnections, ha] at hc
      cases hc
      exact iff_of_true rfl (.inl ((adapters.mem_order_iff a).2 (by rw [ha]; rfl)))
    reported := fun a adapter ha => by
      have hin : a ∈ adapters.order := (adapters.mem_order_iff a).2 (by rw [ha]; rfl)
      exact (if_pos hin).symm
    queued := List.Sublist.refl _
    drained := fun hf => by cases hf
    loop := trivial
    router := trivial }

theorem InOrder.prefix_stream (h : g.InOrder adapters streams) (a : String) :
    eventsOf a g.handled ++ eventsOf a g.pipeline.merged <+: streams a := by
  cases hc : g.pipeline.connections.get? a with
  | none =>
    have hnone := h.strangers a hc
    rw [passed, List.append_eq_nil_iff] at hnone
    rw [hnone.1]
    exact List.nil_prefix
  | some c =>
    have hwhole := (h.carries a c hc).whole
    rw [passed, List.append_assoc] at hwhole
    exact ⟨_, hwhole⟩

theorem InOrder.connected (h : g.InOrder adapters streams) {a : String} {adapter : Adapter}
    (ha : adapters.get? a = some adapter) : ∃ c, g.pipeline.connections.get? a = some c := by
  rw [← SortedMap.contains_iff, h.keyed, ha]
  rfl

theorem InOrder.whole_of_finished (h : g.InOrder adapters streams) (hf : g.pipeline.events = .finished)
    {a : String} {adapter : Adapter} (ha : adapters.get? a = some adapter) (hlisten : adapter.listen = .ok ()) :
    eventsOf a g.handled = streams a := by
  obtain ⟨hu, hm, hstill⟩ := h.drained hf
  obtain ⟨c, hc⟩ := h.connected ha
  have hcarries := h.carries a c hc
  cases hforwarder : c.forwarder with
  | waiting =>
    have hshut := (h.opened a c adapter hc ha).1 hforwarder
    simp [hu, refusals_eq_nil hlisten] at hshut
  | running => exact absurd hforwarder (hstill a c hc)
  | ended =>
    obtain ⟨hin, hheld⟩ := hcarries.closed hforwarder
    have hwhole := hcarries.whole
    simpa [passed, hm, hin, hheld] using hwhole

theorem InOrder.nothing_of_refused (h : g.InOrder adapters streams) {a : String} {adapter : Adapter}
    (ha : adapters.get? a = some adapter) (hlisten : refusals adapter ≠ []) :
    eventsOf a g.handled ++ eventsOf a g.pipeline.merged = [] := by
  obtain ⟨c, hc⟩ := h.connected ha
  have hnone := (h.carries a c hc).passed_of_waiting ((h.opened a c adapter hc ha).2 (.inr hlisten))
  rw [passed, List.append_eq_nil_iff] at hnone
  exact hnone.1

/-- In any order of the tasks' moves, for any streams and any room for merged events: what the loop has taken of an
adapter's events, and then what is merged of them, is where its stream begins; a loop that has finished has taken
the whole streams. An adapter that cannot be listened to contributes nothing but one report of that: what a move
raises is what the queue of failures is offered. -/
theorem fan_in_keeps_streams (settings : Settings) (hashes : Nat → PasswordHash) (data : Faulty)
    (adapters : Registry Adapter) (streams : String → List Event) (happenings : List Happening) :
    let g := (start settings hashes data adapters streams).run (happenings.filter Happening.keepsStreams)
    (∀ a, eventsOf a g.handled ++ eventsOf a g.pipeline.merged <+: streams a) ∧
    (∀ a, adapters.get? a = none → eventsOf a g.handled ++ eventsOf a g.pipeline.merged = []) ∧
    (∀ a adapter, adapters.get? a = some adapter → adapter.listen = .ok () →
      listenErrors a g.raised = [] ∧ (g.pipeline.events = .finished → eventsOf a g.handled = streams a)) ∧
    (∀ a adapter cause, adapters.get? a = some adapter → adapter.listen = .error cause →
      eventsOf a g.handled ++ eventsOf a g.pipeline.merged = [] ∧
        listenErrors a g.raised = if a ∈ g.pipeline.unopened then [] else [cause]) ∧
    (g.pipeline.events = .finished → g.pipeline.unopened = []) ∧
    g.pipeline.world.errors.waiting.Sublist g.raised ∧
    ∀ t q, g.pipeline.step? t = some q → (g.step (.task t)).raised = g.raised ++ g.pipeline.raises t ∧
      q.world.errors = (g.pipeline.raises t).foldl Outbox.offer g.pipeline.world.errors := by
  intro g
  have h : g.InOrder adapters streams :=
    (inOrder_start settings hashes data adapters streams).run fun e he => (List.mem_filter.1 he).2
  refine ⟨h.prefix_stream, fun a ha => ?_, fun a adapter ha hlisten => ⟨?_, fun hf => ?_⟩,
    fun a adapter cause ha hlisten => ⟨?_, ?_⟩, fun hf => (h.drained hf).1, h.queued, fun t q hq => ⟨?_, ?_⟩⟩
  · have hnone : g.pipeline.connections.get? a = none := by
      have hkey := h.keyed a
      rw [ha] at hkey
      exact Option.isNone_iff_eq_none.1 (Option.isSome_eq_false_iff.1 hkey)
    have hpassed := h.strangers a hnone
    rw [passed, List.append_eq_nil_iff] at hpassed
    exact hpassed.1
  · rw [h.reported a adapter ha, refusals_eq_nil hlisten, ite_self]
  · exact h.whole_of_finished hf ha hlisten
  · exact h.nothing_of_refused ha (by simp [refusals_of_error hlisten])
  · rw [h.reported a adapter ha, refusals_of_error hlisten]
  · simp only [step, hq]
  · exact Pipeline.errors_of_moves (Pipeline.step?_iff.1 hq)

def mute (listen : Except ChatError Unit) : Adapter := ⟨listen, fun _ c => c.refuse (.unavailable "mute")⟩

def twoAdapters : Registry Adapter :=
  .ofMap (((∅ : SortedMap String Adapter).insert "chat" (mute (.ok ()))).insert "mail"
    (mute (.error (.unavailable "login"))))

def twoStreams (a : String) : List Event :=
  if a = "chat" then [.disconnected "restart", .authenticationError "token"] else [.disconnected "lost"]

def turns : List Happening :=
  (List.replicate 9 [.task .opening, .task (.forwarder "chat"), .task (.forwarder "mail"), .task .events]).flatten

def narrow : Settings := ⟨none, false, false, false, false, ⟨1, 1, 1, 1⟩⟩

theorem mail_is_left_out :
    let g := (start narrow (fun _ => .ofText "") (.ofStore (.new .standard)) twoAdapters twoStreams).run
      (turns.filter Happening.keepsStreams)
    g.pipeline.events = .finished ∧ eventsOf "chat" g.handled = twoStreams "chat" ∧
      eventsOf "mail" g.handled ++ eventsOf "mail" g.pipeline.merged = [] ∧
      listenErrors "mail" g.raised = [.unavailable "login"] := by
  have hmerges :=
    fan_in_keeps_streams narrow (fun _ => .ofText "") (.ofStore (.new .standard)) twoAdapters twoStreams turns
  have hload : ((start narrow (fun _ => .ofText "") (.ofStore (.new .standard)) twoAdapters twoStreams).run
      (turns.filter Happening.keepsStreams)).pipeline.events.load = 0 := by decide +kernel
  revert hmerges hload
  generalize (start narrow (fun _ => .ofText "") (.ofStore (.new .standard)) twoAdapters twoStreams).run
    (turns.filter Happening.keepsStreams) = g
  intro hmerges hload
  have hfinished : g.pipeline.events = .finished := by
    cases he : g.pipeline.events with
    | finished => rfl
    | _ => simp [he, EventLoop.load] at hload
  have hchat : twoAdapters.get? "chat" = some (mute (.ok ())) := by
    simp [twoAdapters, Registry.ofMap, Registry.get?, SortedMap.get?_insert_ite]
  have hmail : twoAdapters.get? "mail" = some (mute (.error (.unavailable "login"))) := by
    simp [twoAdapters, Registry.ofMap, Registry.get?, SortedMap.get?_insert_ite]
  obtain ⟨-, -, hlistens, hrefuses, hdone, -⟩ := hmerges
  obtain ⟨hnothing, hreport⟩ := hrefuses "mail" _ _ hmail rfl
  refine ⟨hfinished, (hlistens "chat" _ hchat rfl).2 hfinished, hnothing, ?_⟩
  rw [hreport, if_neg]
  rw [hdone hfinished]
  simp

end Gathering

end Dispatch

end ChatRouter
