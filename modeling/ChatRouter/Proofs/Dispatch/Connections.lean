import ChatRouter.Proofs.Dispatch.FanIn
import ChatRouter.Proofs.Text.Bytes
import ChatRouter.Regex.Parser

set_option autoImplicit false

/-!
# The states of connections

The moves of the start and of the forwarders are recorded as signs, each of one adapter. The state of a connection is
what the signs of its own adapter tell (`states_tell_their_streams`): whether it could be listened to, then its
events, then the end of its stream.
-/

namespace ChatRouter

theorem Registry.names_increasing {Adapter : Type} (r : Registry Adapter) :
    r.names.Pairwise fun a b => Text.bytes a < Text.bytes b := by
  rw [Registry.names, SortedMap.keys, List.pairwise_map]
  exact r.adapters.sorted.imp fun h => Text.bytes_lt_iff.2 (compareOfLessAndEq_eq_lt.1 h)

namespace Dispatch

/-- What a move shows of the stream of an adapter. -/
inductive Sign where
  | refused
  | opened
  | heard (event : Event)
  | ended
deriving DecidableEq

namespace Sign

def apply (state : ConnectionState) : Sign → ConnectionState
  | refused => .errored
  | opened => .listening
  | heard e => state.after e
  | ended => .closed

def heard? : Sign → Option Event
  | heard e => some e
  | _ => none

end Sign

/-- The signs of an adapter so far, and the state that they leave its connection in. -/
inductive Story : List Sign → ConnectionState → Prop
  | unopened : Story [] .idle
  | refused : Story [.refused] .errored
  | told (events : List Event) :
      Story (.opened :: events.map .heard) (events.foldl ConnectionState.after .listening)
  | finished (events : List Event) : Story (.opened :: (events.map .heard ++ [.ended])) .closed

namespace Story

variable {signs : List Sign} {state : ConnectionState}

theorem state_eq (h : Story signs state) : state = signs.foldl Sign.apply .idle := by
  cases h with
  | unopened | refused => rfl
  | told events =>
    rw [List.foldl_cons, List.foldl_map]
    rfl
  | finished events =>
    rw [List.foldl_cons, List.foldl_append]
    rfl

theorem foldl_after_ne {target : ConnectionState} (htarget : target = .idle ∨ target = .closed) (events : List Event)
    {state : ConnectionState} (h : state ≠ target) : events.foldl ConnectionState.after state ≠ target := by
  induction events generalizing state with
  | nil => exact h
  | cons e events ih =>
    apply ih
    rcases htarget with rfl | rfl <;> cases e <;> first | exact h | exact nofun

theorem errored_of_refused (h : Story signs state) (hr : .refused ∈ signs) : state = .errored := by
  cases h with
  | unopened => cases hr
  | refused => rfl
  | told events => simp at hr
  | finished events => simp at hr

theorem idle_iff (h : Story signs state) : state = .idle ↔ signs = [] := by
  cases h with
  | unopened | refused => simp
  | told events => simpa using foldl_after_ne (.inl rfl) events (by simp)
  | finished events => simp

theorem closed_iff (h : Story signs state) : state = .closed ↔ .ended ∈ signs := by
  cases h with
  | unopened | refused => simp
  | told events => simpa using foldl_after_ne (.inr rfl) events (by simp)
  | finished events => simp

end Story

namespace Pipeline

/-- The sign that a move of the task gives. -/
def sign? (p : Pipeline) : Task → Option (String × Sign)
  | .opening =>
    match p.unopened with
    | [] => none
    | a :: _ =>
      match p.world.adapters.get? a, p.connections.get? a with
      | some adapter, some _ =>
        match adapter.listen with
        | .ok () => some (a, .opened)
        | .error _ => some (a, .refused)
      | _, _ => none
  | .forwarder a =>
    match p.held.find? (·.1 == a), p.connections.get? a with
    | none, some c =>
      match c.forwarder, c.inbox, c.ended with
      | .running, e :: _, _ => some (a, .heard e)
      | .running, [], true => some (a, .ended)
      | _, _, _ => none
    | _, _ => none
  | .events | .router => none

variable {p : Pipeline} {a : String} {c : Connection} {e : Event} {rest : List Event}

theorem sign?_listening {names : List String} {adapter : Adapter} (hu : p.unopened = a :: names)
    (ha : p.world.adapters.get? a = some adapter) (hc : p.connections.get? a = some c)
    (hlisten : adapter.listen = .ok ()) : p.sign? .opening = some (a, .opened) := by
  simp [sign?, hu, ha, hc, hlisten]

theorem sign?_declining {names : List String} {adapter : Adapter} {cause : ChatError} (hu : p.unopened = a :: names)
    (ha : p.world.adapters.get? a = some adapter) (hc : p.connections.get? a = some c)
    (hlisten : adapter.listen = .error cause) : p.sign? .opening = some (a, .refused) := by
  simp [sign?, hu, ha, hc, hlisten]

theorem sign?_holding {e : String × Event} (hheld : p.held.find? (·.1 == a) = some e) :
    p.sign? (.forwarder a) = none := by simp [sign?, hheld]

theorem sign?_reading (hheld : p.held.find? (·.1 == a) = none) (hc : p.connections.get? a = some c)
    (hrun : c.forwarder = .running) (hin : c.inbox = e :: rest) : p.sign? (.forwarder a) = some (a, .heard e) := by
  simp [sign?, hheld, hc, hrun, hin]

theorem sign?_closing (hheld : p.held.find? (·.1 == a) = none) (hc : p.connections.get? a = some c)
    (hrun : c.forwarder = .running) (hin : c.inbox = []) (hend : c.ended = true) :
    p.sign? (.forwarder a) = some (a, .ended) := by
  simp [sign?, hheld, hc, hrun, hin, hend]

def signs (p : Pipeline) : Happening → List (String × Sign)
  | .task t =>
    match p.step? t with
    | some _ => (p.sign? t).toList
    | none => []
  | _ => []

end Pipeline

/-! ### What the host cannot reach -/

namespace Pipeline

structure Spares (p q : Pipeline) : Prop where
  unopened : q.unopened = p.unopened
  merged : q.merged = p.merged
  held : q.held = p.held
  adapters : ∀ a, q.world.adapters.adapters.contains a = p.world.adapters.adapters.contains a

theorem spares_onOpen (p : Pipeline) (a : String) (accepts : Connection → Bool) (change : Connection → Connection) :
    p.Spares (p.onOpen a accepts change).2 := by
  unfold onOpen
  split
  · split <;> exact ⟨rfl, rfl, rfl, fun _ => rfl⟩
  · exact ⟨rfl, rfl, rfl, fun _ => rfl⟩

theorem spares_happen (p : Pipeline) {e : Happening} (hhost : ∀ t, e ≠ .task t) (habort : e ≠ .abort) :
    p.Spares (p.happen e) := by
  cases e with
  | task t => exact absurd rfl (hhost t)
  | abort => exact absurd rfl habort
  | deliver a e => exact p.spares_onOpen a _ _
  | endStream a => exact p.spares_onOpen a _ _
  | respond r =>
    change p.Spares (p.respond r).2
    unfold respond
    split <;> exact ⟨rfl, rfl, rfl, fun _ => rfl⟩
  | replaceAdapter name f => exact ⟨rfl, rfl, rfl, fun a => SortedMap.contains_modify ..⟩
  | takeRequest | takeFailure | takeSent | dropRequests | dropFailures | dropResponses | outage | call =>
    exact ⟨rfl, rfl, rfl, fun _ => rfl⟩

end Pipeline

/-- A run with the signs that it has given. -/
structure Account where
  gathering : Gathering
  signs : List (String × Sign)

namespace Account

def pipeline (s : Account) : Pipeline := s.gathering.pipeline

def step (s : Account) (h : Happening) : Account := ⟨s.gathering.step h, s.signs ++ s.pipeline.signs h⟩

def run (s : Account) (happenings : List Happening) : Account := happenings.foldl step s

def start (settings : Settings) (hashes : Nat → PasswordHash) (data : Faulty) (adapters : Registry Adapter) :
    Account :=
  ⟨⟨Pipeline.initial settings hashes data adapters, [], []⟩, []⟩

def of (s : Account) (a : String) : List Sign := s.signs.filterMap fun x => if x.1 = a then some x.2 else none

/-- The events that the forwarder of the adapter has taken. -/
def heard (s : Account) (a : String) : List Event := (s.of a).filterMap Sign.heard?

variable {s : Account} {a b : String} {sign : Sign} {g : Gathering}

theorem of_tell_own : of ⟨g, s.signs ++ [(a, sign)]⟩ a = s.of a ++ [sign] := by simp [of]

theorem of_tell_other (h : b ≠ a) : of ⟨g, s.signs ++ [(a, sign)]⟩ b = s.of b := by simp [of, Ne.symm h]

/-- A connection is as the signs tell; while its forwarder runs they go on. -/
structure Telling (signs : List Sign) (c : Connection) : Prop where
  story : Story signs c.state
  running : c.forwarder = .running → ∃ events : List Event,
    signs = .opened :: events.map .heard ∧ c.state = events.foldl ConnectionState.after .listening

structure Truthful (adapters : Registry Adapter) (s : Account) : Prop where
  keyed : ∀ a, s.pipeline.connections.contains a = adapters.adapters.contains a
  nodup : s.pipeline.unopened.Nodup
  unheard : ∀ a ∈ s.pipeline.unopened, s.of a = []
  tells : ∀ a c, s.pipeline.connections.get? a = some c → Telling (s.of a) c

variable {adapters : Registry Adapter}

theorem Truthful.quiet (h : s.Truthful adapters)
    (hkeyed : ∀ b, g.pipeline.connections.contains b = s.pipeline.connections.contains b)
    (hunopened : g.pipeline.unopened.Sublist s.pipeline.unopened)
    (hconnections : ∀ b d, g.pipeline.connections.get? b = some d → ∃ c, s.pipeline.connections.get? b = some c ∧
      d.state = c.state ∧ (d.forwarder = .running → c.forwarder = .running)) :
    Truthful adapters ⟨g, s.signs⟩ where
  keyed b := (hkeyed b).trans (h.keyed b)
  nodup := h.nodup.sublist hunopened
  unheard b hb := h.unheard b (hunopened.subset hb)
  tells b d hd := by
    obtain ⟨c, hc, hstate, hforwarder⟩ := hconnections b d hd
    obtain ⟨hstory, hrunning⟩ := h.tells b c hc
    refine ⟨hstate ▸ hstory, fun hd => ?_⟩
    rw [hstate]
    exact hrunning (hforwarder hd)

theorem Truthful.unchanged (h : s.Truthful adapters) (hunopened : g.pipeline.unopened = s.pipeline.unopened)
    (hconnections : g.pipeline.connections = s.pipeline.connections) : Truthful adapters ⟨g, s.signs⟩ := by
  refine h.quiet (fun b => ?_) ?_ fun b d hd => ?_
  · rw [hconnections]
  · rw [hunopened]
  · rw [hconnections] at hd
    exact ⟨d, hd, rfl, id⟩

theorem Truthful.tell (h : s.Truthful adapters) {c c' : Connection}
    (hc : s.pipeline.connections.get? a = some c)
    (hconnections : g.pipeline.connections = s.pipeline.connections.insert a c')
    (hunopened : g.pipeline.unopened.Sublist s.pipeline.unopened) (hopened : a ∉ g.pipeline.unopened)
    (htells : Telling (s.of a ++ [sign]) c') : Truthful adapters ⟨g, s.signs ++ [(a, sign)]⟩ where
  keyed b := by
    change g.pipeline.connections.contains b = _
    rw [hconnections, SortedMap.contains_insert, ← h.keyed b]
    by_cases hb : b = a
    · simp [hb, SortedMap.contains, hc]
    · simp [hb]
  nodup := h.nodup.sublist hunopened
  unheard b hb := by
    have hne : b ≠ a := fun he => hopened (he ▸ hb)
    rw [of_tell_other hne]
    exact h.unheard b (hunopened.subset hb)
  tells b d hd := by
    change g.pipeline.connections.get? b = some d at hd
    rw [hconnections, SortedMap.get?_insert_ite] at hd
    split at hd
    · cases hd
      subst b
      rw [of_tell_own]
      exact htells
    · rename_i hne
      rw [of_tell_other hne]
      exact h.tells b d hd

theorem Truthful.opened (h : s.Truthful adapters) {c : Connection} (hc : s.pipeline.connections.get? a = some c)
    (hrun : c.forwarder = .running) : a ∉ s.pipeline.unopened := by
  intro ha
  obtain ⟨events, hsigns, -⟩ := (h.tells a c hc).running hrun
  rw [h.unheard a ha] at hsigns
  cases hsigns

/-! ### Steps -/

variable {q : Pipeline} {t : Task}

theorem Truthful.moves (h : s.Truthful adapters) (hm : s.pipeline.Moves t q) :
    Truthful adapters ⟨s.gathering.after t q, s.signs ++ (s.pipeline.sign? t).toList⟩ := by
  cases hm with
  | @passes a rest hu hnone =>
    have hsign : s.pipeline.sign? .opening = none := by
      rcases hnone with hnone | hnone <;> simp [Pipeline.sign?, hu, hnone]
    rw [hsign, Option.toList_none, List.append_nil]
    refine h.quiet (fun _ => rfl) ?_ fun b d hd => ⟨d, hd, rfl, id⟩
    rw [hu]
    exact List.sublist_cons_self ..
  | @listens a rest adapter c hu ha hc hlisten =>
    have hnodup := List.nodup_cons.1 (hu ▸ h.nodup)
    rw [Pipeline.sign?_listening hu ha hc hlisten]
    refine h.tell hc rfl ?_ hnodup.1 ?_
    · rw [hu]
      exact List.sublist_cons_self ..
    · rw [h.unheard a (by simp [hu])]
      exact ⟨.told [], fun _ => ⟨[], rfl, rfl⟩⟩
  | @declines a rest adapter c cause hu ha hc hlisten =>
    have hnodup := List.nodup_cons.1 (hu ▸ h.nodup)
    rw [Pipeline.sign?_declining hu ha hc hlisten]
    refine h.tell hc rfl ?_ hnodup.1 ?_
    · rw [hu]
      exact List.sublist_cons_self ..
    · rw [h.unheard a (by simp [hu])]
      exact ⟨.refused, fun hrun => absurd (by simp [hu]) (h.opened hc hrun)⟩
  | @merges a e hheld hroom =>
    rw [Pipeline.sign?_holding hheld, Option.toList_none, List.append_nil]
    exact h.unchanged rfl rfl
  | @reads a c e rest hheld hc hrun hin =>
    obtain ⟨events, hsigns, hstate⟩ := (h.tells a c hc).running hrun
    rw [Pipeline.sign?_reading hheld hc hrun hin]
    refine h.tell hc rfl (List.Sublist.refl _) (h.opened hc hrun) ?_
    have hmore : s.of a ++ [.heard e] = .opened :: (events ++ [e]).map .heard := by
      rw [hsigns, List.map_append]
      rfl
    have hafter : c.state.after e = (events ++ [e]).foldl ConnectionState.after .listening := by
      rw [hstate, List.foldl_append]
      rfl
    rw [hmore]
    refine ⟨?_, fun _ => ⟨_, rfl, hafter⟩⟩
    dsimp only
    rw [hafter]
    exact .told _
  | @closes a c hheld hc hrun hin hend =>
    obtain ⟨events, hsigns, -⟩ := (h.tells a c hc).running hrun
    rw [Pipeline.sign?_closing hheld hc hrun hin hend]
    refine h.tell hc rfl (List.Sublist.refl _) (h.opened hc hrun) ?_
    rw [hsigns]
    exact ⟨.finished events, nofun⟩
  | takes | finishes | works | ignores | offers | loses | emits | routes | retires | answers | rests =>
    simp only [Pipeline.sign?, Option.toList_none, List.append_nil]
    exact h.unchanged rfl rfl

theorem Truthful.onOpen (h : s.Truthful adapters) (a : String) (accepts : Connection → Bool)
    (change : Connection → Connection)
    (hchange : ∀ c, (change c).state = c.state ∧ (change c).forwarder = c.forwarder) :
    Truthful adapters ⟨{ s.gathering with pipeline := (s.pipeline.onOpen a accepts change).2 }, s.signs⟩ := by
  unfold Pipeline.onOpen
  cases hc : s.pipeline.connections.get? a with
  | none => exact h.unchanged rfl rfl
  | some c =>
    dsimp only
    split
    · refine h.quiet (fun b => ?_) (List.Sublist.refl _) fun b d hd => ?_
      · change (s.pipeline.connections.insert a (change c)).contains b = _
        rw [SortedMap.contains_insert]
        by_cases hb : b = a
        · simp [hb, SortedMap.contains, hc]
        · simp [hb]
      · change (s.pipeline.connections.insert a (change c)).get? b = some d at hd
        rw [SortedMap.get?_insert_ite] at hd
        split at hd
        · cases hd
          subst b
          exact ⟨c, hc, (hchange c).1, fun hrun => (hchange c).2.symm.trans hrun⟩
        · exact ⟨d, hd, rfl, id⟩
    · exact h.unchanged rfl rfl

theorem Truthful.abort (h : s.Truthful adapters) :
    Truthful adapters ⟨{ s.gathering with pipeline := s.pipeline.abort }, s.signs⟩ := by
  refine h.quiet (fun b => SortedMap.contains_mapValues ..) (List.nil_sublist _) fun b d hd => ?_
  change (s.pipeline.connections.mapValues _).get? b = some d at hd
  rw [SortedMap.get?_mapValues, Option.map_eq_some_iff] at hd
  obtain ⟨c, hc, rfl⟩ := hd
  refine ⟨c, hc, ?_, fun hrun => ?_⟩
  · split <;> rfl
  · split at hrun
    · cases hrun
    · exact hrun

theorem step_cases (s : Account) (e : Happening) : s.step e = s ∨
    (∃ t q, e = .task t ∧ s.pipeline.Moves t q ∧
      s.step e = ⟨s.gathering.after t q, s.signs ++ (s.pipeline.sign? t).toList⟩) ∨
    (∀ t, e ≠ .task t) ∧ s.step e = ⟨{ s.gathering with pipeline := s.pipeline.happen e }, s.signs⟩ := by
  cases e with
  | task t =>
    cases hq : s.gathering.pipeline.step? t with
    | some q =>
      refine .inr (.inl ⟨t, q, rfl, Pipeline.step?_iff.1 hq, ?_⟩)
      simp only [step, Gathering.step, Gathering.after, Pipeline.signs, pipeline, hq]
    | none =>
      apply Or.inl
      simp only [step, Gathering.step, Pipeline.signs, pipeline, hq, List.append_nil]
  | _ =>
    refine .inr (.inr ⟨?_, congrArg (mk _) (List.append_nil _)⟩)
    rintro t ⟨⟩

theorem Truthful.step (h : s.Truthful adapters) (e : Happening) : (s.step e).Truthful adapters := by
  rcases s.step_cases e with hstays | ⟨t, q, -, hm, hmoves⟩ | ⟨hhost, hhappens⟩
  · rw [hstays]
    exact h
  · rw [hmoves]
    exact h.moves hm
  · rw [hhappens]
    cases e with
    | task t => exact absurd rfl (hhost t)
    | deliver a e => exact h.onOpen a _ (fun c => { c with inbox := c.inbox ++ [e] }) fun _ => ⟨rfl, rfl⟩
    | endStream a => exact h.onOpen a _ (fun c => { c with ended := true }) fun _ => ⟨rfl, rfl⟩
    | abort => exact h.abort
    | respond r =>
      change Truthful adapters ⟨{ s.gathering with pipeline := (s.pipeline.respond r).2 }, s.signs⟩
      unfold Pipeline.respond
      split <;> exact h.unchanged rfl rfl
    | takeRequest | takeFailure | takeSent | dropRequests | dropFailures | dropResponses
    | replaceAdapter | outage | call => exact h.unchanged rfl rfl

theorem Truthful.run (h : s.Truthful adapters) (happenings : List Happening) :
    (s.run happenings).Truthful adapters := by
  induction happenings generalizing s with
  | nil => exact h
  | cons e happenings ih => exact ih (h.step e)

theorem truthful_start (settings : Settings) (hashes : Nat → PasswordHash) (data : Faulty)
    (adapters : Registry Adapter) : (start settings hashes data adapters).Truthful adapters where
  keyed a := SortedMap.contains_mapValues ..
  nodup := adapters.order_nodup
  unheard _ _ := rfl
  tells a c hc := by
    change (adapters.adapters.mapValues _).get? a = some c at hc
    rw [SortedMap.get?_mapValues, Option.map_eq_some_iff] at hc
    obtain ⟨_, -, rfl⟩ := hc
    exact ⟨.unopened, nofun⟩

/-! ### Who is still to be opened -/

theorem adapters_of_moves (hm : s.pipeline.Moves t q) : q.world.adapters = s.pipeline.world.adapters := by
  cases hm with
  | works | answers => exact World.adapters_perform _ _
  | _ => rfl

/-- The adapters are there, and those without a sign are still to be opened. -/
structure Attended (adapters : Registry Adapter) (s : Account) : Prop where
  there : ∀ a, s.pipeline.world.adapters.adapters.contains a = adapters.adapters.contains a
  waiting : ∀ a, adapters.adapters.contains a = true → s.of a = [] → a ∈ s.pipeline.unopened

theorem Attended.moves (h : s.Attended adapters) (htruthful : s.Truthful adapters) (hm : s.pipeline.Moves t q) :
    Attended adapters ⟨s.gathering.after t q, s.signs ++ (s.pipeline.sign? t).toList⟩ where
  there a := by
    change q.world.adapters.adapters.contains a = _
    rw [adapters_of_moves hm]
    exact h.there a
  waiting a ha hnone := by
    have hgrown : s.of a <+: [] := hnone ▸ (List.prefix_append ..).filterMap _
    have hwaits := h.waiting a ha (List.prefix_nil.1 hgrown)
    change a ∈ q.unopened
    cases hm with
    | @passes b rest hu hlacks =>
      rw [hu] at hwaits
      rcases List.mem_cons.1 hwaits with rfl | hwaits
      · have hadapter := (h.there a).trans ha
        have hconnection := (htruthful.keyed a).trans ha
        rcases hlacks with hlacks | hlacks
        · rw [SortedMap.contains, ← Registry.get?, hlacks] at hadapter
          cases hadapter
        · rw [SortedMap.contains, hlacks] at hconnection
          cases hconnection
      · exact hwaits
    | @listens b rest adapter c hu hb hc hlisten =>
      rw [hu] at hwaits
      rcases List.mem_cons.1 hwaits with rfl | hwaits
      · rw [Pipeline.sign?_listening hu hb hc hlisten, Option.toList_some, of_tell_own] at hnone
        simp at hnone
      · exact hwaits
    | @declines b rest adapter c cause hu hb hc hlisten =>
      rw [hu] at hwaits
      rcases List.mem_cons.1 hwaits with rfl | hwaits
      · rw [Pipeline.sign?_declining hu hb hc hlisten, Option.toList_some, of_tell_own] at hnone
        simp at hnone
      · exact hwaits
    | _ => exact hwaits

theorem Attended.step (h : s.Attended adapters) (htruthful : s.Truthful adapters) {e : Happening} (he : e ≠ .abort) :
    (s.step e).Attended adapters := by
  rcases s.step_cases e with hstays | ⟨t, q, -, hm, hmoves⟩ | ⟨hhost, hhappens⟩
  · rw [hstays]
    exact h
  · rw [hmoves]
    exact h.moves htruthful hm
  · have hspares := s.pipeline.spares_happen hhost he
    rw [hhappens]
    refine ⟨fun a => (hspares.adapters a).trans (h.there a), fun a ha hnone => ?_⟩
    change a ∈ (s.pipeline.happen e).unopened
    rw [hspares.unopened]
    exact h.waiting a ha hnone

theorem Attended.run (h : s.Attended adapters) (htruthful : s.Truthful adapters) {happenings : List Happening}
    (ha : .abort ∉ happenings) : (s.run happenings).Attended adapters := by
  induction happenings generalizing s with
  | nil => exact h
  | cons e happenings ih =>
    rw [List.mem_cons, not_or] at ha
    exact ih (h.step htruthful (Ne.symm ha.1)) (htruthful.step e) ha.2

theorem attended_start (settings : Settings) (hashes : Nat → PasswordHash) (data : Faulty)
    (adapters : Registry Adapter) : (start settings hashes data adapters).Attended adapters where
  there _ := rfl
  waiting a ha _ := (adapters.mem_order_iff a).2 ha

/-! ### Where the events are -/

def heardOf? (x : String × Sign) : Option (String × Event) := x.2.heard?.map (x.1, ·)

theorem heard_tell (sign : Option (String × Sign)) (b : String) :
    heard ⟨g, s.signs ++ sign.toList⟩ b = s.heard b ++ eventsOf b (sign.bind heardOf?).toList := by
  cases sign with
  | none => simp [heard, of]
  | some x =>
    obtain ⟨a, x⟩ := x
    by_cases hb : a = b
    · cases x <;> simp [heard, of, eventsOf, heardOf?, Sign.heard?, hb]
    · cases x <;> simp [heard, of, eventsOf, heardOf?, Sign.heard?, hb]

theorem heardOf?_opening (p : Pipeline) : (p.sign? .opening).bind heardOf? = none := by
  unfold Pipeline.sign?
  dsimp only
  split
  · rfl
  · split
    · split <;> rfl
    · rfl

theorem passed_of_moves (hm : s.pipeline.Moves t q) (b : String) : (s.gathering.after t q).passed b =
    s.gathering.passed b ++ eventsOf b ((s.pipeline.sign? t).bind heardOf?).toList := by
  -- Where the loop takes nothing and the forwarders move nothing, the events stay where they are.
  have stays (hhandles : s.pipeline.handles t = []) (hmerged : q.merged = s.pipeline.merged)
      (hheld : q.held = s.pipeline.held) (hsign : (s.pipeline.sign? t).bind heardOf? = none) :
      (s.gathering.after t q).passed b =
        s.gathering.passed b ++ eventsOf b ((s.pipeline.sign? t).bind heardOf?).toList := by
    rw [hsign, Option.toList_none, eventsOf_nil, List.append_nil, Gathering.passed, Gathering.passed, Gathering.after,
      show s.gathering.pipeline.handles t = [] from hhandles, List.append_nil, hmerged, hheld]
    rfl
  cases hm with
  | passes | listens | declines => exact stays rfl rfl rfl (heardOf?_opening _)
  | @merges a e hheld hroom =>
    rw [Pipeline.sign?_holding hheld, Gathering.after_of_forwarder]
    change eventsOf b s.gathering.handled ++ eventsOf b (s.pipeline.merged ++ [e]) ++
      eventsOf b (s.pipeline.held.eraseP _) =
        eventsOf b s.gathering.handled ++ eventsOf b s.pipeline.merged ++ eventsOf b s.pipeline.held ++ []
    rw [eventsOf_eraseP hheld b, eventsOf_append, List.append_nil]
    simp only [List.append_assoc]
  | @reads a c e rest hheld hc hrun hin =>
    rw [Pipeline.sign?_reading hheld hc hrun hin, Gathering.after_of_forwarder]
    change eventsOf b s.gathering.handled ++ eventsOf b s.pipeline.merged ++
      eventsOf b (s.pipeline.held ++ [(a, e)]) =
        eventsOf b s.gathering.handled ++ eventsOf b s.pipeline.merged ++ eventsOf b s.pipeline.held ++
          eventsOf b [(a, e)]
    rw [eventsOf_append, List.append_assoc _ _ (eventsOf b [(a, e)])]
  | @closes a c hheld hc hrun hin hend =>
    refine stays rfl rfl rfl ?_
    rw [Pipeline.sign?_closing hheld hc hrun hin hend]
    rfl
  | @takes a e rest hu hloop hmerged =>
    have hhandles : s.pipeline.handles .events = [(a, e)] := by simp only [Pipeline.handles, hloop, hmerged]
    change eventsOf b (s.gathering.handled ++ s.pipeline.handles .events) ++ eventsOf b rest ++
      eventsOf b s.pipeline.held =
        eventsOf b s.gathering.handled ++ eventsOf b s.pipeline.merged ++ eventsOf b s.pipeline.held ++ []
    rw [hhandles, hmerged, eventsOf_append, eventsOf_cons b (a, e) rest, List.append_nil]
    simp only [List.append_assoc]
  | finishes _ hloop hmerged => exact stays (by simp only [Pipeline.handles, hloop, hmerged]) rfl rfl rfl
  | works _ hloop | ignores _ hloop | offers _ hloop | loses _ hloop | emits _ hloop =>
    exact stays (by simp only [Pipeline.handles, hloop]) rfl rfl rfl
  | routes | retires | answers | rests => exact stays rfl rfl rfl rfl

/-- Unless the tasks are aborted, what a forwarder has taken has been taken by the loop, is merged or is held. -/
theorem heard_step {e : Happening} (he : e ≠ .abort) (h : ∀ a, s.heard a = s.gathering.passed a) (a : String) :
    (s.step e).heard a = (s.step e).gathering.passed a := by
  rcases s.step_cases e with hstays | ⟨t, q, -, hm, hmoves⟩ | ⟨hhost, hhappens⟩
  · rw [hstays]
    exact h a
  · rw [hmoves, heard_tell, h, passed_of_moves hm]
  · have hspares := s.pipeline.spares_happen hhost he
    rw [hhappens]
    refine (h a).trans ?_
    rw [Gathering.passed, Gathering.passed, hspares.merged, hspares.held]
    rfl

theorem heard_run {happenings : List Happening} (ha : .abort ∉ happenings)
    (h : ∀ a, s.heard a = s.gathering.passed a) (a : String) :
    (s.run happenings).heard a = (s.run happenings).gathering.passed a := by
  induction happenings generalizing s with
  | nil => exact h a
  | cons e happenings ih =>
    rw [List.mem_cons, not_or] at ha
    exact ih ha.2 (heard_step (Ne.symm ha.1) h)

/-! ### The states -/

theorem mem_states_iff {state : ConnectionState} :
    (a, state) ∈ s.pipeline.states ↔ ∃ c, s.pipeline.connections.get? a = some c ∧ c.state = state := by
  rw [Pipeline.states, List.mem_map]
  constructor
  · rintro ⟨⟨b, c⟩, hc, he⟩
    cases he
    exact ⟨c, (SortedMap.mem_entries_iff _ _ _).1 hc, rfl⟩
  · rintro ⟨c, hc, rfl⟩
    exact ⟨(a, c), (SortedMap.mem_entries_iff _ _ _).2 hc, rfl⟩

theorem Truthful.story (h : s.Truthful adapters) {state : ConnectionState} (hs : (a, state) ∈ s.pipeline.states) :
    Story (s.of a) state := by
  obtain ⟨c, hc, rfl⟩ := mem_states_iff.1 hs
  exact (h.tells a c hc).story

theorem Truthful.registered (h : s.Truthful adapters) {state : ConnectionState}
    (hs : (a, state) ∈ s.pipeline.states) : adapters.adapters.contains a = true := by
  obtain ⟨c, hc, -⟩ := mem_states_iff.1 hs
  rw [← h.keyed, SortedMap.contains_iff]
  exact ⟨c, hc⟩

theorem Truthful.names (h : s.Truthful adapters) : s.pipeline.states.map (·.1) = adapters.names := by
  rw [Pipeline.states, List.map_map]
  exact SortedMap.keys_congr h.keyed

theorem of_prefix_step (s : Account) (e : Happening) (a : String) : s.of a <+: (s.step e).of a :=
  (List.prefix_append ..).filterMap _

theorem of_prefix_run (s : Account) (happenings : List Happening) (a : String) :
    s.of a <+: (s.run happenings).of a := by
  induction happenings generalizing s with
  | nil => exact List.prefix_rfl
  | cons e happenings ih => exact (of_prefix_step s e a).trans (ih (s.step e))

theorem signs_one (p : Pipeline) (e : Happening) : p.signs e = [] ∨ ∃ x, p.signs e = [x] := by
  cases e with
  | task t =>
    rw [Pipeline.signs]
    split
    · cases p.sign? t with
      | none => exact .inl rfl
      | some x => exact .inr ⟨x, rfl⟩
    · exact .inl rfl
  | _ => exact .inl rfl

theorem Truthful.sign_of_change (h : s.Truthful adapters) {e : Happening} {state state' : ConnectionState}
    (hs : (a, state) ∈ s.pipeline.states) (hs' : (a, state') ∈ (s.step e).pipeline.states) (hne : state' ≠ state) :
    ∃ sign, s.pipeline.signs e = [(a, sign)] ∧ ∀ d m, sign = .heard d → d.message? ≠ some m := by
  have hbefore := (h.story hs).state_eq
  have hafter := ((h.step e).story hs').state_eq
  rcases signs_one s.pipeline e with hnone | ⟨⟨b, sign⟩, hone⟩
  · rw [Account.step, hnone, List.append_nil] at hafter
    exact absurd (hafter.trans hbefore.symm) hne
  · by_cases hb : a = b
    · subst hb
      refine ⟨sign, hone, ?_⟩
      rintro d m rfl hm
      rw [Account.step, hone, of_tell_own, List.foldl_append, ← hbefore] at hafter
      exact hne (hafter.trans (ConnectionState.after_message state hm))
    · rw [Account.step, hone, of_tell_other hb] at hafter
      exact absurd (hafter.trans hbefore.symm) hne

/-- In any order of the tasks' moves, and whatever the host does, each adapter that was registered at the start is
listed once, in order, with the state that its own signs tell. It is idle until it is listened to, which is passed
over only if all tasks are aborted; errored for good once that has failed; and closed for good once its forwarder has
found the end of the stream. Otherwise its state is what its events have made of it, as far as its forwarder has
taken them. -/
theorem states_tell_their_streams (settings : Settings) (hashes : Nat → PasswordHash) (data : Faulty)
    (adapters : Registry Adapter) (happenings more : List Happening) :
    let s := (start settings hashes data adapters).run happenings
    let t := s.run more
    (s.pipeline.states.map (·.1) = adapters.names ∧
      adapters.names.Pairwise fun a b => Text.bytes a < Text.bytes b) ∧
    (∀ a state, (a, state) ∈ s.pipeline.states → Story (s.of a) state) ∧
    (∀ a state, (a, state) ∈ s.pipeline.states → a ∈ s.pipeline.unopened → state = .idle) ∧
    (.abort ∉ happenings → (∀ a state, (a, state) ∈ s.pipeline.states → state = .idle → a ∈ s.pipeline.unopened) ∧
      ∀ a, s.heard a = s.gathering.passed a) ∧
    (∀ a, s.of a <+: t.of a) ∧
    (∀ a state, (a, state) ∈ t.pipeline.states → .refused ∈ s.of a → state = .errored) ∧
    (∀ a state, (a, state) ∈ t.pipeline.states → (.ended ∈ s.of a ∨ (a, .closed) ∈ s.pipeline.states) →
      state = .closed) ∧
    ∀ a e state state', (a, state) ∈ s.pipeline.states → (a, state') ∈ (s.step e).pipeline.states →
      state' ≠ state → ∃ sign, s.pipeline.signs e = [(a, sign)] ∧ ∀ d m, sign = .heard d → d.message? ≠ some m := by
  intro s t
  have hs : s.Truthful adapters := (truthful_start settings hashes data adapters).run happenings
  have ht : t.Truthful adapters := hs.run more
  have hgrown := of_prefix_run s more
  refine ⟨⟨hs.names, adapters.names_increasing⟩, fun a state => hs.story, fun a state hstate ha => ?_, fun habort => ?_,
    hgrown, fun a state hstate hr => ?_, fun a state hstate hended => ?_, fun a e state state' => hs.sign_of_change⟩
  · exact (hs.story hstate).idle_iff.2 (hs.unheard a ha)
  · refine ⟨fun a state hstate hidle => ?_, heard_run habort fun _ => rfl⟩
    have hattended : s.Attended adapters := (attended_start settings hashes data adapters).run
      (truthful_start settings hashes data adapters) habort
    exact hattended.waiting a (hs.registered hstate) ((hs.story hstate).idle_iff.1 hidle)
  · exact (ht.story hstate).errored_of_refused ((hgrown a).subset hr)
  · have hsign : .ended ∈ s.of a := hended.elim id fun hclosed => (hs.story hclosed).closed_iff.1 rfl
    exact (ht.story hstate).closed_iff.2 ((hgrown a).subset hsign)

/-- A message leaves a connection as it was; the other one could not be opened. -/
example : ((start Gathering.narrow (fun _ => .ofText "") (.ofStore (.new .standard)) Gathering.twoAdapters).run
    [.deliver "chat" (.connected "bot"), .task .opening, .task (.forwarder "chat"), .task .opening,
      .deliver "chat" (.channelMessage ⟨"general", "ann", "hello"⟩), .task (.forwarder "chat"),
      .task (.forwarder "chat")]).pipeline.states =
    [("chat", .connected), ("mail", .errored)] := by
  decide +kernel

end Account

end Dispatch

end ChatRouter
