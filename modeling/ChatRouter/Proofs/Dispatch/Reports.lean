import ChatRouter.Proofs.Dispatch.FanIn
import ChatRouter.Regex.Parser

set_option autoImplicit false

namespace ChatRouter.Dispatch

def Settings.withErrors (s : Settings) (size : Nat) : Settings :=
  { s with buffers := { s.buffers with errors := size } }

theorem handle_withErrors (s : Settings) (size : Nat) (hash : PasswordHash) (adapter : String) (e : Event) :
    handle (s.withErrors size) hash adapter e = handle s hash adapter e := by
  cases e <;> rfl

namespace World

def withErrors (w : World) (o : Outbox Failure) : World := { w with errors := o }

theorem perform_withErrors (w : World) (o : Outbox Failure) (e : Effect) :
    ∃ o', (w.withErrors o).perform e = ((w.perform e).1, (w.perform e).2.withErrors o') := by
  cases e with
  | store c => exact ⟨o, rfl⟩
  | chat adapter c => exact ⟨o, rfl⟩
  | report f => exact ⟨o.offer f, rfl⟩
  | count s => exact ⟨o, rfl⟩

end World

namespace Pipeline

variable {p q : Pipeline} {t : Task}

def withErrors (p : Pipeline) (size : Nat) (o : Outbox Failure) : Pipeline :=
  { p with settings := p.settings.withErrors size, world := p.world.withErrors o }

theorem moves_withErrors (h : p.Moves t q) (size : Nat) (o : Outbox Failure) :
    ∃ o', (p.withErrors size o).Moves t (q.withErrors size o') := by
  cases h with
  | passes hu hnone => exact ⟨o, .passes hu hnone⟩
  | listens hu ha hc hlisten => exact ⟨o, .listens hu ha hc hlisten⟩
  | declines hu ha hc hlisten => exact ⟨_, .declines hu ha hc hlisten⟩
  | merges hheld hroom => exact ⟨o, .merges hheld hroom⟩
  | reads hheld hc hrun hin => exact ⟨o, .reads hheld hc hrun hin⟩
  | closes hheld hc hrun hin hend => exact ⟨o, .closes hheld hc hrun hin hend⟩
  | @takes a e rest hu hloop hm =>
    have htwin : (p.withErrors size o).Moves .events { p.withErrors size o with
      merged := rest
      taken := p.taken + 1
      world := (p.world.withErrors o).count ⟨.eventsReceived, [a]⟩
      events := .handling a (handle (p.settings.withErrors size) (p.hashes p.taken) a e) } := .takes hu hloop hm
    rw [handle_withErrors] at htwin
    exact ⟨o, htwin⟩
  | finishes hu hloop hm hl => exact ⟨o, .finishes hu hloop hm hl⟩
  | @works a effect next hu hloop =>
    obtain ⟨o', hperform⟩ := World.perform_withErrors p.world o effect
    have htwin : (p.withErrors size o).Moves .events { p.withErrors size o with
      world := ((p.world.withErrors o).perform effect).2
      events := .handling a (next ((p.world.withErrors o).perform effect).1) } := .works hu hloop
    rw [hperform] at htwin
    exact ⟨o', htwin⟩
  | ignores hu hloop => exact ⟨o, .ignores hu hloop⟩
  | offers hu hloop => exact ⟨o, .offers hu hloop⟩
  | loses hu hloop hheld => exact ⟨_, .loses hu hloop hheld⟩
  | emits hu hloop hheld hroom => exact ⟨o, .emits hu hloop hheld hroom⟩
  | routes hu hr hwait => exact ⟨o, .routes hu hr hwait⟩
  | retires hu hr hwait hend => exact ⟨o, .retires hu hr hwait hend⟩
  | @answers effect next hu hr =>
    obtain ⟨o', hperform⟩ := World.perform_withErrors p.world o effect
    have htwin : (p.withErrors size o).Moves .router { p.withErrors size o with
      world := ((p.world.withErrors o).perform effect).2
      router := .routing (next ((p.world.withErrors o).perform effect).1) } := .answers hu hr
    rw [hperform] at htwin
    exact ⟨o', htwin⟩
  | rests hu hr => exact ⟨o, .rests hu hr⟩

theorem raises_withErrors (p : Pipeline) (size : Nat) (o : Outbox Failure) (t : Task) :
    (p.withErrors size o).raises t = p.raises t := by
  cases t <;> rfl

theorem step?_withErrors (p : Pipeline) (size : Nat) (o : Outbox Failure) (t : Task) :
    (p.withErrors size o).step? t =
      (p.step? t).map (·.withErrors size ((p.raises t).foldl Outbox.offer o)) := by
  cases hp : p.step? t with
  | some q =>
    obtain ⟨o', htwin⟩ := moves_withErrors (step?_iff.1 hp) size o
    have hoffered := errors_of_moves htwin
    rw [raises_withErrors] at hoffered
    change o' = (p.raises t).foldl Outbox.offer o at hoffered
    rw [step?_iff.2 htwin, hoffered]
    rfl
  | none =>
    -- With its own queue back in its place, a twin that moves is this pipeline moving.
    cases hq : (p.withErrors size o).step? t with
    | none => rfl
    | some q =>
      obtain ⟨o', hback⟩ := moves_withErrors (step?_iff.1 hq) p.settings.buffers.errors p.world.errors
      have hmoves : p.step? t = some _ := step?_iff.2 hback
      rw [hp] at hmoves
      cases hmoves

end Pipeline

/-- The host leaves the queue of failures alone. -/
def Happening.sparesErrors : Happening → Bool
  | .takeFailure | .dropFailures => false
  | _ => true

theorem Happening.task_or_not (e : Happening) : (∃ t, e = .task t) ∨ ∀ t, e ≠ .task t := by
  by_cases h : ∃ t, e = .task t
  · exact .inl h
  · exact .inr fun t ht => h ⟨t, ht⟩

namespace Pipeline

variable {p q : Pipeline} {t : Task}

def effects (p : Pipeline) : Task → WorkLog
  | .events =>
    match p.events with
    | .handling _ (.ask e _) => [⟨e, (p.world.perform e).1⟩]
    | _ => []
  | .router =>
    match p.router with
    | .routing (.ask e _) => [⟨e, (p.world.perform e).1⟩]
    | _ => []
  | .opening | .forwarder _ => []

def emits (p : Pipeline) : Task → List Request
  | .events =>
    match p.events with
    | .offering _ r => if p.requests.held then [r] else []
    | _ => []
  | .opening | .forwarder _ | .router => []

theorem effects_withErrors (p : Pipeline) (size : Nat) (o : Outbox Failure) (t : Task) :
    (p.withErrors size o).effects t = p.effects t := by
  have hanswer (e : Effect) : ((p.world.withErrors o).perform e).1 = (p.world.perform e).1 := by
    obtain ⟨o', h⟩ := World.perform_withErrors p.world o e
    rw [h]
  cases t with
  | opening | forwarder a => rfl
  | events =>
    change (match p.events with | .handling _ (.ask e _) => _ | _ => _) = _
    unfold effects
    split
    · rename_i e next h
      exact congrArg (fun a => [(⟨e, a⟩ : Exchange Effect Effect.Answer)]) (hanswer e)
    · rfl
  | router =>
    change (match p.router with | .routing (.ask e _) => _ | _ => _) = _
    unfold effects
    split
    · rename_i e next h
      exact congrArg (fun a => [(⟨e, a⟩ : Exchange Effect Effect.Answer)]) (hanswer e)
    · rfl

theorem emits_withErrors (p : Pipeline) (size : Nat) (o : Outbox Failure) (t : Task) :
    (p.withErrors size o).emits t = p.emits t := by
  cases t <;> rfl

theorem onOpen_withErrors (p : Pipeline) (size : Nat) (o : Outbox Failure) (a : String) (accepts : Connection → Bool)
    (change : Connection → Connection) :
    ((p.withErrors size o).onOpen a accepts change).2 = (p.onOpen a accepts change).2.withErrors size o := by
  have hconnections : (p.withErrors size o).connections = p.connections := rfl
  simp only [onOpen, hconnections]
  split
  · split <;> rfl
  · rfl

theorem happen_withErrors {e : Happening} (he : e.sparesErrors = true) (ht : ∀ t, e ≠ .task t)
    (p : Pipeline) (size : Nat) (o : Outbox Failure) :
    (p.withErrors size o).happen e = (p.happen e).withErrors size o := by
  cases e with
  | task t => exact absurd rfl (ht t)
  | takeFailure | dropFailures => cases he
  | deliver a e => exact onOpen_withErrors ..
  | endStream a => exact onOpen_withErrors ..
  | respond r =>
    have htakes : (p.withErrors size o).takesResponses = p.takesResponses := rfl
    change ((p.withErrors size o).respond r).2 = (p.respond r).2.withErrors size o
    rw [respond, respond, htakes]
    split <;> rfl
  | takeRequest | takeSent | dropRequests | dropResponses | abort | replaceAdapter | outage | call => rfl

theorem happen_of_not_sparesErrors {e : Happening} (he : e.sparesErrors = false) (p : Pipeline) :
    ∃ o, p.happen e = p.withErrors p.settings.buffers.errors o := by
  unfold Happening.sparesErrors at he
  split at he
  · exact ⟨p.world.errors.take.2, rfl⟩
  · exact ⟨p.world.errors.release, rfl⟩
  · cases he

end Pipeline

/-- A pipeline with all that its tasks have done so far: their effects and the answers to them, the requests handed
out and the failures raised. -/
structure Minutes where
  pipeline : Pipeline
  log : WorkLog
  emitted : List Request
  raised : List Failure

namespace Minutes

variable {m m' m'' : Minutes} {e : Happening}

def step (m : Minutes) : Happening → Minutes
  | .task t =>
    match m.pipeline.step? t with
    | some q => ⟨q, m.log ++ m.pipeline.effects t, m.emitted ++ m.pipeline.emits t, m.raised ++ m.pipeline.raises t⟩
    | none => m
  | e => { m with pipeline := m.pipeline.happen e }

def run (m : Minutes) (happenings : List Happening) : Minutes := happenings.foldl step m

def start (settings : Settings) (hashes : Nat → PasswordHash) (data : Faulty) (adapters : Registry Adapter) : Minutes :=
  ⟨.initial settings hashes data adapters, [], [], []⟩

/-- The same is on record, of pipelines that differ at most in the queue of failures. -/
structure Alike (m m' : Minutes) : Prop where
  pipeline : ∃ size o, m'.pipeline = m.pipeline.withErrors size o
  log : m'.log = m.log
  emitted : m'.emitted = m.emitted
  raised : m'.raised = m.raised

theorem Alike.refl (m : Minutes) : m.Alike m :=
  ⟨⟨m.pipeline.settings.buffers.errors, m.pipeline.world.errors, rfl⟩, rfl, rfl, rfl⟩

theorem Alike.symm (h : m.Alike m') : m'.Alike m := by
  obtain ⟨⟨size, o, hp⟩, hlog, hemitted, hraised⟩ := h
  refine ⟨⟨m.pipeline.settings.buffers.errors, m.pipeline.world.errors, ?_⟩, hlog.symm, hemitted.symm, hraised.symm⟩
  rw [hp]
  rfl

theorem Alike.trans (h : m.Alike m') (h' : m'.Alike m'') : m.Alike m'' := by
  obtain ⟨size, o, hp⟩ := h'.pipeline
  obtain ⟨size', o', hp'⟩ := h.pipeline
  refine ⟨⟨size, o, ?_⟩, h'.log.trans h.log, h'.emitted.trans h.emitted, h'.raised.trans h.raised⟩
  rw [hp, hp']
  rfl

theorem step_of_not_task (ht : ∀ t, e ≠ .task t) (m : Minutes) :
    m.step e = { m with pipeline := m.pipeline.happen e } := by
  unfold step
  split
  · exact absurd rfl (ht _)
  · rfl

theorem Alike.task (h : m.Alike m') (t : Task) :
    (m.step (.task t)).Alike (m'.step (.task t)) := by
  obtain ⟨⟨size, o, hp⟩, hlog, hemitted, hraised⟩ := h
  unfold step
  dsimp only
  rw [hp, Pipeline.step?_withErrors]
  cases hq : m.pipeline.step? t with
  | none => exact ⟨⟨size, o, hp⟩, hlog, hemitted, hraised⟩
  | some q =>
    refine ⟨⟨size, _, rfl⟩, ?_, ?_, ?_⟩
    · change m'.log ++ (m.pipeline.withErrors size o).effects t = _
      rw [hlog, Pipeline.effects_withErrors]
    · change m'.emitted ++ (m.pipeline.withErrors size o).emits t = _
      rw [hemitted, Pipeline.emits_withErrors]
    · change m'.raised ++ (m.pipeline.withErrors size o).raises t = _
      rw [hraised, Pipeline.raises_withErrors]

theorem Alike.step (h : m.Alike m') (he : e.sparesErrors = true) : (m.step e).Alike (m'.step e) := by
  rcases e.task_or_not with ⟨t, rfl⟩ | ht
  · exact h.task t
  · obtain ⟨⟨size, o, hp⟩, hlog, hemitted, hraised⟩ := h
    rw [step_of_not_task ht, step_of_not_task ht]
    refine ⟨⟨size, o, ?_⟩, hlog, hemitted, hraised⟩
    change m'.pipeline.happen e = _
    rw [hp, Pipeline.happen_withErrors he ht]

theorem alike_step (he : e.sparesErrors = false) (m : Minutes) : m.Alike (m.step e) := by
  have ht : ∀ t, e ≠ .task t := by
    rintro t rfl
    cases he
  obtain ⟨o, ho⟩ := Pipeline.happen_of_not_sparesErrors he m.pipeline
  rw [step_of_not_task ht]
  exact ⟨⟨_, o, ho⟩, rfl, rfl, rfl⟩

theorem Alike.run (h : m.Alike m') (happenings : List Happening) :
    (m.run (happenings.filter Happening.sparesErrors)).Alike (m'.run happenings) := by
  induction happenings generalizing m m' with
  | nil => exact h
  | cons e rest ih =>
    cases he : e.sparesErrors with
    | true =>
      rw [List.filter_cons_of_pos he]
      exact ih (h.step he)
    | false =>
      rw [List.filter_cons_of_neg (by simp [he])]
      exact ih (h.trans (alike_step he m'))

theorem errors_step {o : Outbox Failure} (h : m.pipeline.world.errors = m.raised.foldl Outbox.offer o)
    (he : e.sparesErrors = true) : (m.step e).pipeline.world.errors = (m.step e).raised.foldl Outbox.offer o := by
  rcases e.task_or_not with ⟨t, rfl⟩ | ht
  · unfold step
    dsimp only
    split
    · rename_i q hq
      change q.world.errors = (m.raised ++ _).foldl Outbox.offer o
      rw [Pipeline.errors_of_moves (Pipeline.step?_iff.1 hq), List.foldl_append, h]
    · exact h
  · have hkept : m.pipeline.happen e = (m.pipeline.happen e).withErrors _ m.pipeline.world.errors :=
      Pipeline.happen_withErrors he ht m.pipeline m.pipeline.settings.buffers.errors _
    rw [step_of_not_task ht]
    change (m.pipeline.happen e).world.errors = _
    rw [hkept]
    exact h

theorem errors_run {o : Outbox Failure} (h : m.pipeline.world.errors = m.raised.foldl Outbox.offer o)
    {happenings : List Happening} (hspared : ∀ e ∈ happenings, e.sparesErrors = true) :
    (m.run happenings).pipeline.world.errors = (m.run happenings).raised.foldl Outbox.offer o := by
  induction happenings generalizing m with
  | nil => exact h
  | cons e rest ih =>
    obtain ⟨he, hrest⟩ := List.forall_mem_cons.1 hspared
    exact ih (errors_step h he) hrest

end Minutes

theorem Outbox.waiting_offers {α : Type} (offered : List α) {o : Outbox α} (hheld : o.held = true) :
    (offered.foldl Outbox.offer o).waiting = o.waiting ++ offered.take (o.capacity - o.waiting.length) := by
  induction offered generalizing o with
  | nil => simp
  | cons a rest ih =>
    by_cases hroom : o.waiting.length < o.capacity
    · have hoffer : o.offer a = o.push a := by simp [offer, hasRoom, hheld, hroom]
      have hleft : o.capacity - o.waiting.length = o.capacity - (o.waiting ++ [a]).length + 1 := by
        rw [List.length_append, List.length_singleton]
        omega
      rw [List.foldl_cons, hoffer, ih (o := o.push a) hheld, hleft, List.take_succ_cons]
      simp [push]
    · have hoffer : o.offer a = o := by simp [offer, hasRoom, hroom]
      have hfull : o.capacity - o.waiting.length = 0 := by omega
      rw [List.foldl_cons, hoffer, ih hheld, hfull, List.take_zero, List.take_zero]

namespace Minutes

/-- Reports of failures never influence the work. Of any adapters, events, responses, failing calls and order of the
tasks, let two runs differ in the size of the queue of failures and in when the host takes from it or lets go of it.
They hand out the same requests and make the same calls on store and adapters with the same answers, in the same
order; the pipelines differ in nothing but that queue, so the same tasks can move. And if the host leaves it alone,
the queue holds the first failures that were raised, as many as it has room for and at least one. -/
theorem reports_never_influence_work (settings : Settings) (n n' : Nat) (hashes : Nat → PasswordHash) (data : Faulty)
    (adapters : Registry Adapter) (happenings happenings' : List Happening)
    (hsame : happenings.filter Happening.sparesErrors = happenings'.filter Happening.sparesErrors) :
    let m := (start (settings.withErrors n) hashes data adapters).run happenings
    let m' := (start (settings.withErrors n') hashes data adapters).run happenings'
    m'.emitted = m.emitted ∧ m'.log = m.log ∧ m'.raised = m.raised ∧
    (∃ size o, m'.pipeline = m.pipeline.withErrors size o) ∧
    (∀ t, (m'.pipeline.step? t).isSome = (m.pipeline.step? t).isSome) ∧
    ((∀ e ∈ happenings, e.sparesErrors = true) → m.pipeline.drainFailures.1 = m.raised.take (max 1 n)) := by
  intro m m'
  have hstart : (start (settings.withErrors n) hashes data adapters).Alike
      (start (settings.withErrors n') hashes data adapters) := ⟨⟨n', .ofCapacity n', rfl⟩, rfl, rfl, rfl⟩
  -- Both runs are compared with the one in which the host never touches the queue.
  have hleft := (Alike.refl (start (settings.withErrors n) hashes data adapters)).run happenings
  have hright := hstart.run happenings'
  rw [← hsame] at hright
  obtain ⟨⟨size, o, hp⟩, hlog, hemitted, hraised⟩ := hleft.symm.trans hright
  refine ⟨hemitted, hlog, hraised, ⟨size, o, hp⟩, fun t => ?_, fun hspared => ?_⟩
  · rw [hp, Pipeline.step?_withErrors, Option.isSome_map]
  · have herrors : m.pipeline.world.errors = m.raised.foldl Outbox.offer (.ofCapacity n) := errors_run rfl hspared
    change m.pipeline.world.errors.waiting = _
    rw [herrors, Outbox.waiting_offers _ rfl]
    rfl

open Gathering (narrow turns twoAdapters)

/-- One adapter has trouble twice, and the other one cannot be listened to. -/
def troubles : List Happening :=
  [.deliver "chat" (.authenticationError "token"), .deliver "chat" (.error "socket reset")] ++ turns

/-- The same when the host has let go of the failures beforehand, and asks for one afterwards. -/
def unheardTroubles : List Happening := .dropFailures :: troubles ++ [.takeFailure]

def onset (size : Nat) : Minutes :=
  start (narrow.withErrors size) (fun _ => .ofText "") (.ofStore (.new .standard)) twoAdapters

theorem troubles_are_reported_in_order :
    troubles.filter Happening.sparesErrors = unheardTroubles.filter Happening.sparesErrors ∧
    ((onset 8).run unheardTroubles).log = ((onset 0).run troubles).log ∧
    ((onset 8).run unheardTroubles).raised =
      [.listen "mail" (.unavailable "login"), .authentication "chat" "token", .adapter "chat" "socket reset"] ∧
    ((onset 0).run troubles).pipeline.drainFailures.1 = [.listen "mail" (.unavailable "login")] := by
  have hsame : troubles.filter Happening.sparesErrors = unheardTroubles.filter Happening.sparesErrors := by
    simp [unheardTroubles, Happening.sparesErrors]
  have hspared : ∀ e ∈ troubles, e.sparesErrors = true := by decide +kernel
  have hraised : ((onset 0).run troubles).raised =
      [.listen "mail" (.unavailable "login"), .authentication "chat" "token", .adapter "chat" "socket reset"] := by
    decide +kernel
  obtain ⟨-, hlog, halike, -, -, hfirst⟩ := reports_never_influence_work narrow 0 8 (fun _ => .ofText "")
    (.ofStore (.new .standard)) twoAdapters troubles unheardTroubles hsame
  refine ⟨hsame, hlog, halike.trans hraised, (hfirst hspared).trans ?_⟩
  exact congrArg (List.take 1) hraised

end Minutes

end ChatRouter.Dispatch
