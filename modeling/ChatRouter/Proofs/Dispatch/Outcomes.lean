import ChatRouter.Dispatch.Host
import ChatRouter.Proofs.Dispatch.Moves
import ChatRouter.Proofs.Dispatch.World
import ChatRouter.Regex.Parser
import Mathlib.Logic.Relation

set_option autoImplicit false

/-!
# The three outcomes of a message

A message is ignored, refused or made a request, and exactly one of these (`message_has_one_outcome`). In
each case the loop goes on to the next event.
-/

namespace ChatRouter.Dispatch

open Script (Leads Asks)
open WorkLog (calls sends ofCalls)

theorem asks_resolve (invocation : Invocation) : Asks (fun c => c.part? = none) (resolve invocation).run := by
  cases invocation with
  | explicit text => exact Asks.except_bind (Resolution.asks_ofCommand text) fun _ => Script.asks_pure _
  | spoken text => exact Resolution.asks_ofSpoken text

theorem leads_resolve {invocation : Invocation} {asked : CallLog}
    {outcome : Except ResolutionError (Option Resolution)}
    (h : Leads (resolve invocation).run asked (.done outcome)) :
    outcome = .ok none ↔ ∃ text, invocation = .spoken text ∧
      asked = [⟨.findCommandEntryByTrigger text, .ok []⟩] := by
  cases invocation with
  | explicit text =>
    refine iff_of_false ?_ (by simp)
    rintro rfl
    obtain ⟨_, _, _, rfl, _, hr⟩ := Script.leads_except_bind_ok.1 h
    cases ((Script.leads_pure ..).1 hr).2
  | spoken text =>
    obtain ⟨a, rfl, hnone, -⟩ := Resolution.leads_ofSpoken h
    rw [hnone]
    constructor
    · rintro rfl
      exact ⟨text, rfl, rfl⟩
    · rintro ⟨text, ht, ha⟩
      cases ht
      cases ha
      rfl

inductive Outcome where
  | ignored
  | refused
  | emitted
deriving DecidableEq

/-- What shows that the handling of a message has had the outcome: the sending calls made, the store
before and after, and the request that came of it. -/
def Outcome.Shows (adapter : String) (m : Message) (sent : List (String × ChatCall)) (s t : Store)
    (request : Option Request) : Outcome → Prop
  | ignored => request = none ∧ sent = [] ∧ t = s
  | refused => request = none ∧ (t.requests = s.requests ∧ t.lastRequest = s.lastRequest) ∧
      ∃ title text, sent = [(adapter, .sendError m.channel title text)]
  | emitted => ∃ r, request = some r ∧ sent = [] ∧ s.requests.get? r.id = none ∧
      t.requests = s.requests.insert r.id ⟨r, none, none, false⟩

variable {adapter : String} {m : Message} {sent : List (String × ChatCall)} {s t : Store}
  {request : Option Request}

theorem Outcome.unique {o o' : Outcome} (h : o.Shows adapter m sent s t request)
    (h' : o'.Shows adapter m sent s t request) : o = o' := by
  cases o <;> cases o' <;> simp_all [Shows]

/-! ## One run -/

variable {settings : Settings} {hash : PasswordHash} {log rest : WorkLog}

theorem looked_spoken {outcome : Except ResolutionError (Option Resolution)} {text : String}
    (h : Looked settings m outcome log rest) (hc : settings.classify m.text = some (.spoken text)) :
    ∃ a, log = ⟨.store (.findCommandEntryByTrigger text), a⟩ :: rest ∧ (outcome = .ok none ↔ a = .ok []) := by
  obtain ⟨invocation, asked, hi, rfl, hl⟩ := h
  rw [hc] at hi
  cases hi
  obtain ⟨a, rfl, hnone, -⟩ := Resolution.leads_ofSpoken hl
  exact ⟨a, rfl, hnone⟩

/-- The message asks for nothing, or for what the log shows that no trigger finds. -/
def Unheard (settings : Settings) (m : Message) (log : WorkLog) : Prop :=
  settings.classify m.text = none ∨ ∃ text rest, settings.classify m.text = some (.spoken text) ∧
    log = ⟨.store (.findCommandEntryByTrigger text), .ok []⟩ :: rest

theorem unheard_iff {outcome : Except ResolutionError (Option Resolution)}
    (h : Looked settings m outcome log rest) : Unheard settings m log ↔ outcome = .ok none := by
  constructor
  · rintro (hc | ⟨text, rest', hc, hl⟩)
    · obtain ⟨invocation, asked, hi, -⟩ := h
      rw [hc] at hi
      cases hi
    · obtain ⟨a, ha, hnone⟩ := looked_spoken h hc
      rw [hl] at ha
      cases ha
      exact hnone.2 rfl
  · rintro rfl
    obtain ⟨invocation, asked, hi, rfl, hl⟩ := h
    obtain ⟨text, rfl, rfl⟩ := (leads_resolve hl).1 rfl
    exact .inr ⟨text, rest, hi, rfl⟩

theorem ledgerIdle_of_looked {outcome : Except ResolutionError (Option Resolution)}
    (h : Looked settings m outcome log rest) :
    ∃ asked, calls log = asked ++ calls rest ∧ sends log = sends rest ∧ ∀ x ∈ asked, x.1.part? = none := by
  obtain ⟨invocation, asked, -, rfl, hl⟩ := h
  refine ⟨asked, by simp, by simp, (Asks.of_leads hl (asks_resolve invocation)).2⟩

theorem recorded_of_begun {before : CallLog} {r r' : Request} (hs : s.LedgerSound) (hb : LedgerIdle before)
    (h : Chronicle .alone s (before ++ [⟨.requestBegin r, .ok r'⟩]) t) :
    s.requests.get? r'.id = none ∧ t.requests = s.requests.insert r'.id ⟨r', none, none, false⟩ := by
  obtain ⟨u, hu, h⟩ := Chronicle.append_iff.1 h
  obtain ⟨v, w, hv, ha, hw⟩ := Chronicle.cons_iff.1 h
  obtain rfl : u = v := hv
  obtain rfl : w = t := Chronicle.nil_iff.1 hw
  obtain ⟨hreq, hlast⟩ := requests_of_ledgerIdle hu hb
  obtain ⟨-, rfl, rfl⟩ := Store.beginRequest_ok.1 ha.perform_eq
  rw [hlast]
  refine ⟨?_, by rw [← hreq, ← hlast]⟩
  cases hg : s.requests.get? (s.lastRequest + 1) with
  | none => rfl
  | some record =>
    have := (hs.recorded _ record hg).2.1
    omega

theorem outcome_of_course (hc : Course settings hash adapter m log request)
    (hl : Chronicle .alone s (calls log) t) (hs : s.LedgerSound) :
    ∃ o : Outcome, o.Shows adapter m (sends log) s t request ∧ (o = .ignored ↔ Unheard settings m log) := by
  cases hc with
  | unasked hn => exact ⟨.ignored, ⟨rfl, rfl, (Chronicle.nil_iff.1 hl).symm⟩, iff_of_true rfl (.inl hn)⟩
  | unmatched h =>
    obtain ⟨asked, hcalls, hsends, hr⟩ := ledgerIdle_of_looked h
    rw [hcalls] at hl
    refine ⟨.ignored, ⟨rfl, hsends, (hl.drifts_of_reads ?_).symm⟩, iff_of_true rfl ((unheard_iff h).2 rfl)⟩
    simpa [WorkLog.calls] using hr
  | @unresolved _ rest e h href =>
    obtain ⟨asked, hcalls, hsends, hr⟩ := ledgerIdle_of_looked h
    rw [hcalls, href.2, List.append_nil] at hl
    refine ⟨.refused, ⟨rfl, requests_of_ledgerIdle hl (ledgerIdle_of_reads hr), ?_⟩, ?_⟩
    · exact ⟨_, _, hsends.trans href.1⟩
    · exact iff_of_false nofun fun hu => nomatch (unheard_iff h).1 hu
  | @planned _ counted rest resolution _ h hq hp =>
    obtain ⟨asked, hcalls, hsends, hr⟩ := ledgerIdle_of_looked h
    have hnot : ¬ Unheard settings m log := fun hu => nomatch (unheard_iff h).1 hu
    rw [WorkLog.calls_append, hq.2, List.nil_append] at hcalls
    rw [WorkLog.sends_append, hq.1, List.nil_append] at hsends
    rw [hcalls] at hl
    cases hp with
    | refused hsend hidle =>
      refine ⟨.refused, ⟨rfl, requests_of_ledgerIdle hl ((ledgerIdle_of_reads hr).append hidle), ?_⟩, ?_⟩
      · exact ⟨_, _, hsends.trans hsend⟩
      · exact iff_of_false nofun hnot
    | begun hwho hsend hmade hprov hauth =>
      rw [hmade, ← List.append_assoc] at hl
      have hidle := (ledgerIdle_of_reads hr).append ((ledgerIdle_of_resolveOrCreate hprov).append
        (ledgerIdle_of_reads (Asks.of_leads hauth (Authorization.asks_authorize ..)).2))
      obtain ⟨hnew, hrec⟩ := recorded_of_begun hs hidle hl
      exact ⟨.emitted, ⟨_, rfl, hsends.trans hsend, hnew, hrec⟩, iff_of_false nofun hnot⟩

theorem course_spoken (hc : Course settings hash adapter m log request) {text : String}
    (ht : settings.classify m.text = some (.spoken text)) :
    ∃ a rest, log = ⟨.store (.findCommandEntryByTrigger text), a⟩ :: rest := by
  cases hc with
  | unasked hn =>
    rw [ht] at hn
    cases hn
  | unmatched h | unresolved h | planned h =>
    obtain ⟨a, hl, -⟩ := looked_spoken h ht
    exact ⟨a, _, hl⟩

theorem outcome_of_run (settings : Settings) (hash : PasswordHash) (adapter : String) (m : Message) {w : World}
    (hw : w.data.store.Reachable) :
    ∃ o : Outcome,
      o.Shows adapter m (sends ((handleMessage settings hash adapter m).exchanges World.perform w))
        w.data.store (w.run (handleMessage settings hash adapter m)).2.data.store
        (w.run (handleMessage settings hash adapter m)).1 ∧
      (o = .ignored ↔ settings.classify m.text = none ∨ ∃ text,
        settings.classify m.text = some (.spoken text) ∧
          (w.data.perform (.findCommandEntryByTrigger text)).1 = .ok []) := by
  have hlead := Script.leads_exchanges World.perform (handleMessage settings hash adapter m) w
  have hcourse := course_of_leads hlead
  obtain ⟨o, ho, hunheard⟩ :=
    outcome_of_course hcourse (World.chronicle_run w.data.faults.only_anything _) hw.ledgerSound
  refine ⟨o, ho, hunheard.trans (or_congr_right (exists_congr fun text => ?_))⟩
  rw [exists_and_left]
  refine and_congr_right fun hc => ?_
  change _ ↔ (World.perform (.store (.findCommandEntryByTrigger text)) w).1 = .ok []
  constructor
  · rintro ⟨rest, hl⟩
    exact Script.answer_of_exchanges hl
  · intro ha
    obtain ⟨a, rest, hl⟩ := course_spoken hcourse hc
    obtain rfl := (Script.answer_of_exchanges hl).symm.trans ha
    exact ⟨rest, hl⟩

/-! ## In the pipeline -/

open Relation (ReflTransGen)

namespace Pipeline

/-- The event loop moves, or the host takes a request. -/
def LoopStep (p q : Pipeline) : Prop := p.step? .events = some q ∨ q = p.takeRequest.2

theorem loop_step {p q : Pipeline} (hopen : p.unopened = []) (h : p.stepEvents = some q) : LoopStep p q := by
  left
  simp [step?, hopen, h]

theorem loop_works {a : String} (work : Work (Option Request)) {p : Pipeline} (hopen : p.unopened = [])
    (he : p.events = .handling a work) :
    ReflTransGen LoopStep p
      { p with world := (p.world.run work).2, events := .handling a (.done (p.world.run work).1) } := by
  induction work generalizing p with
  | done result =>
    cases p
    cases he
    exact .refl
  | ask effect next ih =>
    have hstep : LoopStep p { p with
        world := (p.world.perform effect).2
        events := .handling a (next (p.world.perform effect).1) } := by
      refine loop_step hopen ?_
      rw [stepEvents, he]
    exact .head hstep (ih _ hopen rfl)

theorem host_drains (p : Pipeline) :
    ReflTransGen LoopStep p { p with requests := { p.requests with waiting := [] } } := by
  generalize hw : p.requests.waiting = waiting
  induction waiting generalizing p with
  | nil =>
    rw [← hw]
  | cons r waiting ih =>
    have htake : p.takeRequest.2 = { p with requests := { p.requests with waiting } } := by
      simp only [takeRequest, Outbox.take, hw]
    have := ih p.takeRequest.2 (by rw [htake])
    rw [htake] at this
    exact .head (.inr htake.symm) this

theorem loop_emits {p : Pipeline} {a : String} {r : Request} (hopen : p.unopened = [])
    (he : p.events = .offering a r) (hheld : p.requests.held = true) (hcap : 0 < p.requests.capacity) :
    ReflTransGen LoopStep p { p with
      requests := { p.requests with waiting := [r] }
      world := p.world.count ⟨.requestsEmitted, [a]⟩
      events := .idle } := by
  refine (host_drains p).tail (loop_step hopen ?_)
  simp [stepEvents, he, hheld, Outbox.hasRoom, Outbox.push, hcap]

/-- The loop moves and the host takes requests; the list has those that it has received. -/
inductive Works (p : Pipeline) : List Request → Pipeline → Prop where
  | rest : Works p [] p
  | loop {received : List Request} {q r : Pipeline} (h : Works p received q) (hmove : q.step? .events = some r) :
      Works p received r
  | host {received : List Request} {q : Pipeline} (h : Works p received q) :
      Works p (received ++ q.takeRequest.1.toList) q.takeRequest.2

theorem exists_works {p q : Pipeline} (h : ReflTransGen LoopStep p q) : ∃ received, Works p received q := by
  induction h with
  | refl => exact ⟨[], .rest⟩
  | tail _ hstep ih =>
    obtain ⟨received, hworks⟩ := ih
    rcases hstep with hmove | rfl
    · exact ⟨received, hworks.loop hmove⟩
    · exact ⟨_, hworks.host⟩

/-- After the first of the merged events has been taken. -/
def midway (p : Pipeline) (rest : List (String × Event)) (waiting : List Request) (world : World)
    (events : EventLoop) : Pipeline :=
  { p with merged := rest, taken := p.taken + 1, requests := { p.requests with waiting }, world, events }

/-- How far the loop is with the message that comes first, and what the host has received since: what it has
received and what waits for it are what waited before, and in the end the request of the message. -/
inductive Stage (p : Pipeline) (a : String) (rest : List (String × Event)) (w : World)
    (work : Work (Option Request)) : List Request → Pipeline → Prop where
  | before {received waiting : List Request} (h : received ++ waiting = p.requests.waiting) :
      Stage p a rest w work received { p with requests := { p.requests with waiting } }
  | handling {received waiting : List Request} {world : World} {left : Work (Option Request)}
      (h : received ++ waiting = p.requests.waiting) (hleft : world.run left = w.run work) :
      Stage p a rest w work received (p.midway rest waiting world (.handling a left))
  | offering {received waiting : List Request} {r : Request} (h : received ++ waiting = p.requests.waiting)
      (hr : (w.run work).1 = some r) :
      Stage p a rest w work received (p.midway rest waiting (w.run work).2 (.offering a r))
  | done {received waiting : List Request} {world : World}
      (h : received ++ waiting = p.requests.waiting ++ (w.run work).1.toList)
      (hdata : world.data = (w.run work).2.data) (hsent : world.sent = (w.run work).2.sent) :
      Stage p a rest w work received (p.midway rest waiting world .idle)
  | past {received : List Request} {q : Pipeline}
      (h : p.taken + 1 < q.taken ∨ p.taken < q.taken ∧ q.events = .finished) : Stage p a rest w work received q

theorem taken_le_of_moves {p q : Pipeline} {t : Task} (h : p.Moves t q) : p.taken ≤ q.taken := by
  cases h with
  | takes => exact Nat.le_succ _
  | _ => exact Nat.le_refl _

theorem Stage.loop {p q q' : Pipeline} {a : String} {e : Event} {rest : List (String × Event)}
    {work : Work (Option Request)} {received : List Request} (hidle : p.events = .idle)
    (hnext : p.merged = (a, e) :: rest) (hwork : handle p.settings (p.hashes p.taken) a e = work)
    (hheld : p.requests.held = true)
    (h : Stage p a rest (p.world.count ⟨.eventsReceived, [a]⟩) work received q) (hm : q.Moves .events q') :
    Stage p a rest (p.world.count ⟨.eventsReceived, [a]⟩) work received q' := by
  cases h with
  | before hqueue =>
    cases hm with
    | takes _ _ hmerged =>
      cases hnext.symm.trans hmerged
      exact .handling hqueue (by rw [← hwork])
    | finishes _ _ hmerged => exact nomatch hnext.symm.trans hmerged
    | works _ hloop | ignores _ hloop | offers _ hloop | loses _ hloop | emits _ hloop =>
      exact nomatch hidle.symm.trans hloop
  | handling hqueue hleft =>
    cases hm with
    | works _ hloop =>
      cases hloop
      exact .handling hqueue hleft
    | ignores _ hloop =>
      cases hloop
      obtain ⟨hnone, hworld⟩ := Prod.ext_iff.1 hleft
      refine .done ?_ (congrArg World.data hworld) (congrArg World.sent hworld)
      rw [← hnone, hqueue]
      exact (List.append_nil _).symm
    | offers _ hloop =>
      cases hloop
      obtain ⟨hsome, rfl⟩ := Prod.ext_iff.1 hleft
      exact .offering hqueue hsome.symm
    | takes _ hloop | finishes _ hloop | loses _ hloop | emits _ hloop => cases hloop
  | offering hqueue hr =>
    cases hm with
    | emits _ hloop =>
      cases hloop
      refine .done ?_ rfl rfl
      rw [hr, ← hqueue, List.append_assoc]
      rfl
    | loses _ _ hlost => exact nomatch hheld.symm.trans hlost
    | takes _ hloop | finishes _ hloop | works _ hloop | ignores _ hloop | offers _ hloop => cases hloop
  | done =>
    cases hm with
    | takes => exact .past (.inl (Nat.lt_succ_self _))
    | finishes => exact .past (.inr ⟨Nat.lt_succ_self _, rfl⟩)
    | works _ hloop | ignores _ hloop | offers _ hloop | loses _ hloop | emits _ hloop => cases hloop
  | past hpast =>
    refine .past ?_
    rcases hpast with hlater | ⟨-, hfinished⟩
    · exact .inl (Nat.lt_of_lt_of_le hlater (taken_le_of_moves hm))
    · cases hm with
      | takes _ hloop | finishes _ hloop | works _ hloop | ignores _ hloop | offers _ hloop | loses _ hloop
      | emits _ hloop => exact nomatch hfinished.symm.trans hloop

theorem takeRequest_splits (p : Pipeline) : ∃ waiting, p.takeRequest.1.toList ++ waiting = p.requests.waiting ∧
    p.takeRequest.2 = { p with requests := { p.requests with waiting } } := by
  unfold takeRequest Outbox.take
  dsimp only
  split
  · rename_i r waiting hw
    exact ⟨waiting, hw.symm, rfl⟩
  · rename_i hw
    exact ⟨[], hw.symm, by rw [← hw]⟩

theorem Stage.host {p q : Pipeline} {a : String} {rest : List (String × Event)} {w : World}
    {work : Work (Option Request)} {received : List Request} (h : Stage p a rest w work received q) :
    Stage p a rest w work (received ++ q.takeRequest.1.toList) q.takeRequest.2 := by
  obtain ⟨waiting, hsplits, hq⟩ := takeRequest_splits q
  have moved {old all : List Request} (hold : q.requests.waiting = old) (hqueue : received ++ old = all) :
      received ++ q.takeRequest.1.toList ++ waiting = all := by
    rw [List.append_assoc, hsplits, hold, hqueue]
  rw [hq]
  cases h with
  | before hqueue => exact .before (moved rfl hqueue)
  | handling hqueue hleft => exact .handling (moved rfl hqueue) hleft
  | offering hqueue hr => exact .offering (moved rfl hqueue) hr
  | done hqueue hdata hsent => exact .done (moved rfl hqueue) hdata hsent
  | past hpast => exact .past hpast

theorem Works.stage {p q : Pipeline} {a : String} {e : Event} {rest : List (String × Event)}
    {work : Work (Option Request)} {received : List Request} (hidle : p.events = .idle)
    (hnext : p.merged = (a, e) :: rest) (hwork : handle p.settings (p.hashes p.taken) a e = work)
    (hheld : p.requests.held = true) (h : p.Works received q) :
    Stage p a rest (p.world.count ⟨.eventsReceived, [a]⟩) work received q := by
  induction h with
  | rest => exact .before rfl
  | loop _ hmove ih => exact ih.loop hidle hnext hwork hheld (step?_iff.1 hmove)
  | host _ ih => exact ih.host

/-- The loop takes the event, does the work and is idle again, once a request has gone out. -/
theorem exists_done {p : Pipeline} {a : String} {e : Event} {rest : List (String × Event)}
    (hopen : p.unopened = []) (hidle : p.events = .idle) (hnext : p.merged = (a, e) :: rest)
    (hheld : p.requests.held = true) (hcap : 0 < p.requests.capacity) :
    ∃ received q, p.Works received q ∧ q.events = .idle ∧ q.taken = p.taken + 1 := by
  let work := handle p.settings (p.hashes p.taken) a e
  let w := p.world.count ⟨.eventsReceived, [a]⟩
  have hstart : LoopStep p (p.midway rest p.requests.waiting w (.handling a work)) := by
    refine loop_step hopen ?_
    rw [stepEvents, hidle]
    simp only [hnext]
    rfl
  have hdone := ReflTransGen.head hstart (loop_works work hopen rfl)
  change ReflTransGen LoopStep p
    (p.midway rest p.requests.waiting (w.run work).2 (.handling a (.done (w.run work).1))) at hdone
  cases hr : (w.run work).1 with
  | none =>
    rw [hr] at hdone
    obtain ⟨received, hworks⟩ := exists_works (hdone.tail (loop_step hopen rfl))
    exact ⟨received, _, hworks, rfl, rfl⟩
  | some r =>
    rw [hr] at hdone
    have hoffer : LoopStep (p.midway rest p.requests.waiting (w.run work).2 (.handling a (.done (some r))))
        (p.midway rest p.requests.waiting (w.run work).2 (.offering a r)) := loop_step hopen rfl
    obtain ⟨received, hworks⟩ := exists_works ((hdone.tail hoffer).trans (loop_emits hopen rfl hheld hcap))
    exact ⟨received, _, hworks, rfl, rfl⟩

/-- Each message has exactly one of the three outcomes: it is ignored just when it asks for nothing or no
trigger finds it, and otherwise it is refused or its request goes out. However the loop and the host go on, they
come to where the loop has done with the message; then the host has received what waited before and the request,
or it waits for the host, and the loop takes the next event. -/
theorem message_has_one_outcome {p : Pipeline} {a : String} {e : Event} {m : Message}
    {rest : List (String × Event)} (hstore : p.world.data.store.Reachable) (hopen : p.unopened = [])
    (hidle : p.events = .idle) (hnext : p.merged = (a, e) :: rest) (hm : e.message? = some m)
    (hheld : p.requests.held = true) (hcap : 0 < p.requests.capacity) :
    let work := handleMessage p.settings (p.hashes p.taken) a m
    let w := p.world.count ⟨.eventsReceived, [a]⟩
    let request := (w.run work).1
    ∃ o : Outcome,
      (o = .ignored ↔ p.settings.classify m.text = none ∨ ∃ text,
        p.settings.classify m.text = some (.spoken text) ∧
          (p.world.data.perform (.findCommandEntryByTrigger text)).1 = .ok []) ∧
      (∃ received q, p.Works received q ∧ q.events = .idle ∧ q.taken = p.taken + 1) ∧
      ∀ received q, p.Works received q → q.events = .idle → q.taken = p.taken + 1 →
        (∀ o' : Outcome, o'.Shows a m (sends (work.exchanges World.perform w)) p.world.data.store
          q.world.data.store request ↔ o' = o) ∧
        received ++ q.requests.waiting = p.requests.waiting ++ request.toList ∧
        q.world.sent = (w.run work).2.sent ∧ q.merged = rest ∧
        ∀ b d more, rest = (b, d) :: more → ∃ x, q.step? .events = some x ∧ x.merged = more ∧
          x.events = .handling b (handle p.settings (p.hashes (p.taken + 1)) b d) := by
  intro work w request
  have hhandle : handle p.settings (p.hashes p.taken) a e = work := by
    cases e <;> cases hm <;> rfl
  obtain ⟨o, ho, hignored⟩ := outcome_of_run p.settings (p.hashes p.taken) a m (w := w) hstore
  refine ⟨o, hignored, exists_done hopen hidle hnext hheld hcap, fun received q hworks hq htaken => ?_⟩
  have hstage : Stage p a rest w work received q := hworks.stage hidle hnext hhandle hheld
  cases hstage with
  | before => simp at htaken
  | handling | offering => cases hq
  | past h =>
    rcases h with h | ⟨-, h⟩
    · omega
    · exact nomatch hq.symm.trans h
  | @done _ world hqueue hdata hsent =>
    refine ⟨fun o' => ?_, hqueue, hsent, rfl, ?_⟩
    · change o'.Shows a m _ _ world.data.store request ↔ _
      rw [hdata]
      exact ⟨fun h => Outcome.unique h ho, fun h => h ▸ ho⟩
    · rintro b d more rfl
      simp [step?, midway, hopen, stepEvents]

def openBundle : Bundle :=
  { Bundle.named "ops" "1.0.0" with
    enabled := true, commands := .ofList [("run", { Command.empty with name := "run", rules := ["allow"] })] }

def annsAdapter : Registry Adapter :=
  .ofMap (.ofList [("chat", {
    listen := .ok ()
    answer := fun _ c => match c with
      | .identify id => .ok ⟨id, "ann", none, none, some "ann@example.org"⟩
      | c => c.refuse (.unavailable "down") })])

def openSettings : Settings := ⟨some '!', true, false, true, false, {}⟩

def openStore : List Call := [.bundleCreate openBundle, .userCreate (.named adminUser)]

def asked (text : String) : Pipeline :=
  { Pipeline.initial openSettings (fun _ => .ofText "") (.ofStore (Store.after openStore (.new .standard)))
      annsAdapter with
    unopened := []
    merged := [("chat", .directMessage ⟨"general", "U1", text⟩)] }

theorem ann_sends_one_request : ∃ (received : List Request) (q : Pipeline),
    (asked "!ops:run now").Works received q ∧ q.events = .idle ∧ q.merged = [] ∧
      (received ++ q.requests.waiting).map (·.userName) = ["ann"] := by
  obtain ⟨o, -, ⟨received, q, hworks, hidle, htaken⟩, hdone⟩ :=
    message_has_one_outcome (p := asked "!ops:run now") ⟨_, openStore, rfl⟩ rfl rfl rfl rfl rfl (by decide)
  obtain ⟨-, hqueue, -, hmerged, -⟩ := hdone received q hworks hidle htaken
  refine ⟨received, q, hworks, hidle, hmerged, ?_⟩
  rw [hqueue]
  decide +kernel

end Pipeline

end ChatRouter.Dispatch
