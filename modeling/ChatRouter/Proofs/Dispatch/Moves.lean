import ChatRouter.Dispatch.Settling

set_option autoImplicit false

namespace ChatRouter.Dispatch.Pipeline

inductive Moves (p : Pipeline) : Task → Pipeline → Prop where
  | passes {a : String} {rest : List String} (hu : p.unopened = a :: rest)
      (hnone : p.world.adapters.get? a = none ∨ p.connections.get? a = none) :
      Moves p .opening { p with unopened := rest }
  | listens {a : String} {rest : List String} {adapter : Adapter} {c : Connection} (hu : p.unopened = a :: rest)
      (ha : p.world.adapters.get? a = some adapter) (hc : p.connections.get? a = some c)
      (hlisten : adapter.listen = .ok ()) :
      Moves p .opening { p with
        unopened := rest
        connections := p.connections.insert a { c with state := .listening, forwarder := .running } }
  | declines {a : String} {rest : List String} {adapter : Adapter} {c : Connection} {cause : ChatError}
      (hu : p.unopened = a :: rest) (ha : p.world.adapters.get? a = some adapter)
      (hc : p.connections.get? a = some c) (hlisten : adapter.listen = .error cause) :
      Moves p .opening { p with
        unopened := rest
        connections := p.connections.insert a { c with state := .errored }
        world := p.world.raise (.listen a cause) }
  | merges {a : String} {e : String × Event} (hheld : p.held.find? (·.1 == a) = some e) (hroom : p.hasRoom = true) :
      Moves p (.forwarder a) { p with held := p.held.eraseP (·.1 == a), merged := p.merged ++ [e] }
  | reads {a : String} {c : Connection} {e : Event} {rest : List Event} (hheld : p.held.find? (·.1 == a) = none)
      (hc : p.connections.get? a = some c) (hrun : c.forwarder = .running) (hin : c.inbox = e :: rest) :
      Moves p (.forwarder a) { p with
        connections := p.connections.insert a { c with inbox := rest, state := c.state.after e }
        held := p.held ++ [(a, e)] }
  | closes {a : String} {c : Connection} (hheld : p.held.find? (·.1 == a) = none)
      (hc : p.connections.get? a = some c) (hrun : c.forwarder = .running) (hin : c.inbox = [])
      (hend : c.ended = true) :
      Moves p (.forwarder a) { p with
        connections := p.connections.insert a { c with state := .closed, forwarder := .ended } }
  | takes {a : String} {e : Event} {rest : List (String × Event)} (hu : p.unopened = []) (hloop : p.events = .idle)
      (hm : p.merged = (a, e) :: rest) :
      Moves p .events { p with
        merged := rest
        taken := p.taken + 1
        world := p.world.count ⟨.eventsReceived, [a]⟩
        events := .handling a (handle p.settings (p.hashes p.taken) a e) }
  | finishes (hu : p.unopened = []) (hloop : p.events = .idle) (hm : p.merged = []) (hl : p.listening = false) :
      Moves p .events { p with events := .finished }
  | works {a : String} {effect : Effect} {next : effect.Answer → Work (Option Request)} (hu : p.unopened = [])
      (hloop : p.events = .handling a (.ask effect next)) :
      Moves p .events { p with
        world := (p.world.perform effect).2
        events := .handling a (next (p.world.perform effect).1) }
  | ignores {a : String} (hu : p.unopened = []) (hloop : p.events = .handling a (.done none)) :
      Moves p .events { p with events := .idle }
  | offers {a : String} {r : Request} (hu : p.unopened = []) (hloop : p.events = .handling a (.done (some r))) :
      Moves p .events { p with events := .offering a r }
  | loses {a : String} {r : Request} (hu : p.unopened = []) (hloop : p.events = .offering a r)
      (hheld : p.requests.held = false) :
      Moves p .events { p with world := p.world.raise (.requestChannelClosed r.id), events := .idle }
  | emits {a : String} {r : Request} (hu : p.unopened = []) (hloop : p.events = .offering a r)
      (hheld : p.requests.held = true) (hroom : p.requests.hasRoom = true) :
      Moves p .events { p with
        requests := p.requests.push r
        world := p.world.count ⟨.requestsEmitted, [a]⟩
        events := .idle }
  | routes {r : Response} {rest : List Response} (hu : p.unopened = []) (hr : p.router = .idle)
      (hwait : p.responses = r :: rest) :
      Moves p .router { p with responses := rest, router := .routing (route p.isRegistered r) }
  | retires (hu : p.unopened = []) (hr : p.router = .idle) (hwait : p.responses = [])
      (hend : p.responding = false) :
      Moves p .router { p with router := .finished }
  | answers {effect : Effect} {next : effect.Answer → Work Unit} (hu : p.unopened = [])
      (hr : p.router = .routing (.ask effect next)) :
      Moves p .router { p with
        world := (p.world.perform effect).2
        router := .routing (next (p.world.perform effect).1) }
  | rests (hu : p.unopened = []) (hr : p.router = .routing (.done ())) : Moves p .router { p with router := .idle }

variable {p q : Pipeline}

theorem stepOpening_iff : p.stepOpening = some q ↔ Moves p .opening q := by
  unfold stepOpening
  constructor
  · intro h
    split at h
    · cases h
    · rename_i a rest hu
      dsimp only at h
      split at h
      · rename_i adapter c ha hc
        split at h
        · rename_i hlisten
          cases h
          exact .listens hu ha hc hlisten
        · rename_i cause hlisten
          cases h
          exact .declines hu ha hc hlisten
      · rename_i hnone
        cases h
        refine .passes hu ?_
        cases ha : p.world.adapters.get? a with
        | none => exact .inl rfl
        | some adapter =>
          cases hc : p.connections.get? a with
          | none => exact .inr rfl
          | some c => exact absurd hc (hnone adapter c ha)
  · intro h
    cases h with
    | passes hu hnone =>
      rcases hnone with hnone | hnone <;> simp [hu, hnone]
    | listens hu ha hc hlisten => simp [hu, ha, hc, hlisten]
    | declines hu ha hc hlisten => simp [hu, ha, hc, hlisten]

theorem stepForwarder_iff {a : String} : p.stepForwarder a = some q ↔ Moves p (.forwarder a) q := by
  unfold stepForwarder
  constructor
  · intro h
    split at h
    · rename_i e hheld
      split at h
      · rename_i hroom
        cases h
        exact .merges hheld hroom
      · cases h
    · rename_i hheld
      split at h
      · rename_i c hc
        split at h
        · rename_i e rest hrun hin
          cases h
          exact .reads hheld hc hrun hin
        · rename_i hrun hin hend
          cases h
          exact .closes hheld hc hrun hin hend
        · cases h
      · cases h
  · intro h
    cases h with
    | merges hheld hroom => simp [hheld, hroom]
    | reads hheld hc hrun hin => simp [hheld, hc, hrun, hin]
    | closes hheld hc hrun hin hend => simp [hheld, hc, hrun, hin, hend]

theorem stepEvents_iff (hu : p.unopened = []) : p.stepEvents = some q ↔ Moves p .events q := by
  unfold stepEvents
  constructor
  · intro h
    split at h
    · rename_i hloop
      split at h
      · rename_i a e rest hm
        cases h
        exact .takes hu hloop hm
      · rename_i hm
        split at h
        · cases h
        · rename_i hl
          cases h
          exact .finishes hu hloop hm (Bool.eq_false_iff.2 hl)
    · rename_i hloop
      cases h
      exact .works hu hloop
    · rename_i hloop
      cases h
      exact .ignores hu hloop
    · rename_i hloop
      cases h
      exact .offers hu hloop
    · rename_i hloop
      split at h
      · rename_i hheld
        cases h
        exact .loses hu hloop (by simpa using hheld)
      · rename_i hheld
        split at h
        · rename_i hroom
          cases h
          exact .emits hu hloop (by simpa using hheld) hroom
        · cases h
    · cases h
  · intro h
    cases h with
    | takes _ hloop hm => simp [hloop, hm]
    | finishes _ hloop hm hl => simp [hloop, hm, hl]
    | works _ hloop => simp [hloop]
    | ignores _ hloop => simp [hloop]
    | offers _ hloop => simp [hloop]
    | loses _ hloop hheld => simp [hloop, hheld]
    | emits _ hloop hheld hroom => simp [hloop, hheld, hroom]

theorem stepRouter_iff (hu : p.unopened = []) : p.stepRouter = some q ↔ Moves p .router q := by
  unfold stepRouter
  constructor
  · intro h
    split at h
    · rename_i hr
      split at h
      · rename_i r rest hwait
        cases h
        exact .routes hu hr hwait
      · rename_i hwait
        split at h
        · cases h
        · rename_i hend
          cases h
          exact .retires hu hr hwait (Bool.eq_false_iff.2 hend)
    · rename_i hr
      cases h
      exact .answers hu hr
    · rename_i hr
      cases h
      exact .rests hu hr
    · cases h
  · intro h
    cases h with
    | routes _ hr hwait => simp [hr, hwait]
    | retires _ hr hwait hend => simp [hr, hwait, hend]
    | answers _ hr => simp [hr]
    | rests _ hr => simp [hr]

theorem Moves.unopened_eq_nil {t : Task} (h : Moves p t q) (ht : t = .events ∨ t = .router) : p.unopened = [] := by
  cases h with
  | passes | listens | declines | merges | reads | closes => simp at ht
  | takes hu | finishes hu | works hu | ignores hu | offers hu | loses hu | emits hu => exact hu
  | routes hu | retires hu | answers hu | rests hu => exact hu

theorem step?_iff {t : Task} : p.step? t = some q ↔ Moves p t q := by
  cases t with
  | opening => exact stepOpening_iff
  | forwarder a => exact stepForwarder_iff
  | events =>
    cases hu : p.unopened with
    | nil =>
      rw [← stepEvents_iff hu]
      simp [step?, hu]
    | cons a rest =>
      refine iff_of_false (by simp [step?, hu]) fun h => ?_
      have hnil := h.unopened_eq_nil (.inl rfl)
      simp [hu] at hnil
  | router =>
    cases hu : p.unopened with
    | nil =>
      rw [← stepRouter_iff hu]
      simp [step?, hu]
    | cons a rest =>
      refine iff_of_false (by simp [step?, hu]) fun h => ?_
      have hnil := h.unopened_eq_nil (.inr rfl)
      simp [hu] at hnil

end ChatRouter.Dispatch.Pipeline
