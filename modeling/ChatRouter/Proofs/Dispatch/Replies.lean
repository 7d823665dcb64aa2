import ChatRouter.Proofs.Dispatch.FanIn
import ChatRouter.Regex.Parser

set_option autoImplicit false

namespace ChatRouter

namespace Dispatch

open Script (Leads)
open Work
open WorkLog (calls sends)
open Relation (ReflTransGen)

/-- The message that answers the response, with the adapter that is to send it. -/
def reply? (known : String → Bool) (r : Response) : Option (String × ChatCall) :=
  if known r.request.adapter = false then none
  else if r.status ≠ 0 ∨ r.error ≠ none then
    some (r.request.adapter, .sendError r.request.channel (r.title.getD "Error") (executionFailure r))
  else if r.output = [] then none
  else some (r.request.adapter, .send r.request.channel ("\n".intercalate r.output))

variable {known : String → Bool} {r : Response} {log : WorkLog}

theorem reply?_eq (known : String → Bool) (r : Response) : reply? known r =
    if known r.request.adapter then (delivery? r).map (r.request.adapter, ·) else none := by
  unfold reply? delivery?
  cases known r.request.adapter with
  | false => rfl
  | true =>
    have herror : r.isError = true ↔ r.status ≠ 0 ∨ r.error ≠ none := by
      simp [Response.isError, Option.isSome_iff_ne_none]
    by_cases h : r.isError = true
    · rw [if_pos h, if_neg nofun, if_pos (herror.1 h)]
      rfl
    · rw [if_neg h, if_neg nofun, if_neg (mt herror.2 h)]
      by_cases houtput : r.output = []
      · rw [if_pos houtput, if_pos (List.isEmpty_iff.2 houtput)]
        rfl
      · rw [if_neg houtput, if_neg (mt List.isEmpty_iff.1 houtput)]
        rfl

theorem isSend_of_delivery? {c : ChatCall} (h : delivery? r = some c) : c.isSend = true := by
  unfold delivery? at h
  split at h
  · cases h
    rfl
  · split at h
    · cases h
    · cases h
      rfl

namespace WorkLog

def reports (log : WorkLog) : List Failure := log.filterMap fun x =>
  match x.1 with
  | .report f => some f
  | _ => none

def rebuffs (log : WorkLog) : List ChatError := log.filterMap fun x =>
  match x with
  | ⟨.chat _ _, .error cause⟩ => some cause
  | _ => none

@[simp] theorem reports_append (log more : WorkLog) : reports (log ++ more) = reports log ++ reports more :=
  List.filterMap_append

@[simp] theorem rebuffs_append (log more : WorkLog) : rebuffs (log ++ more) = rebuffs log ++ rebuffs more :=
  List.filterMap_append

end WorkLog

open WorkLog (reports rebuffs)

/-- One response: what is sent, the one call on the store and, if that succeeds, what the operator is told. -/
structure Routed (known : String → Bool) (r : Response) (log : WorkLog) (closed : Except DataError Unit) : Prop where
  sent : sends log = (reply? known r).toList
  called : calls log = [⟨closing known r, closed⟩]
  told : closed = .ok () → reports log =
    if known r.request.adapter then (rebuffs log).map (.send r.request.adapter r.request.channel)
    else [.unknownAdapter r.request.adapter r.request.id]

theorem leads_countRouted {adapter : String} (h : Leads (countRouted adapter) log (.done ())) :
    Quiet log ∧ reports log = [] ∧ rebuffs log = [] := by
  obtain ⟨a, rest, rfl, hrest⟩ := Script.leads_question_bind.1 h
  obtain rfl := Script.leads_question.1 hrest
  exact ⟨⟨rfl, rfl⟩, rfl, rfl⟩

theorem leads_deliver {c : ChatCall} (hc : c.isSend = true) (h : Leads (deliver r c) log (.done ())) :
    sends log = [(r.request.adapter, c)] ∧ calls log = [] ∧
      reports log = (rebuffs log).map (.send r.request.adapter r.request.channel) := by
  obtain ⟨a, rest, rfl, hrest⟩ := Script.leads_question_bind.1 h
  have hsend : sends [⟨.chat r.request.adapter c, a⟩] = [(r.request.adapter, c)] := by
    simp [WorkLog.sends, send?, hc]
  rw [← List.singleton_append, WorkLog.sends_append, WorkLog.calls_append, WorkLog.reports_append,
    WorkLog.rebuffs_append, hsend]
  cases a with
  | ok reply =>
    obtain ⟨hquiet, hreports, hrebuffs⟩ := leads_countRouted hrest
    rw [hquiet.1, hquiet.2, hreports, hrebuffs]
    exact ⟨rfl, rfl, rfl⟩
  | error cause =>
    obtain rfl := Script.leads_question.1 hrest
    exact ⟨rfl, rfl, rfl⟩

theorem leads_closeRecord {fallback : Option String} (h : Leads (closeRecord r fallback) log (.done ())) :
    ∃ closed, sends log = [] ∧ rebuffs log = [] ∧
      calls log = [⟨.requestClose r.request.id r.status (r.error <|> fallback), closed⟩] ∧
      (closed = .ok () → reports log = []) := by
  obtain ⟨a, rest, rfl, hrest⟩ := Script.leads_question_bind.1 h
  refine ⟨a, ?_⟩
  cases a with
  | ok reply =>
    obtain ⟨rfl, -⟩ := (Script.leads_pure ..).1 hrest
    exact ⟨rfl, rfl, rfl, fun _ => rfl⟩
  | error cause =>
    obtain rfl := Script.leads_question.1 hrest
    exact ⟨rfl, rfl, rfl, nofun⟩

theorem Routed.of_stages {first rest : WorkLog} {fallback : Option String}
    (hfallback : fallback = if known r.request.adapter then none else some "unknown adapter")
    (hsends : sends first = (reply? known r).toList) (hcalls : calls first = [])
    (hreports : reports first =
      if known r.request.adapter then (rebuffs first).map (.send r.request.adapter r.request.channel)
      else [.unknownAdapter r.request.adapter r.request.id])
    (hrest : Leads (closeRecord r fallback) rest (.done ())) : ∃ closed, Routed known r (first ++ rest) closed := by
  subst hfallback
  obtain ⟨closed, hsends', hrebuffs', hcalls', hreports'⟩ := leads_closeRecord hrest
  refine ⟨closed, ?_, ?_, fun hok => ?_⟩
  · rw [WorkLog.sends_append, hsends, hsends', List.append_nil]
  · rw [WorkLog.calls_append, hcalls, List.nil_append]
    exact hcalls'
  · rw [WorkLog.reports_append, WorkLog.rebuffs_append, hreports, hreports' hok, hrebuffs', List.append_nil,
      List.append_nil]

theorem leads_route (h : Leads (route known r) log (.done ())) : ∃ closed, Routed known r log closed := by
  have hreply := reply?_eq known r
  unfold route at h
  cases hknown : known r.request.adapter with
  | false =>
    simp only [hknown, Bool.not_false, if_true] at h
    obtain ⟨first, _, rest, rfl, hfirst, hrest⟩ := Script.leads_bind.1 h
    obtain rfl := Script.leads_question.1 hfirst
    refine Routed.of_stages ?_ ?_ rfl ?_ hrest
    · rw [hknown]
      rfl
    · rw [hreply, hknown]
      rfl
    · rw [hknown]
      rfl
  | true =>
    simp only [hknown, Bool.not_true, Bool.false_eq_true, if_false] at h
    have hfallback : none = if known r.request.adapter then none else some "unknown adapter" := (if_pos hknown).symm
    rw [if_pos hknown] at hreply
    cases hdelivery : delivery? r with
    | none =>
      rw [hdelivery] at h hreply
      obtain ⟨first, _, rest, rfl, hfirst, hrest⟩ := Script.leads_bind.1 h
      obtain ⟨hquiet, hreports, hrebuffs⟩ := leads_countRouted hfirst
      refine Routed.of_stages hfallback ?_ hquiet.2 ?_ hrest
      · rw [hquiet.1, hreply]
        rfl
      · rw [if_pos hknown, hreports, hrebuffs]
        rfl
    | some c =>
      rw [hdelivery] at h hreply
      obtain ⟨first, _, rest, rfl, hfirst, hrest⟩ := Script.leads_bind.1 h
      obtain ⟨hsends, hcalls, hreports⟩ := leads_deliver (isSend_of_delivery? hdelivery) hfirst
      refine Routed.of_stages hfallback ?_ hcalls ?_ hrest
      · rw [hsends, hreply]
        rfl
      · rw [if_pos hknown, hreports]

def routeAll (known : String → Bool) : List Response → Work Unit
  | [] => return ()
  | r :: rs => do
    route known r
    routeAll known rs

theorem leads_routeAll {rs : List Response} (h : Leads (routeAll known rs) log (.done ())) :
    sends log = rs.filterMap (reply? known) ∧ (calls log).map (·.1) = rs.map (closing known) := by
  induction rs generalizing log with
  | nil =>
    obtain ⟨rfl, -⟩ := (Script.leads_pure ..).1 h
    exact ⟨rfl, rfl⟩
  | cons r rs ih =>
    obtain ⟨first, _, rest, rfl, hfirst, hrest⟩ := Script.leads_bind.1 h
    obtain ⟨closed, hrouted⟩ := leads_route hfirst
    obtain ⟨hsends, hcalls⟩ := ih hrest
    rw [WorkLog.sends_append, WorkLog.calls_append, hrouted.sent, hsends, hrouted.called, List.map_append, hcalls]
    refine ⟨?_, rfl⟩
    rw [List.filterMap_cons]
    cases reply? known r <;> rfl

/-- The response is answered, and in the store its record is closed and nothing else is changed. -/
structure Settled (known : String → Bool) (r : Response) (log : WorkLog) (s t : Store) : Prop where
  sent : sends log = (reply? known r).toList
  told : reports log =
    if known r.request.adapter then (rebuffs log).map (.send r.request.adapter r.request.channel)
    else [.unknownAdapter r.request.adapter r.request.id]
  closed : ∃ record, s.requests.get? r.request.id = some record ∧ { s with
    requests := s.requests.insert r.request.id { record with
      status := some r.status
      error := r.error <|> if known r.request.adapter then none else some "unknown adapter"
      closed := true } } = t

inductive AllSettled (known : String → Bool) : List Response → WorkLog → Store → Store → Prop
  | nil (s : Store) : AllSettled known [] [] s s
  | cons {r : Response} {rs : List Response} {log more : WorkLog} {s t u : Store} (first : Settled known r log s t)
      (rest : AllSettled known rs more t u) : AllSettled known (r :: rs) (log ++ more) s u

namespace World

variable {w : World}

theorem adapters_run {α : Type} (work : Work α) (w : World) : (w.run work).2.adapters = w.adapters := by
  induction work generalizing w with
  | done a => rfl
  | ask e next ih => exact (ih _ _).trans (adapters_perform w e)

theorem only_run {α : Type} {P : String → DataError → Prop} (h : w.data.faults.Only P) (work : Work α) :
    (w.run work).2.data.faults.Only P := by
  induction work generalizing w with
  | done a => exact h
  | ask e next ih => exact ih _ (only_perform h e)

end World

/-- No call that closes a record is made to fail. -/
def ClosesRecords (w : World) : Prop := w.data.faults.Only fun kind _ => kind ≠ "request_close"

theorem settled_route {w : World} (hclose : ClosesRecords w) {record : Record}
    (hrecord : w.data.store.requests.get? r.request.id = some record) :
    Settled known r ((route known r).exchanges World.perform w) w.data.store
      (w.run (route known r)).2.data.store := by
  obtain ⟨closed, hrouted⟩ := leads_route (Script.leads_exchanges World.perform (route known r) w)
  have honly : w.data.faults.Only (Surroundings.failing fun kind _ => kind ≠ "request_close").fails := hclose
  have hchronicle := World.chronicle_run honly (route known r)
  rw [hrouted.called] at hchronicle
  obtain ⟨s, t, hs, ha, ht⟩ := Chronicle.cons_iff.1 hchronicle
  obtain rfl : w.data.store = s := hs
  obtain rfl : t = _ := Chronicle.nil_iff.1 ht
  rcases ha with ha | ⟨-, e, hfails, -⟩
  · have hperform : Store.perform (closing known r) w.data.store = (.ok (), _) :=
      Store.closeRequest_ok.2 ⟨record, hrecord, rfl⟩
    obtain ⟨hanswer, hstore⟩ := Prod.ext_iff.1 (ha.symm.trans hperform)
    exact ⟨hrouted.sent, hrouted.told hanswer, record, hrecord, hstore.symm⟩
  · exact absurd rfl hfails

theorem settled_routeAll {rs : List Response} {w : World} (hclose : ClosesRecords w)
    (hrecords : ∀ r ∈ rs, w.data.store.requests.contains r.request.id = true) :
    AllSettled known rs ((routeAll known rs).exchanges World.perform w) w.data.store
      (w.run (routeAll known rs)).2.data.store := by
  induction rs generalizing w with
  | nil => exact .nil _
  | cons r rs ih =>
    obtain ⟨hrecord, hrecords⟩ := List.forall_mem_cons.1 hrecords
    obtain ⟨record, hrecord⟩ := (SortedMap.contains_iff _ _).1 hrecord
    have hfirst : Settled known r _ _ _ := settled_route hclose hrecord
    obtain ⟨_, -, hstore⟩ := hfirst.closed
    -- The records of the later responses are still there.
    have hlater : ∀ r' ∈ rs, (w.run (route known r)).2.data.store.requests.contains r'.request.id = true := by
      intro r' hr'
      rw [← hstore, SortedMap.contains_insert, hrecords r' hr', Bool.or_true]
    have hrest := ih (World.only_run hclose _) hlater
    rw [routeAll, Script.exchanges_bind, World.run, Script.run_bind]
    exact .cons hfirst hrest

namespace Pipeline

variable {p : Pipeline}

def RouterStep (p q : Pipeline) : Prop := p.step? .router = some q

theorem router_works (work : Work Unit) {p : Pipeline} (hopen : p.unopened = []) (hr : p.router = .routing work) :
    ReflTransGen RouterStep p { p with world := (p.world.run work).2, router := .idle } := by
  induction work generalizing p with
  | done u => exact .single (step?_iff.2 (.rests hopen hr))
  | ask effect next ih => exact .head (step?_iff.2 (.answers hopen hr)) (ih _ hopen rfl)

theorem router_drains {rs : List Response} {p : Pipeline} (hopen : p.unopened = []) (hidle : p.router = .idle)
    (hwait : p.responses = rs) : ReflTransGen RouterStep p { p with
      world := (p.world.run (routeAll p.isRegistered rs)).2
      responses := [] } := by
  induction rs generalizing p with
  | nil =>
    cases p
    cases hwait
    exact .refl
  | cons r rs ih =>
    have hroutes : RouterStep p { p with responses := rs, router := .routing (route p.isRegistered r) } :=
      step?_iff.2 (.routes hopen hidle hwait)
    have hworks := router_works (route p.isRegistered r)
      (p := { p with responses := rs, router := .routing (route p.isRegistered r) }) hopen rfl
    have hrest := ih (p := { p with
      world := (p.world.run (route p.isRegistered r)).2
      responses := rs
      router := .idle }) hopen rfl rfl
    have hregistered : isRegistered { p with
        world := (p.world.run (route p.isRegistered r)).2
        responses := rs
        router := .idle } = p.isRegistered := by
      funext a
      unfold isRegistered
      rw [World.adapters_run]
    have hrun : p.world.run (routeAll p.isRegistered (r :: rs)) =
        (p.world.run (route p.isRegistered r)).2.run (routeAll p.isRegistered rs) := Script.run_bind ..
    rw [hregistered] at hrest
    rw [hrun, hidle]
    exact .head hroutes (hworks.trans hrest)

end Pipeline

/-- Responses to requests on record are answered where the requests came from, if that adapter is registered, and
their records are closed, however the sending ends. Whatever the adapters and the store have answered so far, the
next response is sent and closed by itself. The router of a pipeline does just this with what is waiting. -/
theorem responses_go_back (w : World) (rs : List Response)
    (hrecords : ∀ r ∈ rs, w.data.store.requests.contains r.request.id = true) (hclose : ClosesRecords w) :
    let known := fun a => (w.adapters.get? a).isSome
    let work := routeAll known rs
    AllSettled known rs (work.exchanges World.perform w) w.data.store (w.run work).2.data.store ∧
    (∀ log, Leads work log (.done ()) →
      sends log = rs.filterMap (reply? known) ∧ (calls log).map (·.1) = rs.map (closing known)) ∧
    ∀ p : Pipeline, p.world = w → p.unopened = [] → p.router = .idle → p.responses = rs →
      ReflTransGen Pipeline.RouterStep p { p with world := (w.run work).2, responses := [] } := by
  intro known work
  refine ⟨settled_routeAll hclose hrecords, fun log h => leads_routeAll h, ?_⟩
  rintro p rfl hopen hidle hwait
  exact Pipeline.router_drains hopen hidle hwait

def inquiry (adapter : String) (id : Int) : Request :=
  ⟨⟨.named "site" "1", { Command.empty with name := "status" }⟩, adapter, "general", [], "ann", "ann", none, id⟩

/-- Two requests are on record, and the one adapter refuses whatever it is asked. -/
def deaf : World :=
  .initial
    (.ofStore (Store.after [.requestBegin (inquiry "chat" 0), .requestBegin (inquiry "gone" 0)] (.new .standard)))
    (.ofMap (.ofList [("chat", ⟨.ok (), fun _ c => c.refuse (.unavailable "down")⟩)])) 8

/-- The first answer is refused and the second has nowhere to go. -/
theorem refused_replies_are_closed :
    let rs := [Response.success (inquiry "chat" 1) ["fine", "so far"], Response.success (inquiry "gone" 2) ["fine"]]
    (∀ r ∈ rs, deaf.data.store.requests.contains r.request.id = true) ∧ ClosesRecords deaf ∧
    ∃ log t, AllSettled (fun a => (deaf.adapters.get? a).isSome) rs log deaf.data.store t ∧
      sends log = [("chat", .send "general" "fine\nso far")] ∧
      t.requests.values.map (fun record => (record.closed, record.error)) =
        [(true, none), (true, some "unknown adapter")] := by
  intro rs
  have hrecords : ∀ r ∈ rs, deaf.data.store.requests.contains r.request.id = true := by decide +kernel
  have hclose : ClosesRecords deaf := Faults.only_empty _
  obtain ⟨hsettled, hsends, -⟩ := responses_go_back deaf rs hrecords hclose
  refine ⟨hrecords, hclose, _, _, hsettled, ?_, by decide +kernel⟩
  rw [(hsends _ (Script.leads_exchanges ..)).1]
  decide +kernel

end Dispatch

end ChatRouter
