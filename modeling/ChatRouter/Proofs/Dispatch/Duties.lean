import ChatRouter.Dispatch.Pipeline
import ChatRouter.Proofs.Dispatch.Outcomes

set_option autoImplicit false

namespace ChatRouter.Dispatch

open Script (Asks Heeds Watch)
open Work

/-- An effect that neither begins nor closes a request. -/
def Plain : Effect → Prop
  | .store c => c.part? = none ∨ ∃ u, c = .userCreate u
  | .report f => ∀ a cause, f ≠ .listen a cause
  | .chat _ _ | .count _ => True

theorem asks_ofStore {α : Type} {P : Effect → Prop} {p : StoreScript α} (h : Asks (fun c => P (.store c)) p) :
    Asks P (ofStore p) := Script.asks_mapQuestions h

theorem asks_report {f : Failure} (h : ∀ a cause, f ≠ .listen a cause) : Asks Plain (report f) :=
  Script.asks_question h

theorem asks_count (metric : Metric) (values : List String) : Asks Plain (count metric values) :=
  Script.asks_question trivial

section Handling

variable {settings : Settings} {hash : PasswordHash} {adapter : String} {m : Message}

theorem asks_refuse (adapter : String) (m : Message) (error : String) : Asks Plain (refuse adapter m error) := by
  refine Asks.bind (Script.asks_question trivial) fun a => ?_
  split
  · exact Script.asks_pure _
  · exact asks_report nofun

theorem asks_refuseUnresolved (adapter : String) (m : Message) (e : ResolutionError) :
    Asks Plain (refuseUnresolved adapter m e) := by
  unfold refuseUnresolved
  dsimp only
  split
  · exact Asks.bind (asks_count _ _) fun _ => asks_refuse adapter m _
  · exact Asks.bind (asks_report nofun) fun _ => asks_refuse adapter m _

theorem asks_refuseAccess (adapter : String) (m : Message) (e : AccessError) :
    Asks Plain (refuseAccess adapter m e) := by
  unfold refuseAccess
  dsimp only
  split
  · exact Asks.bind (asks_report nofun) fun _ => asks_refuse adapter m _
  · exact Asks.bind (asks_count _ _) fun _ => asks_refuse adapter m _
  · exact Asks.bind (asks_count _ _) fun _ => asks_refuse adapter m _
  · refine Asks.bind (asks_report fun a cause => ?_) fun _ => asks_refuse adapter m _
    cases e <;> simp [Failure.ofAccess]

theorem asks_provision (settings : Settings) (hash : PasswordHash) (adapter : String) (who : Identity) :
    Asks Plain (provision settings hash adapter who) := by
  refine Asks.bind (asks_ofStore (Provisioning.asks_resolveOrCreate ..)) fun outcome => ?_
  refine Asks.bind ?_ fun _ => Script.asks_pure _
  unfold countProvisioning
  split
  · exact asks_count _ _
  · exact asks_count _ _
  · exact asks_count _ _
  · exact Script.asks_pure _

theorem asks_sendToAll (adapter text : String) (channels : List Channel) :
    Asks Plain (sendToAll adapter text channels) := by
  induction channels with
  | nil => exact Script.asks_pure _
  | cons channel rest ih =>
    refine Asks.bind (Script.asks_question trivial) fun a => ?_
    split
    · exact ih
    · exact Asks.bind (asks_report nofun) fun _ => ih

theorem asks_greet (settings : Settings) (adapter bot : String) : Asks Plain (greet settings adapter bot) := by
  refine Asks.bind (Script.asks_question trivial) fun a => ?_
  split
  · exact asks_report nofun
  · refine Asks.bind (Script.asks_question trivial) fun a => ?_
    split
    · exact asks_report nofun
    · dsimp only
      split
      · refine Asks.bind ?_ fun _ => asks_sendToAll _ _ _
        refine Asks.bind (Script.asks_question (.inl rfl)) fun a => ?_
        split <;> exact Script.asks_pure _
      · exact asks_sendToAll _ _ _

def begunBy? : (e : Effect) → e.Answer → Option Request
  | .store (.requestBegin _), .ok r => some r
  | _, _ => none

/-- The loop begins at most one request while it handles an event of the adapter; the state is that request. -/
def loopWatch (adapter : String) : Watch Effect Effect.Answer (Option Request) where
  next begun e a := begunBy? e a <|> begun
  good begun e := Plain e ∨ begun = none ∧ ∃ r, e = .store (.requestBegin r) ∧ r.adapter = adapter

theorem begunBy?_of_plain {e : Effect} (h : Plain e) (a : e.Answer) : begunBy? e a = none := by
  cases e with
  | store c =>
    cases c with
    | requestBegin r => simp [Plain, Call.part?] at h
    | _ => rfl
  | _ => rfl

theorem loopWatch_plain {begun : Option Request} {e : Effect} (h : Plain e) :
    (loopWatch adapter).good begun e ∧ ∀ a, (loopWatch adapter).next begun e a = begun := by
  refine ⟨.inl h, fun a => ?_⟩
  change (begunBy? e a <|> begun) = begun
  rw [begunBy?_of_plain h]
  rfl

def HandsOut (adapter : String) (begun : Option Request) (work : Work (Option Request)) : Prop :=
  Heeds (loopWatch adapter) (fun begun result => begun = result) begun work

theorem HandsOut.bind {α : Type} {begun : Option Request} {p : Work α} {f : α → Work (Option Request)}
    (hp : Asks Plain p) (hf : ∀ a, HandsOut adapter begun (f a)) : HandsOut adapter begun (p >>= f) :=
  hp.heeds_bind (fun _ => loopWatch_plain) hf

theorem handsOut_plan (settings : Settings) (hash : PasswordHash) (adapter : String) (m : Message)
    (resolution : Resolution) : HandsOut adapter none (plan settings hash adapter m resolution) := by
  have hrefused (e : AccessError) : HandsOut adapter none (do
      refuseAccess adapter m e
      return none) := .bind (asks_refuseAccess adapter m e) fun _ => rfl
  refine .bind (Script.asks_question trivial) fun answer => ?_
  split
  · exact .bind (asks_report nofun) fun _ => .bind (asks_refuse adapter m _) fun _ => rfl
  · refine .bind (asks_provision ..) fun outcome => ?_
    split
    · exact hrefused _
    · refine .bind (asks_ofStore ((Authorization.asks_authorize ..).mono fun _ => .inl)) fun outcome => ?_
      split
      · exact hrefused _
      · refine ⟨.inr ⟨rfl, _, rfl, rfl⟩, fun answer => ?_⟩
        cases answer with
        | error cause =>
          change HandsOut adapter none (do
            report (.store "begin request" cause)
            refuse adapter m cause.message
            return none)
          exact .bind (asks_report nofun) fun _ => .bind (asks_refuse adapter m _) fun _ => rfl
        | ok request =>
          change HandsOut adapter (some request) (do
            count .resolutionDuration []
            return some request)
          exact .bind (asks_count _ _) fun _ => rfl

theorem handsOut_handleMessage (settings : Settings) (hash : PasswordHash) (adapter : String) (m : Message) :
    HandsOut adapter none (handleMessage settings hash adapter m) := by
  unfold handleMessage
  split
  · rfl
  · refine .bind (asks_ofStore ((asks_resolve _).mono fun _ => .inl)) fun outcome => ?_
    split
    · exact .bind (asks_refuseUnresolved adapter m _) fun _ => rfl
    · rfl
    · exact .bind (asks_count _ _) fun _ => handsOut_plan settings hash adapter m _

theorem handsOut_handle (settings : Settings) (hash : PasswordHash) (adapter : String) (e : Event) :
    HandsOut adapter none (handle settings hash adapter e) := by
  cases e with
  | connected bot =>
    unfold handle
    dsimp only
    split
    · exact .bind (asks_greet settings adapter bot) fun _ => rfl
    · rfl
  | disconnected reason => rfl
  | channelMessage m | directMessage m => exact handsOut_handleMessage settings hash adapter m
  | authenticationError reason | error reason => exact .bind (asks_report nofun) fun _ => rfl

end Handling

def closing (known : String → Bool) (r : Response) : Call :=
  .requestClose r.request.id r.status
    (r.error <|> if known r.request.adapter then none else some "unknown adapter")

/-- The router makes one store call for a response; the state says whether it has been made. -/
def routerWatch (c : Call) : Watch Effect Effect.Answer Bool where
  next made e _ := match e with
    | .store _ => true
    | _ => made
  good made e := match e with
    | .store d => made = false ∧ d = c
    | .report f => ∀ a cause, f ≠ .listen a cause
    | _ => True

def Closes (c : Call) (made : Bool) (work : Work Unit) : Prop :=
  Heeds (routerWatch c) (fun made _ => made = true) made work

/-- An effect that neither calls the store nor reports that a stream could not be opened. -/
def Outward : Effect → Prop
  | .store _ => False
  | .report f => ∀ a cause, f ≠ .listen a cause
  | .chat _ _ | .count _ => True

theorem Closes.bind {c : Call} {made : Bool} {p : Work Unit} {f : Unit → Work Unit} (hp : Asks Outward p)
    (hf : ∀ a, Closes c made (f a)) : Closes c made (p >>= f) := by
  refine hp.heeds_bind (fun e h => ?_) hf
  cases e with
  | store d => exact h.elim
  | chat a d => exact ⟨trivial, fun _ => rfl⟩
  | report f => exact ⟨h, fun _ => rfl⟩
  | count s => exact ⟨trivial, fun _ => rfl⟩

theorem closes_closeRecord (r : Response) (fallback : Option String) :
    Closes (.requestClose r.request.id r.status (r.error <|> fallback)) false (closeRecord r fallback) := by
  refine ⟨⟨rfl, rfl⟩, fun answer => ?_⟩
  cases answer with
  | ok u => rfl
  | error cause => exact ⟨nofun, fun _ => rfl⟩

theorem asks_countRouted_outward (adapter : String) : Asks Outward (countRouted adapter) :=
  Asks.bind (Script.asks_question trivial) fun _ => Script.asks_question trivial

theorem asks_deliver_outward (r : Response) (c : ChatCall) : Asks Outward (deliver r c) := by
  refine Asks.bind (Script.asks_question trivial) fun a => ?_
  split
  · exact asks_countRouted_outward _
  · exact Script.asks_question nofun

theorem closes_route (known : String → Bool) (r : Response) : Closes (closing known r) false (route known r) := by
  unfold route closing
  cases hknown : known r.request.adapter with
  | false =>
    exact .bind (Script.asks_question nofun) fun _ => closes_closeRecord r _
  | true =>
    have hclose := closes_closeRecord r none
    cases delivery? r with
    | some call => exact .bind (asks_deliver_outward r call) fun _ => hclose
    | none => exact .bind (asks_countRouted_outward _) fun _ => hclose

end ChatRouter.Dispatch
