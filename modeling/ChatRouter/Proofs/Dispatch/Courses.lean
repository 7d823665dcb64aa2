import ChatRouter.Dispatch.World
import ChatRouter.Dispatch.Handling
import ChatRouter.Proofs.Access.Authorization
import ChatRouter.Proofs.Access.Provisioning

set_option autoImplicit false

namespace ChatRouter

def ChatCall.isSend : ChatCall → Bool
  | send _ _ | sendError _ _ _ => true
  | identify _ | presentChannels _ => false

namespace Dispatch

open Script (Leads Asks)
open Work

abbrev WorkLog := List (Exchange Effect Effect.Answer)

def call? : Exchange Effect Effect.Answer → Option (Exchange Call Call.Answer)
  | ⟨.store c, a⟩ => some ⟨c, a⟩
  | _ => none

def send? : Effect → Option (String × ChatCall)
  | .chat adapter c => if c.isSend then some (adapter, c) else none
  | _ => none

namespace WorkLog

def calls (log : WorkLog) : CallLog := log.filterMap call?

def sends (log : WorkLog) : List (String × ChatCall) := log.filterMap (send? ·.1)

def ofCalls (calls : CallLog) : WorkLog := calls.map fun x => ⟨.store x.1, x.2⟩

@[simp] theorem calls_append (log more : WorkLog) : calls (log ++ more) = calls log ++ calls more :=
  List.filterMap_append

@[simp] theorem sends_append (log more : WorkLog) : sends (log ++ more) = sends log ++ sends more :=
  List.filterMap_append

@[simp] theorem calls_ofCalls (log : CallLog) : calls (ofCalls log) = log := by
  induction log with
  | nil => rfl
  | cons x log ih => exact congrArg (x :: ·) ih

@[simp] theorem sends_ofCalls (log : CallLog) : sends (ofCalls log) = [] := by
  induction log with
  | nil => rfl
  | cons x log ih => exact ih

end WorkLog

open WorkLog (calls sends ofCalls)

variable {log : WorkLog}

theorem leads_ofStore {α : Type} {p : StoreScript α} {a : α} (h : Leads (ofStore p) log (.done a)) :
    ∃ calls, log = WorkLog.ofCalls calls ∧ Leads p calls (.done a) := by
  obtain ⟨said, rfl, hp⟩ := Script.leads_mapQuestions h
  exact ⟨said, rfl, by simpa using hp⟩

/-- The log neither sends nor calls the store. -/
def Quiet (log : WorkLog) : Prop := sends log = [] ∧ calls log = []

theorem Quiet.append {more : WorkLog} (h : Quiet log) (h' : Quiet more) : Quiet (log ++ more) :=
  ⟨by rw [WorkLog.sends_append, h.1, h'.1, List.nil_append],
    by rw [WorkLog.calls_append, h.2, h'.2, List.nil_append]⟩

/-- The call that tells the sender of a message why there is no request. -/
def refusal (m : Message) (error : String) : ChatCall :=
  .sendError m.channel errorTitle (planningFailure (Text.trimmed m.text) error)

def Refuses (adapter : String) (m : Message) (error : String) (log : WorkLog) : Prop :=
  sends log = [(adapter, refusal m error)] ∧ calls log = []

theorem Refuses.after_quiet {adapter : String} {m : Message} {error : String} {more : WorkLog}
    (h : Quiet log) (h' : Refuses adapter m error more) : Refuses adapter m error (log ++ more) :=
  ⟨by rw [WorkLog.sends_append, h.1, h'.1, List.nil_append],
    by rw [WorkLog.calls_append, h.2, h'.2, List.nil_append]⟩

theorem quiet_of_report {f : Failure} (h : Leads (report f) log (.done ())) : Quiet log := by
  obtain rfl := Script.leads_question.1 h
  exact ⟨rfl, rfl⟩

theorem quiet_of_count {metric : Metric} {values : List String}
    (h : Leads (count metric values) log (.done ())) : Quiet log := by
  obtain rfl := Script.leads_question.1 h
  exact ⟨rfl, rfl⟩

theorem leads_refuse {adapter : String} {m : Message} {error : String}
    (h : Leads (refuse adapter m error) log (.done ())) : Refuses adapter m error log := by
  obtain ⟨a, rest, rfl, hr⟩ := Script.leads_question_bind.1 h
  have hq : Quiet rest := by
    split at hr
    · obtain ⟨rfl, -⟩ := (Script.leads_pure ..).1 hr
      exact ⟨rfl, rfl⟩
    · exact quiet_of_report hr
  exact ⟨congrArg (_ :: ·) hq.1, hq.2⟩

theorem leads_refuse_after {adapter : String} {m : Message} {error : String} {p : Work Unit}
    (hp : ∀ {log}, Leads p log (.done ()) → Quiet log)
    (h : Leads (p >>= fun _ => refuse adapter m error) log (.done ())) : Refuses adapter m error log := by
  obtain ⟨first, _, rest, rfl, hf, hr⟩ := Script.leads_bind.1 h
  exact (leads_refuse hr).after_quiet (hp hf)

theorem leads_then_none {α : Type} {w : Work Unit} {result : Option α}
    (h : Leads (w >>= fun _ => pure none) log (.done result)) : Leads w log (.done ()) ∧ result = none := by
  obtain ⟨first, _, rest, rfl, hw, hr⟩ := Script.leads_bind.1 h
  obtain ⟨rfl, rfl⟩ := (Script.leads_pure ..).1 hr
  rw [List.append_nil]
  exact ⟨hw, rfl⟩

theorem leads_refuseUnresolved {adapter : String} {m : Message} {e : ResolutionError}
    (h : Leads (refuseUnresolved adapter m e) log (.done ())) : Refuses adapter m e.message log := by
  unfold refuseUnresolved at h
  dsimp only at h
  split at h
  · exact leads_refuse_after quiet_of_count h
  · exact leads_refuse_after quiet_of_report h

theorem leads_refuseAccess {adapter : String} {m : Message} {e : AccessError}
    (h : Leads (refuseAccess adapter m e) log (.done ())) : Refuses adapter m e.message log := by
  unfold refuseAccess at h
  dsimp only at h
  split at h
  · exact leads_refuse_after quiet_of_report h
  · exact leads_refuse_after quiet_of_count h
  · exact leads_refuse_after quiet_of_count h
  · exact leads_refuse_after quiet_of_report h

theorem leads_provision {settings : Settings} {hash : PasswordHash} {adapter : String} {who : Identity}
    {outcome : Except AccessError User}
    (h : Leads (provision settings hash adapter who) log (.done outcome)) :
    sends log = [] ∧ ∃ r, outcome = r.map Prod.fst ∧
      Leads (Provisioning.resolveOrCreate settings.allowSelfRegistration hash adapter who).run
        (calls log) (.done r) := by
  obtain ⟨first, r, rest, rfl, hf, hr⟩ := Script.leads_bind.1 h
  obtain ⟨made, rfl, hp⟩ := leads_ofStore hf
  obtain ⟨counted, _, rest, rfl, hc, hr⟩ := Script.leads_bind.1 hr
  obtain ⟨rfl, rfl⟩ := (Script.leads_pure ..).1 hr
  have hq : Quiet counted := by
    unfold countProvisioning at hc
    split at hc
    · exact quiet_of_count hc
    · exact quiet_of_count hc
    · exact quiet_of_count hc
    · obtain ⟨rfl, -⟩ := (Script.leads_pure ..).1 hc
      exact ⟨rfl, rfl⟩
  refine ⟨by simp [hq.1], r, rfl, ?_⟩
  simpa [hq.2] using hp

/-- No call of the log has changed the ledger. -/
def LedgerIdle (log : CallLog) : Prop := ∀ x ∈ log, x.1.part? = some .ledger → ∃ e, x.2 = .error e

theorem LedgerIdle.append {log more : CallLog} (h : LedgerIdle log) (h' : LedgerIdle more) :
    LedgerIdle (log ++ more) := fun x hx => (List.mem_append.1 hx).elim (h x) (h' x)

theorem ledgerIdle_of_reads {log : CallLog} (h : ∀ x ∈ log, x.1.part? = none) : LedgerIdle log := by
  intro x hx hp
  rw [h x hx] at hp
  cases hp

theorem ledgerIdle_of_error (c : Call) (e : DataError) : LedgerIdle [⟨c, .error e⟩] := by
  intro x hx _
  rw [List.mem_singleton.1 hx]
  exact ⟨e, rfl⟩

theorem ledgerIdle_of_resolveOrCreate {allow : Bool} {hash : PasswordHash} {adapter : String}
    {who : Identity} {r : Except AccessError (User × Bool)} {log : CallLog}
    (h : Leads (Provisioning.resolveOrCreate allow hash adapter who).run log (.done r)) :
    LedgerIdle log := by
  intro x hx hp
  rcases (Asks.of_leads h (Provisioning.asks_resolveOrCreate allow hash adapter who)).2 x hx with hr | ⟨u, hu⟩
  · rw [hr] at hp
    cases hp
  · rw [hu] at hp
    cases hp

/-- How planning a request can go: the sender is told why there is none, or the ledger has recorded it. -/
inductive Planned (settings : Settings) (hash : PasswordHash) (adapter : String) (m : Message)
    (resolution : Resolution) : WorkLog → Option Request → Prop where
  | refused {log : WorkLog} {error : String} (hs : sends log = [(adapter, refusal m error)])
      (hc : LedgerIdle (calls log)) : Planned settings hash adapter m resolution log none
  | begun {log : WorkLog} {who : Identity} {user : User} {created : Bool} {provisioned authorized : CallLog}
      {request : Request} (hwho : ⟨.chat adapter (.identify m.user), .ok who⟩ ∈ log) (hs : sends log = [])
      (hc : calls log = provisioned ++ authorized ++
        [⟨.requestBegin (requestFor adapter m user resolution), .ok request⟩])
      (hp : Leads (Provisioning.resolveOrCreate settings.allowSelfRegistration hash adapter who).run
        provisioned (.done (.ok (user, created))))
      (ha : Leads (Authorization.authorize user.username resolution.entry).run authorized (.done (.ok ()))) :
      Planned settings hash adapter m resolution log (some request)

variable {settings : Settings} {hash : PasswordHash} {adapter : String} {m : Message}
  {resolution : Resolution} {result : Option Request}

def Harmless (log : WorkLog) : Prop := sends log = [] ∧ LedgerIdle (calls log)

theorem Quiet.harmless (h : Quiet log) : Harmless log := ⟨h.1, by rw [h.2]; exact fun _ hx => by cases hx⟩

theorem Harmless.append {more : WorkLog} (h : Harmless log) (h' : Harmless more) : Harmless (log ++ more) :=
  ⟨by rw [WorkLog.sends_append, h.1, h'.1, List.nil_append],
    by rw [WorkLog.calls_append]; exact h.2.append h'.2⟩

theorem harmless_ofCalls {made : CallLog} (h : LedgerIdle made) : Harmless (ofCalls made) :=
  ⟨WorkLog.sends_ofCalls made, by rwa [WorkLog.calls_ofCalls]⟩

theorem quiet_identify (adapter user : String) (a : (ChatCall.identify user).Answer) :
    Quiet [⟨.chat adapter (.identify user), a⟩] := ⟨rfl, rfl⟩

theorem Planned.of_refuses {error : String} {first rest : WorkLog} (hf : Harmless first)
    (h : Refuses adapter m error rest) : Planned settings hash adapter m resolution (first ++ rest) none := by
  obtain ⟨hs, hc⟩ := hf
  have hsend : sends (first ++ rest) = [(adapter, refusal m error)] := by
    rw [WorkLog.sends_append, hs, h.1, List.nil_append]
  refine .refused hsend ?_
  rw [WorkLog.calls_append, h.2, List.append_nil]
  exact hc

theorem planned_of_leads (h : Leads (plan settings hash adapter m resolution) log (.done result)) :
    Planned settings hash adapter m resolution log result := by
  obtain ⟨a, rest, rfl, h₁⟩ := Script.leads_question_bind.1 h
  clear h
  have hid := (quiet_identify adapter m.user a).harmless
  cases a with
  | error cause =>
    obtain ⟨reported, _, rest, rfl, hr, h₂⟩ := Script.leads_bind.1 h₁
    obtain ⟨hw, rfl⟩ := leads_then_none h₂
    exact .of_refuses hid ((leads_refuse hw).after_quiet (quiet_of_report hr))
  | ok who =>
    obtain ⟨provisioning, outcome, rest, rfl, hp, h₂⟩ := Script.leads_bind.1 h₁
    clear h₁
    obtain ⟨hps, r, rfl, hres⟩ := leads_provision hp
    have hpc : Harmless provisioning := ⟨hps, ledgerIdle_of_resolveOrCreate hres⟩
    cases r with
    | error e =>
      obtain ⟨hw, rfl⟩ := leads_then_none h₂
      exact .of_refuses (hid.append hpc) (leads_refuseAccess hw)
    | ok r =>
      obtain ⟨user, created⟩ := r
      obtain ⟨authorizing, outcome, rest, rfl, ha, h₃⟩ := Script.leads_bind.1 h₂
      clear h₂
      obtain ⟨authorized, rfl, hauth⟩ := leads_ofStore ha
      have hac := harmless_ofCalls
        (ledgerIdle_of_reads (Asks.of_leads hauth (Authorization.asks_authorize ..)).2)
      cases outcome with
      | error e =>
        obtain ⟨hw, rfl⟩ := leads_then_none h₃
        rw [← List.append_assoc]
        exact .of_refuses (hid.append (hpc.append hac)) (leads_refuseAccess hw)
      | ok u =>
        obtain ⟨begun, rest, rfl, h₄⟩ := Script.leads_question_bind.1 h₃
        clear h₃
        cases begun with
        | error cause =>
          obtain ⟨reported, _, rest, rfl, hr, h₅⟩ := Script.leads_bind.1 h₄
          obtain ⟨hw, rfl⟩ := leads_then_none h₅
          have hb := harmless_ofCalls
            (ledgerIdle_of_error (.requestBegin (requestFor adapter m user resolution)) cause)
          have hrefuse := (leads_refuse hw).after_quiet (quiet_of_report hr)
          have hplanned : Planned settings hash adapter m resolution _ none :=
            .of_refuses (hid.append (hpc.append (hac.append hb))) hrefuse
          simp only [List.append_assoc] at hplanned
          exact hplanned
        | ok request =>
          obtain ⟨counted, _, rest, rfl, hc, h₅⟩ := Script.leads_bind.1 h₄
          obtain ⟨rfl, rfl⟩ := (Script.leads_pure ..).1 h₅
          obtain ⟨hcs, hcc⟩ := quiet_of_count hc
          refine .begun (List.mem_cons_self ..) ?_ ?_ hres hauth
          · rw [← List.singleton_append (l := counted ++ []), ← List.singleton_append]
            simp only [WorkLog.sends_append, hid.1, hps, WorkLog.sends_ofCalls, hcs, List.nil_append]
            rfl
          · rw [← List.singleton_append (l := counted ++ []), ← List.singleton_append]
            simp only [WorkLog.calls_append, (quiet_identify ..).2, WorkLog.calls_ofCalls, hcc,
              List.nil_append, List.append_assoc]
            rfl

/-- The log begins with the look-up for what the message asks for, which ends as told. -/
def Looked (settings : Settings) (m : Message) (outcome : Except ResolutionError (Option Resolution))
    (log rest : WorkLog) : Prop :=
  ∃ invocation asked, settings.classify m.text = some invocation ∧ log = ofCalls asked ++ rest ∧
    Leads (resolve invocation).run asked (.done outcome)

/-- How handling a message can go. -/
inductive Course (settings : Settings) (hash : PasswordHash) (adapter : String) (m : Message) :
    WorkLog → Option Request → Prop where
  | unasked (h : settings.classify m.text = none) : Course settings hash adapter m [] none
  | unmatched {log : WorkLog} (h : Looked settings m (.ok none) log []) : Course settings hash adapter m log none
  | unresolved {log rest : WorkLog} {e : ResolutionError} (h : Looked settings m (.error e) log rest)
      (hr : Refuses adapter m e.message rest) : Course settings hash adapter m log none
  | planned {log counted rest : WorkLog} {resolution : Resolution} {result : Option Request}
      (h : Looked settings m (.ok (some resolution)) log (counted ++ rest)) (hq : Quiet counted)
      (hp : Planned settings hash adapter m resolution rest result) : Course settings hash adapter m log result

theorem course_of_leads (h : Leads (handleMessage settings hash adapter m) log (.done result)) :
    Course settings hash adapter m log result := by
  unfold handleMessage at h
  split at h
  · rename_i hc
    obtain ⟨rfl, rfl⟩ := (Script.leads_pure ..).1 h
    exact .unasked hc
  · rename_i invocation hc
    obtain ⟨first, outcome, rest, rfl, hf, hr⟩ := Script.leads_bind.1 h
    obtain ⟨asked, rfl, ha⟩ := leads_ofStore hf
    have looked : Looked settings m outcome (ofCalls asked ++ rest) rest := ⟨invocation, asked, hc, rfl, ha⟩
    split at hr
    · obtain ⟨hw, rfl⟩ := leads_then_none hr
      exact .unresolved looked (leads_refuseUnresolved hw)
    · obtain ⟨rfl, rfl⟩ := (Script.leads_pure ..).1 hr
      exact .unmatched looked
    · obtain ⟨counted, _, rest, rfl, hcount, hp⟩ := Script.leads_bind.1 hr
      exact .planned looked (quiet_of_count hcount) (planned_of_leads hp)

end Dispatch

end ChatRouter
