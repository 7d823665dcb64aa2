import ChatRouter.Proofs.Dispatch.Outcomes

set_option autoImplicit false

namespace ChatRouter.Dispatch

open Script (Leads Asks)
open WorkLog (calls sends ofCalls)

/-- The handling of an event so far. -/
structure Turn where
  adapter : String
  event : Event
  before : Store
  log : WorkLog
  after : Store

/-- A request that was handed out, and the turn that it comes of. -/
structure Emission where
  turn : Turn
  request : Request

/-- The sender was found to be the user, or the turn has created the user. -/
inductive Turn.Identifies (settings : Settings) (t : Turn) (who : Identity) (user : User) : Prop where
  | found (hmatch : who.Matches t.adapter user) (hthere : t.before.users.get? user.username = some user)
  | created (hallowed : settings.allowSelfRegistration = true)
      (hadmin : t.before.userExists adminUser = true) (hnew : t.before.userExists user.username = false)
      (hmade : ⟨.store (.userCreate user), .ok ()⟩ ∈ t.log)

/-- The user of the request is in the store, and is whom the sender was found to be or who was created. -/
def Emission.Identified (settings : Settings) (e : Emission) : Prop :=
  ∃ m who user, e.turn.event.message? = some m ∧
    ⟨.chat e.turn.adapter (.identify m.user), .ok who⟩ ∈ e.turn.log ∧
    e.turn.after.user e.request.userName = .ok user ∧ e.turn.Identifies settings who user

structure Emission.Sound (e : Emission) : Prop where
  listed : e.request.entry ∈ e.turn.before.findEntries "" ""
  known : ∃ user, e.turn.after.user e.request.userName = .ok user
  permitted : e.turn.before.Permits e.request.userName e.request.entry.command.rules
  numbered : e.request.id ≠ 0
  recorded : e.turn.after.Records e.request

variable {settings : Settings} {hash : PasswordHash} {adapter : String} {m : Message}
variable {s t : Store} {asked : CallLog}

theorem listed_of_resolve {invocation : Invocation} {r : Resolution}
    (h : Leads (resolve invocation).run asked (.done (.ok (some r)))) (hl : Chronicle .routing s asked t) :
    r.entry ∈ s.findEntries "" "" := by
  have hreads := (Asks.of_leads h (asks_resolve invocation)).2
  cases invocation with
  | explicit text =>
    obtain ⟨first, found, rest, rfl, hf, hr⟩ := Script.leads_except_bind_ok.1 h
    obtain ⟨rfl, hfound⟩ := (Script.leads_pure ..).1 hr
    cases hfound
    obtain ⟨bundle, command, rfl⟩ := Resolution.leads_ofCommand hf
    obtain ⟨u, hu, hc⟩ := hl.exists_of_read hreads (List.mem_cons_self ..)
    have hentries : u.findEntries bundle command = [r.entry] := Except.ok.inj hc
    rw [← Store.findEntries_congr hu.bundles]
    exact u.findEntries_subset bundle command _ (hentries ▸ List.mem_singleton_self _)
  | spoken text =>
    obtain ⟨a, rfl, -, hfound⟩ := Resolution.leads_ofSpoken h
    obtain rfl := hfound r rfl
    obtain ⟨u, hu, hc⟩ := hl.exists_of_read hreads (List.mem_cons_self ..)
    have hentries : u.findTriggered text = [r.entry] := Except.ok.inj hc
    rw [← Store.findEntries_congr hu.bundles]
    exact u.findTriggered_subset text _ (hentries ▸ List.mem_singleton_self _)

theorem message_of_leads {log : WorkLog} {e : Event} {request : Request}
    (h : Leads (handle settings hash adapter e) log (.done (some request))) :
    ∃ m, e.message? = some m ∧ Leads (handleMessage settings hash adapter m) log (.done (some request)) := by
  cases e with
  | connected bot =>
    unfold handle at h
    dsimp only at h
    split at h
    · exact nomatch (leads_then_none h).2
    · exact nomatch ((Script.leads_pure ..).1 h).2
  | disconnected reason => exact nomatch ((Script.leads_pure ..).1 h).2
  | channelMessage m => exact ⟨m, rfl, h⟩
  | directMessage m => exact ⟨m, rfl, h⟩
  | authenticationError reason => exact nomatch (leads_then_none h).2
  | error reason => exact nomatch (leads_then_none h).2

/-- The work that ends with a request: resolving, provisioning and authorizing have succeeded, and the last
call was the one that has recorded it. -/
theorem begun_of_leads {log : WorkLog} {request : Request}
    (h : Leads (handleMessage settings hash adapter m) log (.done (some request))) :
    ∃ invocation resolution who user created asked provisioned authorized,
      ⟨.chat adapter (.identify m.user), .ok who⟩ ∈ log ∧
      calls log = asked ++ (provisioned ++ authorized ++
        [⟨.requestBegin (requestFor adapter m user resolution), .ok request⟩]) ∧
      Leads (resolve invocation).run asked (.done (.ok (some resolution))) ∧
      Leads (Provisioning.resolveOrCreate settings.allowSelfRegistration hash adapter who).run
        provisioned (.done (.ok (user, created))) ∧
      Leads (Authorization.authorize user.username resolution.entry).run authorized (.done (.ok ())) := by
  cases course_of_leads h with
  | planned hlook hq hplan =>
    obtain ⟨invocation, asked, -, rfl, hres⟩ := hlook
    cases hplan with
    | begun hwho hs hc hp ha =>
      refine ⟨invocation, _, _, _, _, asked, _, _, ?_, ?_, hres, hp, ha⟩
      · exact List.mem_append_right _ (List.mem_append_right _ hwho)
      · rw [WorkLog.calls_append, WorkLog.calls_ofCalls, WorkLog.calls_append, hq.2, List.nil_append, hc]

theorem mem_of_calls {log : WorkLog} {c : Call} {a : c.Answer} (h : ⟨c, a⟩ ∈ calls log) :
    ⟨.store c, a⟩ ∈ log := by
  obtain ⟨⟨e, b⟩, hx, he⟩ := List.mem_filterMap.1 h
  cases e with
  | store d =>
    cases he
    exact hx
  | _ => cases he

theorem there_of_provisioned {allow created : Bool} {who : Identity} {user : User} {log : CallLog}
    (hs : s.DirectorySound) (hl : Chronicle .routing s log t)
    (h : Leads (Provisioning.resolveOrCreate allow hash adapter who).run log (.done (.ok (user, created)))) :
    t.DirectorySound ∧ t.users.get? user.username = some user ∧ t.groups = s.groups ∧ t.roles = s.roles ∧
      t.lastRequest = s.lastRequest := by
  rcases Provisioning.resolveOrCreate_sound hs hl h with ⟨-, hu, ht, -⟩ | ⟨-, -, -, -, hname, -, ht⟩
  · exact ⟨ht.directorySound hs, ht.users ▸ hu, ht.groups, ht.roles, ht.lastRequest⟩
  · refine ⟨ht.directorySound (hs.putUser hname), ?_, ht.groups, ht.roles, ht.lastRequest⟩
    rw [ht.users, Store.putUser, SortedMap.get?_insert_ite, if_pos rfl]

theorem recorded_of_begin {r request : Request}
    (hl : Chronicle .routing s [⟨.requestBegin r, .ok request⟩] t) :
    request = { r with id := s.lastRequest + 1 } ∧ t.users = s.users ∧ t.Records request := by
  obtain ⟨u, v, hu, ha, hl⟩ := Chronicle.cons_iff.1 hl
  have hv : v.Alike t := Chronicle.nil_iff.1 hl
  obtain ⟨-, hreq, rfl⟩ := Store.beginRequest_ok.1 ha.perform_eq
  rw [hu.lastRequest] at hreq
  refine ⟨hreq.symm, hv.users.trans hu.users, hv.records ⟨⟨request, none, none, false⟩, ?_, rfl⟩⟩
  have hnumber : request.id = u.lastRequest + 1 := by rw [← hreq, hu.lastRequest]
  rw [SortedMap.get?_insert_ite, if_pos hnumber]

/-- What has been handed out of a turn that began in a reachable store is sound, and has the next number. -/
theorem Turn.sound_of_leads {t : Turn} {request : Request}
    (h : Leads (handle settings hash t.adapter t.event) t.log (.done (some request)))
    (hs : t.before.Reachable) (hl : Chronicle .routing t.before (calls t.log) t.after) :
    Emission.Sound ⟨t, request⟩ ∧ ((calls t.log).KeepsContract → Emission.Identified settings ⟨t, request⟩) ∧
      request.id = t.before.lastRequest + 1 := by
  obtain ⟨m, hm, hwork⟩ := message_of_leads h
  obtain ⟨invocation, resolution, who, user, created, asked, provisioned, authorized, hwho, hc, hres, hp, ha⟩ :=
    begun_of_leads hwork
  have hsound := hs.directorySound
  rw [hc] at hl
  -- The store after each stage: only provisioning and the ledger change what the others read.
  obtain ⟨u₁, hl₁, hl⟩ := Chronicle.append_iff.1 hl
  obtain ⟨u₃, hl, hl₄⟩ := Chronicle.append_iff.1 hl
  obtain ⟨u₂, hl₂, hl₃⟩ := Chronicle.append_iff.1 hl
  have h₁ : t.before.Alike u₁ := hl₁.drifts_of_reads (Asks.of_leads hres (asks_resolve invocation)).2
  have h₃ : u₂.Alike u₃ := hl₃.drifts_of_reads (Asks.of_leads ha (Authorization.asks_authorize ..)).2
  have hl₂ := hl₂.after_drift h₁
  obtain ⟨hs₂, hthere, hgroups, hroles, hlast⟩ := there_of_provisioned hsound hl₂ hp
  obtain ⟨rfl, husers, hrecord⟩ := recorded_of_begin hl₄
  have hnumber : u₃.lastRequest + 1 = t.before.lastRequest + 1 := by rw [h₃.lastRequest, hlast]
  have huser : t.after.user user.username = .ok user := by
    unfold Store.user
    rw [husers, h₃.users]
    exact hs₂.user_ok hthere
  refine ⟨⟨listed_of_resolve hres hl₁, ⟨user, huser⟩, ?_, ?_, hrecord⟩, fun hkeeps => ?_, hnumber⟩
  · exact (Store.permits_congr hgroups hroles).1 (Authorization.permits_of_authorize hs₂ hl₃ ha)
  · have := hs.ledgerSound.counted
    change u₃.lastRequest + 1 ≠ 0
    omega
  · refine ⟨m, who, user, hm, hwho, huser, ?_⟩
    rcases Provisioning.resolveOrCreate_sound hsound hl₂ hp with
      ⟨-, hu, -, hmatch⟩ | ⟨-, hallow, hadmin, hnew, -, hmade, -⟩
    · exact .found (hmatch fun u email hmem => hkeeps u email (by simp [hc, hmem])) hu
    · refine .created hallow hadmin hnew (mem_of_calls ?_)
      rw [hc]
      simp [hmade]

end ChatRouter.Dispatch
