import ChatRouter.Proofs.Store.Chronicle
import ChatRouter.Proofs.Store.Enabling
import ChatRouter.Resolution

set_option autoImplicit false

namespace ChatRouter

open Script (Leads Asks)

namespace Call

variable {ε : Type} {log : CallLog} {c : Call}

theorem run_adapt (f : DataError → ε) (c : Call) : (ExceptT.adapt f c.require).run =
    Script.ask c fun a => .done (a.mapError f) := rfl

theorem leads_adapt {f : DataError → ε} {r : Except ε c.Reply} :
    Leads (ExceptT.adapt f c.require).run log (.done r) ↔
      ∃ a : c.Answer, log = [⟨c, a⟩] ∧ a.mapError f = r := by
  rw [run_adapt, Script.leads_ask]
  constructor
  · rintro ⟨a, rest, rfl, h⟩
    obtain ⟨rfl, ha⟩ := (Script.leads_done ..).1 h
    exact ⟨a, rfl, ha⟩
  · rintro ⟨a, rfl, ha⟩
    exact ⟨a, [], rfl, (Script.leads_done ..).2 ⟨rfl, ha⟩⟩

theorem leads_adapt_ok {f : DataError → ε} {r : c.Reply} :
    Leads (ExceptT.adapt f c.require).run log (.done (.ok r)) ↔ log = [⟨c, .ok r⟩] := by
  rw [leads_adapt]
  constructor
  · rintro ⟨a, rfl, ha⟩
    cases a with
    | ok r' =>
      cases ha
      rfl
    | error e => cases ha
  · rintro rfl
    exact ⟨.ok r, rfl, rfl⟩

theorem asks_adapt {P : Call → Prop} {f : DataError → ε} (h : P c) :
    Asks P (ExceptT.adapt f c.require).run := ⟨h, fun _ => trivial⟩

end Call

namespace Resolution

variable {log : CallLog}

theorem single_ok {entries : List Entry} {found : Option Entry} (h : single entries = .ok found) :
    entries = found.toList := by
  match entries with
  | [] =>
    cases h
    rfl
  | [e] =>
    cases h
    rfl
  | e :: f :: rest => cases h

theorem leads_ofWords {words : List String} {entry : Entry}
    (h : Leads (ofWords words).run log (.done (.ok entry))) :
    ∃ bundle command, log = [⟨.findCommandEntry bundle command, .ok [entry]⟩] := by
  unfold ofWords at h
  split at h
  · cases ((Script.leads_pure ..).1 h).2
  · split at h
    · cases ((Script.leads_pure ..).1 h).2
    · rename_i bundle command _
      obtain ⟨first, entries, rest, rfl, hc, hm⟩ := Script.leads_except_bind_ok.1 h
      obtain rfl := Call.leads_adapt_ok.1 hc
      split at hm
      · cases ((Script.leads_pure ..).1 hm).2
      · cases ((Script.leads_pure ..).1 hm).2
      · rename_i e hs
        obtain ⟨rfl, he⟩ := (Script.leads_pure ..).1 hm
        cases he
        rw [single_ok hs]
        exact ⟨bundle, command, rfl⟩

theorem leads_ofCommand {text : String} {r : Resolution}
    (h : Leads (ofCommand text).run log (.done (.ok r))) :
    ∃ bundle command, log = [⟨.findCommandEntry bundle command, .ok [r.entry]⟩] := by
  obtain ⟨first, entry, rest, rfl, hw, h⟩ := Script.leads_except_bind_ok.1 h
  obtain ⟨rfl, hr⟩ := (Script.leads_pure ..).1 h
  cases hr
  rw [List.append_nil]
  exact leads_ofWords hw

theorem single_ok_iff {entries : List Entry} {found : Option Entry} :
    single entries = .ok found ↔ entries = found.toList := by
  refine ⟨single_ok, ?_⟩
  rintro rfl
  cases found <;> rfl

theorem leads_ofTrigger {text : String} {r : Except ResolutionError (Option Entry)}
    (h : Leads (ofTrigger text).run log (.done r)) :
    ∃ a : (Call.findCommandEntryByTrigger text).Answer, log = [⟨.findCommandEntryByTrigger text, a⟩] ∧
      ∀ found, r = .ok found ↔ a = .ok found.toList := by
  rcases Script.leads_except_bind.1 h with ⟨e, rfl, hc⟩ | ⟨first, entries, rest, rfl, hc, hm⟩
  · obtain ⟨a, rfl, ha⟩ := Call.leads_adapt.1 hc
    refine ⟨a, rfl, fun found => ?_⟩
    cases a with
    | ok r => cases ha
    | error e => exact ⟨nofun, nofun⟩
  · obtain rfl := Call.leads_adapt_ok.1 hc
    have hr : rest = [] ∧ single entries = r := by
      split at hm
      · rename_i e hs
        obtain ⟨rfl, rfl⟩ := (Script.leads_pure ..).1 hm
        exact ⟨rfl, hs⟩
      · rename_i e hs
        obtain ⟨rfl, rfl⟩ := (Script.leads_pure ..).1 hm
        exact ⟨rfl, hs⟩
    obtain ⟨rfl, rfl⟩ := hr
    refine ⟨.ok entries, rfl, fun found => ?_⟩
    rw [single_ok_iff, Except.ok.injEq]

theorem leads_ofSpoken {text : String} {r : Except ResolutionError (Option Resolution)}
    (h : Leads (ofSpoken text).run log (.done r)) :
    ∃ a : (Call.findCommandEntryByTrigger text).Answer, log = [⟨.findCommandEntryByTrigger text, a⟩] ∧
      (r = .ok none ↔ a = .ok []) ∧ ∀ found, r = .ok (some found) → a = .ok [found.entry] := by
  rcases Script.leads_except_bind.1 h with ⟨e, rfl, ht⟩ | ⟨first, entry, rest, rfl, ht, hm⟩
  · obtain ⟨a, rfl, ha⟩ := leads_ofTrigger ht
    exact ⟨a, rfl, ⟨nofun, fun h => nomatch (ha none).2 h⟩, nofun⟩
  · obtain ⟨a, rfl, ha⟩ := leads_ofTrigger ht
    obtain ⟨rfl, hr⟩ := (Script.leads_pure ..).1 hm
    have ha := (ha entry).1 rfl
    subst ha hr
    refine ⟨_, rfl, ?_, fun found hf => ?_⟩
    · cases entry <;> simp
    · cases entry with
      | none => cases hf
      | some e =>
        cases hf
        rfl

theorem asks_ofCommand (text : String) :
    Asks (fun c => c.part? = none) (ofCommand text).run := by
  refine Asks.except_bind ?_ fun _ => Script.asks_pure _
  unfold ofWords
  split
  · exact Script.asks_pure _
  · split
    · exact Script.asks_pure _
    · refine Asks.except_bind (Call.asks_adapt rfl) fun entries => ?_
      split <;> exact Script.asks_pure _

theorem asks_ofSpoken (text : String) :
    Asks (fun c => c.part? = none) (ofSpoken text).run := by
  refine Asks.except_bind ?_ fun _ => Script.asks_pure _
  refine Asks.except_bind (Call.asks_adapt rfl) fun entries => ?_
  split <;> exact Script.asks_pure _

end Resolution

theorem Store.findEntries_congr {s t : Store} (h : t.bundles = s.bundles) (bundle command : String) :
    t.findEntries bundle command = s.findEntries bundle command := by
  unfold findEntries currentOf
  rw [h]

theorem Store.findEntries_subset (s : Store) (bundle command : String) :
    ∀ e ∈ s.findEntries bundle command, e ∈ s.findEntries "" "" := by
  intro e he
  obtain ⟨i, hi, he⟩ := List.mem_flatMap.1 he
  obtain ⟨x, hx, hc⟩ := List.mem_filterMap.1 hi
  refine List.mem_flatMap.2 ⟨i, List.mem_filterMap.2 ⟨x, ?_, hc⟩, ?_⟩
  · exact List.mem_filter.2 ⟨(List.mem_filter.1 hx).1, rfl⟩
  · obtain ⟨c, hc, rfl⟩ := List.mem_map.1 he
    exact List.mem_map.2 ⟨c, List.mem_filter.2 ⟨(List.mem_filter.1 hc).1, rfl⟩, rfl⟩

end ChatRouter
