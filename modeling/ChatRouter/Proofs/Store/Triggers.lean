import ChatRouter.Proofs.Store.Origins
import ChatRouter.Regex.Parser
import Mathlib.Data.List.Basic

set_option autoImplicit false

namespace ChatRouter

/-- Some trigger of the command finds the text. -/
def Command.isTriggered (c : Command) (engine : Regex.Engine) (text : String) : Bool :=
  c.triggers.any (engine.isMatch · text)

theorem eq_map_of_mapM {ε α β : Type} {f : α → Except ε β} {g : α → β} (hf : ∀ x y, f x = .ok y → y = g x)
    {xs : List α} {ys : List β} (h : xs.mapM f = .ok ys) : ys = xs.map g := by
  induction xs generalizing ys with
  | nil =>
    cases h
    rfl
  | cons x xs ih =>
    rw [List.mapM_cons] at h
    cases hx : f x with
    | error e =>
      rw [hx] at h
      cases h
    | ok y =>
      rw [hx] at h
      cases hxs : xs.mapM f with
      | error e =>
        rw [hxs] at h
        cases h
      | ok zs =>
        rw [hxs] at h
        cases h
        rw [hf x y hx, ih hxs, List.map_cons]

namespace Installed

variable {engine : Regex.Engine} {b : Bundle} {i : Installed}

theorem patterns_ok {c : Command} {ps : List String} (h : patterns engine b c = .ok ps) : ps = c.triggers := by
  refine (eq_map_of_mapM (fun trigger p hp => ?_) h).trans (List.map_id c.triggers)
  split at hp
  · cases hp
    rfl
  · cases hp

theorem compile_triggers (h : compile engine b = .ok i) :
    i.triggers = (b.commands.values.filter fun c => !c.triggers.isEmpty).map fun c => (c.name, c.triggers) := by
  simp only [compile, bind, Except.bind] at h
  split at h
  · cases h
  · rename_i table htable
    cases h
    refine eq_map_of_mapM (fun c row hrow => ?_) htable
    split at hrow
    · cases hrow
    · rename_i ps hps
      cases hrow
      rw [patterns_ok hps]

theorem entriesTriggered_eq (h : compile engine b = .ok i) (reader : Regex.Engine) (text : String) :
    i.entriesTriggered reader text = (i.bundle.commands.values.filter (·.isTriggered reader text)).filterMap
      fun c => (i.bundle.commands.get? c.name).map i.entry := by
  rw [entriesTriggered, compile_triggers h, compile_ok h]
  dsimp only
  rw [List.filterMap_map, List.filterMap_filter, List.filterMap_filter]
  refine List.filterMap_congr fun c _ => ?_
  cases ht : c.triggers with
  | nil => simp [Command.isTriggered, ht]
  | cons trigger triggers => simp [Command.isTriggered, ht]

end Installed

namespace Store

variable {s : Store}

/-- The commands of the enabled bundles that the text triggers, with their keys. -/
def triggered (s : Store) (text : String) : List (Bundle × String × Command) :=
  s.listing.filter fun x => x.2.2.isTriggered s.engine text

/-- What the bundle keeps under the name of the command. -/
def fetch (x : Bundle × String × Command) : Option Entry := (x.1.commands.get? x.2.2.name).map fun c => ⟨x.1, c⟩

theorem findTriggered_eq (hr : s.Reachable) (text : String) :
    s.findTriggered text = (s.triggered text).filterMap fetch := by
  rw [findTriggered, triggered, listing, List.filter_flatMap, List.filterMap_flatMap]
  refine List.flatMap_congr fun i hi => ?_
  obtain ⟨n, v, -, hi⟩ := (mem_currentOf_iff s i).1 hi
  obtain ⟨b, hb⟩ := hr.installedAs hi
  rw [Installed.entriesTriggered_eq hb.compiled s.engine text, SortedMap.values, List.filter_map, List.filterMap_map,
    List.filter_map, List.filterMap_map]
  rfl

theorem mem_triggered_iff (hs : s.ShelvesSound) (text : String) (b : Bundle) (k : String) (c : Command) :
    (b, k, c) ∈ s.triggered text ↔ b.enabled = true ∧ (k, c) ∈ b.commands.entries ∧ c.isTriggered s.engine text = true ∧
      s.bundle b.name b.version = .ok b := by
  rw [triggered, List.mem_filter, mem_listing_iff hs]
  exact ⟨fun ⟨⟨hb, hk, hs⟩, ht⟩ => ⟨hb, hk, ht, hs⟩, fun ⟨hb, hk, ht, hs⟩ => ⟨⟨hb, hk, hs⟩, ht⟩⟩

theorem fetch_of_keyedByName {x : Bundle × String × Command} (hx : x.1.KeyedByName)
    (hkey : (x.2.1, x.2.2) ∈ x.1.commands.entries) : fetch x = some ⟨x.1, x.2.2⟩ := by
  rw [fetch, hx _ _ hkey, (SortedMap.mem_entries_iff _ _ _).1 hkey]
  rfl

/-- A look-up by trigger answers, for each command that the text triggers, what its bundle keeps under its
name. It answers the triggered commands themselves exactly when each is kept under its own name, as in bundles
that are keyed by name. -/
theorem trigger_lookup_goes_by_name (engine : Regex.Engine) (calls : List Call) (text : String) :
    let s := after calls (new engine)
    ∃ (triggered : List (Bundle × String × Command)) (found : List Entry),
      triggered.Pairwise ListedBefore ∧
      (∀ b k c, (b, k, c) ∈ triggered ↔ b.enabled = true ∧ (k, c) ∈ b.commands.entries ∧
        c.isTriggered engine text = true ∧ (perform (.bundleGet b.name b.version) s).1 = .ok b) ∧
      (perform (.findCommandEntryByTrigger text) s).1 = .ok found ∧
      (found = triggered.filterMap fun x => (x.1.commands.get? x.2.2.name).map fun c => ⟨x.1, c⟩) ∧
      ((found = triggered.map fun x => ⟨x.1, x.2.2⟩) ↔
        ∀ x ∈ triggered, x.1.commands.get? x.2.2.name = some x.2.2) ∧
      ((∀ b, .bundleCreate b ∈ successes calls (new engine) → b.KeyedByName) →
        found = triggered.map fun x => ⟨x.1, x.2.2⟩) := by
  intro s
  have hr : Reachable s := ⟨_, calls, rfl⟩
  have hs := hr.shelvesSound
  have hfound := findTriggered_eq hr text
  have hengine : s.engine = engine := after_engine calls (new engine)
  refine ⟨s.triggered text, s.findTriggered text, (listing_sorted hs).filter _,
    fun b k c => hengine ▸ mem_triggered_iff hs text b k c, rfl, hfound, ?_, fun hcreated => ?_⟩
  · rw [hfound, List.filterMap_eq_map_iff_forall_eq_some]
    refine forall₂_congr fun x _ => ?_
    rw [fetch, Option.map_eq_some_iff]
    constructor
    · rintro ⟨c, hc, he⟩
      cases he
      exact hc
    · exact fun hc => ⟨_, hc, rfl⟩
  · -- The bundles in the store are those that were created, so their keys are still names.
    rw [hfound, List.filterMap_eq_map_iff_forall_eq_some]
    intro x hx
    obtain ⟨v, i, hl⟩ := lists_of_mem_listing hs (List.mem_filter.1 hx).1
    exact fetch_of_keyedByName (hl.keyedByName (keyedByName_of_created hcreated)) hl.key

/-- A greeting whose name is the key of another command. -/
def crossedBundle : Bundle :=
  { Bundle.named "ops" "1" with
    enabled := true
    commands := .ofList
      [("greet", { Command.empty with name := "stop", triggers := ["^hi$"], rules := ["allow"] }),
        ("stop", { Command.empty with name := "halt", rules := ["must have ops:stop"] })] }

theorem greeting_finds_another : (perform (.bundleCreate crossedBundle) (new .standard)).1 = .ok () ∧
    ¬ ∀ calls text, ∀ e ∈ (after calls (new .standard)).findEntries "" "",
      e ∈ (after calls (new .standard)).findTriggered text ↔ e.command.isTriggered .standard text = true := by
  refine ⟨by decide +kernel, fun h => ?_⟩
  have hgreeted := h [.bundleCreate crossedBundle] "hi"
  revert hgreeted
  decide +kernel

end Store

end ChatRouter
