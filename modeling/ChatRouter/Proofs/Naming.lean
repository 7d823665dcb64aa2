import ChatRouter.Proofs.Resolution
import ChatRouter.Proofs.Store.Origins
import ChatRouter.Regex.Parser

set_option autoImplicit false

namespace ChatRouter

open Store (after successes perform Lists)

theorem Entry.qualifiedName_toList (e : Entry) :
    e.qualifiedName.toList = e.bundle.name.toList ++ ':' :: e.command.name.toList := by
  simp [qualifiedName]

namespace Resolution

def Resolving.on {α : Type} (x : Resolving α) (s : Store) : Except ResolutionError α × Store :=
  x.run.run Store.perform s

def pick (name : String) (entries : List Entry) : Except ResolutionError Entry :=
  match single entries with
  | .error e => .error e
  | .ok none => .error (.noSuchCommand name)
  | .ok (some entry) => .ok entry

theorem on_ofWords {name bundle command : String} (h : nameParts? name = some (bundle, command))
    (rest : List String) (s : Store) :
    (ofWords (name :: rest)).on s = (pick name (s.findEntries bundle command), s) := by
  simp only [ofWords, h]
  rw [Resolving.on, Script.run_except_bind]
  have hcall : (call (.findCommandEntry bundle command)).run.run perform s =
      (.ok (s.findEntries bundle command), s) := rfl
  rw [hcall]
  dsimp only
  unfold pick
  cases single (s.findEntries bundle command) with
  | error e => rfl
  | ok found => cases found <;> rfl

theorem on_ofCommand {text name : String} {rest : List String} (hwords : Text.words text = name :: rest)
    {s : Store} {e : Entry} (h : (ofWords (name :: rest)).on s = (.ok e, s)) :
    (ofCommand text).on s = (.ok ⟨e, rest⟩, s) := by
  rw [ofCommand, hwords, Resolving.on, Script.run_except_bind, ← Resolving.on, h]
  rfl

theorem nameParts?_qualified {e : Entry} (hb : e.bundle.name ≠ "") (hcolon : ':' ∉ e.bundle.name.toList)
    (hc : e.command.name ≠ "") : nameParts? e.qualifiedName = some (e.bundle.name, e.command.name) := by
  rw [nameParts?, e.qualifiedName_toList, Text.splitFirst_append hcolon]
  have hb' : e.bundle.name.toList ≠ [] := by simpa using hb
  have hc' : e.command.name.toList ≠ [] := by simpa using hc
  obtain ⟨b, bs, hbs⟩ := List.exists_cons_of_ne_nil hb'
  obtain ⟨c, cs, hcs⟩ := List.exists_cons_of_ne_nil hc'
  rw [hbs, hcs]
  simp only
  rw [← hbs, ← hcs, String.ofList_toList, String.ofList_toList]

/-- The answer for the qualified name of a command, by how many commands of its bundle have its name. -/
def resolved (e : Entry) : Except ResolutionError Entry :=
  if (e.bundle.namesakes e.command.name).length = 1 then .ok e
  else .error (.ambiguousCommand e.qualifiedName e.qualifiedName)

theorem pick_namesakes {e : Entry} (h : e.command ∈ e.bundle.namesakes e.command.name) (name : String) :
    pick name ((e.bundle.namesakes e.command.name).map fun c => ⟨e.bundle, c⟩) = resolved e := by
  have hname : ∀ c ∈ e.bundle.namesakes e.command.name, c.name = e.command.name := fun c hc =>
    beq_iff_eq.1 (List.mem_filter.1 hc).2
  unfold resolved
  match hn : e.bundle.namesakes e.command.name with
  | [] =>
    rw [hn] at h
    cases h
  | [c] =>
    rw [hn] at h
    rw [← List.mem_singleton.1 h]
    rfl
  | c :: d :: rest =>
    rw [hn] at hname
    have hc : (⟨e.bundle, c⟩ : Entry).qualifiedName = e.qualifiedName := by
      simp [Entry.qualifiedName, hname c (by simp)]
    have hd : (⟨e.bundle, d⟩ : Entry).qualifiedName = e.qualifiedName := by
      simp [Entry.qualifiedName, hname d (by simp)]
    rw [if_neg (by simp)]
    change Except.error (ResolutionError.ambiguousCommand (Entry.qualifiedName ⟨e.bundle, c⟩)
      (Entry.qualifiedName ⟨e.bundle, d⟩)) = _
    rw [hc, hd]

end Resolution

open Resolution

variable {s : Store}

theorem on_ofWords_qualified (hr : s.Reachable) {e : Entry} (he : e ∈ s.findEntries "" "") (rest : List String) :
    (ofWords (e.qualifiedName :: rest)).on s = (resolved e, s) := by
  obtain ⟨k, hk⟩ := (Store.mem_findEntries_iff s e).1 he
  obtain ⟨v, i, hl⟩ := Store.lists_of_mem_listing hr.shelvesSound hk
  obtain ⟨hbundle, hcolon, hcommand⟩ := hl.names hr
  have hmem : e.command ∈ e.bundle.namesakes e.command.name := List.mem_filter.2
    ⟨List.mem_map_of_mem (f := Prod.snd) hl.key, beq_self_eq_true _⟩
  rw [on_ofWords (nameParts?_qualified hbundle hcolon hcommand), hl.findEntries_eq hr hcommand,
    pick_namesakes hmem]

theorem resolved_of_keyedByName (hr : s.Reachable) (hk : s.KeyedByName) {e : Entry}
    (he : e ∈ s.findEntries "" "") : resolved e = .ok e := by
  obtain ⟨k, hlisted⟩ := (Store.mem_findEntries_iff s e).1 he
  obtain ⟨v, i, hl⟩ := Store.lists_of_mem_listing hr.shelvesSound hlisted
  rw [resolved, Bundle.namesakes_of_keyedByName (hl.keyedByName hk) hl.key]
  rfl

/-- A qualified name leads back to its command exactly when no other command of the bundle has the name, and is
refused as ambiguous otherwise. Where every bundle was created keyed by name, it always leads back. -/
theorem qualified_name_leads_back (engine : Regex.Engine) (calls : List Call) :
    let s := after calls (.new engine)
    (∀ e ∈ s.findEntries "" "", (ofWords [e.qualifiedName]).on s =
      (if (e.bundle.namesakes e.command.name).length = 1 then .ok e
        else .error (.ambiguousCommand e.qualifiedName e.qualifiedName), s)) ∧
    ((∀ b, .bundleCreate b ∈ successes calls (.new engine) → b.KeyedByName) →
      ∀ e ∈ s.findEntries "" "", (ofWords [e.qualifiedName]).on s = (.ok e, s)) := by
  intro s
  have hr : s.Reachable := ⟨_, calls, rfl⟩
  refine ⟨fun e he => on_ofWords_qualified hr he [], fun hcreated e he => ?_⟩
  rw [on_ofWords_qualified hr he, resolved_of_keyedByName hr (Store.keyedByName_of_created hcreated) he]

def twinBundle : Bundle :=
  { Bundle.named "ops" "1" with
    enabled := true
    commands := .ofList [
      ("halt", { Command.empty with name := "stop" }),
      ("stop", { Command.empty with name := "stop" })] }

/-- Such a bundle is installed, and the name of its commands is then ambiguous. -/
theorem twins_are_ambiguous : (perform (.bundleCreate twinBundle) (.new .standard)).1 = .ok () ∧
    ¬ ∀ calls, ∀ e ∈ (after calls (.new .standard)).findEntries "" "",
      ((ofWords [e.qualifiedName]).on (after calls (.new .standard))).1 = .ok e := by
  refine ⟨by decide +kernel, fun h => ?_⟩
  have hok := h [.bundleCreate twinBundle]
  revert hok
  decide +kernel

end ChatRouter
