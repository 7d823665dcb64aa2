import ChatRouter.Configuration.Check
import ChatRouter.Dispatch.Settings
import ChatRouter.Proofs.Naming
import ChatRouter.Proofs.Text.Words
import ChatRouter.Regex.Parser

set_option autoImplicit false

namespace ChatRouter

open Resolution
open Store (after successes perform)

namespace Configuration

variable {cfg : Configuration} {isDirectory : String → Bool}

theorem trigger_of_check (h : Diagnostic.hasErrors (cfg.check isDirectory) = false) :
    ∃ trigger, cfg.global.triggerChar? = some trigger ∧ Text.isBlank trigger = false := by
  have hnone : ∀ d ∈ checkTrigger cfg.global, d.severity ≠ .error := fun d hd he => by
    have hfound : Diagnostic.hasErrors (cfg.check isDirectory) = true :=
      List.any_eq_true.2 ⟨d, by simp [check, hd], by simp [he]⟩
    rw [h] at hfound
    cases hfound
  unfold checkTrigger at hnone
  split at hnone
  · exact absurd rfl (hnone _ (List.mem_singleton_self _))
  · rename_i trigger htrigger
    refine ⟨trigger, htrigger, ?_⟩
    split at hnone
    · exact absurd rfl (hnone _ (List.mem_singleton_self _))
    · rename_i hblank
      exact Bool.eq_false_iff.2 hblank

end Configuration

namespace Dispatch.Settings

variable {settings : Settings} {trigger : Char}

theorem classify_explicit (htrigger : settings.trigger? = some trigger) (hblank : Text.isBlank trigger = false)
    {rest : List Char} (hrest : Text.allBlank rest = false) :
    settings.classify (String.ofList (trigger :: rest)) = some (.explicit (String.ofList rest)) := by
  have hafter : settings.afterTrigger? (String.ofList (trigger :: rest)) = some rest := by
    rw [afterTrigger?, htrigger, String.toList_ofList, Text.trimLeft_eq_self (by simpa using hblank)]
    exact if_pos rfl
  rw [classify, hafter]
  exact if_neg (by simp [hrest])

end Dispatch.Settings

namespace Entry

variable {e : Entry}

/-- The names can stand in a command line as they are. -/
def isPlain (e : Entry) : Bool := e.bundle.name.toList.all Text.isPlain && e.command.name.toList.all Text.isPlain

/-- The qualified name and the arguments, each between double quotes. -/
def commandLine (e : Entry) (arguments : List String) : List Char :=
  Text.commandLine e.qualifiedName.toList (arguments.map String.toList)

def invocation (e : Entry) (trigger : Char) (arguments : List String) : String :=
  String.ofList (trigger :: e.commandLine arguments)

theorem qualifiedName_isPlain (h : e.isPlain = true) : ∀ c ∈ e.qualifiedName.toList, Text.isPlain c = true := by
  intro c hc
  rw [isPlain, Bool.and_eq_true, List.all_eq_true, List.all_eq_true] at h
  rw [e.qualifiedName_toList, List.mem_append, List.mem_cons] at hc
  obtain hc | rfl | hc := hc
  · exact h.1 c hc
  · decide
  · exact h.2 c hc

theorem qualifiedName_toList_ne_nil (e : Entry) : e.qualifiedName.toList ≠ [] := by
  simp [e.qualifiedName_toList]

theorem commandLine_not_blank (h : e.isPlain = true) (arguments : List String) :
    Text.allBlank (e.commandLine arguments) = false := by
  obtain ⟨c, name, hname⟩ := List.exists_cons_of_ne_nil e.qualifiedName_toList_ne_nil
  have hc : Text.isBlank c = false :=
    Text.not_blank_of_isPlain (qualifiedName_isPlain h c (by simp [hname]))
  simp [commandLine, Text.commandLine, Text.allBlank, hname, hc]

theorem words_commandLine (h : e.isPlain = true) {arguments : List String} (ha : ∀ a ∈ arguments, a ≠ "") :
    Text.words (String.ofList (e.commandLine arguments)) = e.qualifiedName :: arguments := by
  have hne : ∀ a ∈ arguments.map String.toList, a ≠ [] := by simpa using ha
  rw [Text.words, String.toList_ofList, commandLine, Text.splitWords_commandLine (qualifiedName_isPlain h)
    e.qualifiedName_toList_ne_nil hne]
  simp

end Entry

/-- Every enabled command whose names are plain can be invoked with any arguments, whatever characters they
hold: the trigger of a configuration without errors and the command line make a message that is explicit, and
what follows the trigger resolves to the command and those arguments. -/
theorem every_command_can_be_invoked (engine : Regex.Engine) (cfg : Configuration) (isDirectory : String → Bool)
    (hcheck : Diagnostic.hasErrors (cfg.check isDirectory) = false)
    (hexplicit : cfg.global.enableExplicitCommands = true)
    (calls : List Call) (hcreated : ∀ b, .bundleCreate b ∈ successes calls (.new engine) → b.KeyedByName) :
    let s := after calls (.new engine)
    ∃ trigger, cfg.global.triggerChar? = some trigger ∧
      ∀ e ∈ s.findEntries "" "", e.isPlain = true → ∀ arguments : List String, (∀ a ∈ arguments, a ≠ "") →
        ∃ text, (Dispatch.Settings.ofConfiguration cfg).classify (e.invocation trigger arguments) =
            some (.explicit text) ∧
          (ofCommand text).on s = (.ok ⟨e, arguments⟩, s) := by
  intro s
  have hr : s.Reachable := ⟨engine, calls, rfl⟩
  obtain ⟨trigger, htrigger, hblank⟩ := Configuration.trigger_of_check hcheck
  have hsettings : (Dispatch.Settings.ofConfiguration cfg).trigger? = some trigger := by
    simp only [Dispatch.Settings.trigger?, Dispatch.Settings.ofConfiguration, hexplicit, if_true, htrigger]
  refine ⟨trigger, htrigger, fun e he hplain arguments ha => ⟨String.ofList (e.commandLine arguments),
    Dispatch.Settings.classify_explicit hsettings hblank (Entry.commandLine_not_blank hplain arguments), ?_⟩⟩
  refine on_ofCommand (Entry.words_commandLine hplain ha) ?_
  rw [on_ofWords_qualified hr he, resolved_of_keyedByName hr (Store.keyedByName_of_created hcreated) he]

def deployCommand : Command := { Command.empty with name := "deploy" }

def siteEntry : Entry :=
  ⟨{ Bundle.named "site" "1" with enabled := true, commands := .ofList [("deploy", deployCommand)] }, deployCommand⟩

/-- Arguments with blanks at their ends, quotes of every kind and a backslash. -/
def oddArguments : List String := [" two  words ", "\"straight\"", "“curved”", "it's", "C:\\", "\t"]

theorem deploy_can_be_invoked :
    Diagnostic.hasErrors (({} : Configuration).check fun _ => true) = false ∧
      siteEntry ∈ (after [.bundleCreate siteEntry.bundle] (.new .standard)).findEntries "" "" ∧
      ∃ text, (Dispatch.Settings.ofConfiguration {}).classify
          "!site:deploy \" two  words \" \"\\\"straight\\\"\" \"\\“curved\\”\" \"it's\" \"C:\\\\\" \"\t\"" =
            some (.explicit text) ∧
        (ofCommand text).on (after [.bundleCreate siteEntry.bundle] (.new .standard)) =
          (.ok ⟨siteEntry, oddArguments⟩, after [.bundleCreate siteEntry.bundle] (.new .standard)) := by
  have hcheck : Diagnostic.hasErrors (({} : Configuration).check fun _ => true) = false := by decide
  have hlog : successes [.bundleCreate siteEntry.bundle] (.new .standard) = [.bundleCreate siteEntry.bundle] := by
    decide +kernel
  have hkeyed : siteEntry.bundle.KeyedByName := by
    intro k c hc
    obtain ⟨rfl, rfl⟩ := Prod.mk.inj (List.mem_singleton.1 hc)
    rfl
  obtain ⟨trigger, htrigger, h⟩ := every_command_can_be_invoked .standard {} (fun _ => true) hcheck rfl
    [.bundleCreate siteEntry.bundle] fun b hb => by
      rw [hlog, List.mem_singleton] at hb
      cases hb
      exact hkeyed
  have htrigger' : trigger = '!' := (Option.some.inj htrigger).symm
  subst htrigger'
  have hlisted : siteEntry ∈ (after [.bundleCreate siteEntry.bundle] (.new .standard)).findEntries "" "" := by
    decide +kernel
  exact ⟨hcheck, hlisted, h siteEntry hlisted (by decide) oddArguments (by decide)⟩

end ChatRouter
