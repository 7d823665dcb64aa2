import ChatRouter.Catalog.Bundle
import ChatRouter.Format.Yaml.Node

set_option autoImplicit false

namespace ChatRouter

open Format Document

def Command.ofDocument? (d : Document) : Option Command := do
  match ← d.fields? .named ["name", "description", "triggers", "rules", "executable"] with
  | [name, description, triggers, rules, executable] =>
    return {
      name := ← fieldOr "" readText name
      description := ← fieldOr "" readText description
      triggers := ← fieldOr [] (readList readText) triggers
      rules := ← fieldOr [] (readList readText) rules
      executable := ← fieldOr [] (readList readText) executable }
  | _ => none

namespace Bundle

def ofDocument? (d : Document) : Option Bundle := do
  match ← d.fields? .named
    ["name", "version", "enabled", "description", "author", "permissions", "commands"] with
  | [name, version, enabled, description, author, permissions, commands] =>
    return {
      name := ← name.bind readText
      version := ← version.bind readText
      enabled := ← fieldOr false readFlag enabled
      description := ← fieldOr "" readText description
      author := ← fieldOr none (readOptional readText) author
      permissions := ← fieldOr [] (readList readText) permissions
      commands := ← fieldOr ∅ (readMap Command.ofDocument?) commands }
  | _ => none

def ofManifest (text : String) : Except DataError Bundle := do
  match (Yaml.parse text).bind ofDocument? with
  | some b =>
    let _ ← b.nameCommands.validate
    return b.nameCommands
  | none => throw .malformedManifest

/-- The bundle of the manifest at `path`, given what reading the file gave. A refusal names the
file. -/
def ofManifestFile (path : String) : Except String String → Except DataError Bundle
  | .error cause => .error (.other s!"read bundle manifest {path}: {cause}")
  | .ok content =>
    match ofManifest content with
    | .ok b => .ok b
    | .error .malformedManifest => .error (.other s!"parse bundle manifest {path}")
    | .error cause => .error (.other s!"parse bundle manifest {path}: {cause.message}")

theorem names_of_ofManifest {text : String} {b : Bundle} (h : ofManifest text = .ok b) {key : String}
    {c : Command} (hc : (key, c) ∈ b.commands.entries) : c.name = key := by
  unfold ofManifest at h
  split at h
  · rename_i d _
    cases hv : d.nameCommands.validate with
    | error e => simp [hv, bind, Except.bind] at h
    | ok v =>
      simp only [hv, bind, Except.bind, pure, Except.pure, Except.ok.injEq] at h
      rw [← h] at hc
      simp only [nameCommands, SortedMap.mapValues, List.mem_map] at hc
      obtain ⟨e, _, he⟩ := hc
      cases he
      rfl
  · cases h

end Bundle

end ChatRouter
