import ChatRouter.Store.Basic

set_option autoImplicit false

namespace ChatRouter

namespace Installed

/-- The patterns of a command; one malformed pattern refuses the bundle. -/
def patterns (engine : Regex.Engine) (b : Bundle) (c : Command) : Except DataError (List String) :=
  c.triggers.mapM fun pattern =>
    if engine.compiles pattern then .ok pattern else .error (.invalidTrigger b.name c.name)

def compile (engine : Regex.Engine) (b : Bundle) : Except DataError Installed := do
  let triggers ← (b.commands.values.filter fun c => !c.triggers.isEmpty).mapM fun c => do
    let ps ← patterns engine b c
    return (c.name, ps)
  return ⟨{ b with enabled := false }, triggers⟩

def entry (i : Installed) (c : Command) : Entry := ⟨{ i.bundle with enabled := true }, c⟩

def entriesNamed (i : Installed) (name : String) : List Entry :=
  (i.bundle.commands.values.filter fun c => name.isEmpty || c.name == name).map i.entry

def entriesTriggered (i : Installed) (engine : Regex.Engine) (text : String) : List Entry :=
  i.triggers.filterMap fun (name, patterns) =>
    if patterns.any (engine.isMatch · text) then (i.bundle.commands.get? name).map i.entry else none

end Installed

namespace Shelf

def empty : Shelf := ⟨∅, none⟩

def current (s : Shelf) : Option Installed := s.enabled.bind s.versions.get?

def shown (s : Shelf) (version : Version) (i : Installed) : Bundle :=
  { i.bundle with enabled := s.enabled == some version }

def list (s : Shelf) : List Bundle := s.versions.entries.map fun e => s.shown e.1 e.2

/-- Without a version; a version that was enabled leaves none enabled. -/
def remove (s : Shelf) (version : Version) : Shelf :=
  { versions := s.versions.erase version,
    enabled := if s.enabled = some version then none else s.enabled }

end Shelf

namespace Store

def locate (s : Store) (name version : String) : Except DataError Version :=
  if name.isEmpty then .error .emptyBundleName
  else
    match Version.coerce version with
    | .error e => .error e
    | .ok v =>
      match s.bundles.get? name with
      | some shelf => if shelf.versions.contains v then .ok v else .error (.noSuchBundle name version)
      | none => .error (.noSuchBundle name version)

def changeShelf (s : Store) (name : String) (f : Shelf → Shelf) : Store :=
  { s with bundles := s.bundles.modify name f }

def hasVersion (s : Store) (name : String) (version : Version) : Bool :=
  (s.bundles.get? name).any (·.versions.contains version)

def createBundle (b : Bundle) : Edit Unit := do
  let version ← Edit.check b.validate
  let installed ← Edit.ask fun s => Installed.compile s.engine b
  Edit.change fun s => { s with bundles := s.bundles.insertNew b.name Shelf.empty }
  Edit.ask fun s =>
    if s.hasVersion b.name version then .error (.bundleExists b.name b.version) else .ok ()
  Edit.change fun s => s.changeShelf b.name fun shelf =>
    { shelf with versions := shelf.versions.insert version installed }
  if b.enabled then
    Edit.change fun s => s.changeShelf b.name fun shelf => { shelf with enabled := some version }

/-- A name without versions is forgotten. -/
def deleteBundle (name version : String) : Edit Unit := do
  let v ← Edit.ask fun s => s.locate name version
  Edit.change fun s => s.changeShelf name fun shelf => shelf.remove v
  Edit.change fun s =>
    if (s.bundles.get? name).any (·.versions.isEmpty) then
      { s with bundles := s.bundles.erase name }
    else s

def enableBundle (name version : String) : Edit Unit := do
  let v ← Edit.ask fun s => s.locate name version
  Edit.change fun s => s.changeShelf name fun shelf => { shelf with enabled := some v }

def disableBundle (name version : String) : Edit Unit := do
  let v ← Edit.ask fun s => s.locate name version
  Edit.change fun s => s.changeShelf name fun shelf =>
    if shelf.enabled = some v then { shelf with enabled := none } else shelf

def enabledVersion (s : Store) (name : String) : Except DataError (Option String) :=
  if name.isEmpty then .error .emptyBundleName
  else .ok (((s.bundles.get? name).bind (·.current)).map (·.bundle.version))

def bundleExists (s : Store) (name version : String) : Except DataError Bool :=
  match s.locate name version with
  | .ok _ => .ok true
  | .error (.noSuchBundle _ _) => .ok false
  | .error e => .error e

def bundle (s : Store) (name version : String) : Except DataError Bundle :=
  match s.locate name version with
  | .error e => .error e
  | .ok v =>
    match s.bundles.get? name with
    | none => .error (.noSuchBundle name "")
    | some shelf =>
      match shelf.versions.get? v with
      | some i => .ok (shelf.shown v i)
      | none => .error (.noSuchBundle name version)

def bundleList (s : Store) : List Bundle := s.bundles.values.flatMap Shelf.list

def versionList (s : Store) (name : String) : Except DataError (List Bundle) :=
  if name.isEmpty then .error .emptyBundleName
  else .ok (((s.bundles.get? name).map Shelf.list).getD [])

/-- The enabled versions of the bundles named `name`; the empty name matches any. -/
def currentOf (s : Store) (name : String) : List Installed :=
  (s.bundles.entries.filter fun e => name.isEmpty || e.1 == name).filterMap (·.2.current)

def findEntries (s : Store) (bundle command : String) : List Entry :=
  (s.currentOf bundle).flatMap (·.entriesNamed command)

def findTriggered (s : Store) (text : String) : List Entry :=
  (s.currentOf "").flatMap (·.entriesTriggered s.engine text)

end Store

end ChatRouter
