import ChatRouter.Store.Basic

set_option autoImplicit false

namespace ChatRouter.Store

def beginRequest (r : Request) : Edit Request := do
  let id ← Edit.ask fun s => .ok (s.lastRequest + 1)
  let numbered ← Edit.check (r.assign id)
  Edit.change fun s => { s with lastRequest := id }
  Edit.change fun s => { s with requests := s.requests.insert id ⟨numbered, none, none, false⟩ }
  return numbered

def request (s : Store) (id : Int) : Except DataError Record :=
  match s.requests.get? id with
  | some r => .ok r
  | none => .error (.noSuchRequest id)

def closeRequest (id status : Int) (error : Option String) : Edit Unit := do
  let record ← Edit.ask fun s => s.request id
  Edit.change fun s => { s with
    requests := s.requests.insert id { record with status := some status, error, closed := true } }

def createLayered (v : LayeredValue) : Edit Unit := do
  Edit.check v.slot.check
  Edit.ask fun s =>
    if s.layered.contains v.slot then .error (.configurationExists v.slot.path) else .ok ()
  Edit.change fun s => { s with layered := s.layered.insert v.slot v }

def layeredAt (s : Store) (layer bundle owner key : String) : Except DataError LayeredValue := do
  let slot ← Slot.parse layer bundle owner key
  match s.layered.get? slot with
  | some v => .ok v
  | none => .error (.noSuchConfiguration slot.path)

def deleteLayered (layer bundle owner key : String) : Edit Unit := do
  let slot ← Edit.check (Slot.parse layer bundle owner key)
  Edit.ask fun s =>
    if s.layered.contains slot then .ok () else .error (.noSuchConfiguration slot.path)
  Edit.change fun s => { s with layered := s.layered.erase slot }

def layeredExists (s : Store) (layer bundle owner key : String) : Except DataError Bool := do
  let slot ← Slot.parse layer bundle owner key
  return s.layered.contains slot

def layeredList (s : Store) (layer bundle owner key : String) :
    Except DataError (List LayeredValue) := do
  let layer ← Layer.parse layer
  let passes (v : LayeredValue) : Bool :=
    v.slot.layer == layer && Slot.matchesFilter bundle v.slot.bundle &&
      Slot.matchesFilter owner v.slot.owner && Slot.matchesFilter key v.slot.key
  return (s.layered.values.filter passes).map LayeredValue.redacted

end ChatRouter.Store
