import ChatRouter.Script
import ChatRouter.Store.Call

set_option autoImplicit false

namespace ChatRouter

abbrev StoreScript (α : Type) : Type := Script Call Call.Answer α

def Call.ask (c : Call) : StoreScript c.Answer := Script.question c

def Call.require (c : Call) : ExceptT DataError (Script Call Call.Answer) c.Reply := ExceptT.mk c.ask

/-- For each kind of call the outcomes of the next ones: to let through or to fail. -/
abbrev Faults := SortedMap String (List (Option DataError))

/-- A store that fails as scheduled. -/
structure Faulty where
  store : Store
  faults : Faults

namespace Faulty

def ofStore (s : Store) : Faulty := ⟨s, ∅⟩

def schedule (f : Faulty) (kind : String) (outcomes : List (Option DataError)) : Faulty :=
  { f with faults := f.faults.insert kind ((f.faults.get? kind).getD [] ++ outcomes) }

/-- A call that is scheduled to fail does nothing else. -/
def perform (c : Call) (f : Faulty) : c.Answer × Faulty :=
  match f.faults.get? c.name with
  | some (some e :: rest) => (.error e, { f with faults := f.faults.insert c.name rest })
  | some (none :: rest) =>
    let (answer, store) := Store.perform c f.store
    (answer, ⟨store, f.faults.insert c.name rest⟩)
  | _ =>
    let (answer, store) := Store.perform c f.store
    (answer, { f with store })

def run {α : Type} (p : StoreScript α) (f : Faulty) : α × Faulty := Script.run perform p f

end Faulty

end ChatRouter
