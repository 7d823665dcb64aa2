import ChatRouter.Chat.Error
import ChatRouter.SortedMap
import ChatRouter.Text.Quoted

set_option autoImplicit false

namespace ChatRouter

structure Registry (Adapter : Type) where
  adapters : SortedMap String Adapter
  /-- The names in the order in which one goes through the adapters, which may be any. -/
  order : List String
  order_perm : order.Perm adapters.keys

namespace Registry

variable {Adapter : Type}

def ofMap (adapters : SortedMap String Adapter) : Registry Adapter := ⟨adapters, adapters.keys, .refl _⟩

def addAll (r : Registry Adapter) : List (String × Adapter) → Except ChatError (Registry Adapter)
  | [] => .ok r
  | (name, adapter) :: rest =>
    if r.adapters.contains name then .error (.duplicateAdapter name)
    else addAll (.ofMap (r.adapters.insert name adapter)) rest

def ofList (adapters : List (String × Adapter)) : Except ChatError (Registry Adapter) :=
  addAll (.ofMap ∅) adapters

def get? (r : Registry Adapter) (name : String) : Option Adapter := r.adapters.get? name

def require (r : Registry Adapter) (name : String) : Except ChatError Adapter :=
  match r.get? name with
  | some adapter => .ok adapter
  | none => .error (.unknownAdapter name)

def modify (r : Registry Adapter) (name : String) (f : Adapter → Adapter) : Registry Adapter where
  adapters := r.adapters.modify name f
  order := r.order
  order_perm := by
    rw [SortedMap.keys_modify]
    exact r.order_perm

def names (r : Registry Adapter) : List String := r.adapters.keys

def size (r : Registry Adapter) : Nat := r.names.length

def isEmpty (r : Registry Adapter) : Bool := r.names.isEmpty

def summary (r : Registry Adapter) : String :=
  "AdapterRegistry \x7b adapters: [" ++ ", ".intercalate (r.names.map Text.quoted) ++ "] \x7d"

end Registry

end ChatRouter
