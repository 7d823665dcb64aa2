import ChatRouter.Access.Directory
import ChatRouter.Layered
import ChatRouter.Regex.Engine
import ChatRouter.Request

set_option autoImplicit false

/-!
# The store

All data of the router is one value. A read answers from it; an `Edit` may also change it, one map
operation at a time, and keeps what it changed before it failed. That a failing call changes nothing is
therefore a property of the calls and not of the representation.
-/

namespace ChatRouter

/-- An installed version. The bundle's own flag is off; the shelf knows which version is enabled. -/
structure Installed where
  bundle : Bundle
  /-- For each command with triggers its name and the patterns compiled for it. -/
  triggers : List (String × List String)
deriving DecidableEq

/-- The installed versions of one bundle name. -/
structure Shelf where
  versions : SortedMap Version Installed
  enabled : Option Version
deriving DecidableEq

structure Store where
  engine : Regex.Engine
  bundles : SortedMap String Shelf
  users : SortedMap String User
  groups : SortedMap String Membership
  roles : SortedMap String GrantSet
  requests : SortedMap Int Record
  lastRequest : Int
  layered : SortedMap Slot LayeredValue

def Store.new (engine : Regex.Engine) : Store := ⟨engine, ∅, ∅, ∅, ∅, ∅, 0, ∅⟩

/-- A computation that reads and changes the store and may fail at any point. -/
def Edit (α : Type) : Type := Store → Except DataError α × Store

namespace Edit

variable {α β : Type}

def run (e : Edit α) (s : Store) : Except DataError α × Store := e s

instance : Monad Edit where
  pure a := fun s => (.ok a, s)
  bind e f := fun s =>
    match e s with
    | (.ok a, s) => f a s
    | (.error e, s) => (.error e, s)

def ask (f : Store → Except DataError α) : Edit α := fun s => (f s, s)

def check (x : Except DataError α) : Edit α := fun s => (x, s)

def change (f : Store → Store) : Edit Unit := fun s => (.ok (), f s)

@[simp] theorem run_pure (a : α) (s : Store) : (pure a : Edit α).run s = (.ok a, s) := rfl

@[simp] theorem run_ask (f : Store → Except DataError α) (s : Store) : (ask f).run s = (f s, s) := rfl

@[simp] theorem run_check (x : Except DataError α) (s : Store) : (check x).run s = (x, s) := rfl

@[simp] theorem run_change (f : Store → Store) (s : Store) : (change f).run s = (.ok (), f s) := rfl

theorem run_bind (e : Edit α) (f : α → Edit β) (s : Store) :
    (e >>= f).run s = match e.run s with
      | (.ok a, t) => (f a).run t
      | (.error e, t) => (.error e, t) := rfl

end Edit

end ChatRouter
