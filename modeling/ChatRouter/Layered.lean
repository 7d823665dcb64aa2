import ChatRouter.DataError
import ChatRouter.Text.Blank
import Std.Data.TreeMap.Basic

set_option autoImplicit false

namespace ChatRouter

inductive Layer where
  | bundle
  | room
  | group
  | user
deriving DecidableEq

namespace Layer

def all : List Layer := [bundle, room, group, user]

def text : Layer → String
  | bundle => "bundle"
  | room => "room"
  | group => "group"
  | user => "user"

def rank : Layer → Nat
  | bundle => 0
  | room => 1
  | group => 2
  | user => 3

def parse (text : String) : Except DataError Layer :=
  match all.find? fun l => Text.sameLetters l.text (Text.trimmed text) with
  | some l => .ok l
  | none => .error (.invalidLayer text)

end Layer

structure Slot where
  layer : Layer
  bundle : String
  owner : String
  key : String
deriving DecidableEq

namespace Slot

def order : Slot → Slot → Ordering :=
  compareLex (compareOn fun s => s.layer.rank) <| compareLex (compareOn bundle) <|
    compareLex (compareOn owner) (compareOn key)

instance : Ord Slot := ⟨order⟩

instance : Std.TransOrd Slot := inferInstanceAs (Std.TransCmp (compareLex _ _))

instance : Std.LawfulEqOrd Slot where
  eq_of_compare {a b} h := by
    obtain ⟨a₁, a₂, a₃, a₄⟩ := a
    obtain ⟨b₁, b₂, b₃, b₄⟩ := b
    change order _ _ = .eq at h
    simp only [order, compareLex, compareOn, Ordering.then_eq_eq] at h
    obtain ⟨h₁, h₂, h₃, h₄⟩ := h
    have e₁ : a₁.rank = b₁.rank := Nat.compare_eq_eq.1 h₁
    have e₂ : a₂ = b₂ := Std.LawfulEqOrd.compare_eq_iff_eq.1 h₂
    have e₃ : a₃ = b₃ := Std.LawfulEqOrd.compare_eq_iff_eq.1 h₃
    have e₄ : a₄ = b₄ := Std.LawfulEqOrd.compare_eq_iff_eq.1 h₄
    have e₁ : a₁ = b₁ := by cases a₁ <;> cases b₁ <;> simp_all [Layer.rank]
    rw [e₁, e₂, e₃, e₄]

def path (s : Slot) : String := s!"{s.layer.text}/{s.bundle}/{s.owner}/{s.key}"

/-- The required fields are filled; only the bundle layer needs no owner. -/
def check (s : Slot) : Except DataError Unit :=
  if s.bundle.isEmpty then .error (.missingField "bundle")
  else if s.layer ≠ .bundle && s.owner.isEmpty then .error (.missingField "owner")
  else if s.key.isEmpty then .error (.missingField "key")
  else .ok ()

def parse (layer bundle owner key : String) : Except DataError Slot := do
  let layer ← Layer.parse layer
  let slot : Slot := ⟨layer, bundle, owner, key⟩
  slot.check
  return slot

/-- An empty filter and a star match anything. -/
def matchesFilter (filter value : String) : Bool := filter == "" || filter == "*" || filter == value

end Slot

structure LayeredValue where
  slot : Slot
  value : String
  secret : Bool
deriving DecidableEq

def LayeredValue.redacted (v : LayeredValue) : LayeredValue :=
  if v.secret then { v with value := "[REDACTED]" } else v

end ChatRouter
