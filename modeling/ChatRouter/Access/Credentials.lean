import ChatRouter.Access.PasswordHash
import ChatRouter.Hash.Argon2id
import ChatRouter.Text.Base64
import ChatRouter.Text.Blank
import ChatRouter.Text.Number

set_option autoImplicit false

namespace ChatRouter.Credentials

open Hash (Argon2id.Parameters)

def cost : Argon2id.Parameters := ⟨19456, 2, 1⟩

def tagSize : Nat := 32

def costText (p : Argon2id.Parameters) : String := s!"$argon2id$v=19$m={p.memory},t={p.passes},p={p.lanes}$"

def tagText (p : Argon2id.Parameters) (size : Nat) (password : String) (salt : List UInt8) : String :=
  String.ofList (Text.Base64.encode Text.Base64.standard
    (Hash.Argon2id.tag p size password.toUTF8.toList salt [] []))

/-- A new hash of a password; its tag is not computed until it is needed. -/
def hash (password : String) (salt : List UInt8) : PasswordHash where
  lead := costText cost ++ String.ofList (Text.Base64.encode Text.Base64.standard salt) ++ "$"
  tag := Thunk.mk fun _ => tagText cost tagSize password salt

def setting? (key : Char) (s : List Char) : Option Nat :=
  match s with
  | k :: '=' :: digits => if k = key then Text.number? digits else none
  | _ => none

def read? (text : String) : Option (Argon2id.Parameters × List UInt8 × List UInt8) :=
  match Text.pieces '$' text.toList with
  | [[], algorithm, version, settings, salt, tag] => do
    guard (algorithm = "argon2id".toList ∧ version = "v=19".toList)
    match Text.pieces ',' settings with
    | [m, t, p] => do
      let memory ← setting? 'm' m
      let passes ← setting? 't' t
      let lanes ← setting? 'p' p
      let salt ← Text.Base64.decode? Text.Base64.standard salt
      let tag ← Text.Base64.decode? Text.Base64.standard tag
      guard (1 ≤ passes ∧ 1 ≤ lanes ∧ 8 * lanes ≤ memory ∧ 8 ≤ salt.length)
      guard (10 ≤ tag.length ∧ tag.length ≤ 64)
      return (⟨memory, passes, lanes⟩, salt, tag)
    | _ => none
  | _ => none

/-- Whether a password has this hash. A text that is no hash fits none. -/
def verify (password hash : String) : Bool :=
  match read? hash with
  | some (params, salt, tag) =>
    Hash.Argon2id.tag params tag.length password.toUTF8.toList salt [] [] == tag
  | none => false

def entropy (seed : ByteArray) (n : Nat) : List UInt8 :=
  (Hash.Blake2b.hash 64 (seed ++ ⟨((List.range 8).map fun i => (n / Nat.pow 256 i).toUInt8).toArray⟩)).toList

def password (seed : ByteArray) (n : Nat) : String :=
  String.ofList (Text.Base64.encode Text.Base64.urlSafe ((entropy seed n).take 32))

def salt (seed : ByteArray) (n : Nat) : List UInt8 := ((entropy seed n).drop 32).take 16

def freshHash (seed : ByteArray) (n : Nat) : PasswordHash := hash (password seed n) (salt seed n)

end ChatRouter.Credentials
