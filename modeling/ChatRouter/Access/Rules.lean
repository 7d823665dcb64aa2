import ChatRouter.Access.Directory
import ChatRouter.Text.Quoted

set_option autoImplicit false

/-!
# Command rules

A rule is free text. `allow` and `true` always pass; any other rule passes when every permission that it
names, after `must have` where that occurs, is granted. A rule that names none is refused.
-/

namespace ChatRouter.Rules

inductive Decision where
  | allow
  | deny (reason : String)
deriving DecidableEq

def isUnconditional (rule : String) : Bool :=
  let rule := Text.trimmed rule
  Text.sameLetters rule "allow" || Text.sameLetters rule "true"

def isBundleChar (c : Char) : Bool := c.isAlphanum || c == '_' || c == '.' || c == '-'

def isPermissionChar (c : Char) : Bool := isBundleChar c || c == '*'

/-- The permissions in `s`, from left to right, where `bundle` is the run of bundle characters just
before `s`, last first. -/
def scan (bundle : List Char) : List Char → List Grant
  | [] => []
  | c :: rest =>
    if isBundleChar c then scan (c :: bundle) rest
    else if c = ':' && !bundle.isEmpty && rest.head?.any isPermissionChar then
      ⟨String.ofList bundle.reverse, String.ofList (rest.takeWhile isPermissionChar)⟩ ::
        scan [] (rest.dropWhile isPermissionChar)
    else scan [] rest
termination_by s => s.length
decreasing_by
  · simp
  · have := (List.dropWhile_sublist (l := rest) isPermissionChar).length_le
    simp only [List.length_cons]; omega
  · simp

def keyword : List Char := "must have".toList

/-- What follows the last occurrence of the keyword, whose letters may have either case. -/
def afterLastKeyword : List Char → Option (List Char)
  | [] => none
  | c :: rest =>
    match afterLastKeyword rest with
    | some after => some after
    | none =>
      if ((c :: rest).take keyword.length).map Char.toLower = keyword then
        some ((c :: rest).drop keyword.length)
      else none

def requirement (rule : List Char) : List Char := (afterLastKeyword rule).getD rule

def requiredPermissions (rule : String) : List Grant := scan [] (requirement rule.toList)

/-- Every rule must pass, and there must be one. -/
def evaluateAll (granted : GrantSet) : List String → Decision
  | [] => .allow
  | rule :: rest =>
    if isUnconditional rule then evaluateAll granted rest
    else
      match requiredPermissions rule with
      | [] => .deny s!"rule {Text.quoted rule} names no permission"
      | required =>
        match required.find? fun g => !granted.has g with
        | some missing => .deny s!"missing permission {missing.text}"
        | none => evaluateAll granted rest

def evaluate (rules : List String) (granted : GrantSet) : Decision :=
  match rules with
  | [] => .deny "the command has no rules"
  | rules => evaluateAll granted rules

end ChatRouter.Rules
