set_option autoImplicit false

namespace ChatRouter.Text

/-- White_Space: the separators, the line breaks and the ASCII controls from tab to return. -/
def isBlank (c : Char) : Bool :=
  let n := c.toNat
  (9 ≤ n && n ≤ 13) || n == 0x20 || n == 0x85 || n == 0xA0 || n == 0x1680 ||
  (0x2000 ≤ n && n ≤ 0x200A) || n == 0x2028 || n == 0x2029 || n == 0x202F || n == 0x205F ||
  n == 0x3000

def trimLeft (s : List Char) : List Char := s.dropWhile isBlank

def trimRight (s : List Char) : List Char := (s.reverse.dropWhile isBlank).reverse

def trim (s : List Char) : List Char := trimRight (trimLeft s)

def allBlank (s : List Char) : Bool := s.all isBlank

def trimmed (s : String) : String := String.ofList (trim s.toList)

def isBlankText (s : String) : Bool := allBlank s.toList

def splitFirst (sep : Char) : List Char → Option (List Char × List Char)
  | [] => none
  | c :: rest =>
    if c = sep then some ([], rest)
    else (splitFirst sep rest).map fun (before, after) => (c :: before, after)

def pieces (sep : Char) : List Char → List (List Char)
  | [] => [[]]
  | c :: rest =>
    if c = sep then [] :: pieces sep rest
    else match pieces sep rest with
      | [] => [[c]]
      | p :: ps => (c :: p) :: ps

def sameLetters (a b : String) : Bool :=
  a.toList.map Char.toLower == b.toList.map Char.toLower

def afterStart : List Char → List Char → Option (List Char)
  | [], s => some s
  | _ :: _, [] => none
  | p :: ps, c :: cs => if p = c then afterStart ps cs else none

theorem trimLeft_of_allBlank {s : List Char} (h : allBlank s = true) : trimLeft s = [] := by
  induction s with
  | nil => rfl
  | cons c s ih => simp_all [allBlank, trimLeft]

theorem splitFirst_eq_some {sep : Char} {s before after : List Char}
    (h : splitFirst sep s = some (before, after)) :
    s = before ++ sep :: after ∧ sep ∉ before := by
  induction s generalizing before after with
  | nil => simp [splitFirst] at h
  | cons c s ih =>
    simp only [splitFirst] at h
    split at h
    · rename_i hc
      simp only [Option.some.injEq, Prod.mk.injEq] at h
      simp [← h.1, ← h.2, hc]
    · rename_i hc
      obtain ⟨⟨b, a⟩, hs, he⟩ := Option.map_eq_some_iff.1 h
      simp only [Prod.mk.injEq] at he
      obtain ⟨h₁, h₂⟩ := ih hs
      rw [← he.1, ← he.2]
      exact ⟨by simp [h₁], by simp [h₂, Ne.symm hc]⟩

theorem length_of_splitFirst {sep : Char} {s before after : List Char}
    (h : splitFirst sep s = some (before, after)) : after.length < s.length := by
  rw [(splitFirst_eq_some h).1, List.length_append, List.length_cons]
  omega

theorem splitFirst_append {sep : Char} {s : List Char} (h : sep ∉ s) (rest : List Char) :
    splitFirst sep (s ++ sep :: rest) = some (s, rest) := by
  induction s with
  | nil => simp [splitFirst]
  | cons c s ih =>
    simp only [List.mem_cons, not_or] at h
    simp [splitFirst, Ne.symm h.1, ih h.2]

theorem splitFirst_eq_none {sep : Char} {s : List Char} (h : sep ∉ s) :
    splitFirst sep s = none := by
  induction s with
  | nil => rfl
  | cons c s ih =>
    simp only [List.mem_cons, not_or] at h
    simp [splitFirst, Ne.symm h.1, ih h.2]

end ChatRouter.Text
