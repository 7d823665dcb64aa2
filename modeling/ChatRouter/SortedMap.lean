import Std.Data.TreeMap.Basic

set_option autoImplicit false

namespace ChatRouter

variable {κ α β : Type} [Ord κ]

namespace Entries

def insert (k : κ) (a : α) : List (κ × α) → List (κ × α)
  | [] => [(k, a)]
  | (l, b) :: rest =>
    match compare k l with
    | .lt => (k, a) :: (l, b) :: rest
    | .eq => (k, a) :: rest
    | .gt => (l, b) :: insert k a rest

def erase (k : κ) (entries : List (κ × α)) : List (κ × α) :=
  entries.filter fun e => compare k e.1 != .eq

def get? (k : κ) : List (κ × α) → Option α
  | [] => none
  | (l, b) :: rest => if compare k l == .eq then some b else get? k rest

def total (weight : α → Nat) : List (κ × α) → Nat
  | [] => 0
  | e :: rest => weight e.2 + total weight rest

def Sorted (entries : List (κ × α)) : Prop :=
  entries.Pairwise fun a b => compare a.1 b.1 = .lt

theorem mem_insert {k : κ} {a : α} {e : κ × α} {entries : List (κ × α)}
    (h : e ∈ insert k a entries) : e = (k, a) ∨ e ∈ entries := by
  induction entries with
  | nil => simpa [insert] using h
  | cons f rest ih =>
    simp only [insert] at h
    split at h <;> grind

theorem Sorted.insert [Std.TransOrd κ] {k : κ} {a : α} {entries : List (κ × α)}
    (h : Sorted entries) : Sorted (Entries.insert k a entries) := by
  induction entries with
  | nil => simp [Entries.insert, Sorted]
  | cons f rest ih =>
    obtain ⟨l, b⟩ := f
    have hr : Sorted rest := List.Pairwise.of_cons h
    have hl : ∀ e ∈ rest, compare l e.1 = .lt := fun e he => List.rel_of_pairwise_cons h he
    simp only [Entries.insert]
    split
    · rename_i hk
      refine List.Pairwise.cons (fun e he => ?_) h
      rcases List.mem_cons.1 he with rfl | he
      · exact hk
      · exact Std.TransCmp.lt_trans hk (hl e he)
    · rename_i hk
      refine List.Pairwise.cons (fun e he => ?_) hr
      exact Std.TransCmp.lt_of_eq_of_lt hk (hl e he)
    · rename_i hk
      refine List.Pairwise.cons (fun e he => ?_) (ih hr)
      rcases mem_insert he with rfl | he
      · exact Std.OrientedCmp.gt_iff_lt.1 hk
      · exact hl e he

theorem Sorted.erase {k : κ} {entries : List (κ × α)} (h : Sorted entries) :
    Sorted (Entries.erase k entries) := List.Pairwise.filter _ h

theorem Sorted.map (f : κ → α → β) {entries : List (κ × α)} (h : Sorted entries) :
    Sorted (entries.map fun e => (e.1, f e.1 e.2)) := List.Pairwise.map _ (fun _ _ h => h) h

theorem get?_eq_none {k : κ} {entries : List (κ × α)} (h : ∀ e ∈ entries, compare k e.1 ≠ .eq) :
    get? k entries = none := by
  induction entries with
  | nil => rfl
  | cons e rest ih => simp_all [get?]

theorem eq_of_get? [Std.TransOrd κ] [Std.LawfulEqOrd κ] {xs ys : List (κ × α)} (hx : Sorted xs)
    (hy : Sorted ys) (h : ∀ k, get? k xs = get? k ys) : xs = ys := by
  induction xs generalizing ys with
  | nil =>
    cases ys with
    | nil => rfl
    | cons e ys => simpa [get?] using h e.1
  | cons d xs ih =>
    cases ys with
    | nil => simpa [get?] using h d.1
    | cons e ys =>
      obtain ⟨k, a⟩ := d
      obtain ⟨l, b⟩ := e
      have above : ∀ {j : κ} {z : List (κ × α)}, (∀ e ∈ z, compare j e.1 = .lt) →
          get? j z = none := fun hz => get?_eq_none fun e he => by simp [hz e he]
      have hk : ∀ e ∈ xs, compare k e.1 = .lt := fun e he => List.rel_of_pairwise_cons hx he
      have hl : ∀ e ∈ ys, compare l e.1 = .lt := fun e he => List.rel_of_pairwise_cons hy he
      have hkl : k = l := by
        match hc : compare k l with
        | .eq => exact Std.LawfulEqOrd.compare_eq_iff_eq.1 hc
        | .lt =>
          have := h k
          rw [above (z := (l, b) :: ys) (fun e he => ?_)] at this
          · simp [get?] at this
          · rcases List.mem_cons.1 he with rfl | he
            · exact hc
            · exact Std.TransCmp.lt_trans hc (hl e he)
        | .gt =>
          have hc := Std.OrientedCmp.gt_iff_lt.1 hc
          have := h l
          rw [above (z := (k, a) :: xs) (fun e he => ?_)] at this
          · simp [get?] at this
          · rcases List.mem_cons.1 he with rfl | he
            · exact hc
            · exact Std.TransCmp.lt_trans hc (hk e he)
      subst hkl
      have hab : a = b := by simpa [get?] using h k
      rw [hab, ih (List.Pairwise.of_cons hx) (List.Pairwise.of_cons hy) fun j => ?_]
      by_cases hj : compare j k = .eq
      · rw [Std.LawfulEqOrd.compare_eq_iff_eq.1 hj, above hk, above hl]
      · simpa [get?, hj] using h j

theorem keys_insert [Std.TransOrd κ] [Std.LawfulEqOrd κ] {k : κ} {a b : α} {entries : List (κ × α)}
    (hs : Sorted entries) (h : get? k entries = some b) : (insert k a entries).map (·.1) = entries.map (·.1) := by
  induction entries with
  | nil => cases h
  | cons e rest ih =>
    obtain ⟨l, c⟩ := e
    simp only [insert]
    split
    · rename_i hlt
      have hrest : ∀ e ∈ rest, compare k e.1 ≠ .eq := fun e he => by
        simp [Std.TransCmp.lt_trans hlt (List.rel_of_pairwise_cons hs he)]
      simp [get?, hlt, get?_eq_none hrest] at h
    · rename_i heq
      rw [Std.LawfulEqOrd.compare_eq_iff_eq.1 heq]
      rfl
    · rename_i hgt
      simp only [get?, hgt] at h
      exact congrArg (l :: ·) (ih (List.Pairwise.of_cons hs) h)

end Entries

/-- A finite map with its entries in the order of their keys. -/
structure SortedMap (κ α : Type) [Ord κ] where
  entries : List (κ × α)
  sorted : Entries.Sorted entries

namespace SortedMap

theorem ext {m n : SortedMap κ α} (h : m.entries = n.entries) : m = n := by
  cases m; cases n; cases h; rfl

instance [DecidableEq κ] [DecidableEq α] : DecidableEq (SortedMap κ α) := fun m n =>
  if h : m.entries = n.entries then isTrue (ext h) else isFalse fun he => h (he ▸ rfl)

def empty : SortedMap κ α := ⟨[], List.Pairwise.nil⟩

instance : EmptyCollection (SortedMap κ α) := ⟨empty⟩

instance : Inhabited (SortedMap κ α) := ⟨empty⟩

def get? (m : SortedMap κ α) (k : κ) : Option α := Entries.get? k m.entries

def contains (m : SortedMap κ α) (k : κ) : Bool := (m.get? k).isSome

def isEmpty (m : SortedMap κ α) : Bool := m.entries.isEmpty

def size (m : SortedMap κ α) : Nat := m.entries.length

def keys (m : SortedMap κ α) : List κ := m.entries.map (·.1)

def values (m : SortedMap κ α) : List α := m.entries.map (·.2)

def total (weight : α → Nat) (m : SortedMap κ α) : Nat := Entries.total weight m.entries

def erase (m : SortedMap κ α) (k : κ) : SortedMap κ α := ⟨Entries.erase k m.entries, m.sorted.erase⟩

def mapValues (f : κ → α → β) (m : SortedMap κ α) : SortedMap κ β :=
  ⟨m.entries.map fun e => (e.1, f e.1 e.2), m.sorted.map f⟩

variable [Std.TransOrd κ]

def insert (m : SortedMap κ α) (k : κ) (a : α) : SortedMap κ α :=
  ⟨Entries.insert k a m.entries, m.sorted.insert⟩

def insertNew (m : SortedMap κ α) (k : κ) (a : α) : SortedMap κ α :=
  if m.contains k then m else m.insert k a

def modify (m : SortedMap κ α) (k : κ) (f : α → α) : SortedMap κ α :=
  match m.get? k with
  | some a => m.insert k (f a)
  | none => m

/-- Of entries with one key the last stays. -/
def ofList (entries : List (κ × α)) : SortedMap κ α :=
  entries.foldl (fun m e => m.insert e.1 e.2) empty

omit [Std.TransOrd κ] in
@[simp] theorem get?_empty (k : κ) : (∅ : SortedMap κ α).get? k = none := rfl

theorem get?_insert (m : SortedMap κ α) (k l : κ) (a : α) :
    (m.insert k a).get? l = if compare l k = .eq then some a else m.get? l := by
  obtain ⟨entries, sorted⟩ := m
  simp only [get?, insert]
  clear sorted
  induction entries with
  | nil => simp [Entries.insert, Entries.get?]
  | cons f rest ih =>
    obtain ⟨j, b⟩ := f
    simp only [Entries.insert]
    split
    · simp [Entries.get?]
    · rename_i hk
      have : compare l j = compare l k := by
        rw [Std.TransCmp.congr_right (Std.OrientedCmp.eq_symm hk)]
      simp only [Entries.get?, this]
      split <;> simp_all
    · rename_i hk
      simp only [Entries.get?, ih]
      by_cases hj : compare l j = .eq
      · have : compare l k ≠ .eq := by
          intro hl
          have := Std.TransCmp.eq_trans (Std.OrientedCmp.eq_symm hl) hj
          simp [this] at hk
        simp [hj, this]
      · simp [hj]

theorem get?_erase (m : SortedMap κ α) (k l : κ) :
    (m.erase k).get? l = if compare l k = .eq then none else m.get? l := by
  obtain ⟨entries, sorted⟩ := m
  simp only [get?, erase, Entries.erase]
  clear sorted
  induction entries with
  | nil => simp [Entries.get?]
  | cons f rest ih =>
    by_cases hf : compare k f.1 = .eq
    · have : compare l f.1 = compare l k := (Std.TransCmp.congr_right hf).symm
      simp only [List.filter_cons, hf, Entries.get?, this]
      split <;> simp_all
    · have : compare l k = .eq → compare l f.1 ≠ .eq := fun hl he =>
        hf (Std.TransCmp.eq_trans (Std.OrientedCmp.eq_symm hl) he)
      simp only [List.filter_cons, Entries.get?]
      by_cases hl : compare l k = .eq <;> simp_all [Entries.get?]

theorem total_insert (weight : α → Nat) (m : SortedMap κ α) {k : κ} {a b : α}
    (h : m.get? k = some a) : (m.insert k b).total weight + weight a = m.total weight + weight b := by
  obtain ⟨entries, sorted⟩ := m
  simp only [get?, total, insert] at h ⊢
  induction entries with
  | nil => simp [Entries.get?] at h
  | cons f rest ih =>
    obtain ⟨j, c⟩ := f
    simp only [Entries.insert]
    split
    · rename_i hk
      have hr : ∀ e ∈ rest, compare k e.1 ≠ .eq := fun e he => by
        simp [Std.TransCmp.lt_trans hk (List.rel_of_pairwise_cons sorted he)]
      simp [Entries.get?, hk, Entries.get?_eq_none hr] at h
    · rename_i hk
      simp only [Entries.get?, hk, beq_self_eq_true, if_true, Option.some.injEq] at h
      simp only [Entries.total, h]
      omega
    · rename_i hk
      simp only [Entries.get?, hk] at h
      have := ih (List.Pairwise.of_cons sorted) h
      simp only [Entries.total] at this ⊢
      omega

theorem keys_modify [Std.LawfulEqOrd κ] (m : SortedMap κ α) (k : κ) (f : α → α) : (m.modify k f).keys = m.keys := by
  unfold modify
  split
  · rename_i a ha
    exact Entries.keys_insert m.sorted ha
  · rfl

theorem ext_get? [Std.LawfulEqOrd κ] {m n : SortedMap κ α} (h : ∀ k, m.get? k = n.get? k) :
    m = n := ext (Entries.eq_of_get? m.sorted n.sorted h)

end SortedMap

abbrev SortedSet (κ : Type) [Ord κ] := SortedMap κ Unit

end ChatRouter
