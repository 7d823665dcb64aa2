import ChatRouter.SortedMap

set_option autoImplicit false

namespace ChatRouter

variable {κ α β : Type} [Ord κ]

theorem SortedMap.contains_iff (m : SortedMap κ α) (k : κ) : m.contains k = true ↔ ∃ a, m.get? k = some a :=
  Option.isSome_iff_exists

theorem Entries.find?_insert {k : κ} {a : α} {p : α → Bool} (ha : p a = false) {entries : List (κ × α)}
    (hk : get? k entries = none) :
    ((insert k a entries).map (·.2)).find? p = (entries.map (·.2)).find? p := by
  induction entries with
  | nil => simp [insert, ha]
  | cons e rest ih =>
    simp only [insert]
    split
    · rw [List.map_cons, List.find?_cons_of_neg]
      simp [ha]
    · rename_i he
      simp [get?, he] at hk
    · rename_i he
      simp only [get?, he] at hk
      rw [List.map_cons, List.map_cons, List.find?_cons, List.find?_cons, ih hk]

theorem SortedMap.find?_values_insert [Std.TransOrd κ] {m : SortedMap κ α} {k : κ} {a : α} {p : α → Bool}
    (ha : p a = false) (hk : m.contains k = false) : (m.insert k a).values.find? p = m.values.find? p :=
  Entries.find?_insert ha (Option.not_isSome_iff_eq_none.1 (Bool.eq_false_iff.1 hk))

variable [Std.LawfulEqOrd κ]

theorem Entries.mem_iff_get? {entries : List (κ × α)} (h : Sorted entries) (k : κ) (a : α) :
    (k, a) ∈ entries ↔ get? k entries = some a := by
  induction entries with
  | nil => simp [get?]
  | cons e rest ih =>
    obtain ⟨l, b⟩ := e
    have above : ∀ e ∈ rest, compare l e.1 = .lt := fun e he => List.rel_of_pairwise_cons h he
    by_cases hk : k = l
    · subst hk
      have hn : (k, a) ∉ rest := fun hm => by simpa using above _ hm
      simp [get?, hn, eq_comm]
    · simp [get?, hk, ih (List.Pairwise.of_cons h)]

namespace SortedMap

theorem mem_entries_iff (m : SortedMap κ α) (k : κ) (a : α) :
    (k, a) ∈ m.entries ↔ m.get? k = some a := Entries.mem_iff_get? m.sorted k a

theorem mem_values_iff (m : SortedMap κ α) (a : α) : a ∈ m.values ↔ ∃ k, m.get? k = some a := by
  simp only [values, List.mem_map, Prod.exists, mem_entries_iff]
  constructor
  · rintro ⟨k, b, h, rfl⟩
    exact ⟨k, h⟩
  · rintro ⟨k, h⟩
    exact ⟨k, a, h, rfl⟩

theorem mem_keys_iff (m : SortedMap κ α) (k : κ) : k ∈ m.keys ↔ m.contains k = true := by
  simp only [keys, List.mem_map, Prod.exists, mem_entries_iff, contains_iff]
  constructor
  · rintro ⟨l, a, h, rfl⟩
    exact ⟨a, h⟩
  · rintro ⟨a, h⟩
    exact ⟨k, a, h, rfl⟩

theorem isEmpty_iff (m : SortedMap κ α) : m.isEmpty = true ↔ ∀ k, m.get? k = none := by
  constructor
  · intro h k
    simp only [isEmpty, List.isEmpty_iff] at h
    simp [get?, h, Entries.get?]
  · intro h
    rw [isEmpty, List.isEmpty_iff, List.eq_nil_iff_forall_not_mem]
    intro e he
    rw [mem_entries_iff m e.1 e.2, h] at he
    cases he

@[grind =] theorem get?_mapValues (f : κ → α → β) (m : SortedMap κ α) (k : κ) :
    (m.mapValues f).get? k = (m.get? k).map (f k) := by
  obtain ⟨entries, sorted⟩ := m
  simp only [get?, mapValues]
  clear sorted
  induction entries with
  | nil => rfl
  | cons e rest ih =>
    by_cases hk : k = e.1
    · simp [Entries.get?, hk]
    · simp [Entries.get?, hk, ih]

omit [Std.LawfulEqOrd κ] in
theorem values_mapValues (f : α → β) (m : SortedMap κ α) :
    (m.mapValues fun _ => f).values = m.values.map f := by
  rw [values, mapValues, values, List.map_map, List.map_map]
  rfl

omit [Std.LawfulEqOrd κ] in
theorem keys_mapValues (f : κ → α → β) (m : SortedMap κ α) : (m.mapValues f).keys = m.keys := by
  rw [keys, mapValues, keys, List.map_map]
  rfl

@[grind =] theorem contains_mapValues (f : κ → α → β) (m : SortedMap κ α) (k : κ) :
    (m.mapValues f).contains k = m.contains k := by
  simp [contains, get?_mapValues]

variable [Std.TransOrd κ]

@[grind =] theorem get?_insert_ite [DecidableEq κ] (m : SortedMap κ α) (k l : κ) (a : α) :
    (m.insert k a).get? l = if l = k then some a else m.get? l := by
  simp [get?_insert]

@[grind =] theorem get?_insertNew_ite [DecidableEq κ] (m : SortedMap κ α) (k l : κ) (a : α) :
    (m.insertNew k a).get? l = if l = k then some ((m.get? k).getD a) else m.get? l := by
  unfold insertNew
  cases hk : m.get? k with
  | none => simp [contains, hk, get?_insert_ite]
  | some b =>
    by_cases hl : l = k
    · simp [contains, hk, hl]
    · simp [contains, hk, hl]

@[grind =] theorem get?_erase_ite [DecidableEq κ] (m : SortedMap κ α) (k l : κ) :
    (m.erase k).get? l = if l = k then none else m.get? l := by
  simp [get?_erase]

@[grind =] theorem get?_modify_ite [DecidableEq κ] (m : SortedMap κ α) (k l : κ) (f : α → α) :
    (m.modify k f).get? l = if l = k then (m.get? l).map f else m.get? l := by
  unfold modify
  cases hk : m.get? k with
  | none =>
    by_cases hl : l = k
    · simp [hl, hk]
    · simp [hl]
  | some a =>
    by_cases hl : l = k
    · simp [get?_insert_ite, hl, hk]
    · simp [get?_insert_ite, hl]

@[grind =] theorem contains_insert [DecidableEq κ] (m : SortedMap κ α) (k l : κ) (a : α) :
    (m.insert k a).contains l = (decide (l = k) || m.contains l) := by
  by_cases h : l = k <;> simp [contains, get?_insert_ite, h]

@[grind =] theorem contains_erase [DecidableEq κ] (m : SortedMap κ α) (k l : κ) :
    (m.erase k).contains l = (decide (l ≠ k) && m.contains l) := by
  by_cases h : l = k <;> simp [contains, get?_erase_ite, h]

@[grind =] theorem contains_modify [DecidableEq κ] (m : SortedMap κ α) (k l : κ) (f : α → α) :
    (m.modify k f).contains l = m.contains l := by
  by_cases h : l = k <;> simp [contains, get?_modify_ite, h]

theorem keys_congr {m : SortedMap κ α} {n : SortedMap κ β} (h : ∀ k, m.contains k = n.contains k) :
    m.keys = n.keys := by
  have hunit : (m.mapValues fun _ _ => ()) = n.mapValues fun _ _ => () := by
    apply ext_get?
    intro k
    have hk := h k
    rw [contains, contains] at hk
    rw [get?_mapValues, get?_mapValues]
    cases hm : m.get? k <;> cases hn : n.get? k <;> simp_all
  rw [← keys_mapValues (fun _ _ => ()) m, hunit, keys_mapValues]

theorem insert_comm [DecidableEq κ] (m : SortedMap κ α) {k l : κ} (h : k ≠ l) (a b : α) :
    (m.insert k a).insert l b = (m.insert l b).insert k a := by
  apply ext_get?
  intro j
  by_cases hk : j = k
  · have hl : j ≠ l := hk ▸ h
    simp [get?_insert_ite, hk, hk ▸ hl]
  · simp [get?_insert_ite, hk]

theorem erase_of_absent [DecidableEq κ] {m : SortedMap κ α} {k : κ} (h : m.contains k = false) : m.erase k = m := by
  apply ext_get?
  intro l
  rw [get?_erase_ite]
  split
  · rename_i hl
    exact (hl ▸ Option.not_isSome_iff_eq_none.1 (Bool.eq_false_iff.1 h)).symm
  · rfl

theorem modify_modify [DecidableEq κ] (m : SortedMap κ α) (k : κ) (f g : α → α) :
    (m.modify k f).modify k g = m.modify k (g ∘ f) := by
  apply ext_get?
  intro l
  by_cases hl : l = k <;> simp [get?_modify_ite, hl]

end SortedMap

end ChatRouter
