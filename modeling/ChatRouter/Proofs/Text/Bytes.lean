import Mathlib.Data.List.Lex
import Mathlib.Data.String.Basic

set_option autoImplicit false

namespace ChatRouter.Text

def bytes (s : String) : List UInt8 := s.toUTF8.data.toList

theorem bytes_eq (s : String) : bytes s = s.toList.flatMap String.utf8EncodeChar := by
  rw [bytes, String.toUTF8_eq_toByteArray, ← String.utf8Encode_toList, List.utf8Encode, List.data_toByteArray]

/-- The bytes after the first one: `k` digits of six bits, the highest first. -/
def trailing : Nat → Nat → List UInt8
  | 0, _ => []
  | k + 1, n => .ofNat (n / 64 ^ k % 64 + 0x80) :: trailing k n

/-- The first byte of a code point that `k` more bytes follow. -/
inductive Leads (n : Nat) : Nat → Nat → Prop
  | one (hn : n < 0x80) : Leads n 0 n
  | two (hn : 0x80 ≤ n) (hn' : n < 0x800) : Leads n 1 (n / 64 + 0xC0)
  | three (hn : 0x800 ≤ n) (hn' : n < 0x10000) : Leads n 2 (n / 64 ^ 2 + 0xE0)
  | four (hn : 0x10000 ≤ n) (hn' : n < 0x110000) : Leads n 3 (n / 64 ^ 3 + 0xF0)

theorem toNat_lt_limit (c : Char) : c.toNat < 0x110000 := by
  have h := c.valid
  simp only [UInt32.isValidChar, Nat.isValidChar] at h
  change c.val.toNat < _
  omega

theorem utf8EncodeChar_eq (c : Char) :
    ∃ k lead, Leads c.toNat k lead ∧ String.utf8EncodeChar c = .ofNat lead :: trailing k c.toNat := by
  have hmax := toNat_lt_limit c
  unfold String.utf8EncodeChar
  rw [show c.val.toNat = c.toNat from rfl]
  dsimp only
  split
  · exact ⟨0, _, .one (by omega), rfl⟩
  · split
    · refine ⟨1, _, .two (by omega) (by omega), ?_⟩
      rw [Nat.mod_eq_of_lt (by omega : c.toNat / 64 < 32)]
      simp only [trailing, pow_zero, Nat.div_one]
    · split
      · refine ⟨2, _, .three (by omega) (by omega), ?_⟩
        rw [Nat.mod_eq_of_lt (by omega : c.toNat / 4096 < 16)]
        simp only [trailing, pow_zero, pow_one, Nat.div_one, Nat.reducePow]
      · refine ⟨3, _, .four (by omega) hmax, ?_⟩
        rw [Nat.mod_eq_of_lt (by omega : c.toNat / 262144 < 8)]
        simp only [trailing, pow_zero, pow_one, Nat.div_one, Nat.reducePow]

theorem trailing_lt {m n k : Nat} (h : m % 64 ^ k < n % 64 ^ k) (r r' : List UInt8) :
    trailing k m ++ r < trailing k n ++ r' := by
  induction k with
  | zero => omega
  | succ k ih =>
    have hm := Nat.mod_mul (a := 64 ^ k) (b := 64) (x := m)
    have hn := Nat.mod_mul (a := 64 ^ k) (b := 64) (x := n)
    rw [← pow_succ] at hm hn
    have hbyte (n : Nat) : n / 64 ^ k % 64 + 0x80 < UInt8.size := by
      rw [UInt8.size]
      omega
    rw [trailing, trailing, List.cons_append, List.cons_append]
    rcases Nat.lt_trichotomy (m / 64 ^ k % 64) (n / 64 ^ k % 64) with hd | hd | hd
    · exact .rel ((UInt8.ofNat_lt_iff_lt (hbyte m) (hbyte n)).2 (by omega))
    · rw [hd] at hm ⊢
      exact .cons (ih (by omega))
    · -- All digits below this one together are worth less than one of it.
      have hrest : n % 64 ^ k < 64 ^ k := Nat.mod_lt _ (Nat.pow_pos (by decide))
      have hdigit := Nat.mul_le_mul_left (64 ^ k) (Nat.succ_le_of_lt hd)
      rw [Nat.mul_succ] at hdigit
      omega

theorem Leads.compare {m n j k a b : Nat} (hm : Leads m j a) (hn : Leads n k b) (h : m < n) :
    b < 256 ∧ (a < b ∨ a = b ∧ j = k ∧ m % 64 ^ k < n % 64 ^ k) := by
  -- With as many bytes the digits decide; with more bytes the first one is in a higher range.
  cases hm <;> cases hn <;> omega

theorem utf8EncodeChar_lt {c d : Char} (h : c < d) (r r' : List UInt8) :
    String.utf8EncodeChar c ++ r < String.utf8EncodeChar d ++ r' := by
  obtain ⟨j, a, ha, hc⟩ := utf8EncodeChar_eq c
  obtain ⟨k, b, hb, hd⟩ := utf8EncodeChar_eq d
  rw [hc, hd, List.cons_append, List.cons_append]
  obtain ⟨hlimit, hlead | ⟨rfl, rfl, hdigits⟩⟩ := ha.compare hb (Char.lt_def.1 h)
  · exact .rel ((UInt8.ofNat_lt_iff_lt (hlead.trans hlimit) hlimit).2 hlead)
  · exact .cons (trailing_lt hdigits r r')

theorem bytes_lt {s t : String} (h : s < t) : bytes s < bytes t := by
  rw [bytes_eq, bytes_eq]
  rw [String.lt_iff_toList_lt] at h
  generalize s.toList = cs, t.toList = ds at h
  induction h with
  | @nil d ds =>
    obtain ⟨k, lead, -, hd⟩ := utf8EncodeChar_eq d
    rw [List.flatMap_nil, List.flatMap_cons, hd]
    exact .nil
  | rel h =>
    rw [List.flatMap_cons, List.flatMap_cons]
    exact utf8EncodeChar_lt h _ _
  | cons h ih =>
    rw [List.flatMap_cons, List.flatMap_cons]
    exact List.append_left_lt ih

theorem bytes_lt_iff {s t : String} : bytes s < bytes t ↔ s < t := by
  refine ⟨fun h => ?_, bytes_lt⟩
  rcases lt_trichotomy s t with hst | rfl | hts
  · exact hst
  · exact absurd h (List.lt_irrefl _)
  · exact absurd (List.lt_trans h (bytes_lt hts)) (List.lt_irrefl _)

end ChatRouter.Text
