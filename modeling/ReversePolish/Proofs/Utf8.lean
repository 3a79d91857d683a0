import Mathlib.Data.List.TakeWhile
import ReversePolish.Text.Utf8

/-!
# Writing and reading UTF-8

The bytes of a character are a lead byte and as many continuation bytes as it takes, and these give
its code back, `exists_bytes`. So what is written as UTF-8 is read as it was, `decode_toUTF8`.
-/

namespace ReversePolish.Text.Utf8

/-- The bytes after a lead byte that belong to it. -/
def Continues (lead : Nat) : List UInt8 → Prop
  | [] => True
  | b :: more => canFollow lead b.toNat = true ∧ ∀ d ∈ more, isContinuation d.toNat = true

theorem continuation_append {lead : Nat} {tail : List UInt8} (h : Continues lead tail)
    (rest : List UInt8) : continuation lead tail.length (tail ++ rest) = tail := by
  cases tail with
  | nil => cases rest <;> rfl
  | cons b more =>
    obtain ⟨first, others⟩ := h
    simp only [continuation, List.length_cons, List.cons_append, first, if_true, List.take_left']
    rw [List.takeWhile_eq_self_iff.2 others]

theorem decodeFrom_append (position : Nat) {lead : UInt8} {tail : List UInt8}
    (follows : following? lead.toNat = some tail.length) (h : Continues lead.toNat tail)
    (rest : List UInt8) : decodeFrom position (lead :: tail ++ rest) =
      (Char.ofNat (code lead.toNat tail) :: ·) <$> decodeFrom (position + tail.length + 1) rest := by
  rw [List.cons_append, decodeFrom, follows]
  dsimp only
  rw [continuation_append h, if_pos rfl, List.drop_left]

theorem following?_one {n : Nat} (h : n < 0x80) : following? n = some 0 := if_pos h

theorem following?_two {n : Nat} (h : 0xC2 ≤ n ∧ n ≤ 0xDF) : following? n = some 1 := by
  rw [following?, if_neg (by omega), if_pos h]

theorem following?_three {n : Nat} (h : 0xE0 ≤ n ∧ n ≤ 0xEF) : following? n = some 2 := by
  rw [following?, if_neg (by omega), if_neg (by omega), if_pos h]

theorem following?_four {n : Nat} (h : 0xF0 ≤ n ∧ n ≤ 0xF4) : following? n = some 3 := by
  rw [following?, if_neg (by omega), if_neg (by omega), if_neg (by omega), if_pos h]

theorem canFollow_iff {lead b : Nat} : canFollow lead b = true ↔
    (if lead = 0xE0 then 0xA0 else if lead = 0xF0 then 0x90 else 0x80) ≤ b ∧
      b ≤ if lead = 0xED then 0x9F else if lead = 0xF4 then 0x8F else 0xBF := by
  simp only [canFollow, Bool.and_eq_true, decide_eq_true_eq]

theorem toNat_byte {n : Nat} (h : n < 256) : (UInt8.ofNat n).toNat = n :=
  UInt8.toNat_ofNat_of_lt' h

theorem isContinuation_byte {n : Nat} (h : n < 64) :
    isContinuation (UInt8.ofNat (n + 128)).toNat = true := by
  rw [toNat_byte (by omega)]
  simp only [isContinuation, Bool.and_eq_true, decide_eq_true_eq]
  omega

/-- A character is written as a lead byte and its continuation. -/
theorem exists_bytes (c : Char) : ∃ lead tail, String.utf8EncodeChar c = lead :: tail ∧
    following? lead.toNat = some tail.length ∧ Continues lead.toNat tail ∧
    code lead.toNat tail = c.toNat := by
  have valid : c.val.toNat < 0xD800 ∨ (0xDFFF < c.val.toNat ∧ c.val.toNat < 0x110000) := c.valid
  fun_cases String.utf8EncodeChar c with
  | case1 v h =>
    have lead : (UInt8.ofNat v).toNat = v := toNat_byte (by omega)
    refine ⟨_, _, rfl, ?_, trivial, lead⟩
    rw [lead]
    exact following?_one (by omega)
  | case2 v h₁ h₂ =>
    have lead : (UInt8.ofNat (v / 64 % 32 + 192)).toNat = v / 64 + 192 := by
      rw [toNat_byte (by omega)]
      omega
    refine ⟨_, _, rfl, ?_, ⟨?_, by simp⟩, ?_⟩
    · rw [lead]
      exact following?_two (by omega)
    · rw [lead, canFollow_iff, toNat_byte (by omega)]
      split_ifs <;> omega
    · change _ = v
      simp only [code, lead, List.length_singleton, List.foldl_cons, List.foldl_nil]
      rw [toNat_byte (by omega)]
      omega
  | case3 v h₁ h₂ h₃ =>
    have lead : (UInt8.ofNat (v / 4096 % 16 + 224)).toNat = v / 4096 + 224 := by
      rw [toNat_byte (by omega)]
      omega
    refine ⟨_, _, rfl, ?_, ⟨?_, ?_⟩, ?_⟩
    · rw [lead]
      exact following?_three (by omega)
    · rw [lead, canFollow_iff, toNat_byte (by omega)]
      split_ifs <;> omega
    · simp only [List.forall_mem_singleton]
      exact isContinuation_byte (by omega)
    · change _ = v
      simp only [code, lead, List.length_cons, List.length_nil, List.foldl_cons, List.foldl_nil]
      rw [toNat_byte (by omega), toNat_byte (by omega)]
      omega
  | case4 v h₁ h₂ h₃ =>
    have lead : (UInt8.ofNat (v / 262144 % 8 + 240)).toNat = v / 262144 + 240 := by
      rw [toNat_byte (by omega)]
      omega
    refine ⟨_, _, rfl, ?_, ⟨?_, ?_⟩, ?_⟩
    · rw [lead]
      exact following?_four (by omega)
    · rw [lead, canFollow_iff, toNat_byte (by omega)]
      split_ifs <;> omega
    · simp only [List.forall_mem_cons, List.not_mem_nil, false_imp_iff, implies_true, and_true]
      exact ⟨isContinuation_byte (by omega), isContinuation_byte (by omega)⟩
    · change _ = v
      simp only [code, lead, List.length_cons, List.length_nil, List.foldl_cons, List.foldl_nil]
      rw [toNat_byte (by omega), toNat_byte (by omega), toNat_byte (by omega)]
      omega

theorem decodeFrom_flatMap (position : Nat) (cs : List Char) :
    decodeFrom position (cs.flatMap String.utf8EncodeChar) = .ok cs := by
  induction cs generalizing position with
  | nil => rw [List.flatMap_nil, decodeFrom]
  | cons c cs ih =>
    obtain ⟨lead, tail, bytes, follows, continues, same⟩ := exists_bytes c
    rw [List.flatMap_cons, bytes, decodeFrom_append position follows continues, same, ih,
      Char.ofNat_toNat]
    rfl

theorem toList_toUTF8 (s : String) :
    s.toUTF8.data.toList = s.toList.flatMap String.utf8EncodeChar := by
  rw [← String.ofList_toList (s := s), String.toList_ofList]
  exact List.toList_data_toByteArray

theorem decode_toUTF8 (s : String) : decode s.toUTF8.data.toList = .ok s.toList := by
  rw [toList_toUTF8]
  exact decodeFrom_flatMap 0 s.toList

end ReversePolish.Text.Utf8
