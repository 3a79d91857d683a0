import ReversePolish.Proofs.Respelling
import ReversePolish.Proofs.Texts
import ReversePolish.Session

/-!
# Expressions in small letters

The characters of an expression have plain small letters, and an expression in small letters is
parsed as before, `parse_lower`. Of the words that end a session only the letter Q is an expression:
`Session.ends_eq`.
-/

namespace ReversePolish

namespace Text

/-- A character whose small letter does not depend on what is around it, nor on any script but
ours. -/
def Simple (c : Char) : Prop := c ≠ 'Σ' ∧ c ≠ 'İ' ∧ lowerChar c = c.toLower

instance (c : Char) : Decidable (Simple c) := inferInstanceAs (Decidable (_ ∧ _))

theorem lowerFrom_simple (within : Bool) {cs : List Char} (h : ∀ c ∈ cs, Simple c) :
    lowerFrom within cs = cs.map Char.toLower := by
  induction cs generalizing within with
  | nil => rfl
  | cons c cs ih =>
    obtain ⟨⟨sigma, dotted, same⟩, rest⟩ := List.forall_mem_cons.1 h
    rw [lowerFrom, if_neg sigma, if_neg dotted, same, ih _ rest]
    rfl

theorem simple_ascii {c : Char} (h : c.toNat < 128) : Simple c := by
  have all : ∀ n < 128, Simple (Char.ofNat n) := by decide +kernel
  have one := all c.toNat h
  rwa [Char.ofNat_toNat] at one

/-- The codes of white space beyond ASCII. -/
def spaceCodes : List Nat :=
  [0x85, 0xA0, 0x1680, 0x2000, 0x2001, 0x2002, 0x2003, 0x2004, 0x2005, 0x2006, 0x2007, 0x2008,
    0x2009, 0x200A, 0x2028, 0x2029, 0x202F, 0x205F, 0x3000]

theorem simple_space {c : Char} (h : isSpace c = true) : Simple c := by
  have all : ∀ n ∈ spaceCodes, Simple (Char.ofNat n) := by decide +kernel
  by_cases ascii : c.toNat < 128
  · exact simple_ascii ascii
  · have code : c.toNat ∈ spaceCodes := by
      simp only [isSpace, Bool.or_eq_true, Bool.and_eq_true, decide_eq_true_eq, beq_iff_eq] at h
      simp only [spaceCodes, List.mem_cons, List.not_mem_nil, or_false]
      omega
    have one := all c.toNat code
    rwa [Char.ofNat_toNat] at one

end Text

open Text

theorem simple_spelling {t : Token} {c : Char} (h : Spelling t c) : Simple c := by
  have letter {c : Char} (alpha : c.isAlpha = true) : Simple c := by
    apply simple_ascii
    simp only [Char.isAlpha, Char.isUpper, Char.isLower, Bool.or_eq_true, Bool.and_eq_true,
      decide_eq_true_eq, ge_iff_le, UInt32.le_iff_toNat_le] at alpha
    change (65 ≤ c.toNat ∧ c.toNat ≤ 90) ∨ (97 ≤ c.toNat ∧ c.toNat ≤ 122) at alpha
    omega
  cases h with
  | capital c => exact letter (by simp [Char.isAlpha, c.2])
  | small c => exact letter (by simp [Char.isAlpha, c.2])
  | digit b => cases b <;> decide
  | sign => decide +kernel
  | _ => decide

theorem Spells.simple {ts : List Token} {cs : List Char} (h : Spells ts cs) :
    ∀ c ∈ cs, Simple c := by
  induction h with
  | nil => simp
  | space space _ ih => exact List.forall_mem_cons.2 ⟨simple_space space, ih⟩
  | cons spelling _ ih => exact List.forall_mem_cons.2 ⟨simple_spelling spelling, ih⟩

theorem isSpace_toLower (c : Char) : isSpace c.toLower = isSpace c := by
  by_cases upper : c.isUpper = true
  · have small := Expression.not_space_of_spelling (.small ⟨c, upper⟩)
    have capital := Expression.not_space_of_spelling (.capital ⟨c, upper⟩)
    exact small.trans capital.symm
  · rw [Char.toLower_eq_of_not_isUpper upper]

theorem cleanChars_toLower (cs : List Char) :
    Expression.cleanChars (cs.map Char.toLower) = Expression.cleanChars cs := by
  have kept : (fun c => !isSpace c) ∘ Char.toLower = fun c => !isSpace c :=
    funext fun c => by rw [Function.comp, isSpace_toLower]
  have capitals : Char.toUpper ∘ Char.toLower = Char.toUpper :=
    funext fun c => c.toUpper_toLower_eq_toUpper
  rw [Expression.cleanChars_eq, Expression.cleanChars_eq, List.filter_map, List.map_map, kept,
    capitals]

/-- A text in small letters is parsed as the text. -/
theorem parse_lower (s : String) : parse (String.ofList (s.toList.map Char.toLower)) = parse s :=
  parse_congr (by
    rw [String.toList_ofList, Expression.readings, cleanChars_toLower, Expression.readings])

namespace Session

theorem folded_of_written {f : Formula} {s : String} (written : f.WrittenAs s)
    (trimmed : trim s.toList = s.toList) :
    folded s.toList = String.ofList (s.toList.map Char.toLower) := by
  obtain ⟨ts, -, spells⟩ := written
  rw [folded, trimmed, lower, lowerFrom_simple false spells.simple]

theorem eq_of_toLower {c : Char} (h : c.toLower = 'q') : c = 'q' ∨ c = 'Q' := by
  by_cases upper : c.isUpper = true
  · have capital := Char.toUpper_toLower_eq_toUpper (c := c)
    rw [h, Letter.toUpper_capital ⟨c, upper⟩] at capital
    exact .inr capital.symm
  · rw [Char.toLower_eq_of_not_isUpper upper] at h
    exact .inl h

/-- The one expression that is a quit word. -/
def isLetterQ (s : String) : Bool := s == "q" || s == "Q"

theorem ends_eq {f : Formula} {s : String} (written : f.WrittenAs s)
    (trimmed : trim s.toList = s.toList) : ends (some s) = isLetterQ s := by
  rw [Bool.eq_iff_iff, isLetterQ, Bool.or_eq_true, beq_iff_eq, beq_iff_eq]
  constructor
  · intro ended
    have visible : isBlank s.toList = false := by
      have parsed := written.parse_eq
      unfold parse at parsed
      split at parsed
      · cases parsed
      · simpa using ‹¬ isBlank s.toList = true›
    rw [ends, visible, Bool.false_or, folded_of_written written trimmed] at ended
    have same := parse_lower s
    simp only [quitWords, List.contains_cons, List.contains_nil, Bool.or_false, Bool.or_eq_true,
      beq_iff_eq] at ended
    rcases ended with word | word | word
    · rw [word] at same
      exact absurd (wellFormed_of_writtenAs (same.symm.trans rfl) written) (by decide)
    · rw [word] at same
      exact absurd (wellFormed_of_writtenAs (same.symm.trans rfl) written) (by decide)
    · have letters := congrArg String.toList word
      rw [String.toList_ofList] at letters
      obtain ⟨c, chars, small⟩ := List.map_eq_singleton_iff.1 letters
      rw [← String.ofList_toList (s := s), chars]
      rcases eq_of_toLower small with rfl | rfl
      · exact .inl rfl
      · exact .inr rfl
  · rintro (rfl | rfl) <;> decide +kernel

end Session

end ReversePolish
