import Mathlib.Algebra.Ring.Int.Defs
import Mathlib.Algebra.Ring.Nat
import ReversePolish.Proofs.Conversion.Brackets

/-!
# Refusals that are told

Why a list is refused is told as soon as it is refused. That fails if the refusal points at a number
of more digits than numbers may have, and in no other way: `toPostfixWithin_outcome`. In an expression
there are no numbers, so that its conversion does not depend on the limit, `toPostfixWithin_tokens`.
-/

namespace ReversePolish

namespace Conversion

/-- A list is refused by a rule, and the refusal points at something. -/
def Refuses (result : Except Failure (Except Refusal (List Token))) (rule : Rule)
    (detail : Subject) : Prop :=
  ∃ e, result = .ok (.error e) ∧ e.stage = .converting ∧ e.rule = rule ∧ e.detail = detail

/-- What decides a list is a number of more than so many digits, or a token that such a number labels. -/
def Unwritable (digits : Nat) (es : List Element) : Prop :=
  ∃ i ∈ unknownAt? es, (∀ j ∈ excessAt? es, i < j) ∧
    ∃ e ∈ es[i]?, ∃ n : Int, e.subject = .datum (.number n) ∧ 10 ^ digits ≤ n.natAbs

theorem fits_eq_false_iff {digits : Nat} {found : Subject} :
    found.fits digits = false ↔ ∃ n : Int, found = .datum (.number n) ∧ 10 ^ digits ≤ n.natAbs := by
  cases found with
  | datum d => cases d <;> simp [Subject.fits, Datum.fits]
  | _ => simp [Subject.fits]

theorem unwritable_iff {digits : Nat} {es : List Element} :
    Unwritable digits es ↔ ∃ e, toPostfix es = .error e ∧ e.fits digits = false := by
  constructor
  · rintro ⟨i, unknown, first, e, found, long⟩
    obtain ⟨e', found', refused⟩ := toPostfix_unknownAt unknown first
    obtain rfl : e = e' := Option.mem_unique found found'
    exact ⟨_, refused, fits_eq_false_iff.2 long⟩
  · rintro ⟨r, refused, long⟩
    rcases toPostfix_cases es with ⟨i, unknown, first, e, found, same⟩ | ⟨-, ⟨-, same⟩ | ⟨-, p, same⟩⟩
    · cases refused.symm.trans same
      exact ⟨i, unknown, first, e, found, fits_eq_false_iff.1 long⟩
    · cases refused.symm.trans same
      cases long
    · cases refused.symm.trans same

theorem toPostfixWithin_none (es : List Element) : toPostfixWithin none es = .ok (toPostfix es) := by
  unfold toPostfixWithin
  cases toPostfix es <;> rfl

theorem toPostfixWithin_of_unwritable {digits : Nat} {es : List Element} (h : Unwritable digits es) :
    toPostfixWithin (some digits) es = .error (.numberTooLong digits) := by
  obtain ⟨e, refused, long⟩ := unwritable_iff.1 h
  unfold toPostfixWithin
  rw [refused]
  exact if_neg (by simp [long])

theorem toPostfixWithin_of_writable {digits : Nat} {es : List Element}
    (h : ¬ Unwritable digits es) : toPostfixWithin (some digits) es = .ok (toPostfix es) := by
  unfold toPostfixWithin
  cases outcome : toPostfix es with
  | ok p => rfl
  | error e =>
    refine if_pos ?_
    rw [← Bool.not_eq_false]
    exact fun long => h (unwritable_iff.2 ⟨e, outcome, long⟩)

/-- No number stands in an expression, so that its conversion is told whatever the limit is. -/
theorem toPostfixWithin_tokens (limit : Option Nat) (ts : List Token) :
    toPostfixWithin limit (ts.map .token) = .ok (toPostfix (ts.map .token)) := by
  cases limit with
  | none => exact toPostfixWithin_none _
  | some digits =>
    apply toPostfixWithin_of_writable
    rintro ⟨i, unknown, -⟩
    obtain ⟨e, found, foreign⟩ := unknownAt?_eq_some unknown
    obtain ⟨t, -, rfl⟩ := List.mem_map.1 (List.mem_of_getElem? found)
    cases foreign

/-- Whatever the limit is, a number of one digit more takes the place of its refusal. -/
theorem toPostfixWithin_tooLong : ∀ digits : Nat,
    toPostfixWithin (some digits) [.stray (.number (10 ^ digits))] =
        .error (.numberTooLong digits) ∧
      Refuses (toPostfixWithin none [.stray (.number (10 ^ digits))]) .unexpectedToken
        (.datum (.number (10 ^ digits))) := by
  intro digits
  have alone : ∀ j ∈ excessAt? [.stray (.number (10 ^ digits))], 0 < j := by
    rintro j ⟨⟩
  have long : Unwritable digits [.stray (.number (10 ^ digits))] := by
    refine ⟨0, rfl, alone, _, rfl, _, rfl, ?_⟩
    rw [Int.natAbs_pow]
    exact Nat.le_refl _
  refine ⟨toPostfixWithin_of_unwritable long, ?_⟩
  rw [toPostfixWithin_none]
  exact ⟨_, rfl, rfl, rfl, rfl⟩

end Conversion

end ReversePolish
