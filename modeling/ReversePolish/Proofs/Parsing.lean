import ReversePolish.Proofs.Conversion.Precedence
import ReversePolish.Proofs.Language
import ReversePolish.Proofs.Neighbours

/-!
# Parsing

Every text that the grammar derives is parsed as the postfix form of its formula, `parse_derivation`.
-/

namespace ReversePolish

open Conversion Expression

theorem Formula.WrittenAs.parse_eq {f : Formula} {text : String} (h : f.WrittenAs text) :
    parse text = some (.ok f.postorder) := by
  obtain ⟨ts, derives, spells⟩ := h
  have read := tokens_ok_iff.2 ⟨spells, fault?_derives derives⟩
  rw [parse_of_tokens read, toPostfix_derives derives]

/-- However a derivation is written, it is parsed as the postfix form of its formula. -/
theorem parse_derivation {ts : List Token} {f : Formula} {text : String}
    (derives : Derives .sum ts f) (spells : Spells ts text.toList) :
    parse text = some (.ok f.postorder) :=
  Formula.WrittenAs.parse_eq ⟨ts, derives, spells⟩

theorem parse_derivation_mixed :
    Derives .sum [.plain .not, .plain .openPar, .letter ⟨'A', rfl⟩, .plain .or, .letter ⟨'B', rfl⟩,
        .plain .closePar, .plain .and, .digit true, .plain .or, .letter ⟨'C', rfl⟩]
      (.or (.and (.not (.or (.var ⟨'A', rfl⟩) (.var ⟨'B', rfl⟩))) (.const true))
        (.var ⟨'C', rfl⟩)) ∧
    Spells [.plain .not, .plain .openPar, .letter ⟨'A', rfl⟩, .plain .or, .letter ⟨'B', rfl⟩,
        .plain .closePar, .plain .and, .digit true, .plain .or, .letter ⟨'C', rfl⟩]
      " !(a +\tB) . 1+c".toList ∧
    parse " !(a +\tB) . 1+c" = some (.ok [.letter ⟨'A', rfl⟩, .letter ⟨'B', rfl⟩, .plain .or,
      .plain .not, .digit true, .plain .and, .letter ⟨'C', rfl⟩, .plain .or]) := by
  have derives := Derives.or (.product (.and (.factor (.not (.brackets
    (.or (.product (.factor (.letter ⟨'A', rfl⟩))) (.factor (.letter ⟨'B', rfl⟩))))))
    (.digit true))) (.factor (.letter ⟨'C', rfl⟩))
  have spells : Spells _ " !(a +\tB) . 1+c".toList := spells_iff.2 (mapM_readChar_ok_iff.1 rfl)
  exact ⟨derives, spells, parse_derivation derives spells⟩

end ReversePolish
