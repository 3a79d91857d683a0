import ReversePolish.Proofs.Reading

/-!
# Neighbours

In an expression every two neighbours fit: after what can end an expression comes what cannot start
one, and after the rest comes what can. The phrases of the grammar have this form, and so no rule
finds fault with them.
-/

namespace ReversePolish

def Kind.Fits (l r : Kind) : Prop := l.cannotEnd ≠ r.cannotStart

instance (l r : Kind) : Decidable (l.Fits r) := inferInstanceAs (Decidable (_ ≠ _))

/-- The kinds begin and end as those of an expression do, and all neighbours fit. -/
structure Joined (ks : List Kind) : Prop where
  starts : ∃ k ∈ ks.head?, k.cannotStart = false
  ends : ∃ k ∈ ks.getLast?, k.cannotEnd = false
  fits : ks.IsChain Kind.Fits

namespace Joined

theorem operand {k : Kind} (h : k.isOperand = true) : Joined [k] := by
  cases k with
  | var => exact ⟨⟨_, rfl, rfl⟩, ⟨_, rfl, rfl⟩, .singleton _⟩
  | const => exact ⟨⟨_, rfl, rfl⟩, ⟨_, rfl, rfl⟩, .singleton _⟩
  | _ => cases h

theorem operation {xs ys : List Kind} {k : Kind} (hx : Joined xs) (hy : Joined ys)
    (binary : k.isBinary = true) : Joined (xs ++ k :: ys) := by
  obtain ⟨⟨first, head, starts⟩, ⟨last, tail, ends⟩, chain⟩ := hx
  obtain ⟨⟨first', head', starts'⟩, ⟨last', tail', ends'⟩, chain'⟩ := hy
  have before : k.cannotStart = true := by cases k <;> first | rfl | cases binary
  have after : k.cannotEnd = true := by cases k <;> first | rfl | cases binary
  refine ⟨⟨first, ?_, starts⟩, ⟨last', ?_, ends'⟩, ?_⟩
  · simp_all [List.head?_append]
  · simp_all [List.getLast?_append, List.getLast?_cons]
  · rw [List.isChain_append, List.isChain_cons]
    refine ⟨chain, ⟨?_, chain'⟩, ?_⟩
    · simp_all [Kind.Fits]
    · simp_all [Kind.Fits]

theorem negation {xs : List Kind} (h : Joined xs) : Joined (.not :: xs) := by
  obtain ⟨⟨first, head, starts⟩, ⟨last, tail, ends⟩, chain⟩ := h
  refine ⟨⟨_, rfl, rfl⟩, ⟨last, ?_, ends⟩, ?_⟩
  · simp_all [List.getLast?_cons]
  · rw [List.isChain_cons]
    refine ⟨?_, chain⟩
    simp_all [Kind.Fits, Kind.cannotEnd]

theorem brackets {xs : List Kind} (h : Joined xs) : Joined (.openPar :: xs ++ [.closePar]) := by
  obtain ⟨⟨first, head, starts⟩, ⟨last, tail, ends⟩, chain⟩ := h
  refine ⟨⟨_, rfl, rfl⟩, ⟨.closePar, List.getLast?_concat, rfl⟩, ?_⟩
  rw [List.cons_append, List.isChain_cons, List.isChain_append]
  refine ⟨?_, chain, .singleton _, ?_⟩
  · simp_all [Kind.Fits, Kind.cannotEnd]
  · simp_all [Kind.Fits, Kind.cannotStart]

end Joined

/-! ### Phrases -/

theorem Derives.joined {layer : Layer} {ts : List Token} {f : Formula} (h : Derives layer ts f) :
    Joined (ts.map Token.kind) := by
  induction h with
  | or _ _ ihl ihr => simpa using ihl.operation (k := .or) ihr rfl
  | and _ _ ihl ihr => simpa using ihl.operation (k := .and) ihr rfl
  | product _ ih => exact ih
  | factor _ ih => exact ih
  | not _ ih => exact ih.negation
  | brackets _ ih => simpa using ih.brackets
  | letter c => exact .operand rfl
  | digit b => exact .operand rfl

theorem Derives.brackets_eq {layer : Layer} {ts : List Token} {f : Formula}
    (h : Derives layer ts f) :
    ts.countP (·.kind = .openPar) = ts.countP (·.kind = .closePar) := by
  induction h with
  | or _ _ ihl ihr => simp [List.countP_append, ihl, ihr]
  | and _ _ ihl ihr => simp [List.countP_append, ihl, ihr]
  | product _ ih => exact ih
  | factor _ ih => exact ih
  | not _ ih => simp [ih]
  | brackets _ ih => simp [List.countP_append, ih]
  | letter c => simp
  | digit b => simp

theorem not_binary_of_fits {l r : Kind} (h : l.Fits r) : ¬ (l.isBinary ∧ r.isBinary) := by
  cases l <;> cases r <;> revert h <;> decide

namespace Expression

theorem fault?_joined {ts : List Token} (joined : Joined (ts.map Token.kind))
    (brackets : ts.countP (·.kind = .openPar) = ts.countP (·.kind = .closePar)) :
    fault? ts = none := by
  obtain ⟨starts, ends, fits⟩ := joined
  rw [fault?_eq_none_iff, startFault?_eq_none_iff, endFault?_eq_none_iff,
    adjacentFault?_eq_none_iff, bracketFault?_eq_none_iff]
  refine ⟨by simpa using starts, ?_, ?_, brackets⟩
  · obtain ⟨k, last, ends⟩ := ends
    intro t final
    rw [List.getLast?_map, Option.mem_def.1 final] at last
    exact Option.some.inj last ▸ ends
  · exact ((List.isChain_map Token.kind).1 fits).imp fun _ _ => not_binary_of_fits

theorem fault?_derives {layer : Layer} {ts : List Token} {f : Formula} (h : Derives layer ts f) :
    fault? ts = none := fault?_joined h.joined h.brackets_eq

end Expression

end ReversePolish
