import ReversePolish.Proofs.Parsing

/-!
# Formulas read back

A formula can be read back from its postfix form: no two formulas have the same one,
`Formula.postorder_append_inj`, and every well-formed list of operands and operators is one,
`Postfix.exists_postorder`. So texts are parsed alike just when they write the same formula, and
every well-formed list is what some text is parsed as: `parse_faithful`.
-/

namespace ReversePolish

namespace Token

theorem letter_inj {c d : Letter} (h : letter c = letter d) : c = d := by
  simpa [letter, Subtype.ext_iff] using h

theorem digit_inj {b d : Bool} (h : digit b = digit d) : b = d := by
  cases b <;> cases d <;> simp_all [digit]

/-- The tokens of postfix forms: operands and operators, but no brackets. -/
inductive OfFormula : Token → Prop
  | letter (c : Letter) : OfFormula (.letter c)
  | digit (b : Bool) : OfFormula (.digit b)
  | not : OfFormula (.plain .not)
  | and : OfFormula (.plain .and)
  | or : OfFormula (.plain .or)

end Token

namespace Formula

/-! ### The formula of a postfix form -/

/-- The token that comes last in the postfix form. -/
def root : Formula → Token
  | var c => .letter c
  | const b => .digit b
  | not _ => .plain .not
  | and _ _ => .plain .and
  | or _ _ => .plain .or

def operands : Formula → List Formula
  | var _ | const _ => []
  | not f => [f]
  | and l r | or l r => [l, r]

theorem postorder_eq (f : Formula) :
    f.postorder = f.operands.flatMap postorder ++ [f.root] := by
  cases f <;> simp [postorder, operands, root]

theorem ends_alike {f g : Formula} {xs ys : List Token}
    (h : xs ++ f.postorder = ys ++ g.postorder) :
    xs ++ f.operands.flatMap postorder = ys ++ g.operands.flatMap postorder ∧
      f.root = g.root := by
  rw [postorder_eq, postorder_eq g, ← List.append_assoc, ← List.append_assoc] at h
  exact ⟨List.append_inj_left' h rfl, List.singleton_inj.1 (List.append_inj_right' h rfl)⟩

/-- Whatever comes before it, the formula that a list of tokens ends with is told from the list. -/
theorem postorder_append_inj {f g : Formula} {xs ys : List Token}
    (h : xs ++ f.postorder = ys ++ g.postorder) : xs = ys ∧ f = g := by
  induction f generalizing g xs ys with
  | var c =>
    obtain ⟨front, root⟩ := ends_alike h
    cases g with
    | var d => exact ⟨by simpa [operands] using front, by rw [Token.letter_inj root]⟩
    | _ => cases congrArg Token.kind root
  | const b =>
    obtain ⟨front, root⟩ := ends_alike h
    cases g with
    | const d => exact ⟨by simpa [operands] using front, by rw [Token.digit_inj root]⟩
    | _ => cases congrArg Token.kind root
  | not f ih =>
    obtain ⟨front, root⟩ := ends_alike h
    cases g with
    | not g =>
      have inner : xs ++ f.postorder = ys ++ g.postorder := by simpa [operands] using front
      obtain ⟨rfl, rfl⟩ := ih inner
      exact ⟨rfl, rfl⟩
    | _ => cases congrArg Token.kind root
  | and l r ihl ihr =>
    obtain ⟨front, root⟩ := ends_alike h
    cases g with
    | and l' r' =>
      have both : (xs ++ l.postorder) ++ r.postorder = (ys ++ l'.postorder) ++ r'.postorder := by
        simpa [operands] using front
      obtain ⟨left, rfl⟩ := ihr both
      obtain ⟨rfl, rfl⟩ := ihl left
      exact ⟨rfl, rfl⟩
    | _ => cases congrArg Token.kind root
  | or l r ihl ihr =>
    obtain ⟨front, root⟩ := ends_alike h
    cases g with
    | or l' r' =>
      have both : (xs ++ l.postorder) ++ r.postorder = (ys ++ l'.postorder) ++ r'.postorder := by
        simpa [operands] using front
      obtain ⟨left, rfl⟩ := ihr both
      obtain ⟨rfl, rfl⟩ := ihl left
      exact ⟨rfl, rfl⟩
    | _ => cases congrArg Token.kind root

theorem postorder_inj {f g : Formula} (h : f.postorder = g.postorder) : f = g := by
  have whole : [] ++ f.postorder = [] ++ g.postorder := h
  exact (postorder_append_inj whole).2

end Formula

namespace Postfix

theorem values_cons (n : Nat) (t : Token) (ts : List Token) :
    values n (t :: ts) = (apply n t).bind (values · ts) := rfl

/-- What a token does to the number of values it does to formulas: it takes its operands from the
end of a list and leaves the formula that they make. -/
theorem exists_applied {t : Token} (known : t.OfFormula) {fs : List Formula} {m : Nat}
    (h : apply fs.length t = some m) :
    ∃ gs : List Formula, gs.length = m ∧
      gs.flatMap Formula.postorder = fs.flatMap Formula.postorder ++ [t] := by
  cases known with
  | letter c => exact ⟨fs ++ [.var c], by simpa [apply] using h, by simp [Formula.postorder]⟩
  | digit b => exact ⟨fs ++ [.const b], by simpa [apply] using h, by simp [Formula.postorder]⟩
  | not =>
    obtain rfl | ⟨fs, f, rfl⟩ := List.eq_nil_or_concat fs
    · cases h
    · exact ⟨fs ++ [.not f], by simpa [apply] using h, by simp [Formula.postorder]⟩
  | and =>
    obtain rfl | ⟨fs, r, rfl⟩ := List.eq_nil_or_concat fs
    · cases h
    obtain rfl | ⟨fs, l, rfl⟩ := List.eq_nil_or_concat fs
    · cases h
    · exact ⟨fs ++ [.and l r], by simpa [apply] using h, by simp [Formula.postorder]⟩
  | or =>
    obtain rfl | ⟨fs, r, rfl⟩ := List.eq_nil_or_concat fs
    · cases h
    obtain rfl | ⟨fs, l, rfl⟩ := List.eq_nil_or_concat fs
    · cases h
    · exact ⟨fs ++ [.or l r], by simpa [apply] using h, by simp [Formula.postorder]⟩

/-- A list that does not lack values is the postfix forms of as many formulas as it leaves values. -/
theorem exists_flatMap_postorder {ts : List Token} (known : ∀ t ∈ ts, t.OfFormula)
    {fs : List Formula} {m : Nat} (h : values fs.length ts = some m) :
    ∃ gs : List Formula, gs.length = m ∧
      gs.flatMap Formula.postorder = fs.flatMap Formula.postorder ++ ts := by
  induction ts generalizing fs with
  | nil => exact ⟨fs, Option.some.inj h, by simp⟩
  | cons t ts ih =>
    obtain ⟨first, rest⟩ := List.forall_mem_cons.1 known
    rw [values_cons, Option.bind_eq_some_iff] at h
    obtain ⟨_, applied, h⟩ := h
    obtain ⟨hs, rfl, same⟩ := exists_applied first applied
    obtain ⟨gs, size, whole⟩ := ih rest h
    exact ⟨gs, size, by rw [whole, same, List.append_assoc, List.singleton_append]⟩

theorem exists_postorder {p : List Token} (known : ∀ t ∈ p, t.OfFormula) (h : WellFormed p) :
    ∃ f : Formula, f.postorder = p := by
  have run : values ([] : List Formula).length p = some 1 := h
  obtain ⟨gs, size, whole⟩ := exists_flatMap_postorder known run
  obtain ⟨f, rfl⟩ := List.length_eq_one_iff.1 size
  exact ⟨f, by simpa using whole⟩

end Postfix

/-! ### Texts of a formula -/

theorem Spells.append {ts us : List Token} {cs ds : List Char} (h : Spells ts cs)
    (h' : Spells us ds) : Spells (ts ++ us) (cs ++ ds) := by
  induction h with
  | nil => exact h'
  | space space _ ih => exact .space space ih
  | cons spelling _ ih => exact .cons spelling ih

namespace Formula

/-- A formula as a text, with brackets around every operation. -/
def bracketed : Formula → List Char
  | var c => [c.1]
  | const b => [if b then '1' else '0']
  | not f => '(' :: '¬' :: f.bracketed ++ [')']
  | and l r => '(' :: l.bracketed ++ '.' :: r.bracketed ++ [')']
  | or l r => '(' :: l.bracketed ++ '+' :: r.bracketed ++ [')']

theorem exists_spells_bracketed (f : Formula) :
    ∃ ts, Derives .factor ts f ∧ Spells ts f.bracketed := by
  induction f with
  | var c => exact ⟨_, .letter c, .cons (.capital c) .nil⟩
  | const b => exact ⟨_, .digit b, .cons (.digit b) .nil⟩
  | not f ih =>
    obtain ⟨ts, derives, spells⟩ := ih
    refine ⟨_, .brackets (.product (.factor (.not derives))), ?_⟩
    exact .cons .opening (.cons .sign (spells.append (.cons .closing .nil)))
  | and l r ihl ihr =>
    obtain ⟨ts, left, spells⟩ := ihl
    obtain ⟨us, right, spells'⟩ := ihr
    refine ⟨_, .brackets (.product (.and (.factor left) right)), ?_⟩
    exact .cons .opening ((spells.append (.cons .dot spells')).append (.cons .closing .nil))
  | or l r ihl ihr =>
    obtain ⟨ts, left, spells⟩ := ihl
    obtain ⟨us, right, spells'⟩ := ihr
    refine ⟨_, .brackets (.or (.product (.factor left)) (.factor right)), ?_⟩
    exact .cons .opening ((spells.append (.cons .plus spells')).append (.cons .closing .nil))

theorem writtenAs_bracketed (f : Formula) : f.WrittenAs (String.ofList f.bracketed) := by
  obtain ⟨ts, derives, spells⟩ := f.exists_spells_bracketed
  exact ⟨ts, .product (.factor derives), by rwa [String.toList_ofList]⟩

/-- The tokens of a formula, each operator before or between what it applies to. -/
def inorder : Formula → List Token
  | var c => [.letter c]
  | const b => [.digit b]
  | not f => .plain .not :: f.inorder
  | and l r => l.inorder ++ .plain .and :: r.inorder
  | or l r => l.inorder ++ .plain .or :: r.inorder

end Formula

theorem Derives.filter_eq {layer : Layer} {ts : List Token} {f : Formula}
    (h : Derives layer ts f) : ts.filter (!·.kind.isBracket) = f.inorder := by
  induction h with
  | or _ _ ihl ihr =>
    rw [List.filter_append, List.filter_cons_of_pos rfl, ihl, ihr]
    rfl
  | and _ _ ihl ihr =>
    rw [List.filter_append, List.filter_cons_of_pos rfl, ihl, ihr]
    rfl
  | product _ ih => exact ih
  | factor _ ih => exact ih
  | not _ ih =>
    rw [List.filter_cons_of_pos rfl, ih]
    rfl
  | brackets _ ih =>
    rw [List.filter_append, List.filter_cons_of_neg (by decide), ih]
    exact List.append_nil _
  | letter c => rfl
  | digit b => rfl

open Expression

/-- Of the tokens that are read from a text of a formula, all but the brackets are the formula's. -/
theorem Formula.WrittenAs.tokens_eq {f : Formula} {text : String} (h : f.WrittenAs text) :
    ∃ ts, tokens text = .ok ts ∧ ts.filter (!·.kind.isBracket) = f.inorder := by
  obtain ⟨ts, derives, spells⟩ := h
  exact ⟨ts, tokens_ok_iff.2 ⟨spells, fault?_derives derives⟩, derives.filter_eq⟩

/-- Two texts have the same postfix form just when they write the same formula, and then they are
read as the same tokens but for brackets. Each well-formed list of operands and operators is the
postfix form of one formula, and that of its text with brackets around every operation. -/
theorem parse_faithful :
    (∀ f g s t, Formula.WrittenAs f s → Formula.WrittenAs g t →
      ∃ p q, parse s = some (.ok p) ∧ parse t = some (.ok q) ∧ (p = q ↔ f = g) ∧
        (p = q → ∃ ts us, tokens s = .ok ts ∧ tokens t = .ok us ∧
          ts.filter (!·.kind.isBracket) = us.filter (!·.kind.isBracket))) ∧
    ∀ p, (∀ t ∈ p, Token.OfFormula t) → Postfix.WellFormed p →
      ∃ f : Formula, f.postorder = p ∧ (∀ g : Formula, g.postorder = p → g = f) ∧
        parse (String.ofList f.bracketed) = some (.ok p) := by
  constructor
  · intro f g s t written written'
    refine ⟨_, _, written.parse_eq, written'.parse_eq, ?_, fun same => ?_⟩
    · exact ⟨Formula.postorder_inj, congrArg Formula.postorder⟩
    · obtain rfl := Formula.postorder_inj same
      obtain ⟨ts, read, bare⟩ := written.tokens_eq
      obtain ⟨us, read', bare'⟩ := written'.tokens_eq
      exact ⟨ts, us, read, read', bare.trans bare'.symm⟩
  · intro p known wellFormed
    obtain ⟨f, rfl⟩ := Postfix.exists_postorder known wellFormed
    exact ⟨f, rfl, fun _ => Formula.postorder_inj, f.writtenAs_bracketed.parse_eq⟩

/-- Two ways to write one formula, and the postfix form of both. -/
theorem parse_faithful_respelled :
    let f : Formula := .or (.var ⟨'A', rfl⟩) (.not (.var ⟨'B', rfl⟩))
    let p := [.letter ⟨'A', rfl⟩, .letter ⟨'B', rfl⟩, .plain .not, .plain .or]
    f.WrittenAs "a+ !b" ∧ f.WrittenAs "((A)+(¬B))" ∧
    (∃ q, parse "a+ !b" = some (.ok q) ∧ parse "((A)+(¬B))" = some (.ok q)) ∧
    (∀ t ∈ p, Token.OfFormula t) ∧ Postfix.WellFormed p ∧
    ∃ g : Formula, g.postorder = p ∧ parse (String.ofList g.bracketed) = some (.ok p) := by
  intro f p
  have operation : Derives .sum [.letter ⟨'A', rfl⟩, .plain .or, .plain .not, .letter ⟨'B', rfl⟩] f :=
    .or (.product (.factor (.letter _))) (.factor (.not (.letter _)))
  have plain : f.WrittenAs "a+ !b" := ⟨_, operation, spells_iff.2 (mapM_readChar_ok_iff.1 rfl)⟩
  have bracketed : f.WrittenAs "((A)+(¬B))" := by
    have operand := Derives.brackets (.product (.factor (.letter ⟨'A', rfl⟩)))
    have negation := Derives.brackets (.product (.factor (.not (.letter ⟨'B', rfl⟩))))
    have whole := Derives.brackets (.or (.product (.factor operand)) (.factor negation))
    exact ⟨_, .product (.factor whole), spells_iff.2 (mapM_readChar_ok_iff.1 rfl)⟩
  have known : ∀ t ∈ p, Token.OfFormula t := by
    simp only [p, List.forall_mem_cons, List.not_mem_nil, false_implies, implies_true, and_true]
    exact ⟨.letter _, .letter _, .not, .or⟩
  refine ⟨plain, bracketed, ?_, known, by decide, ?_⟩
  · obtain ⟨q, r, left, right, same, _⟩ := parse_faithful.1 f f _ _ plain bracketed
    obtain rfl := same.2 rfl
    exact ⟨q, left, right⟩
  · obtain ⟨g, form, _, parsed⟩ := parse_faithful.2 p known (by decide)
    exact ⟨g, form, parsed⟩

end ReversePolish
