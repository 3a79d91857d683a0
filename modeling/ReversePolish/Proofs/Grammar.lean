import ReversePolish.Proofs.Formula
import ReversePolish.Text.Blank

/-!
# The grammar of expressions

A sum is a chain of products, a product a chain of factors, both grouped to the left. `Derives` is
this grammar over tokens and `Spells` how a text writes tokens, with white space anywhere. Together
they say which texts write a formula.
-/

namespace ReversePolish

inductive Layer where
  | sum
  | product
  | factor
  deriving DecidableEq, Repr

/-- The tokens of a phrase, and the formula that it stands for. Brackets leave no trace in it. -/
inductive Derives : Layer → List Token → Formula → Prop
  | or {xs ys l r} : Derives .sum xs l → Derives .product ys r →
      Derives .sum (xs ++ .plain .or :: ys) (.or l r)
  | product {xs f} : Derives .product xs f → Derives .sum xs f
  | and {xs ys l r} : Derives .product xs l → Derives .factor ys r →
      Derives .product (xs ++ .plain .and :: ys) (.and l r)
  | factor {xs f} : Derives .factor xs f → Derives .product xs f
  | not {xs f} : Derives .factor xs f → Derives .factor (.plain .not :: xs) (.not f)
  | brackets {xs f} : Derives .sum xs f →
      Derives .factor (.plain .openPar :: xs ++ [.plain .closePar]) f
  | letter (c : Letter) : Derives .factor [.letter c] (.var c)
  | digit (b : Bool) : Derives .factor [.digit b] (.const b)

/-- The characters that a token is written with. -/
inductive Spelling : Token → Char → Prop
  | capital (c : Letter) : Spelling (.letter c) c
  | small (c : Letter) : Spelling (.letter c) c.1.toLower
  | digit (b : Bool) : Spelling (.digit b) (if b then '1' else '0')
  | sign : Spelling (.plain .not) '¬'
  | bang : Spelling (.plain .not) '!'
  | dot : Spelling (.plain .and) '.'
  | plus : Spelling (.plain .or) '+'
  | opening : Spelling (.plain .openPar) '('
  | closing : Spelling (.plain .closePar) ')'

/-- The texts that write a list of tokens. -/
inductive Spells : List Token → List Char → Prop
  | nil : Spells [] []
  | space {c ts cs} : Text.isSpace c = true → Spells ts cs → Spells ts (c :: cs)
  | cons {t c ts cs} : Spelling t c → Spells ts cs → Spells (t :: ts) (c :: cs)

/-- A text that the grammar derives for the formula. -/
def Formula.WrittenAs (f : Formula) (text : String) : Prop :=
  ∃ ts, Derives .sum ts f ∧ Spells ts text.toList

end ReversePolish
