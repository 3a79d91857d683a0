import ReversePolish.Proofs.Parsing
import ReversePolish.Proofs.Phrases

/-!
# Texts that are expressions

Reading and conversion refuse few texts: two operands without an operator between them, or an
operator without its operand beside a bracket, are let through. Among the texts that are parsed, the
expressions are those whose neighbours all fit, and these have well-formed postfix forms, while each
pair that does not fit occurs in a text whose postfix form is not: `parse_wellFormed`.
-/

namespace ReversePolish

open Conversion Expression

/-- Two characters may be neighbours in a cleaned expression: what cannot start an expression comes
just after what can end one. -/
def Fitting (l r : Char) : Prop := l ∈ ['.', '+', '¬', '!', '('] ↔ r ∉ ['.', '+', ')']

instance (l r : Char) : Decidable (Fitting l r) := inferInstanceAs (Decidable (_ ↔ _))

theorem fitting_iff {l r : Char} : Fitting l r ↔ (kindOf l).Fits (kindOf r) := by
  unfold Fitting Kind.Fits
  rw [← cannotEnd_kindOf, ← cannotStart_kindOf]
  cases (kindOf l).cannotEnd <;> cases (kindOf r).cannotStart <;> decide

theorem fitting_read {cs : List Char} {ts : List Token} (read : ReadAs cs ts) :
    cs.IsChain Fitting ↔ (ts.map Token.kind).IsChain Kind.Fits := by
  rw [ReadAs.kinds read, List.isChain_map]
  exact ⟨fun chain => chain.imp fun _ _ => fitting_iff.1,
    fun chain => chain.imp fun _ _ => fitting_iff.2⟩

theorem Spells.spelled {ts : List Token} {cs : List Char} (h : Spells ts cs) :
    ∀ t ∈ ts, ∃ c, Spelling t c := by
  induction h with
  | nil => simp
  | space _ _ ih => exact ih
  | cons spelling _ ih => exact List.forall_mem_cons.2 ⟨⟨_, spelling⟩, ih⟩

/-- Tokens of a text that are converted and whose neighbours fit are a phrase. -/
theorem derives_of_fits {text : String} {ts : List Token} (read : tokens text = .ok ts)
    (safe : Safe 0 (ts.map .token)) (fits : (ts.map Token.kind).IsChain Kind.Fits) :
    ∃ f, Derives .sum ts f := by
  obtain ⟨spells, faultless⟩ := tokens_ok_iff.1 read
  obtain ⟨starts, ends, _, _⟩ := fault?_eq_none_iff.1 faultless
  obtain ⟨first, head, starts⟩ := startFault?_eq_none_iff.1 starts
  rw [endFault?_eq_none_iff] at ends
  apply exists_derives
  -- a text begins as what comes after an open bracket does
  refine continues_of_fits (l := .openPar) spells.spelled ?_ ?_ safe ?_
  · rw [List.isChain_cons]
    refine ⟨?_, fits⟩
    simp_all [Kind.Fits, Kind.cannotEnd]
  · intro k last
    obtain ⟨rest, rfl⟩ := List.head?_eq_some_iff.1 head
    rw [List.map_cons, List.getLast?_cons_cons, ← List.map_cons, List.getLast?_map] at last
    obtain ⟨t, final, rfl⟩ := Option.map_eq_some_iff.1 last
    exact ends t final
  · rw [Nat.zero_add]
    exact balanced_of_tokens read

theorem tokens_of_parse {text : String} {p : List Token} (h : parse text = some (.ok p)) :
    ∃ ts, tokens text = .ok ts ∧ Safe 0 (ts.map .token) := by
  obtain ⟨faultless, nested⟩ := parse_ok_iff.1 ⟨p, h⟩
  obtain ⟨ts, read⟩ := tokensOfChars_iff.2 faultless
  exact ⟨ts, read, (safe_read (tokensOfChars_ok_iff.1 read).1).2 nested⟩

/-- Of the texts that are parsed, the grammar derives those whose neighbours fit. -/
theorem writtenAs_iff {text : String} {p : List Token} (h : parse text = some (.ok p)) :
    (∃ f : Formula, f.WrittenAs text) ↔ (clean text).toList.IsChain Fitting := by
  rw [clean, String.toList_ofList]
  obtain ⟨ts, read, safe⟩ := tokens_of_parse h
  have reads := (tokensOfChars_ok_iff.1 read).1
  constructor
  · rintro ⟨f, us, derives, spells⟩
    rw [fitting_read (spells_iff.1 spells)]
    exact derives.joined.fits
  · intro chain
    obtain ⟨f, derives⟩ := derives_of_fits read safe ((fitting_read reads).1 chain)
    exact ⟨f, ts, derives, (tokens_ok_iff.1 read).1⟩

theorem wellFormed_of_writtenAs {text : String} {p : List Token} {f : Formula}
    (h : parse text = some (.ok p)) (written : f.WrittenAs text) : Postfix.WellFormed p := by
  rw [written.parse_eq] at h
  cases h
  exact Postfix.wellFormed_postorder f

/-! ### Neighbours that do not fit -/

theorem cleanChars_legible {cs : List Char} (h : ∀ c ∈ cs, Legible c) : cleanChars cs = cs := by
  have unchanged {c : Char} (legible : Legible c) :
      c.toUpper = c ∧ Text.isSpace c = false := by
    rcases legible with upper | symbol
    · have spelling := Spelling.capital ⟨c, upper⟩
      exact ⟨Letter.toUpper_capital ⟨c, upper⟩, not_space_of_spelling spelling⟩
    · simp only [List.mem_cons, List.not_mem_nil, or_false] at symbol
      rcases symbol with rfl | rfl | rfl | rfl | rfl | rfl | rfl | rfl <;> exact ⟨rfl, rfl⟩
  rw [cleanChars_eq, List.filter_eq_self.2 fun c member => by simp [(unchanged (h c member)).2]]
  have same := List.map_congr_left fun c member => (unchanged (h c member)).1
  exact same.trans (List.map_id' cs)

/-- Between `leading` and `trailing` characters two neighbours make a text that no rule refuses. -/
def leading : Kind → List Char
  | .and | .or | .closePar => ['(', 'A']
  | .not => ['(']
  | _ => []

def trailing : Kind → List Char
  | .and | .or | .openPar => ['A', ')']
  | .not => ['A']
  | _ => []

theorem leading_read (k : Kind) : ReadAs (leading k) ((leading k).filterMap token?) := by
  cases k <;> exact mapM_readChar_ok_iff.1 rfl

theorem trailing_read (k : Kind) : ReadAs (trailing k) ((trailing k).filterMap token?) := by
  cases k <;> exact mapM_readChar_ok_iff.1 rfl

theorem leading_fits (l : Char) : (leading (kindOf l) ++ [l]).IsChain Fitting := by
  have fits : ∀ k, ((leading k).map kindOf ++ [k]).IsChain Kind.Fits := by
    intro k
    cases k <;> decide
  have chain := fits (kindOf l)
  rw [← List.map_singleton, ← List.map_append, List.isChain_map] at chain
  exact chain.imp fun _ _ => fitting_iff.2

theorem trailing_fits (r : Char) : (r :: trailing (kindOf r)).IsChain Fitting := by
  have fits : ∀ k, (k :: (trailing k).map kindOf).IsChain Kind.Fits := by
    intro k
    cases k <;> decide
  have chain := fits (kindOf r)
  rw [← List.map_cons, List.isChain_map] at chain
  exact chain.imp fun _ _ => fitting_iff.2

/-- No rule forbids two such neighbours, and either a value is left over or one is lacking. -/
theorem toPostfix_misfit {k k' : Kind} (misfit : ¬ k.Fits k')
    (apart : ¬ (k.isBinary ∧ k'.isBinary)) (v w : Option String) :
    let ts := (leading k).filterMap token? ++ ⟨k, v⟩ :: ⟨k', w⟩ :: (trailing k').filterMap token?
    fault? ts = none ∧ ∃ p, toPostfix (ts.map .token) = .ok p ∧ ¬ Postfix.WellFormed p := by
  cases k <;> cases k' <;> first
    | exact absurd (by decide) misfit
    | exact absurd (by decide) apart
    | exact ⟨rfl, _, rfl, by rintro ⟨⟩⟩

theorem parse_misfit {l r : Char} (hl : Legible l) (hr : Legible r) (misfit : ¬ Fitting l r)
    (apart : ¬ (l ∈ ['.', '+'] ∧ r ∈ ['.', '+'])) :
    ∃ p, parse (String.ofList (leading (kindOf l) ++ l :: r :: trailing (kindOf r))) =
      some (.ok p) ∧ ¬ Postfix.WellFormed p := by
  obtain ⟨⟨k, v⟩, first⟩ := legible_iff.1 hl
  obtain ⟨⟨k', w⟩, second⟩ := legible_iff.1 hr
  rw [fitting_iff, ← kindOf_eq first, ← kindOf_eq second] at misfit
  rw [← isBinary_kindOf, ← isBinary_kindOf, ← kindOf_eq first, ← kindOf_eq second] at apart
  rw [← kindOf_eq first, ← kindOf_eq second]
  obtain ⟨faultless, p, converted, illFormed⟩ := toPostfix_misfit misfit apart v w
  refine ⟨p, ?_, illFormed⟩
  have read := List.rel_append (leading_read k) (.cons first (.cons second (trailing_read k')))
  have tokens := tokensOfChars_ok_iff.2 ⟨read, faultless⟩
  rw [← cleanChars_legible (readable_iff.1 ⟨_, read⟩)] at tokens
  rw [← converted]
  apply parse_of_tokens
  rwa [Expression.tokens, String.toList_ofList]

/-- A text that is parsed has a well-formed postfix form if all neighbours fit, and just then the
grammar derives it. Nothing less will do: whatever pair does not fit and is not refused, there is a
text with no other such pair whose postfix form is not well-formed. -/
theorem parse_wellFormed :
    (∀ text p, parse text = some (.ok p) →
      ((clean text).toList.IsChain Fitting → Postfix.WellFormed p) ∧
      ((clean text).toList.IsChain Fitting ↔ ∃ f : Formula, f.WrittenAs text)) ∧
    ∀ l r, Legible l → Legible r → ¬ Fitting l r → ¬ (l ∈ ['.', '+'] ∧ r ∈ ['.', '+']) →
      ∃ front back p, (front ++ [l]).IsChain Fitting ∧ (r :: back).IsChain Fitting ∧
        parse (String.ofList (front ++ l :: r :: back)) = some (.ok p) ∧
        ¬ Postfix.WellFormed p := by
  constructor
  · intro text p parsed
    have written := writtenAs_iff parsed
    refine ⟨fun chain => ?_, written.symm⟩
    obtain ⟨f, derived⟩ := written.2 chain
    exact wellFormed_of_writtenAs parsed derived
  · intro l r hl hr misfit apart
    obtain ⟨p, parsed, illFormed⟩ := parse_misfit hl hr misfit apart
    exact ⟨_, _, p, leading_fits l, trailing_fits r, parsed, illFormed⟩

theorem parse_wellFormed_nested :
    parse "a.(b+!c)" = some (.ok [.letter ⟨'A', rfl⟩, .letter ⟨'B', rfl⟩, .letter ⟨'C', rfl⟩,
      .plain .not, .plain .or, .plain .and]) ∧
    (clean "a.(b+!c)").toList.IsChain Fitting ∧
    Postfix.WellFormed [.letter ⟨'A', rfl⟩, .letter ⟨'B', rfl⟩, .letter ⟨'C', rfl⟩, .plain .not,
      .plain .or, .plain .and] ∧
    Legible ')' ∧ Legible '(' ∧ ¬ Fitting ')' '(' ∧
    ∃ front back p, (front ++ [')']).IsChain Fitting ∧ ('(' :: back).IsChain Fitting ∧
      parse (String.ofList (front ++ ')' :: '(' :: back)) = some (.ok p) ∧
      ¬ Postfix.WellFormed p := by
  have chain : (clean "a.(b+!c)").toList.IsChain Fitting := by
    rw [show clean "a.(b+!c)" = "A.(B+!C)" from rfl]
    decide
  refine ⟨rfl, chain, (parse_wellFormed.1 "a.(b+!c)" _ rfl).1 chain, .inr (by decide),
    .inr (by decide), by decide, ?_⟩
  exact parse_wellFormed.2 ')' '(' (.inr (by decide)) (.inr (by decide)) (by decide) (by decide)

/-- Two operands side by side are parsed, and leave two values. -/
theorem parse_illFormed : ¬ ∀ text p, parse text = some (.ok p) → Postfix.WellFormed p := by
  intro wellFormed
  have two : parse "AB" = some (.ok [.letter ⟨'A', rfl⟩, .letter ⟨'B', rfl⟩]) := rfl
  exact absurd (wellFormed _ _ two) (by decide)

end ReversePolish
