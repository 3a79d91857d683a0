import Mathlib
import ReversePolish.Expression
import ReversePolish.Proofs.Grammar

/-!
# Reading texts

Cleaning a text and reading its characters one by one gives exactly the tokens that the text spells,
`spells_iff`. `tokens_ok_iff` adds what the rules of `fault?` ask of them: how a list begins and
ends, which tokens are neighbours, and how many brackets there are of each sort.
-/

namespace ReversePolish

/-! ### Characters -/

theorem not_alpha_of_space {c : Char} (h : Text.isSpace c = true) : c.isAlpha = false := by
  simp only [Text.isSpace, Bool.or_eq_true, Bool.and_eq_true, decide_eq_true_eq, beq_iff_eq] at h
  simp only [Char.isAlpha, Char.isUpper, Char.isLower, Bool.or_eq_false_iff, Bool.and_eq_false_iff,
    decide_eq_false_iff_not, ge_iff_le, UInt32.le_iff_toNat_le]
  change ¬ (65 ≤ c.toNat ∧ c.toNat ≤ 90) ∧ (¬ 97 ≤ c.toNat ∨ ¬ c.toNat ≤ 122)
  omega

namespace Letter

theorem toUpper_capital (c : Letter) : c.1.toUpper = c.1 :=
  Char.toUpper_eq_of_not_isLower (Char.not_isLower_of_isUpper c.2)

theorem toUpper_small (c : Letter) : c.1.toLower.toUpper = c.1 := by
  rw [Char.toUpper_toLower_eq_toUpper, toUpper_capital]

theorem exists_of_lower {c : Char} (h : c.isLower = true) : ∃ l : Letter, l.1.toLower = c := by
  refine ⟨⟨c.toUpper, by simp [Char.isAlpha, h]⟩, ?_⟩
  rw [Char.toLower_toUpper_eq_toLower]
  exact Char.toLower_eq_of_not_isUpper (Char.not_isUpper_of_isLower h)

theorem token? (c : Letter) : Expression.token? c.1 = some (.letter c) := by
  simp only [Expression.token?, c.2, if_true]
  rfl

end Letter

namespace Expression

theorem spelling_of_ofChar? {c : Char} {k : Kind} (h : Kind.ofChar? c = some k) :
    Spelling (.plain k) c := by
  unfold Kind.ofChar? at h
  split at h <;> cases h <;> constructor

theorem spelling_of_digit {c : Char} (h : c ∈ digits) :
    Spelling (.const (some (String.singleton c))) c := by
  rcases List.mem_cons.1 h with rfl | h
  · exact .digit false
  · rw [List.mem_singleton.1 h]
    exact .digit true

/-- A character is read as the token that it spells, once it is capitalised. -/
theorem spelling_iff {t : Token} {c : Char} : Spelling t c ↔ token? c.toUpper = some t := by
  constructor
  · intro h
    cases h with
    | capital c => rw [c.toUpper_capital, c.token?]
    | small c => rw [c.toUpper_small, c.token?]
    | digit b => cases b <;> rfl
    | _ => rfl
  · intro h
    by_cases lower : c.isLower = true
    · obtain ⟨l, rfl⟩ := Letter.exists_of_lower lower
      rw [l.toUpper_small, l.token?] at h
      exact Option.some.inj h ▸ .small l
    · rw [Char.toUpper_eq_of_not_isLower lower] at h
      by_cases upper : c.isUpper = true
      · have same := (Letter.token? ⟨c, upper⟩).symm.trans h
        exact Option.some.inj same ▸ .capital ⟨c, upper⟩
      · rw [token?, if_neg upper] at h
        cases symbol : Kind.ofChar? c with
        | some k =>
          simp only [symbol, Option.some.injEq] at h
          exact h ▸ spelling_of_ofChar? symbol
        | none =>
          simp only [symbol, Option.ite_none_right_eq_some, Option.some.injEq] at h
          exact h.2 ▸ spelling_of_digit h.1

theorem not_space_of_spelling {t : Token} {c : Char} (h : Spelling t c) :
    Text.isSpace c = false := by
  rw [← Bool.not_eq_true]
  intro space
  have alpha := not_alpha_of_space space
  cases h with
  | capital c => simp [Char.isAlpha, c.2] at alpha
  | small c => simp [Char.isAlpha, c.2] at alpha
  | digit b => cases b <;> cases space
  | _ => cases space

/-! ### Texts -/

/-- The characters are those of the tokens, one for each. -/
abbrev ReadAs (cs : List Char) (ts : List Token) : Prop :=
  List.Forall₂ (fun c t => token? c = some t) cs ts

theorem cleanChars_space {c : Char} (cs : List Char) (h : Text.isSpace c = true) :
    cleanChars (c :: cs) = cleanChars cs := by
  simp [cleanChars_eq, h]

theorem cleanChars_cons {c : Char} (cs : List Char) (h : Text.isSpace c = false) :
    cleanChars (c :: cs) = c.toUpper :: cleanChars cs := by
  simp [cleanChars_eq, h]

theorem cleanChars_eq_nil_iff {cs : List Char} :
    cleanChars cs = [] ↔ ∀ c ∈ cs, Text.isSpace c = true := by
  simp [cleanChars_eq]

/-- A text is blank when nothing is left of it once it is cleaned. -/
theorem isBlank_iff {cs : List Char} : Text.isBlank cs = true ↔ cleanChars cs = [] := by
  rw [cleanChars_eq_nil_iff]
  simp only [Text.isBlank, Text.trim, Text.trimEnd, List.isEmpty_iff, List.reverse_eq_nil_iff,
    List.dropWhile_eq_nil_iff, List.mem_reverse]
  constructor
  · intro blank c member
    rw [← List.takeWhile_append_dropWhile (p := Text.isSpace) (l := cs)] at member
    rcases List.mem_append.1 member with front | rest
    · exact List.mem_takeWhile_imp front
    · exact blank c rest
  · intro blank c rest
    exact blank c ((List.dropWhile_sublist _).subset rest)

theorem filter_dropWhile_space (cs : List Char) :
    (cs.dropWhile Text.isSpace).filter (!Text.isSpace ·) = cs.filter (!Text.isSpace ·) := by
  induction cs with
  | nil => rfl
  | cons c cs ih =>
    cases space : Text.isSpace c with
    | true => simp [space, ih]
    | false => simp [space]

theorem cleanChars_trim (cs : List Char) : cleanChars (Text.trim cs) = cleanChars cs := by
  rw [cleanChars_eq, cleanChars_eq, Text.trim, Text.trimEnd, List.filter_reverse,
    filter_dropWhile_space, List.filter_reverse, List.reverse_reverse, filter_dropWhile_space]

theorem isBlank_trim (cs : List Char) : Text.isBlank (Text.trim cs) = Text.isBlank cs := by
  rw [Bool.eq_iff_iff, isBlank_iff, isBlank_iff, cleanChars_trim]

theorem spells_iff {ts : List Token} {cs : List Char} :
    Spells ts cs ↔ ReadAs (cleanChars cs) ts := by
  constructor
  · intro h
    induction h with
    | nil => exact .nil
    | space space _ ih => rwa [cleanChars_space _ space]
    | cons spelling _ ih =>
      rw [cleanChars_cons _ (not_space_of_spelling spelling)]
      exact .cons (spelling_iff.1 spelling) ih
  · intro h
    induction cs generalizing ts with
    | nil =>
      cases h
      exact .nil
    | cons c cs ih =>
      by_cases space : Text.isSpace c = true
      · rw [cleanChars_space _ space] at h
        exact .space space (ih h)
      · rw [cleanChars_cons _ (by simpa using space)] at h
        cases h with
        | cons first rest => exact .cons (spelling_iff.2 first) (ih rest)

theorem readChar_ok_iff {c : Char} {t : Token} : readChar c = .ok t ↔ token? c = some t := by
  unfold readChar
  split <;> simp_all

theorem mapM_readChar_ok_iff {cs : List Char} {ts : List Token} :
    cs.mapM readChar = .ok ts ↔ ReadAs cs ts := by
  induction cs generalizing ts with
  | nil => cases ts <;> simp [pure, Except.pure]
  | cons c cs ih =>
    rw [List.mapM_cons, bind_ok_iff]
    constructor
    · rintro ⟨t, first, h⟩
      obtain ⟨rest, tail, h⟩ := bind_ok_iff.1 h
      cases h
      exact .cons (readChar_ok_iff.1 first) (ih.1 tail)
    · rintro (_ | ⟨first, tail⟩)
      refine ⟨_, readChar_ok_iff.2 first, ?_⟩
      rw [ih.2 tail]
      rfl

theorem mapM_readChar_error {cs : List Char} {e : Refusal} (h : cs.mapM readChar = .error e) :
    ∃ c ∈ cs, token? c = none ∧ e = .invalidCharacter (.datum (.text (String.singleton c))) := by
  induction cs with
  | nil => cases h
  | cons c cs ih =>
    rw [List.mapM_cons] at h
    rcases bind_error h with first | ⟨t, _, h⟩
    · refine ⟨c, List.mem_cons_self, ?_⟩
      unfold readChar at first
      split at first <;> cases first
      exact ⟨by assumption, rfl⟩
    · rcases bind_error h with tail | ⟨_, _, h⟩
      · obtain ⟨d, member, unread⟩ := ih tail
        exact ⟨d, List.mem_cons_of_mem _ member, unread⟩
      · cases h

/-! ### Rules -/

theorem startFault?_eq_none_iff {ts : List Token} :
    startFault? ts = none ↔ ∃ t ∈ ts.head?, t.kind.cannotStart = false := by
  unfold startFault?
  cases ts.head? <;> simp

theorem endFault?_eq_none_iff {ts : List Token} :
    endFault? ts = none ↔ ∀ t ∈ ts.getLast?, t.kind.cannotEnd = false := by
  unfold endFault?
  cases ts.getLast? <;> simp

theorem adjacentFault?_eq_none_iff {ts : List Token} :
    adjacentFault? ts = none ↔ ts.IsChain fun l r => ¬ (l.kind.isBinary ∧ r.kind.isBinary) := by
  fun_induction adjacentFault? ts with
  | case1 l r rest binary => simp_all
  | case2 l r rest binary ih => simp_all [List.isChain_cons_cons]
  | case3 ts short =>
    match ts, short with
    | [], _ => simp
    | [_], _ => simp
    | l :: r :: rest, short => exact (short l r rest rfl).elim

theorem bracketFault?_eq_none_iff {ts : List Token} :
    bracketFault? ts = none ↔
      ts.countP (·.kind = .openPar) = ts.countP (·.kind = .closePar) := by
  simp [bracketFault?]

theorem fault?_eq_none_iff {ts : List Token} :
    fault? ts = none ↔ startFault? ts = none ∧ endFault? ts = none ∧ adjacentFault? ts = none ∧
      bracketFault? ts = none := by
  simp [fault?, and_assoc]

theorem adjacentFault?_cases {ts : List Token} {e : Refusal} (h : adjacentFault? ts = some e) :
    ∃ l r : Kind, e = .adjacentOperators l r := by
  fun_induction adjacentFault? ts with
  | case1 l r rest binary => exact ⟨_, _, (Option.some.inj h).symm⟩
  | case2 l r rest binary ih => exact ih h
  | case3 ts short => cases h

theorem fault?_cases {ts : List Token} {e : Refusal} (h : fault? ts = some e) :
    (ts = [] ∧ e = .emptyExpression) ∨ (∃ k : Kind, e = .invalidStart k) ∨
      (∃ k : Kind, e = .invalidEnd k) ∨ (∃ l r : Kind, e = .adjacentOperators l r) ∨
      e = .unequalBrackets := by
  simp only [fault?, Option.or_eq_some_iff] at h
  rcases h with ((h | ⟨_, h⟩) | ⟨_, h⟩) | ⟨_, h⟩
  · unfold startFault? at h
    split at h
    · next empty => exact .inl ⟨List.head?_eq_none_iff.1 empty, (Option.some.inj h).symm⟩
    · split at h <;> cases h
      exact .inr (.inl ⟨_, rfl⟩)
  · unfold endFault? at h
    split at h
    · cases h
    · split at h <;> cases h
      exact .inr (.inr (.inl ⟨_, rfl⟩))
  · exact .inr (.inr (.inr (.inl (adjacentFault?_cases h))))
  · unfold bracketFault? at h
    split at h <;> cases h
    exact .inr (.inr (.inr (.inr rfl)))

theorem tokensOfChars_ok_iff {cs : List Char} {ts : List Token} :
    tokensOfChars cs = .ok ts ↔ ReadAs cs ts ∧ fault? ts = none := by
  rw [tokensOfChars, bind_ok_iff, ← mapM_readChar_ok_iff]
  constructor
  · rintro ⟨us, read, h⟩
    split at h <;> cases h
    exact ⟨read, by assumption⟩
  · rintro ⟨read, faultless⟩
    exact ⟨ts, read, by rw [faultless]⟩

/-- An expression is read as the tokens that it spells, if no rule forbids them. -/
theorem tokens_ok_iff {text : String} {ts : List Token} :
    tokens text = .ok ts ↔ Spells ts text.toList ∧ fault? ts = none := by
  rw [tokens, tokensOfChars_ok_iff, spells_iff]

theorem tokensOfChars_error {cs : List Char} {e : Refusal} (h : tokensOfChars cs = .error e) :
    (∃ c ∈ cs, token? c = none ∧ e = .invalidCharacter (.datum (.text (String.singleton c)))) ∨
      ∃ ts, ReadAs cs ts ∧ fault? ts = some e := by
  rcases bind_error h with unread | ⟨ts, read, h⟩
  · exact .inl (mapM_readChar_error unread)
  · split at h <;> cases h
    exact .inr ⟨ts, mapM_readChar_ok_iff.1 read, by assumption⟩

end Expression

end ReversePolish
