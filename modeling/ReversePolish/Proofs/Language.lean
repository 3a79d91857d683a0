import ReversePolish.Proofs.Conversion.Brackets
import ReversePolish.Proofs.Reading

/-!
# The language that is parsed

Which texts are parsed is told from the characters of the cleaned text: from what it is made of,
how it begins and ends, which characters are neighbours, and how its brackets nest. `parse_outcome`
says this, and what comes of the other texts.
-/

namespace ReversePolish

open Conversion

namespace Expression

def kindOf (c : Char) : Kind := if c.isUpper then .var else (Kind.ofChar? c).getD .const

theorem kindOf_eq {c : Char} {t : Token} (h : token? c = some t) : t.kind = kindOf c := by
  unfold token? at h
  unfold kindOf
  by_cases upper : c.isUpper = true
  · rw [if_pos upper] at h ⊢
    cases h
    rfl
  · rw [if_neg upper] at h ⊢
    cases symbol : Kind.ofChar? c with
    | some k =>
      simp only [symbol] at h
      cases h
      rfl
    | none =>
      simp only [symbol, Option.ite_none_right_eq_some] at h
      obtain ⟨_, ⟨⟩⟩ := h
      rfl

/-- A property of kinds that no operand has is read off the characters of the kinds that have it. -/
theorem kindOf_iff {p : Kind → Bool} (marks : List Char) (var : p .var = false)
    (const : p .const = false)
    (symbols : Kind.symbolChars.all fun c =>
      p ((Kind.ofChar? c).getD .const) == decide (c ∈ marks))
    (only : marks.all fun c => decide (c ∈ Kind.symbolChars) && !c.isUpper) (c : Char) :
    p (kindOf c) = true ↔ c ∈ marks := by
  simp only [List.all_eq_true, beq_iff_eq, Bool.and_eq_true, decide_eq_true_eq,
    Bool.not_eq_true'] at symbols only
  unfold kindOf
  by_cases upper : c.isUpper = true
  · rw [if_pos upper, var]
    simp only [Bool.false_eq_true, false_iff]
    intro mark
    simp [(only c mark).2] at upper
  · rw [if_neg upper]
    by_cases symbol : c ∈ Kind.symbolChars
    · rw [symbols c symbol, decide_eq_true_eq]
    · rw [Kind.ofChar?_eq_none_iff.2 symbol]
      simp only [Option.getD_none, const, Bool.false_eq_true, false_iff]
      exact fun mark => symbol (only c mark).1

theorem cannotStart_kindOf (c : Char) : (kindOf c).cannotStart = true ↔ c ∈ ['.', '+', ')'] :=
  kindOf_iff _ rfl rfl rfl rfl c

theorem cannotEnd_kindOf (c : Char) :
    (kindOf c).cannotEnd = true ↔ c ∈ ['.', '+', '¬', '!', '('] :=
  kindOf_iff _ rfl rfl rfl rfl c

theorem isBinary_kindOf (c : Char) : (kindOf c).isBinary = true ↔ c ∈ ['.', '+'] :=
  kindOf_iff _ rfl rfl rfl rfl c

theorem openPar_kindOf (c : Char) : (kindOf c == .openPar) = true ↔ c = '(' :=
  (kindOf_iff (p := (· == .openPar)) ['('] rfl rfl rfl rfl c).trans List.mem_singleton

theorem closePar_kindOf (c : Char) : (kindOf c == .closePar) = true ↔ c = ')' :=
  (kindOf_iff (p := (· == .closePar)) [')'] rfl rfl rfl rfl c).trans List.mem_singleton

theorem ReadAs.kinds {cs : List Char} {ts : List Token} (h : ReadAs cs ts) :
    ts.map Token.kind = cs.map kindOf := by
  induction h with
  | nil => rfl
  | cons first _ ih => rw [List.map_cons, List.map_cons, kindOf_eq first, ih]

theorem ReadAs.countP_eq {cs : List Char} {ts : List Token} {p : Kind → Bool} {c : Char}
    (h : ReadAs cs ts) (mark : ∀ d, p (kindOf d) = true ↔ d = c) :
    ts.countP (fun t => p t.kind) = cs.count c := by
  have kinds := congrArg (List.countP p) h.kinds
  rw [List.countP_map, List.countP_map] at kinds
  refine kinds.trans (List.countP_congr fun d _ => ?_)
  simp [mark]

/-! ### Texts without faults -/

def Legible (c : Char) : Prop :=
  c.isUpper = true ∨ c ∈ ['0', '1', '¬', '!', '+', '.', '(', ')']

/-- The cleaned texts in which reading finds no fault. -/
structure Faultless (cs : List Char) : Prop where
  nonempty : cs ≠ []
  legible : ∀ c ∈ cs, Legible c
  starts : ∀ c ∈ cs.head?, c ∉ ['.', '+', ')']
  ends : ∀ c ∈ cs.getLast?, c ∉ ['.', '+', '¬', '!', '(']
  apart : cs.IsChain fun l r => ¬ (l ∈ ['.', '+'] ∧ r ∈ ['.', '+'])
  balanced : cs.count '(' = cs.count ')'

/-- The cleaned texts that are parsed: besides, each close bracket has its open one before it. -/
structure Accepted (cs : List Char) : Prop extends Faultless cs where
  nested : ∀ pre, pre <+: cs → pre.count ')' ≤ pre.count '('

theorem legible_iff {c : Char} : Legible c ↔ ∃ t, token? c = some t := by
  unfold token?
  by_cases upper : c.isUpper = true
  · rw [if_pos upper]
    exact iff_of_true (.inl upper) ⟨_, rfl⟩
  · rw [if_neg upper]
    cases symbol : Kind.ofChar? c with
    | some k =>
      have member : c ∈ Kind.symbolChars := by
        rw [← not_not (a := c ∈ _), ← Kind.ofChar?_eq_none_iff, symbol]
        simp
      refine iff_of_true (.inr ?_) ⟨_, rfl⟩
      simp only [Kind.symbolChars] at member
      simp_all
    | none =>
      have absent := Kind.ofChar?_eq_none_iff.1 symbol
      simp_all [Legible, Kind.symbolChars, digits]

theorem readable_iff {cs : List Char} : (∃ ts, ReadAs cs ts) ↔ ∀ c ∈ cs, Legible c := by
  constructor
  · rintro ⟨ts, read⟩
    induction read with
    | nil => simp
    | cons first _ ih => exact List.forall_mem_cons.2 ⟨legible_iff.2 ⟨_, first⟩, ih⟩
  · intro legible
    induction cs with
    | nil => exact ⟨[], .nil⟩
    | cons c cs ih =>
      obtain ⟨first, rest⟩ := List.forall_mem_cons.1 legible
      obtain ⟨t, read⟩ := legible_iff.1 first
      obtain ⟨ts, reads⟩ := ih rest
      exact ⟨t :: ts, .cons read reads⟩

theorem startFault?_read {cs : List Char} {ts : List Token} (read : ReadAs cs ts) :
    startFault? ts = none ↔ cs ≠ [] ∧ ∀ c ∈ cs.head?, c ∉ ['.', '+', ')'] := by
  rw [startFault?_eq_none_iff]
  cases read with
  | nil => simp
  | @cons c t _ _ first _ =>
    simp only [List.head?_cons, Option.mem_def, Option.some.injEq, exists_eq_left', forall_eq',
      kindOf_eq first, ← cannotStart_kindOf]
    simp

theorem endFault?_read {cs : List Char} {ts : List Token} (read : ReadAs cs ts) :
    endFault? ts = none ↔ ∀ c ∈ cs.getLast?, c ∉ ['.', '+', '¬', '!', '('] := by
  have last := congrArg List.getLast? (ReadAs.kinds read)
  rw [List.getLast?_map, List.getLast?_map] at last
  rw [endFault?_eq_none_iff]
  simp only [← cannotEnd_kindOf, Bool.not_eq_true]
  cases ends : ts.getLast? <;> cases ends' : cs.getLast? <;> simp_all

theorem adjacentFault?_read {cs : List Char} {ts : List Token} (read : ReadAs cs ts) :
    adjacentFault? ts = none ↔ cs.IsChain fun l r => ¬ (l ∈ ['.', '+'] ∧ r ∈ ['.', '+']) := by
  rw [adjacentFault?_eq_none_iff,
    ← List.isChain_map (R := fun l r : Kind => ¬ (l.isBinary ∧ r.isBinary)) Token.kind,
    ReadAs.kinds read, List.isChain_map]
  simp only [isBinary_kindOf]

theorem bracketFault?_read {cs : List Char} {ts : List Token} (read : ReadAs cs ts) :
    bracketFault? ts = none ↔ cs.count '(' = cs.count ')' := by
  rw [bracketFault?_eq_none_iff, ← ReadAs.countP_eq (p := (· == .openPar)) read openPar_kindOf,
    ← ReadAs.countP_eq (p := (· == .closePar)) read closePar_kindOf]
  rfl

theorem tokensOfChars_iff {cs : List Char} : (∃ ts, tokensOfChars cs = .ok ts) ↔ Faultless cs := by
  simp only [tokensOfChars_ok_iff]
  constructor
  · rintro ⟨ts, read, faultless⟩
    obtain ⟨starts, ends, apart, balanced⟩ := fault?_eq_none_iff.1 faultless
    obtain ⟨nonempty, starts⟩ := (startFault?_read read).1 starts
    exact ⟨nonempty, readable_iff.1 ⟨ts, read⟩, starts, (endFault?_read read).1 ends,
      (adjacentFault?_read read).1 apart, (bracketFault?_read read).1 balanced⟩
  · rintro ⟨nonempty, legible, starts, ends, apart, balanced⟩
    obtain ⟨ts, read⟩ := readable_iff.2 legible
    exact ⟨ts, read, fault?_eq_none_iff.2 ⟨(startFault?_read read).2 ⟨nonempty, starts⟩,
      (endFault?_read read).2 ends, (adjacentFault?_read read).2 apart,
      (bracketFault?_read read).2 balanced⟩⟩

theorem tokens_error {text : String} {e : Refusal} (h : tokens text = .error e)
    (visible : cleanChars text.toList ≠ []) :
    e.stage = .lexing ∧ e.rule ≠ .emptyExpression ∧ e.rule ≠ .unexpectedToken := by
  rcases tokensOfChars_error h with ⟨c, _, _, rfl⟩ | ⟨ts, read, fault⟩
  · exact ⟨rfl, by simp [Refusal.rule], by simp [Refusal.rule]⟩
  · rcases fault?_cases fault with ⟨rfl, _⟩ | ⟨_, rfl⟩ | ⟨_, rfl⟩ | ⟨_, _, rfl⟩ | rfl
    · exact absurd (List.forall₂_nil_right_iff.1 read) visible
    all_goals exact ⟨rfl, by simp [Refusal.rule], by simp [Refusal.rule]⟩

/-! ### Brackets -/

theorem opened_read {cs : List Char} {ts : List Token} (read : ReadAs cs ts) :
    opened (ts.map .token) = cs.count '(' := by
  rw [← ReadAs.countP_eq (p := (· == .openPar)) read openPar_kindOf, opened, List.countP_map]
  rfl

theorem closed_read {cs : List Char} {ts : List Token} (read : ReadAs cs ts) :
    closed (ts.map .token) = cs.count ')' := by
  rw [← ReadAs.countP_eq (p := (· == .closePar)) read closePar_kindOf, closed, List.countP_map]
  rfl

theorem safe_read {cs : List Char} {ts : List Token} (read : ReadAs cs ts) :
    Safe 0 (ts.map .token) ↔ ∀ pre, pre <+: cs → pre.count ')' ≤ pre.count '(' := by
  have front (n : Nat) : ReadAs (cs.take n) (ts.take n) := List.forall₂_take n read
  constructor
  · intro safe pre h
    rw [List.prefix_iff_eq_take.1 h, ← opened_read (front _), ← closed_read (front _),
      List.map_take]
    simpa using safe.nested _ (List.take_prefix pre.length _)
  · intro nested
    refine ⟨?_, fun pre h => ?_⟩
    · intro e member
      obtain ⟨t, _, rfl⟩ := List.mem_map.1 member
      rfl
    · rw [List.prefix_iff_eq_take.1 h, ← List.map_take, opened_read (front _),
        closed_read (front _), Nat.zero_add]
      exact nested _ (List.take_prefix _ _)

theorem balanced_of_tokens {text : String} {ts : List Token} (h : tokens text = .ok ts) :
    opened (ts.map .token) = closed (ts.map .token) := by
  obtain ⟨read, faultless⟩ := tokensOfChars_ok_iff.1 h
  rw [opened_read read, closed_read read]
  exact (bracketFault?_read read).1 (fault?_eq_none_iff.1 faultless).2.2.2

end Expression

/-! ### Parsing -/

open Expression

theorem parse_of_blank {text : String} (h : cleanChars text.toList = []) : parse text = none := by
  rw [parse, isBlank_iff.2 h]
  rfl

theorem parse_of_visible {text : String} (h : cleanChars text.toList ≠ []) :
    parse text = some (tokens text >>= fun ts => toPostfix (ts.map .token)) := by
  rw [parse, if_neg]
  exact fun blank => h (isBlank_iff.1 blank)

theorem visible_of_tokens {text : String} {ts : List Token} (h : tokens text = .ok ts) :
    cleanChars text.toList ≠ [] := (tokensOfChars_iff.1 ⟨ts, h⟩).nonempty

theorem parse_of_tokens {text : String} {ts : List Token} (h : tokens text = .ok ts) :
    parse text = some (toPostfix (ts.map .token)) := by
  rw [parse_of_visible (visible_of_tokens h), h]
  rfl

theorem clean_eq_empty_iff {text : String} : clean text = "" ↔ cleanChars text.toList = [] := by
  simp [clean]

theorem parse_ok_iff {text : String} :
    (∃ p, parse text = some (.ok p)) ↔ Accepted (cleanChars text.toList) := by
  constructor
  · rintro ⟨p, h⟩
    by_cases blank : cleanChars text.toList = []
    · rw [parse_of_blank blank] at h
      cases h
    · rw [parse_of_visible blank] at h
      obtain ⟨ts, read, converted⟩ := bind_ok_iff.1 (Option.some.inj h)
      have reads := (tokensOfChars_ok_iff.1 read).1
      exact ⟨tokensOfChars_iff.1 ⟨ts, read⟩, (safe_read reads).1 (safe_of_toPostfix converted)⟩
  · rintro ⟨faultless, nested⟩
    obtain ⟨ts, read⟩ := tokensOfChars_iff.2 faultless
    have safe := (safe_read (tokensOfChars_ok_iff.1 read).1).2 nested
    obtain ⟨p, converted⟩ := toPostfix_safe safe (balanced_of_tokens read)
    exact ⟨p, by rw [parse_of_tokens read, converted]⟩

theorem parse_error_cases {text : String} {e : Refusal} (h : parse text = some (.error e)) :
    (tokens text = .error e ∧ cleanChars text.toList ≠ []) ∨
      ∃ ts, tokens text = .ok ts ∧ ¬ Safe 0 (ts.map .token) ∧ e = .unmatchedBracket := by
  by_cases blank : cleanChars text.toList = []
  · rw [parse_of_blank blank] at h
    cases h
  · rw [parse_of_visible blank] at h
    rcases bind_error (Option.some.inj h) with unread | ⟨ts, read, refused⟩
    · exact .inl ⟨unread, blank⟩
    · have misnested : ¬ Safe 0 (ts.map .token) := by
        intro safe
        obtain ⟨p, converted⟩ := toPostfix_safe safe (balanced_of_tokens read)
        rw [converted] at refused
        cases refused
      rw [toPostfix_misnested misnested] at refused
      exact .inr ⟨ts, read, misnested, (Except.error.inj refused).symm⟩

theorem parse_eq_none_iff {text : String} : parse text = none ↔ clean text = "" := by
  rw [clean_eq_empty_iff]
  refine ⟨fun h => ?_, parse_of_blank⟩
  by_contra visible
  rw [parse_of_visible visible] at h
  cases h

/-- The converter refuses a text for a close bracket that has no open one before it. -/
theorem parse_converting_iff {text : String} :
    (∃ e, parse text = some (.error e) ∧ e.stage = .converting) ↔
      (∃ ts, tokens text = .ok ts) ∧
        ∃ pre, pre <+: cleanChars text.toList ∧ pre.count '(' < pre.count ')' := by
  constructor
  · rintro ⟨e, h, stage⟩
    rcases parse_error_cases h with ⟨unread, visible⟩ | ⟨ts, read, misnested, _⟩
    · rw [(tokens_error unread visible).1] at stage
      cases stage
    · rw [safe_read (tokensOfChars_ok_iff.1 read).1] at misnested
      push Not at misnested
      exact ⟨⟨ts, read⟩, misnested⟩
  · rintro ⟨⟨ts, read⟩, pre, h, excess⟩
    have misnested : ¬ Safe 0 (ts.map .token) := by
      rw [safe_read (tokensOfChars_ok_iff.1 read).1]
      exact fun nested => absurd (nested pre h) (Nat.not_le.2 excess)
    exact ⟨_, by rw [parse_of_tokens read, toPostfix_misnested misnested], rfl⟩

theorem parse_error_rule {text : String} {e : Refusal} (h : parse text = some (.error e)) :
    (e.stage = .converting → e.rule = .mismatchedBrackets) ∧ e.rule ≠ .emptyExpression ∧
      e.rule ≠ .unexpectedToken := by
  rcases parse_error_cases h with ⟨unread, visible⟩ | ⟨_, _, _, rfl⟩
  · obtain ⟨stage, rules⟩ := tokens_error unread visible
    refine ⟨fun converting => ?_, rules⟩
    rw [stage] at converting
    cases converting
  · exact ⟨fun _ => rfl, by simp [Refusal.rule], by simp [Refusal.rule]⟩

theorem finish_of_tokens {text : String} {ts : List Token} {s : State}
    (read : tokens text = .ok ts) (ran : run .start (ts.map .token) = .ok s) :
    ∃ p, finish s = .ok p := by
  obtain ⟨s', ran', depth⟩ := run_safe (safe_of_run ran)
  obtain rfl : s = s' := Except.ok.inj (ran.symm.trans ran')
  rw [State.depth_start, balanced_of_tokens read] at depth
  exact ⟨_, (finish_eq s).trans (if_pos (by omega))⟩

/-- What comes of a text, or of none: when it is blank, when it is parsed, and when and how it is
refused. -/
theorem parse_outcome (text : Option String) :
    (text.bind parse = none ↔ ∀ s ∈ text, clean s = "") ∧
    ((∃ p, text.bind parse = some (.ok p)) ↔ ∃ s ∈ text, Accepted (clean s).toList) ∧
    ((∃ e, text.bind parse = some (.error e) ∧ e.stage = .converting) ↔
      ∃ s ∈ text, (∃ ts, tokens s = .ok ts) ∧
        ∃ pre, pre <+: (clean s).toList ∧ pre.count '(' < pre.count ')') ∧
    (∀ e, text.bind parse = some (.error e) →
      (e.stage = .converting → e.rule = .mismatchedBrackets) ∧ e.rule ≠ .emptyExpression ∧
        e.rule ≠ .unexpectedToken) ∧
    ∀ s ∈ text, ∀ ts state, tokens s = .ok ts → run .start (ts.map .token) = .ok state →
      ∃ p, finish state = .ok p := by
  cases text with
  | none => simp
  | some s =>
    simp only [Option.bind_some, Option.mem_def, Option.some.injEq, forall_eq', exists_eq_left',
      clean, String.toList_ofList]
    exact ⟨parse_eq_none_iff, parse_ok_iff, parse_converting_iff, fun _ => parse_error_rule,
      fun _ _ => finish_of_tokens⟩

/-- The first close bracket of this text comes before the open one. -/
theorem parse_outcome_crossed :
    (∃ ts, tokens "a).(b" = .ok ts) ∧ ['A', ')'] <+: (clean "a).(b").toList ∧
    ∃ e, parse "a).(b" = some (.error e) ∧ e.stage = .converting ∧
      e.rule = .mismatchedBrackets := by
  have crossed : ['A', ')'] <+: (clean "a).(b").toList := ⟨['.', '(', 'B'], rfl⟩
  obtain ⟨_, _, converting, rules, _⟩ := parse_outcome (some "a).(b")
  obtain ⟨e, refused, stage⟩ := converting.2 ⟨_, rfl, ⟨_, rfl⟩, _, crossed, by decide⟩
  exact ⟨⟨_, rfl⟩, crossed, e, refused, stage, (rules e refused).1 stage⟩

end ReversePolish
