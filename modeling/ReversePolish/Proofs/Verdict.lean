import ReversePolish.Proofs.Language

/-!
# What is told of a text

A text may break several rules at once, and in several places. What is told is the first character
that no token is written with, else the first rule of the list of tokens in a fixed order, at the
leftmost place: `tokens_verdict` says exactly which refusal that is, in all that is told of it, and
which tokens there are if there is none.
-/

namespace ReversePolish

/-- All that is told of a refusal. -/
structure Report where
  stage : Stage
  rule : Rule
  message : String
  detail : Subject
  deriving DecidableEq, Repr

def Refusal.report (e : Refusal) : Report := ⟨e.stage, e.rule, e.message, e.detail⟩

namespace Expression

/-! ### Verdicts -/

/-- The token that a character of a cleaned text is. -/
inductive Stands : Char → Token → Prop
  | letter {c : Char} : c.isUpper = true → Stands c ⟨.var, some (String.singleton c)⟩
  | digit {c : Char} : c ∈ ['0', '1'] → Stands c ⟨.const, some (String.singleton c)⟩
  | symbol {c : Char} {k : Kind} : (c, k) ∈ [('¬', .not), ('!', .not), ('+', .or), ('.', .and),
      ('(', .openPar), (')', .closePar)] → Stands c ⟨k, none⟩

def BeginsWell (ts : List Token) : Prop :=
  ∀ t ∈ ts.head?, t.kind ∉ [Kind.closePar, .and, .or]

def EndsWell (ts : List Token) : Prop :=
  ∀ t ∈ ts.getLast?, t.kind ∉ [Kind.openPar, .and, .or, .not]

/-- No two neighbours are both binary operators. -/
def Apart (ts : List Token) : Prop :=
  ts.IsChain fun l r => ¬ (l.kind ∈ [Kind.and, .or] ∧ r.kind ∈ [Kind.and, .or])

def Even (ts : List Token) : Prop :=
  ts.countP (·.kind = .openPar) = ts.countP (·.kind = .closePar)

/-- What is told of a list of tokens: the first rule that it breaks, at the leftmost place. -/
inductive Complaint : List Token → Report → Prop
  | empty : Complaint [] ⟨.lexing, .emptyExpression, "Expression is empty", .datum .null⟩
  | start {t : Token} {ts : List Token} : t.kind ∈ [Kind.closePar, .and, .or] →
      Complaint (t :: ts)
        ⟨.lexing, .invalidStart, "Expressions cannot start with: " ++ t.kind.name, .kind t.kind⟩
  | stop {t : Token} {ts : List Token} : BeginsWell (ts ++ [t]) →
      t.kind ∈ [Kind.openPar, .and, .or, .not] →
      Complaint (ts ++ [t])
        ⟨.lexing, .invalidEnd, "Expressions cannot end with: " ++ t.kind.name, .kind t.kind⟩
  | adjacent {pre post : List Token} {l r : Token} : BeginsWell (pre ++ l :: r :: post) →
      EndsWell (pre ++ l :: r :: post) → Apart (pre ++ [l]) → l.kind ∈ [Kind.and, .or] →
      r.kind ∈ [Kind.and, .or] →
      Complaint (pre ++ l :: r :: post) ⟨.lexing, .adjacentOperators,
        l.kind.name ++ " cannot be next to " ++ r.kind.name, .kind l.kind⟩
  | brackets {ts : List Token} : ts ≠ [] → BeginsWell ts → EndsWell ts → Apart ts → ¬ Even ts →
      Complaint ts ⟨.lexing, .mismatchedBrackets, "Mismatched brackets", .datum .null⟩

/-- What comes of a cleaned text: a report on its first illegible character, or on the tokens that its
characters are, or these tokens. -/
inductive Verdict : List Char → Except Report (List Token) → Prop
  | illegible {pre post : List Char} {c : Char} : (∀ d ∈ pre, Legible d) → ¬ Legible c →
      Verdict (pre ++ c :: post) (.error ⟨.lexing, .invalidCharacter,
        "Invalid character found: " ++ String.singleton c, .datum (.text (String.singleton c))⟩)
  | refused {cs : List Char} {ts : List Token} {r : Report} : List.Forall₂ Stands cs ts →
      Complaint ts r → Verdict cs (.error r)
  | read {cs : List Char} {ts : List Token} : List.Forall₂ Stands cs ts → ts ≠ [] →
      BeginsWell ts → EndsWell ts → Apart ts → Even ts → Verdict cs (.ok ts)

/-! ### Characters -/

theorem stands_iff {c : Char} {t : Token} : Stands c t ↔ token? c = some t := by
  constructor
  · intro h
    cases h with
    | letter upper => rw [token?, if_pos upper]; rfl
    | digit one =>
      simp only [List.mem_cons, List.not_mem_nil, or_false] at one
      rcases one with rfl | rfl <;> rfl
    | symbol pair =>
      simp only [List.mem_cons, Prod.mk.injEq, List.not_mem_nil, or_false] at pair
      rcases pair with ⟨rfl, rfl⟩ | ⟨rfl, rfl⟩ | ⟨rfl, rfl⟩ | ⟨rfl, rfl⟩ | ⟨rfl, rfl⟩ | ⟨rfl, rfl⟩ <;> rfl
  · intro h
    unfold token? at h
    by_cases upper : c.isUpper = true
    · rw [if_pos upper] at h
      cases h
      exact .letter upper
    · rw [if_neg upper] at h
      cases symbol : Kind.ofChar? c with
      | some k =>
        rw [symbol] at h
        cases h
        refine .symbol ?_
        unfold Kind.ofChar? at symbol
        split at symbol <;> cases symbol <;> decide
      | none =>
        simp only [symbol, Option.ite_none_right_eq_some, Option.some.injEq] at h
        obtain ⟨digit, rfl⟩ := h
        exact .digit digit

theorem forall₂_stands {cs : List Char} {ts : List Token} :
    List.Forall₂ Stands cs ts ↔ ReadAs cs ts := by
  have same : Stands = fun c t => token? c = some t := by
    funext c t
    exact propext stands_iff
  rw [same]

theorem mapM_readChar_illegible {pre : List Char} {c : Char} (legible : ∀ d ∈ pre, Legible d)
    (h : ¬ Legible c) (post : List Char) : (pre ++ c :: post).mapM readChar =
      .error (.invalidCharacter (.datum (.text (String.singleton c)))) := by
  have unread : readChar c = .error (.invalidCharacter (.datum (.text (String.singleton c)))) := by
    unfold readChar
    split
    · exact absurd (legible_iff.2 ⟨_, ‹_›⟩) h
    · rfl
  obtain ⟨ts, read⟩ := readable_iff.2 legible
  rw [List.mapM_append, mapM_readChar_ok_iff.2 read, List.mapM_cons, unread]
  rfl

/-- Reading goes on up to the first illegible character. -/
theorem exists_illegible {cs : List Char} (h : ¬ ∀ c ∈ cs, Legible c) :
    ∃ pre c post, cs = pre ++ c :: post ∧ (∀ d ∈ pre, Legible d) ∧ ¬ Legible c := by
  induction cs with
  | nil => simp at h
  | cons c cs ih =>
    by_cases first : Legible c
    · rw [List.forall_mem_cons, not_and] at h
      obtain ⟨pre, d, post, rfl, legible, illegible⟩ := ih (h first)
      exact ⟨c :: pre, d, post, rfl, List.forall_mem_cons.2 ⟨first, legible⟩, illegible⟩
    · exact ⟨[], c, cs, rfl, by simp, first⟩

/-! ### Rules -/

theorem cannotStart_iff {k : Kind} : k.cannotStart = true ↔ k ∈ [Kind.closePar, .and, .or] := by
  cases k <;> decide

theorem cannotEnd_iff {k : Kind} : k.cannotEnd = true ↔ k ∈ [Kind.openPar, .and, .or, .not] := by
  cases k <;> decide

theorem isBinary_iff {k : Kind} : k.isBinary = true ↔ k ∈ [Kind.and, .or] := by
  cases k <;> decide

section

variable {ts : List Token} {e : Refusal}

theorem startFault?_none : startFault? ts = none ↔ ts ≠ [] ∧ BeginsWell ts := by
  rw [startFault?_eq_none_iff, BeginsWell]
  simp only [← cannotStart_iff, Bool.not_eq_true]
  cases ts <;> simp

theorem endFault?_none : endFault? ts = none ↔ EndsWell ts := by
  simp only [endFault?_eq_none_iff, EndsWell, ← cannotEnd_iff, Bool.not_eq_true]

theorem adjacentFault?_none : adjacentFault? ts = none ↔ Apart ts := by
  simp only [adjacentFault?_eq_none_iff, Apart, isBinary_iff]

theorem startFault?_some : startFault? ts = some e ↔ (ts = [] ∧ e = .emptyExpression) ∨
    ∃ t rest, ts = t :: rest ∧ t.kind ∈ [Kind.closePar, .and, .or] ∧ e = .invalidStart t.kind := by
  simp only [← cannotStart_iff, eq_comm (a := e)]
  cases ts <;> simp [startFault?]

theorem endFault?_some : endFault? ts = some e ↔ ∃ front t, ts = front ++ [t] ∧
    t.kind ∈ [Kind.openPar, .and, .or, .not] ∧ e = .invalidEnd t.kind := by
  simp only [← cannotEnd_iff, eq_comm (a := e)]
  rcases List.eq_nil_or_concat ts with rfl | ⟨front, t, rfl⟩ <;> simp [endFault?]

/-- The leftmost pair is found. -/
theorem adjacentFault?_some : adjacentFault? ts = some e ↔ ∃ pre l r post,
    ts = pre ++ l :: r :: post ∧ Apart (pre ++ [l]) ∧ l.kind ∈ [Kind.and, .or] ∧
      r.kind ∈ [Kind.and, .or] ∧ e = .adjacentOperators l.kind r.kind := by
  constructor
  · intro h
    fun_induction adjacentFault? ts with
    | case1 l r rest binary =>
      simp only [Bool.and_eq_true, isBinary_iff] at binary
      cases h
      exact ⟨[], l, r, rest, rfl, by simp [Apart], binary.1, binary.2, rfl⟩
    | case2 l r rest apart ih =>
      obtain ⟨pre, l', r', post, same, before, left, right, rfl⟩ := ih h
      simp only [Bool.and_eq_true, isBinary_iff] at apart
      refine ⟨l :: pre, l', r', post, by rw [same]; rfl, ?_, left, right, rfl⟩
      cases pre with
      | nil =>
        cases same
        simpa [Apart] using apart
      | cons t pre =>
        cases same
        exact before.cons_cons apart
    | case3 ts short => cases h
  · rintro ⟨pre, l, r, post, rfl, apart, left, right, rfl⟩
    induction pre with
    | nil => simp [adjacentFault?, isBinary_iff.2 left, isBinary_iff.2 right]
    | cons t pre ih =>
      have rest := ih apart.tail
      cases pre with
      | nil =>
        have first : ¬ (t.kind.isBinary && l.kind.isBinary) = true := by
          simp only [Bool.and_eq_true, isBinary_iff]
          exact (List.isChain_cons_cons.1 apart).1
        rw [List.cons_append, List.nil_append, adjacentFault?, if_neg first]
        exact rest
      | cons u pre =>
        have first : ¬ (t.kind.isBinary && u.kind.isBinary) = true := by
          simp only [Bool.and_eq_true, isBinary_iff]
          exact (List.isChain_cons_cons.1 apart).1
        rw [List.cons_append, List.cons_append, adjacentFault?, if_neg first]
        exact rest

theorem bracketFault?_some : bracketFault? ts = some e ↔ ¬ Even ts ∧ e = .unequalBrackets := by
  simp [bracketFault?, Even, eq_comm (a := e)]

/-- The first rule that is broken is the one that is told of. -/
theorem fault?_some : fault? ts = some e → Complaint ts e.report := by
  intro h
  simp only [fault?, Option.or_eq_some_iff, Option.or_eq_none_iff, startFault?_none, endFault?_none,
    adjacentFault?_none] at h
  rcases h with ((h | ⟨⟨visible, begins⟩, h⟩) | ⟨⟨⟨visible, begins⟩, ends⟩, h⟩) |
    ⟨⟨⟨⟨visible, begins⟩, ends⟩, apart⟩, h⟩
  · rcases startFault?_some.1 h with ⟨rfl, rfl⟩ | ⟨t, rest, rfl, bad, rfl⟩
    · exact .empty
    · exact .start bad
  · obtain ⟨front, t, rfl, bad, rfl⟩ := endFault?_some.1 h
    exact .stop begins bad
  · obtain ⟨pre, l, r, post, rfl, before, left, right, rfl⟩ := adjacentFault?_some.1 h
    exact .adjacent begins ends before left right
  · obtain ⟨uneven, rfl⟩ := bracketFault?_some.1 h
    exact .brackets visible begins ends apart uneven

theorem exists_fault {r : Report} (h : Complaint ts r) : ∃ e, fault? ts = some e ∧ e.report = r := by
  simp only [fault?, Option.or_eq_some_iff, Option.or_eq_none_iff, startFault?_none, endFault?_none,
    adjacentFault?_none]
  cases h with
  | empty => exact ⟨.emptyExpression, .inl (.inl (.inl rfl)), rfl⟩
  | @start t ts bad =>
    exact ⟨.invalidStart t.kind, .inl (.inl (.inl (startFault?_some.2 (.inr ⟨t, ts, rfl, bad, rfl⟩)))),
      rfl⟩
  | @stop t ts begins bad =>
    exact ⟨.invalidEnd t.kind, .inl (.inl (.inr ⟨⟨by simp, begins⟩,
      endFault?_some.2 ⟨ts, t, rfl, bad, rfl⟩⟩)), rfl⟩
  | @adjacent pre post l r begins ends before left right =>
    exact ⟨.adjacentOperators l.kind r.kind, .inl (.inr ⟨⟨⟨by simp, begins⟩, ends⟩,
      adjacentFault?_some.2 ⟨pre, l, r, post, rfl, before, left, right, rfl⟩⟩), rfl⟩
  | brackets visible begins ends apart uneven =>
    exact ⟨.unequalBrackets, .inr ⟨⟨⟨⟨visible, begins⟩, ends⟩, apart⟩,
      bracketFault?_some.2 ⟨uneven, rfl⟩⟩, rfl⟩

theorem fault?_none : fault? ts = none ↔
    ts ≠ [] ∧ BeginsWell ts ∧ EndsWell ts ∧ Apart ts ∧ Even ts := by
  rw [fault?_eq_none_iff, startFault?_none, endFault?_none, adjacentFault?_none,
    bracketFault?_eq_none_iff, and_assoc]
  rfl

end

/-! ### Texts -/

theorem tokensOfChars_read {cs : List Char} {ts : List Token} (read : ReadAs cs ts) :
    tokensOfChars cs = match fault? ts with
      | some e => .error e
      | none => .ok ts := by
  rw [tokensOfChars, mapM_readChar_ok_iff.2 read]
  rfl

theorem verdict_tokensOfChars (cs : List Char) :
    Verdict cs ((tokensOfChars cs).mapError Refusal.report) := by
  by_cases legible : ∀ c ∈ cs, Legible c
  · obtain ⟨ts, read⟩ := readable_iff.2 legible
    rw [tokensOfChars_read read]
    cases fault : fault? ts with
    | some e => exact .refused (forall₂_stands.2 read) (fault?_some fault)
    | none =>
      obtain ⟨visible, begins, ends, apart, even⟩ := fault?_none.1 fault
      exact .read (forall₂_stands.2 read) visible begins ends apart even
  · obtain ⟨pre, c, post, rfl, before, illegible⟩ := exists_illegible legible
    rw [tokensOfChars, mapM_readChar_illegible before illegible]
    exact .illegible before illegible

theorem mapError_of_verdict {cs : List Char} {r : Except Report (List Token)} (h : Verdict cs r) :
    (tokensOfChars cs).mapError Refusal.report = r := by
  cases h with
  | @illegible pre post c before illegible =>
    rw [tokensOfChars, mapM_readChar_illegible before illegible]
    rfl
  | refused stands complaint =>
    obtain ⟨e, fault, rfl⟩ := exists_fault complaint
    rw [tokensOfChars_read (forall₂_stands.1 stands), fault]
    rfl
  | read stands visible begins ends apart even =>
    rw [tokensOfChars_read (forall₂_stands.1 stands),
      fault?_none.2 ⟨visible, begins, ends, apart, even⟩]
    rfl

/-- Every text has exactly one verdict, and it is what reading its tokens comes to. -/
theorem tokens_verdict (text : String) (r : Except Report (List Token)) :
    (tokens text).mapError Refusal.report = r ↔ Verdict (clean text).toList r := by
  rw [tokens, clean, String.toList_ofList]
  constructor
  · rintro rfl
    exact verdict_tokensOfChars _
  · exact mapError_of_verdict

end Expression

end ReversePolish
