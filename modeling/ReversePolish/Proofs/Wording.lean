import ReversePolish.Proofs.Conversion.Held
import ReversePolish.Proofs.Printing
import ReversePolish.Proofs.Texts

/-!
# The words of tokens

A text gives tokens of a few forms only, and each of them has a symbol and a name. So they can
always be written, `format_legal`, and few characters are needed for it, `format_wordy`.
-/

namespace ReversePolish

namespace Token

/-- A token of the forms that texts give: a letter, a digit, or a sign without a value. -/
inductive Legal : Token → Prop
  | letter (c : Letter) : Legal (.letter c)
  | digit (b : Bool) : Legal (.digit b)
  | sign {k : Kind} : k.isOperand = false → Legal (.plain k)

theorem legal_of_spelling {t : Token} {c : Char} (h : Spelling t c) : t.Legal := by
  cases h with
  | capital c => exact .letter c
  | small c => exact .letter c
  | digit b => exact .digit b
  | _ => exact .sign rfl

/-- How a token is written. -/
def written : Naming → Token → String
  | .symbols, t => t.symbol?.getD ""
  | .names, t => t.describe

theorem Legal.symbol?_eq {t : Token} (h : t.Legal) : t.symbol? = some (t.written .symbols) := by
  cases h with
  | letter c => rfl
  | digit b => rfl
  | @sign k sign => cases k <;> first | rfl | cases sign

/-- The symbol of a token is a character that is read as the token. -/
theorem Legal.exists_char {t : Token} (h : t.Legal) :
    ∃ c, (t.written .symbols).toList = [c] ∧ Expression.token? c = some t := by
  cases h with
  | letter c => exact ⟨c.1, String.toList_singleton c.1, c.token?⟩
  | digit b => cases b <;> exact ⟨_, rfl, rfl⟩
  | @sign k sign => cases k <;> first | exact ⟨_, rfl, rfl⟩ | cases sign

end Token

theorem legal_of_tokens {text : String} {ts : List Token} (h : Expression.tokens text = .ok ts) :
    ∀ t ∈ ts, t.Legal := by
  intro t member
  obtain ⟨c, spelling⟩ := (Expression.tokens_ok_iff.1 h).1.spelled t member
  exact Token.legal_of_spelling spelling

theorem legal_of_parse {text : String} {p : List Token} (h : parse text = some (.ok p)) :
    ∀ t ∈ p, t.Legal := by
  obtain ⟨ts, read, -⟩ := tokens_of_parse h
  rw [parse_of_tokens read] at h
  intro t member
  exact legal_of_tokens read t (Conversion.mem_of_toPostfix (Option.some.inj h) member)

theorem format_legal (sep : String) (naming : Naming) {ts : List Token} (h : ∀ t ∈ ts, t.Legal) :
    format sep naming (ts.map .token) = .ok (sep.intercalate (ts.map (Token.written naming))) := by
  cases naming with
  | symbols =>
    apply format_symbols
    rw [List.map_map, List.map_inj_left]
    exact fun t member => (h t member).symbol?_eq
  | names =>
    change Except.ok (sep.intercalate ((ts.map Element.token).map Element.describe)) = _
    rw [List.map_map]
    rfl

/-! ### The characters of words -/

def isWordChar (c : Char) : Bool := c.isUpper || "01.+¬() ".toList.contains c

/-- A text in which tokens may be written. -/
def Wordy (s : String) : Prop := s.toList.all isWordChar = true

theorem wordy_append {s t : String} (hs : Wordy s) (ht : Wordy t) : Wordy (s ++ t) := by
  rw [Wordy, String.toList_append, List.all_append, hs, ht, Bool.and_self]

theorem wordy_letter (c : Letter) : Wordy (String.singleton c.1) := by
  simp [Wordy, isWordChar, c.2]

theorem wordy_intercalate {sep : String} {ss : List String} (between : Wordy sep)
    (h : ∀ s ∈ ss, Wordy s) : Wordy (sep.intercalate ss) := by
  induction ss with
  | nil => rfl
  | cons s ss ih =>
    obtain ⟨first, rest⟩ := List.forall_mem_cons.1 h
    by_cases more : ss = []
    · rw [more, String.intercalate_singleton]
      exact first
    · rw [String.intercalate_cons_of_ne_nil more]
      exact wordy_append (wordy_append first between) (ih rest)

theorem Token.Legal.wordy {t : Token} (h : t.Legal) (naming : Naming) : Wordy (t.written naming) := by
  cases naming with
  | symbols =>
    cases h with
    | letter c => exact wordy_letter c
    | digit b => cases b <;> rfl
    | @sign k sign => cases k <;> rfl
  | names =>
    cases h with
    | letter c => exact wordy_append (wordy_append (s := "VAR(") rfl (wordy_letter c)) rfl
    | digit b => cases b <;> rfl
    | @sign k sign => cases k <;> first | rfl | cases sign

theorem format_wordy (naming : Naming) {ts : List Token} (h : ∀ t ∈ ts, t.Legal) :
    ∃ s, format " " naming (ts.map .token) = .ok s ∧ Wordy s := by
  refine ⟨_, format_legal " " naming h, wordy_intercalate rfl ?_⟩
  intro s member
  obtain ⟨t, present, rfl⟩ := List.mem_map.1 member
  exact (h t present).wordy naming

end ReversePolish
