import Mathlib.Data.List.Basic
import ReversePolish.Proofs.Console.Bare
import ReversePolish.Proofs.Console.Inert
import ReversePolish.Proofs.Console.Table
import ReversePolish.Proofs.Wording
import ReversePolish.Session

/-!
# What is shown of expressions

What comes of an expression can always be shown. Texts and messages are escaped, and what tokens are
written with holds no bracket, so that all that is printed is markup whose tags are paired:
`Display.conversion_printed`, `Display.tokenTable_outcome` and `Display.summaryTable_printed`. What a
line shows of an expression is the expression itself, but for what `Markup.bare` leaves out:
`Display.ShownAs`. The table has the expression as it is echoed, `Display.Lists`.
-/

namespace ReversePolish

section

variable {ε α β : Type} {f : α → Except ε β} {as : List α}

theorem mapM_forall₂ {r : α → β → Prop} (h : ∀ a ∈ as, ∃ b, f a = .ok b ∧ r a b) :
    ∃ bs, as.mapM f = .ok bs ∧ List.Forall₂ r as bs := by
  induction as with
  | nil => exact ⟨[], rfl, .nil⟩
  | cons a as ih =>
    obtain ⟨⟨b, first, related⟩, rest⟩ := List.forall_mem_cons.1 h
    obtain ⟨bs, others, relateds⟩ := ih rest
    refine ⟨b :: bs, ?_, .cons related relateds⟩
    rw [List.mapM_cons, first, others]
    rfl

theorem forall_of_forall₂ {p : β → Prop} {bs : List β} (h : List.Forall₂ (fun _ b => p b) as bs) :
    ∀ b ∈ bs, p b := by
  induction h with
  | nil => simp
  | cons first _ ih => exact List.forall_mem_cons.2 ⟨first, ih⟩

theorem mapM_ok {p : β → Prop} (h : ∀ a ∈ as, ∃ b, f a = .ok b ∧ p b) :
    ∃ bs, as.mapM f = .ok bs ∧ ∀ b ∈ bs, p b := by
  obtain ⟨bs, read, sound⟩ := mapM_forall₂ h
  exact ⟨bs, read, forall_of_forall₂ sound⟩

theorem mapM_map {γ : Type} (k : γ → α) (cs : List γ) :
    (cs.map k).mapM f = cs.mapM fun c => f (k c) := by
  induction cs with
  | nil => rfl
  | cons c cs ih => rw [List.map_cons, List.mapM_cons, List.mapM_cons, ih]

/-- Two passes, the second over what the first gives. -/
theorem mapM_twice {γ : Type} {g : β → Except ε γ} {r : α → γ → Prop}
    (h : ∀ a ∈ as, ∃ b c, f a = .ok b ∧ g b = .ok c ∧ r a c) :
    ∃ bs cs, as.mapM f = .ok bs ∧ bs.mapM g = .ok cs ∧ List.Forall₂ r as cs := by
  induction as with
  | nil => exact ⟨[], [], rfl, rfl, .nil⟩
  | cons a as ih =>
    obtain ⟨⟨b, c, first, second, related⟩, rest⟩ := List.forall_mem_cons.1 h
    obtain ⟨bs, cs, firsts, seconds, relateds⟩ := ih rest
    refine ⟨b :: bs, c :: cs, ?_, ?_, .cons related relateds⟩
    · rw [List.mapM_cons, first, firsts]
      rfl
    · rw [List.mapM_cons, second, seconds]
      rfl

end

open Markup

/-! ### Words -/

theorem Wordy.not_mem {s : String} (h : Wordy s) {c : Char} (other : isWordChar c = false) :
    c ∉ s.toList := by
  intro member
  rw [List.all_eq_true.1 h c member] at other
  cases other

theorem Wordy.clear {s : String} (h : Wordy s) : Clear s.toList := by
  have opening := h.not_mem (c := '[') rfl
  have closing := h.not_mem (c := ']') rfl
  have slash := h.not_mem (c := '\\') rfl
  rw [clear_iff]
  intro c member
  refine ⟨?_, fun same => slash (same ▸ member)⟩
  rw [staysInTag, Bool.and_eq_true, bne_iff_ne, bne_iff_ne]
  exact ⟨fun same => opening (same ▸ member), fun same => closing (same ▸ member)⟩

/-! ### Refusals -/

/-- The message of a refusal is harmless, or ends in the character that is refused. -/
theorem message_cases {text : String} {e : Refusal} (h : parse text = some (.error e)) :
    (∃ c ∈ Expression.cleanChars text.toList,
      e.message = "Invalid character found: " ++ String.singleton c) ∨
      Harmless e.message.toList := by
  have kinds (k : Kind) : Harmless k.name.toList := by cases k <;> rfl
  rcases parse_error_cases h with ⟨unread, -⟩ | ⟨_, _, _, rfl⟩
  · rcases Expression.tokensOfChars_error unread with ⟨c, member, _, rfl⟩ | ⟨ts, _, fault⟩
    · exact .inl ⟨c, member, rfl⟩
    · right
      rcases Expression.fault?_cases fault with ⟨_, rfl⟩ | ⟨k, rfl⟩ | ⟨k, rfl⟩ | ⟨l, r, rfl⟩ | rfl
      · exact rfl
      · exact harmless_concat (s := "Expressions cannot start with: ") rfl (kinds k)
      · exact harmless_concat (s := "Expressions cannot end with: ") rfl (kinds k)
      · exact harmless_concat (harmless_concat (kinds l) (t := " cannot be next to ") rfl) (kinds r)
      · exact rfl
  · exact .inr rfl

/-- The message of a refusal leaves a tag that follows as it is, even where the character that is
refused is a backslash, and no backslash stands in front of a bracket in it. -/
theorem message_tame {text : String} {e : Refusal} (h : parse text = some (.error e)) :
    Tame e.message.toList ∧ unslashed e.message.toList = e.message.toList := by
  rcases message_cases h with ⟨c, -, same⟩ | harmless
  · rw [same, String.toList_append, String.toList_singleton]
    by_cases slash : c = '\\'
    · refine ⟨.inr ⟨_, by rw [slash], by decide, by decide⟩, unslashed_bracketless ?_⟩
      rw [slash]
      decide
    · refine ⟨.inl (by simpa [List.getLast?_append] using slash), unslashed_slashless ?_⟩
      simpa using Ne.symm slash
  · exact ⟨.inl harmless.inert.ends, unslashed_slashless (harmless.not_mem rfl)⟩

namespace Display

theorem inStyle_clear (st : Style) {text : String} (h : Clear text.toList) :
    inStyle st text = "[" ++ st.tag ++ "]" ++ text ++ "[/" ++ st.tag ++ "]" := by
  rw [inStyle, escape, h.escapeChars_eq, String.ofList_toList]

/-- Words that hold no bracket are printed in a style. -/
theorem line_styled (st : Style) {text : String} (h : Clear text.toList) :
    (Printed.line ("[" ++ st.tag ++ "]" ++ text ++ "[/" ++ st.tag ++ "]")).outcome = .ok () := by
  rw [← inStyle_clear st h]
  exact Printed.line_paired (paired_inStyle st h.tame)

/-! ### Lines -/

/-- The mark in front of an expression. -/
def mark : Except Refusal (List Token) → String
  | .ok _ => "✓"
  | .error _ => "✗"

theorem mark_cases (result : Except Refusal (List Token)) : mark result = "✓" ∨ mark result = "✗" := by
  cases result with
  | ok p => exact .inl rfl
  | error e => exact .inr rfl

theorem mark_plain {result : Except Refusal (List Token)} {c : Char}
    (h : c ∈ (mark result).toList) : c ≠ '\\' ∧ isDropped c = false ∧ c ≠ ' ' ∧ c ≠ '\t' := by
  have marks : c = '✓' ∨ c = '✗' := by
    rcases mark_cases result with same | same
    · exact .inl (by simpa [same] using h)
    · exact .inr (by simpa [same] using h)
  rcases marks with rfl | rfl <;> decide

/-- What stands after an expression: its tokens in postfix order, or why there are none. -/
def wording (naming : Naming) : Except Refusal (List Token) → Except Failure String
  | .ok p => format " " naming (p.map .token)
  | .error e => .ok e.message

/-- The styles of a line: that of the mark, and that of the reason why there are no tokens. -/
def lineStyles : Except Refusal (List Token) → List Style
  | .ok _ => [.success]
  | .error _ => [.error, .error]

theorem line_parts (mark expression result : String) :
    (mark ++ " " ++ escape expression ++ " → " ++ result).toList =
      mark.toList ++ (" ".toList ++ (escapeChars expression.toList ++
        (" → ".toList ++ result.toList))) := by
  simp [escape]

section

variable (st : Style) {sign : String} (tame : Tame sign.toList) (expression : String)
  {result : String} (open? : closes (" → ".toList ++ result.toList) = false)
include tame open?

/-- Between its mark and what comes of it no tag begins in an expression. -/
theorem styles_line :
    styles (pieces (inStyle st sign ++ " " ++ escape expression ++ " → " ++ result).toList) =
      st.tag.toList :: ('/' :: st.tag.toList) :: styles (pieces result.toList) := by
  have apart : tag? (" → ".toList ++ result.toList) = none := tag?_other (by decide) (by decide) _
  rw [line_parts, styles_inStyle_append st tame, styles_plain_append (by decide) (by decide),
    styles_escape_append _ open? apart, styles_plain_append (by decide) (by decide)]

theorem visible_line :
    visible (pieces (inStyle st sign ++ " " ++ escape expression ++ " → " ++ result).toList) =
      unslashed sign.toList ++ (" ".toList ++ (echo expression.toList ++
        (" → ".toList ++ visible (pieces result.toList)))) := by
  have apart : tag? (" → ".toList ++ result.toList) = none := tag?_other (by decide) (by decide) _
  rw [line_parts, visible_inStyle_append st tame, visible_plain_append (by decide) (by decide),
    visible_escape_append _ open? apart (by simp), visible_plain_append (by decide) (by decide)]

end

/-- The line of an expression has no tags but those of its styles, and shows the mark, the expression
as it is echoed, and what comes of it. -/
theorem conversionLine_shows (naming : Naming) {text : String}
    {result : Except Refusal (List Token)} (h : parse text = some result) :
    ∃ line shown, conversionLine naming text (.ofTokens result) = .ok line ∧
      wording naming result = .ok shown ∧
      styles (pieces line.toList) =
        (lineStyles result).flatMap (fun s => [s.tag.toList, '/' :: s.tag.toList]) ∧
      visible (pieces line.toList) =
        (mark result).toList ++ (" ".toList ++ (echo text.toList ++
          (" → ".toList ++ shown.toList))) := by
  cases result with
  | ok p =>
    obtain ⟨shown, written, wordy⟩ := format_wordy naming (legal_of_parse h)
    have clear := wordy.clear
    have same : escape shown = shown := by
      rw [escape, clear.escapeChars_eq, String.ofList_toList]
    have plain : visible (pieces shown.toList) = shown.toList := by
      have alone := visible_plain_append clear.not_mem.1 clear.not_mem.2 []
      rwa [List.append_nil, pieces_nil, visible, List.append_nil] at alone
    have arrow : Clear " → ".toList := rfl
    have open? := (clear_append arrow clear).closes_eq
    have tame : Tame "✓".toList := .inl (by decide)
    refine ⟨inStyle .success "✓" ++ " " ++ escape text ++ " → " ++ shown, shown, ?_, written, ?_, ?_⟩
    · change formatted naming (some (p.map .token)) >>= _ = _
      rw [formatted, written]
      change Except.ok (inStyle .success "✓" ++ " " ++ escape text ++ " → " ++ escape shown) = _
      rw [same]
    · rw [styles_line .success tame text open?, pieces_plain clear.not_mem.1, styles_chars]
      rfl
    · rw [visible_line .success tame text open?, plain, unslashed_slashless (by decide)]
      rfl
  | error e =>
    obtain ⟨tame, unchanged⟩ := message_tame h
    have open? : closes (" → ".toList ++ (inStyle .error e.message).toList) = false := by
      rw [toList_inStyle]
      rfl
    have cross : Tame "✗".toList := .inl (by decide)
    refine ⟨_, e.message, rfl, rfl, ?_, ?_⟩
    · have reason := styles_inStyle_append .error tame []
      rw [List.append_nil, pieces_nil] at reason
      rw [styles_line .error cross text open?, reason]
      rfl
    · rw [visible_line .error cross text open?, visible_inStyle .error tame, unchanged,
        unslashed_slashless (by decide)]
      rfl

/-- The line of an expression, and the plain text that is left of it: no tag is read in the
expression or in what comes of it, and both are shown but for what `bare` leaves out. -/
structure ShownAs (naming : Naming) (text : String) (result : Except Refusal (List Token))
    (line plain : String) : Prop where
  written : conversionLine naming text (.ofTokens result) = .ok line
  tags : styles (pieces line.toList) =
    (lineStyles result).flatMap fun s => [s.tag.toList, '/' :: s.tag.toList]
  rendered : render line = .ok plain
  bare : ∃ shown, wording naming result = .ok shown ∧
    bare plain.toList = bare (mark result ++ " " ++ text ++ " → " ++ shown).toList

theorem exists_shownAs (naming : Naming) {text : String} {result : Except Refusal (List Token)}
    (h : parse text = some result) : ∃ line plain, ShownAs naming text result line plain := by
  obtain ⟨line, shown, written, worded, tags, seen⟩ := conversionLine_shows naming h
  have rendered : render line = .ok (String.ofList (shownChars (pieces line.toList))) := by
    rw [render, renderChars_paired ⟨_, tags⟩]
    rfl
  refine ⟨line, _, written, tags, rendered, shown, worded, ?_⟩
  have bares : shownBare line.toList = bare (mark result ++ " " ++ text ++ " → " ++ shown).toList := by
    simp only [shownBare_eq, seen, String.toList_append, bare_append, bare_echo, List.append_assoc]
  rw [String.toList_ofList]
  exact bares

/-- The mark is on the line that is printed. -/
theorem ShownAs.mark_mem {naming : Naming} {text line plain : String}
    {result : Except Refusal (List Token)} (h : ShownAs naming text result line plain) {c : Char}
    (mem : c ∈ (mark result).toList) : c ∈ (Printed.lineText plain).toList := by
  obtain ⟨reason, -, bares⟩ := h.bare
  obtain ⟨slash, kept, space, tab⟩ := mark_plain mem
  have front : c ∈ (mark result ++ " " ++ text ++ " → " ++ reason).toList := by
    simp only [String.toList_append, List.mem_append]
    exact .inl (.inl (.inl (.inl mem)))
  have left : c ∈ Markup.bare (mark result ++ " " ++ text ++ " → " ++ reason).toList :=
    List.mem_filter.2 ⟨front, by simp [slash, kept]⟩
  rw [← bares] at left
  have present : 0 < plain.toList.count c := List.count_pos_iff.2 (List.mem_filter.1 left).1
  rw [← Text.count_expandTabs space tab] at present
  rw [Printed.lineText, String.toList_append, String.toList_ofList]
  exact List.mem_append_left _ (List.count_pos_iff.1 present)

theorem tokensLine_ok (naming : Naming) {ts : List Token} (h : ∀ t ∈ ts, t.Legal) :
    ∃ line, tokensLine naming (ts.map .token) = .ok line ∧ Paired line.toList := by
  obtain ⟨shown, written, wordy⟩ := format_wordy naming h
  have clear := wordy.clear
  refine ⟨inStyle .info "Tokens:" ++ "  " ++ escape shown, ?_, ?_⟩
  · rw [tokensLine, written]
    rfl
  · have plain : Clear ("  ".toList ++ escapeChars shown.toList) := by
      rw [clear.escapeChars_eq]
      exact clear_append rfl clear
    simpa [escape] using paired_inStyle_append .info (.inl (by decide)) (paired_plain plain.not_mem.1)

/-! ### Tables -/

theorem spans_endTrimmed_subset (s : Styled) : s.endTrimmed.spans ⊆ s.spans := by
  unfold Styled.endTrimmed
  dsimp only
  split
  · exact fun span member => member
  · exact fun span member => List.mem_of_mem_filter member

theorem shownTitle_ok {title : String} (h : Paired title.toList) :
    ∃ shown, shownTitle title = .ok shown := by
  obtain ⟨spans, read, sound⟩ := readChars_paired h
  unfold shownTitle
  split
  · exact ⟨none, rfl⟩
  · have kept := text_of_shown fun span member =>
      sound span (spans_endTrimmed_subset ⟨shownChars (pieces title.toList), spans⟩ member)
    rw [read]
    change ∃ shown, Styled.text _ >>= _ = _
    rw [kept]
    exact ⟨_, rfl⟩

def Shows (markup : String) (cell : Cell) : Prop :=
  cell.text.toList = shownChars (pieces markup.toList)

theorem shownCell_ok {s : Styled} (h : ∀ span ∈ s.spans, Appearance.lacksPart span.style = false) :
    shownCell s = .ok ⟨String.ofList s.chars, s.isStyled⟩ := by
  rw [shownCell, text_of_shown h]
  rfl

theorem shownCell_paired {markup : String} (h : Paired markup.toList) :
    ∃ s cell, readChars markup.toList = .ok s ∧ shownCell s = .ok cell ∧ Shows markup cell := by
  obtain ⟨spans, read, sound⟩ := readChars_paired h
  exact ⟨_, _, read, shownCell_ok sound, String.toList_ofList⟩

/-- A table of paired tags is printed, with a cell for each that is given. -/
theorem table_printed {title : String} {rows : List (List String)} (columns : List Column)
    (paired : Paired title.toList) (h : ∀ row ∈ rows, ∀ cell ∈ row, Paired cell.toList) :
    ∃ name cells, shownTitle title = .ok name ∧ List.Forall₂ (List.Forall₂ Shows) rows cells ∧
      table title columns rows = ⟨Table.layout name columns cells, .ok ()⟩ := by
  obtain ⟨name, titled⟩ := shownTitle_ok paired
  obtain ⟨styled, cells, read, laid, shown⟩ := mapM_twice fun row member =>
    mapM_twice fun cell present => shownCell_paired (h row member cell present)
  refine ⟨name, cells, titled, shown, ?_⟩
  rw [table, Printed.ofExcept_bind_ok read, Printed.ofExcept_bind_ok titled,
    Printed.ofExcept_bind_ok laid]
  rfl

theorem table_outcome {title : String} {rows : List (List String)} (columns : List Column)
    (paired : Paired title.toList) (h : ∀ row ∈ rows, ∀ cell ∈ row, Paired cell.toList) :
    (table title columns rows).outcome = .ok () := by
  obtain ⟨_, _, _, _, printed⟩ := table_printed columns paired h
  rw [printed]

theorem tokenCells_ok (position : Nat) {t : Token} (h : t.Legal) :
    ∃ cells, tokenCells position (.token t) = .ok cells ∧ ∀ cell ∈ cells, Paired cell.toList := by
  have value : '[' ∉ (t.value.getD "").toList := by
    cases h with
    | letter c => exact (wordy_letter c).clear.not_mem.1
    | digit b => cases b <;> decide
    | sign _ => exact List.not_mem_nil
  have kind : '[' ∉ t.kind.name.toList := by cases t.kind <;> decide
  refine ⟨[position.repr, t.kind.name, t.value.getD "", escape (t.written .symbols)], ?_, ?_⟩
  · simp [tokenCells, Element.symbol, h.symbol?_eq, bind, Except.bind]
  · intro cell member
    simp only [List.mem_cons, List.not_mem_nil, or_false] at member
    rcases member with rfl | rfl | rfl | rfl
    · exact paired_plain (clear_repr position).not_mem.1
    · exact paired_plain kind
    · exact paired_plain value
    · rw [escape, String.toList_ofList]
      exact paired_escape (t.written .symbols).toList

theorem tokenTable_outcome {title : String} (shown : Paired title.toList) {ts : List Token}
    (h : ∀ t ∈ ts, t.Legal) :
    (tokenTable title (ts.map .token)).outcome = .ok () := by
  have cells : ∀ place ∈ (ts.map Element.token).zipIdx, ∃ cells,
      tokenCells (place.2 + 1) place.1 = .ok cells ∧ ∀ cell ∈ cells, Paired cell.toList := by
    intro place member
    obtain ⟨t, present, same⟩ := List.mem_map.1 (List.fst_mem_of_mem_zipIdx member)
    rw [← same]
    exact tokenCells_ok _ (h t present)
  obtain ⟨rows, read, sound⟩ := mapM_ok cells
  rw [tokenTable, Printed.outcome_bind_ok (a := rows) read]
  exact table_outcome _ shown sound

/-- How a row ends in the table of conversions. -/
def verdict : Except Refusal (List Token) → String
  | .ok _ => "✓ ok"
  | .error e => "✗ " ++ e.rule.name

theorem steady_verdict (result : Except Refusal (List Token)) : Steady (verdict result).toList := by
  cases result with
  | ok p => exact (rfl : Steady "✓ ok".toList)
  | error e =>
    have rule : Steady e.rule.name.toList := by cases e.rule <;> rfl
    rw [verdict, String.toList_append]
    exact steady_append rfl rule

/-- A text without the characters that are never shown. -/
def undropped (cs : List Char) : String := String.ofList (cs.filter (!isDropped ·))

theorem shows_escape (s : String) :
    String.ofList (shownChars (pieces (escape s).toList)) = undropped (echo s.toList) := by
  rw [escape, String.toList_ofList, shownChars, visible_escape, undropped]

theorem shows_inStyle (st : Style) {s : String} (tame : Tame s.toList)
    (same : unslashed s.toList = s.toList) :
    String.ofList (shownChars (pieces (inStyle st s).toList)) = undropped s.toList := by
  rw [shownChars, visible_inStyle st tame, same, undropped]

theorem verdict_tame (result : Except Refusal (List Token)) :
    Tame (verdict result).toList ∧ '\\' ∉ (verdict result).toList := by
  cases result with
  | ok p =>
    show Tame "✓ ok".toList ∧ '\\' ∉ "✓ ok".toList
    exact ⟨.inl (by decide), by decide⟩
  | error e =>
    rw [verdict]
    cases e.rule <;> exact ⟨.inl (by decide), by decide⟩

theorem shows_verdict (st : Style) (result : Except Refusal (List Token)) :
    String.ofList (shownChars (pieces (inStyle st (verdict result)).toList)) = verdict result := by
  obtain ⟨tame, slash⟩ := verdict_tame result
  rw [shows_inStyle st tame (unslashed_slashless slash), undropped, (steady_verdict result).filter_eq,
    String.ofList_toList]

/-- The texts of a row: its expression as it is echoed, what comes of it, and whether it failed. -/
def Lists (naming : Naming) (row : Row) (texts : List String) : Prop :=
  ∃ shown, wording naming row.result = .ok shown ∧
    texts = [undropped (echo row.expression.toList), undropped shown.toList, verdict row.result]

theorem summaryCells_ok (naming : Naming) {row : Row}
    (h : parse row.expression = some row.result) :
    ∃ cells, summaryCells naming row.shown.1 row.shown.2 = .ok cells ∧
      (∀ cell ∈ cells, Paired cell.toList) ∧
      Lists naming row (cells.map fun cell => String.ofList (shownChars (pieces cell.toList))) := by
  obtain ⟨text, result⟩ := row
  have escaped (s : String) : Paired (escape s).toList := by
    rw [escape, String.toList_ofList]
    exact paired_escape s.toList
  obtain ⟨tame, -⟩ := verdict_tame result
  cases result with
  | ok p =>
    obtain ⟨shown, written, wordy⟩ := format_wordy naming (legal_of_parse h)
    refine ⟨[escape text, escape shown, inStyle .success (verdict (.ok p))], ?_, ?_, shown, written, ?_⟩
    · show formatted naming (some (p.map .token)) >>= _ = _
      rw [formatted, written]
      rfl
    · simp only [List.forall_mem_cons, List.not_mem_nil, false_imp_iff, implies_true, and_true]
      exact ⟨escaped text, escaped shown, paired_inStyle .success tame⟩
    · rw [List.map_cons, List.map_cons, List.map_singleton, shows_escape, shows_escape,
        echo_slashless (wordy.not_mem rfl), shows_verdict]
  | error e =>
    obtain ⟨tameMessage, same⟩ := message_tame h
    refine ⟨[escape text, inStyle .error e.message, inStyle .error (verdict (.error e))], rfl, ?_,
      e.message, rfl, ?_⟩
    · simp only [List.forall_mem_cons, List.not_mem_nil, false_imp_iff, implies_true, and_true]
      exact ⟨escaped text, paired_inStyle .error tameMessage, paired_inStyle .error tame⟩
    · rw [List.map_cons, List.map_cons, List.map_singleton, shows_escape,
        shows_inStyle .error tameMessage same, shows_verdict]

theorem texts_of_shows {markup : List String} {cells : List Cell}
    (h : List.Forall₂ Shows markup cells) :
    cells.map Cell.text = markup.map fun m => String.ofList (shownChars (pieces m.toList)) := by
  induction h with
  | nil => rfl
  | cons first _ ih => rw [List.map_cons, List.map_cons, ih, ← first, String.ofList_toList]

/-- The conversions are shown in a table, a row for each, in their order. -/
theorem summaryTable_printed {title : String} (paired : Paired title.toList) (naming : Naming)
    {rows : List Row} (h : ∀ row ∈ rows, parse row.expression = some row.result) :
    ∃ name cells, shownTitle title = .ok name ∧
      List.Forall₂ (Lists naming) rows (cells.map (·.map Cell.text)) ∧
      summaryTable title naming (rows.map Row.shown) =
        ⟨Table.layout name summaryColumns cells, .ok ()⟩ := by
  let Marks (row : Row) (markup : List String) : Prop :=
    (∀ cell ∈ markup, Paired cell.toList) ∧
      Lists naming row (markup.map fun cell => String.ofList (shownChars (pieces cell.toList)))
  have marked : ∀ row ∈ rows, ∃ markup,
      summaryCells naming row.shown.1 row.shown.2 = .ok markup ∧ Marks row markup :=
    fun row member => summaryCells_ok naming (h row member)
  obtain ⟨markup, written, marks⟩ := mapM_forall₂ marked
  obtain ⟨name, cells, titled, shows, printed⟩ :=
    table_printed summaryColumns paired (forall_of_forall₂ (marks.imp fun _ _ both => both.1))
  refine ⟨name, cells, titled, ?_, ?_⟩
  · rw [List.forall₂_map_right_iff]
    refine forall₂_trans ?_ marks shows
    intro row markup cells both shows
    rw [texts_of_shows shows]
    exact both.2
  · rw [summaryTable, mapM_map, Printed.ofExcept_bind_ok written, printed]

theorem summaryTable_outcome {title : String} (paired : Paired title.toList) (naming : Naming)
    {rows : List Row} (h : ∀ row ∈ rows, parse row.expression = some row.result) :
    (summaryTable title naming (rows.map Row.shown)).outcome = .ok () := by
  obtain ⟨_, _, _, _, printed⟩ := summaryTable_printed paired naming h
  rw [printed]

/-! ### Conversions -/

theorem conversion_alone {naming : Naming} {text line plain : String}
    {result : Except Refusal (List Token)}
    (written : conversionLine naming text (.ofTokens result) = .ok line)
    (rendered : render line = .ok plain) :
    conversion naming none text (.ofTokens result) = ⟨Printed.lineText plain, .ok ()⟩ := by
  change (Printed.ofExcept (conversionLine naming text (.ofTokens result)) >>= Printed.line) = _
  rw [Printed.ofExcept_bind_ok written]
  exact Printed.line_eq rendered

/-- The line of the outcome is printed last. -/
theorem conversion_printed {naming : Naming} {tokens : Option (List Token)}
    {text line plain : String} {result : Except Refusal (List Token)}
    (h : ShownAs naming text result line plain) (legal : ∀ ts ∈ tokens, ∀ t ∈ ts, t.Legal) :
    ∃ front, conversion naming (tokens.map (·.map .token)) text (.ofTokens result) =
      ⟨front ++ Printed.lineText plain, .ok ()⟩ := by
  have last := conversion_alone h.written h.rendered
  cases tokens with
  | none => exact ⟨"", by rw [String.empty_append]; exact last⟩
  | some ts =>
    obtain ⟨front, written, paired⟩ := tokensLine_ok naming (legal ts rfl)
    refine ⟨(Printed.line front).text, ?_⟩
    rw [Option.map_some, conversion, Printed.ofExcept_bind_ok written,
      Printed.bind_eq (Printed.line_paired paired)]
    change Printed.mk (_ ++ (conversion naming none text _).text)
      (conversion naming none text _).outcome = _
    rw [last]

end Display

end ReversePolish
