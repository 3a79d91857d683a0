import ReversePolish.Proofs.Display
import ReversePolish.Session

/-!
# Rows of sessions

Every text that is not blank gives a row, with what it is parsed as: `Session.map_rowsOf`. Nothing
that is shown on the way can fail, and the text itself is shown: `Session.texts_shown`. A session
takes answers up to the first that ends it, `Session.ask_outcome`.
-/

namespace ReversePolish

open Markup

namespace Session

theorem tokensShown_cases (v : View) (text : String) :
    ∃ tokens : Option (List Token), tokensShown v text = tokens.map (·.map .token) ∧
      ∀ ts ∈ tokens, ∀ t ∈ ts, t.Legal := by
  unfold tokensShown
  split
  · refine ⟨_, rfl, ?_⟩
    intro ts read
    refine @legal_of_tokens text ts ?_
    cases tokens : Expression.tokens text with
    | ok us =>
      rw [tokens] at read
      rw [Option.some.inj read]
    | error e =>
      rw [tokens] at read
      cases read
  · exact ⟨none, rfl, by simp⟩

/-- The row of a text, unless the text is blank. -/
def row? (text : String) : Option Row := (parse text).map (⟨text, ·⟩)

def rowsOf (texts : List String) : List Row := texts.filterMap row?

theorem rowsOf_append (as bs : List String) : rowsOf (as ++ bs) = rowsOf as ++ rowsOf bs :=
  List.filterMap_append ..

theorem map_rowsOf (texts : List String) :
    (rowsOf texts).map (fun row => (row.expression, some row.result)) =
      (texts.filter (!Text.isBlank ·.toList)).map fun s => (s, parse s) := by
  induction texts with
  | nil => rfl
  | cons s texts ih =>
    by_cases blank : Text.isBlank s.toList = true
    · have skipped : row? s = none := by rw [row?, parse, if_pos blank, Option.map_none]
      rw [rowsOf, List.filterMap_cons_none skipped, List.filter_cons_of_neg (by simp [blank])]
      exact ih
    · obtain ⟨result, parsed⟩ : ∃ result, parse s = some result := ⟨_, if_neg blank⟩
      have row : row? s = some ⟨s, result⟩ := by rw [row?, parsed, Option.map_some]
      rw [rowsOf, List.filterMap_cons_some row, List.filter_cons_of_pos (by simp [blank]),
        List.map_cons, List.map_cons, parsed]
      exact congrArg _ ih

theorem parse_of_mem_rowsOf {texts : List String} {row : Row} (h : row ∈ rowsOf texts) :
    parse row.expression = some row.result := by
  obtain ⟨text, -, found⟩ := List.mem_filterMap.1 h
  obtain ⟨result, parsed, rfl⟩ := Option.map_eq_some_iff.1 found
  exact parsed

/-- A text that is not blank gives a row, and is shown on the last line that is printed for it. -/
theorem convert_printed (v : View) {text : String} {result : Except Refusal (List Token)}
    (h : parse text = some result) :
    ∃ front line plain, Display.ShownAs v.naming text result line plain ∧
      convert v text = ⟨front ++ Printed.lineText plain, .ok (some ⟨text, result⟩)⟩ := by
  obtain ⟨line, plain, shown⟩ := Display.exists_shownAs v.naming h
  obtain ⟨tokens, same, legal⟩ := tokensShown_cases v text
  have printed : ∃ front, Display.conversion v.naming (if v.tokens then tokensShown v text else none)
      text (.ofTokens result) = ⟨front ++ Printed.lineText plain, .ok ()⟩ := by
    split
    · rw [same]
      exact Display.conversion_printed shown legal
    · exact @Display.conversion_printed _ none _ _ _ _ shown (by simp)
  obtain ⟨front, printed⟩ := printed
  have rest : (Display.conversion v.naming (if v.tokens then tokensShown v text else none) text
      (.ofTokens result) >>= fun _ => pure (some (Row.mk text result))) =
      ⟨front ++ Printed.lineText plain, .ok (some ⟨text, result⟩)⟩ := by
    rw [printed]
    change Printed.mk (_ ++ "") _ = _
    rw [String.append_empty]
    rfl
  rw [convert, h]
  dsimp only
  split
  · split
    · next es given =>
      rw [same] at given
      obtain ⟨ts, present, rfl⟩ := Option.map_eq_some_iff.1 given
      have table : (Display.tokenTable "Tokens" (ts.map .token)).outcome = .ok () :=
        Display.tokenTable_outcome (paired_plain (by decide)) (legal ts present)
      refine ⟨(Display.tokenTable "Tokens" (ts.map .token)).text ++ front, line, plain, shown, ?_⟩
      rw [rest, Printed.bind_eq table, String.append_assoc]
    · exact ⟨front, line, plain, shown, rest⟩
  · exact ⟨front, line, plain, shown, rest⟩

/-- What is printed for a text that gives no row. -/
def skipped : String := "Skipping blank expression\n"

theorem convert_blank (v : View) {text : String} (h : parse text = none) :
    convert v text = ⟨skipped, .ok none⟩ := by
  have rendered : render "[dim]Skipping blank expression[/dim]" =
      .ok "Skipping blank expression" := by decide +kernel
  have line : Printed.lineText "Skipping blank expression" = skipped := by decide +kernel
  rw [convert, h]
  dsimp only
  rw [Printed.line_eq rendered, Printed.bind_eq rfl, Printed.text_pure, Printed.outcome_pure,
    String.append_empty, line]

/-- A text is passed over if it is blank, and no other text looks so. -/
theorem convert_text_iff (v : View) {text : String} :
    (convert v text).text = skipped ↔ parse text = none := by
  refine ⟨fun same => ?_, fun blank => by rw [convert_blank v blank]⟩
  cases parsed : parse text with
  | none => rfl
  | some result =>
    obtain ⟨front, line, plain, shown, printed⟩ := convert_printed v parsed
    have present {c : Char} (mem : c ∈ (Display.mark result).toList) : c ∈ skipped.toList := by
      rw [← same, printed, String.toList_append]
      exact List.mem_append_right _ (shown.mark_mem mem)
    -- nothing but the line of an expression has a mark
    rcases Display.mark_cases result with mark | mark
    · have absent : '✓' ∉ skipped.toList := by simp [skipped]
      exact absurd (present (by simp [mark])) absent
    · have absent : '✗' ∉ skipped.toList := by simp [skipped]
      exact absurd (present (by simp [mark])) absent

theorem convert_outcome (v : View) (text : String) :
    (convert v text).outcome = .ok (row? text) := by
  cases parsed : parse text with
  | none => rw [convert_blank v parsed, row?, parsed, Option.map_none]
  | some result =>
    obtain ⟨front, line, plain, _, printed⟩ := convert_printed v parsed
    rw [printed, row?, parsed]
    rfl

/-- The rows are those of the texts, in their order, and nothing is left out that is not blank. -/
theorem convertAll_outcome (v : View) (texts : List String) :
    (convertAll v texts).outcome = .ok (rowsOf texts) := by
  induction texts with
  | nil => rfl
  | cons text texts ih =>
    rw [convertAll, Printed.outcome_bind_ok (convert_outcome v text), Printed.outcome_bind_ok ih]
    cases row : row? text <;> simp [rowsOf, row, Printed.outcome_pure]

/-- What is printed for texts is what is printed for each of them, in their order. -/
theorem convertAll_text (v : View) (texts : List String) :
    (convertAll v texts).text = String.join (texts.map fun text => (convert v text).text) := by
  induction texts with
  | nil => rfl
  | cons text texts ih =>
    rw [convertAll, Printed.text_bind_ok (convert_outcome v text),
      Printed.text_bind_ok (convertAll_outcome v texts), Printed.text_pure, String.append_empty, ih,
      List.map_cons, String.join_cons]

/-- No text breaks the console: whatever characters texts hold, they are converted, shown and summed
up, and the last line that is printed for one shows the text and what comes of it. -/
theorem texts_shown (v : View) :
    (∀ texts, ∃ rows, (convertAll v texts).outcome = .ok rows ∧
      (Display.summaryTable "Conversion Summary" v.naming (rows.map Row.shown)).outcome = .ok ()) ∧
    ∀ text, (∃ row, (convert v text).outcome = .ok row) ∧
      ∀ result, parse text = some result →
        ∃ line plain, Display.ShownAs v.naming text result line plain ∧
          ∃ front, (convert v text).text = front ++ Printed.lineText plain := by
  refine ⟨fun texts => ⟨_, convertAll_outcome v texts, ?_⟩,
    fun text => ⟨⟨_, convert_outcome v text⟩, fun result h => ?_⟩⟩
  · exact Display.summaryTable_outcome (paired_plain (by decide)) v.naming
      fun row => parse_of_mem_rowsOf
  · obtain ⟨front, line, plain, shown, printed⟩ := convert_printed v h
    exact ⟨line, plain, shown, front, by rw [printed]⟩

/-- A text of tags, one of which closes what is not open, with a backslash before the next tag. -/
theorem texts_shown_tags :
    let e : Refusal := .invalidCharacter (.datum (.text (String.singleton '[')))
    parse "[red]a[/x]\\" = some (.error e) ∧
    (∃ row, (convert ⟨true, true, true⟩ "[red]a[/x]\\").outcome = .ok row) ∧
    ∃ line plain, Display.ShownAs .names "[red]a[/x]\\" (.error e) line plain ∧
      bare plain.toList = "✗ [red]a[/x] → Invalid character found: [".toList ∧
      ∃ front, (convert ⟨true, true, true⟩ "[red]a[/x]\\").text =
        front ++ Printed.lineText plain := by
  intro e
  have parsed : parse "[red]a[/x]\\" = some (.error e) := rfl
  obtain ⟨-, each⟩ := texts_shown ⟨true, true, true⟩
  obtain ⟨converted, shows⟩ := each "[red]a[/x]\\"
  obtain ⟨line, plain, shown, printed⟩ := shows _ parsed
  obtain ⟨reason, worded, bares⟩ := shown.bare
  cases worded
  exact ⟨parsed, converted, line, plain, shown, bares.trans (by decide), printed⟩

/-! ### Answers -/

/-- The row of an answer, unless it is missing or blank. -/
def answered (a : Option String) : Option Row := a.bind row?

theorem turn_outcome (v : View) (a : Option String) :
    (turn v (.answer a)).outcome = .ok (if ends a then .closed else .proceeds (answered a)) := by
  cases a with
  | none => rfl
  | some s =>
    rw [turn]
    split
    · rfl
    · rw [map_eq_pure_bind, Printed.outcome_bind_ok (convert_outcome v s)]
      rfl

section

variable {prompt : String} {v : View} {r : Reply} {rest : List Reply}

theorem ask_closed (h : (turn v r).outcome = .ok .closed) :
    (ask prompt v (r :: rest)).outcome = .ok ⟨[], rest, false⟩ := by
  have asked : (Printed.write prompt).outcome = .ok () := rfl
  rw [ask, Printed.outcome_bind_ok asked, Printed.outcome_bind_ok h]
  rfl

theorem ask_proceeds {row : Option Row} {t : Transcript}
    (h : (turn v r).outcome = .ok (.proceeds row)) (later : (ask prompt v rest).outcome = .ok t) :
    (ask prompt v (r :: rest)).outcome = .ok { t with rows := row.toList ++ t.rows } := by
  have asked : (Printed.write prompt).outcome = .ok () := rfl
  rw [ask, Printed.outcome_bind_ok asked, Printed.outcome_bind_ok h]
  exact Printed.outcome_bind_ok later _

end

/-- The answers before the first that ends the session give the rows, and those after it are not
read. -/
theorem ask_outcome (prompt : String) (v : View) (as : List (Option String)) :
    (ask prompt v (as.map .answer)).outcome = .ok
      ⟨(as.takeWhile (!ends ·)).filterMap answered, ((as.dropWhile (!ends ·)).tail).map .answer,
        false⟩ := by
  induction as with
  | nil => rfl
  | cons a as ih =>
    have asked := turn_outcome v a
    by_cases last : ends a = true
    · rw [if_pos last] at asked
      rw [List.map_cons, ask_closed asked]
      simp [last]
    · rw [if_neg last] at asked
      rw [List.map_cons, ask_proceeds asked ih]
      cases row : answered a <;> simp [last, row]

theorem greeting_outcome : (Printed.line greeting).outcome = .ok () :=
  @Display.line_styled .info "Enter expressions to convert (empty line or 'quit' to finish)" rfl

def typed (line : String) : String := String.ofList (Text.trim line.toList)

/-- The answers that are typed before the first that ends the session. -/
def heeded (lines : List String) : List String :=
  (lines.map typed).takeWhile fun s => !ends (some s)

theorem not_blank_of_heeded {lines : List String} {s : String} (h : s ∈ heeded lines) :
    Text.isBlank s.toList = false := by
  have goesOn := List.mem_takeWhile_imp h
  simp only [ends, Bool.not_eq_true', Bool.or_eq_false_iff] at goesOn
  exact goesOn.1

theorem ask_typed (prompt : String) (v : View) (lines : List String) :
    ∃ unread, (ask prompt v (lines.map .ofLine)).outcome =
      .ok ⟨rowsOf (heeded lines), unread, false⟩ := by
  have answers : lines.map Reply.ofLine = ((lines.map typed).map some).map .answer := by
    simp [Function.comp_def, Reply.ofLine, typed]
  have rows : (((lines.map typed).map some).takeWhile (!ends ·)).filterMap answered =
      rowsOf (heeded lines) := by
    rw [List.takeWhile_map, List.filterMap_map]
    rfl
  exact ⟨_, by rw [answers, ask_outcome, rows]⟩

theorem interact_outcome (prompt : String) (v : View) (as : List (Option String)) :
    (interact prompt v (as.map .answer)).outcome = .ok
      ⟨(as.takeWhile (!ends ·)).filterMap answered, ((as.dropWhile (!ends ·)).tail).map .answer,
        false⟩ := by
  rw [interact, Printed.outcome_bind_ok greeting_outcome, ask_outcome]

end Session

end ReversePolish
