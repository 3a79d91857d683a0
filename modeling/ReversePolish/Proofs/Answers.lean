import ReversePolish.Proofs.Session

/-!
# Sessions of answers

An answer ends a session if there is none, if it is blank, or if it is a quit word. A session asks up
to the first such answer and shows what comes of each answer before it: `interact_settled`. None of
these is passed over as blank, and none that is refused ends the session.
-/

namespace ReversePolish.Session

/-- The answers that end a session. White space around a quit word does not matter, nor do capitals. -/
inductive Stops : Option String → Prop
  | missing : Stops none
  | blank {s : String} : (∀ c ∈ s.toList, Text.isSpace c = true) → Stops (some s)
  | quit {s : String} : String.ofList (Text.lower (Text.trim s.toList)) ∈ ["quit", "exit", "q"] →
      Stops (some s)

theorem stops_iff {a : Option String} : Stops a ↔ ends a = true := by
  have blank (s : String) :
      Text.isBlank s.toList = true ↔ ∀ c ∈ s.toList, Text.isSpace c = true :=
    Expression.isBlank_iff.trans Expression.cleanChars_eq_nil_iff
  constructor
  · intro h
    cases h with
    | missing => rfl
    | blank white => rw [ends, (blank _).2 white, Bool.true_or]
    | quit word => rw [ends, folded, quitWords, List.contains_iff_mem.2 word, Bool.or_true]
  · intro h
    cases a with
    | none => exact .missing
    | some s =>
      rw [ends, Bool.or_eq_true, blank, List.contains_iff_mem] at h
      rcases h with white | word
      · exact .blank white
      · exact .quit word

theorem not_blank_of_goesOn {s : String} (h : ¬ Stops (some s)) : Text.isBlank s.toList = false := by
  rw [stops_iff, ends, Bool.or_eq_true, not_or, Bool.not_eq_true] at h
  exact h.1

theorem exists_heard (as : List (Option String)) :
    ∃ (heard : List String) (rest : List (Option String)), as = heard.map some ++ rest ∧
      (∀ s ∈ heard, ¬ Stops (some s)) ∧ ∀ a ∈ rest.head?, Stops a := by
  induction as with
  | nil => exact ⟨[], [], rfl, by simp, by simp⟩
  | cons a as ih =>
    by_cases stops : Stops a
    · exact ⟨[], a :: as, rfl, by simp, by simpa using stops⟩
    · cases a with
      | none => exact absurd .missing stops
      | some s =>
        obtain ⟨heard, rest, rfl, goesOn, last⟩ := ih
        exact ⟨s :: heard, rest, rfl, List.forall_mem_cons.2 ⟨stops, goesOn⟩, last⟩

section

variable {prompt : String} {v : View}

theorem row_of_goesOn {s : String} (h : ¬ Stops (some s)) :
    ∃ row, row? s = some row ∧ (convert v s).outcome = .ok (some row) := by
  obtain ⟨result, parsed⟩ : ∃ result, parse s = some result :=
    ⟨_, if_neg (by simp [not_blank_of_goesOn h])⟩
  have found : row? s = some ⟨s, result⟩ := by rw [row?, parsed, Option.map_some]
  exact ⟨⟨s, result⟩, found, by rw [convert_outcome, found]⟩

/-- An answer that ends the session is the last that is asked for. -/
theorem ask_stops {a : Option String} (h : Stops a) (rest : List Reply) :
    ask prompt v (.answer a :: rest) = ⟨prompt, .ok ⟨[], rest, false⟩⟩ := by
  have closed : turn v (.answer a) = pure .closed := by
    cases a with
    | none => rfl
    | some s => rw [turn, if_pos (stops_iff.1 h)]
  rw [ask, closed, Printed.bind_eq rfl, Printed.bind_eq (Printed.outcome_pure _),
    Printed.text_pure, Printed.text_pure, String.append_empty, String.append_empty]
  rfl

/-- What comes of any other answer is shown, and the session goes on. -/
theorem ask_goesOn {s : String} {row : Row} (h : ¬ Stops (some s))
    (found : (convert v s).outcome = .ok (some row)) {rest : List Reply} {text : String}
    {t : Transcript} (later : ask prompt v rest = ⟨text, .ok t⟩) :
    ask prompt v (.answer (some s) :: rest) =
      ⟨prompt ++ (convert v s).text ++ text, .ok { t with rows := row :: t.rows }⟩ := by
  have taken : turn v (.answer (some s)) = ⟨(convert v s).text, .ok (.proceeds (some row))⟩ := by
    rw [turn, if_neg (mt stops_iff.2 h), map_eq_pure_bind, Printed.bind_eq found,
      Printed.text_pure, Printed.outcome_pure, String.append_empty]
  rw [ask, taken, Printed.bind_eq rfl, Printed.bind_eq rfl, later]
  dsimp only
  rw [Printed.bind_eq rfl, Printed.text_pure, Printed.outcome_pure, String.append_empty,
    String.append_assoc]
  rfl

/-- All that a session prints and leaves. -/
theorem ask_heard {heard : List String} (goesOn : ∀ s ∈ heard, ¬ Stops (some s))
    {rest : List (Option String)} (last : ∀ a ∈ rest.head?, Stops a) :
    ask prompt v ((heard.map some ++ rest).map .answer) =
      ⟨String.join (heard.map fun s => prompt ++ (convert v s).text) ++ prompt,
        .ok ⟨rowsOf heard, rest.tail.map .answer, false⟩⟩ := by
  -- on the answers after which the session goes on
  induction heard with
  | nil =>
    rw [List.map_nil, List.map_nil, String.join_nil, String.empty_append, List.nil_append]
    cases rest with
    | nil =>
      change Printed.mk (prompt ++ "") _ = _
      rw [String.append_empty]
      rfl
    | cons a rest => exact ask_stops (last a rfl) _
  | cons s heard ih =>
    obtain ⟨first, others⟩ := List.forall_mem_cons.1 goesOn
    obtain ⟨row, found, given⟩ := @row_of_goesOn v s first
    have rows : rowsOf (s :: heard) = row :: rowsOf heard := List.filterMap_cons_some found
    rw [List.map_cons, List.cons_append, List.map_cons, ask_goesOn first given (ih others),
      List.map_cons, String.join_cons, ← String.append_assoc, rows]

end

theorem rowsOf_heard {heard : List String} (goesOn : ∀ s ∈ heard, ¬ Stops (some s)) :
    (rowsOf heard).map (fun row => (row.expression, some row.result)) =
      heard.map fun s => (s, parse s) := by
  have kept : heard.filter (!Text.isBlank ·.toList) = heard :=
    List.filter_eq_self.2 fun s mem => by simp [not_blank_of_goesOn (goesOn s mem)]
  rw [map_rowsOf, kept]

/-- A session asks for the answers up to the first that ends it, or for all if none does, and leaves
those after it. Its rows are the answers before it with what they are parsed as, each is shown, and
none is skipped or ends the session, whether it is refused or not. -/
theorem interact_settled (prompt : String) (v : View) (as : List (Option String)) :
    ∃ (heard : List String) (rest : List (Option String)), as = heard.map some ++ rest ∧
      (∀ s ∈ heard, ¬ Stops (some s)) ∧ (∀ a ∈ rest.head?, Stops a) ∧
      (∀ s ∈ heard, ∃ row, (convert v s).outcome = .ok (some row)) ∧
      ∃ rows : List Row,
        rows.map (fun row => (row.expression, some row.result)) = heard.map (fun s => (s, parse s)) ∧
        interact prompt v (as.map .answer) =
          ⟨(Printed.line greeting).text ++
            (String.join (heard.map fun s => prompt ++ (convert v s).text) ++ prompt),
            .ok ⟨rows, rest.tail.map .answer, false⟩⟩ := by
  obtain ⟨heard, rest, rfl, goesOn, last⟩ := exists_heard as
  refine ⟨heard, rest, rfl, goesOn, last, ?_, rowsOf heard, rowsOf_heard goesOn, ?_⟩
  · intro s mem
    obtain ⟨row, -, given⟩ := @row_of_goesOn v s (goesOn s mem)
    exact ⟨row, given⟩
  · rw [interact, Printed.bind_eq greeting_outcome, ask_heard goesOn last]

end ReversePolish.Session
