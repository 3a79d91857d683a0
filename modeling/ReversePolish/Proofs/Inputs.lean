import ReversePolish.Proofs.File.Lines
import ReversePolish.Proofs.File.Loading
import ReversePolish.Proofs.Letters
import ReversePolish.Proofs.Program
import ReversePolish.Proofs.Utf8

/-!
# Where expressions come from

Expressions may be arguments, lines of a file or answers, and none of these ways drops or changes
one, `rows_alike`; but a session ends at the letter Q, which is a quit word.
-/

namespace ReversePolish

open Session Text

/-! ### Lines -/

/-- No expression begins with the sign of a comment. -/
theorem isExpression_of_written {f : Formula} {s : String} (written : f.WrittenAs s) :
    Loader.isExpression s.toList = true := by
  obtain ⟨ts, derives, spells⟩ := id written
  cases chars : s.toList with
  | nil =>
    have parsed := written.parse_eq
    rw [parse_of_blank (by rw [chars]; rfl)] at parsed
    cases parsed
  | cons c cs =>
    rw [chars] at spells
    have other : c ≠ '#' := by
      rintro rfl
      cases spells with
      | space space _ => cases space
      | cons spelling _ => cases Expression.spelling_iff.1 spelling
    simpa [Loader.isExpression] using other

theorem expressionsIn_written {texts : List String} {cs : List Char}
    (written : ∀ s ∈ texts, ∃ f : Formula, f.WrittenAs s)
    (apart : ∀ s ∈ texts, Unbroken s.toList ∧ trim s.toList = s.toList)
    (holds : HoldsLines (texts.map String.toList) cs) : Loader.expressionsIn cs = texts := by
  refine Loader.expressionsIn_stands (fun s member => ?_) holds
  obtain ⟨f, derived⟩ := written s member
  obtain ⟨unbroken, trimmed⟩ := apart s member
  exact ⟨unbroken, trimmed, isExpression_of_written derived⟩

/-! ### Rows -/

theorem rowsOf_written {texts : List String}
    (written : ∀ s ∈ texts, ∃ f : Formula, f.WrittenAs s) :
    (rowsOf texts).map (fun row => (row.expression, some row.result)) =
      texts.map fun s => (s, parse s) := by
  have visible : texts.filter (!isBlank ·.toList) = texts := by
    rw [List.filter_eq_self]
    intro s member
    obtain ⟨f, derived⟩ := written s member
    have parsed := derived.parse_eq
    rw [parse] at parsed
    split at parsed
    · cases parsed
    · next other => rwa [Bool.not_eq_true, ← Bool.not_eq_true'] at other
  rw [map_rowsOf, visible]

/-- Answers give the rows of the expressions before the first that ends the session. -/
theorem rows_of_answers {texts : List String}
    (written : ∀ s ∈ texts, ∃ f : Formula, f.WrittenAs s)
    (trimmed : ∀ s ∈ texts, trim s.toList = s.toList) :
    ((texts.map some).takeWhile (!ends ·)).filterMap answered =
      (rowsOf texts).takeWhile (!isLetterQ ·.expression) := by
  induction texts with
  | nil => rfl
  | cons s texts ih =>
    obtain ⟨⟨f, derived⟩, others⟩ := List.forall_mem_cons.1 written
    obtain ⟨alone, apart⟩ := List.forall_mem_cons.1 trimmed
    have row : row? s = some ⟨s, .ok f.postorder⟩ := by
      rw [row?, derived.parse_eq]
      rfl
    rw [List.map_cons, rowsOf, List.filterMap_cons, row, List.takeWhile_cons,
      ends_eq derived alone]
    cases word : isLetterQ s with
    | true => simp [word]
    | false =>
      have front : answered (some s) = some ⟨s, .ok f.postorder⟩ := row
      simp only [Bool.not_false, if_true, List.filterMap_cons, front, List.takeWhile_cons, word]
      exact congrArg _ (ih others apart)

theorem takeWhile_rowsOf {texts : List String} (h : ∀ s ∈ texts, isLetterQ s = false) :
    (rowsOf texts).takeWhile (!isLetterQ ·.expression) = rowsOf texts := by
  rw [List.takeWhile_eq_self_iff]
  intro row member
  obtain ⟨s, present, found⟩ := List.mem_filterMap.1 member
  obtain ⟨result, -, rfl⟩ := Option.map_eq_some_iff.1 found
  simp [h s present]

namespace Program

variable {load : String → Printed (Except LoadError (List String))} {texts : List String}

theorem gather_arguments (visible : texts ≠ []) (v : View) :
    (gather ⟨texts, .none, false, v⟩ load).outcome = .ok (.ok texts) := by
  simp [gather, visible, Printed.outcome_pure]

theorem gather_file (visible : texts ≠ []) (v : View) {path : Path}
    (loaded : (load path.toText).outcome = .ok (.ok texts)) :
    (gather ⟨[], .path path, false, v⟩ load).outcome = .ok (.ok texts) := by
  rw [gather, Printed.outcome_bind_ok loaded]
  simp [visible, Printed.outcome_pure]

end Program

/-- Expressions give the same rows, each with what it is parsed as, whether they are arguments, the
lines of a file or answers. As answers those from the first letter Q on are not taken. -/
theorem rows_alike (v : View) {texts : List String} (visible : texts ≠ [])
    (written : ∀ s ∈ texts, ∃ f : Formula, f.WrittenAs s)
    (apart : ∀ s ∈ texts, Unbroken s.toList ∧ trim s.toList = s.toList) :
    ∃ rows : List Row,
      rows.map (fun row => (row.expression, some row.result)) = texts.map (fun s => (s, parse s)) ∧
      (∀ load replies,
        (Program.work ⟨texts, .none, false, v⟩ load replies).outcome = .ok (.done rows)) ∧
      (∀ (current : List String) (base : Path) (tree : FileTree) (path : Path) (cs : List Char)
        (replies : List Reply),
        let p := (Loader.new current base).locate path.toText
        HoldsLines (texts.map String.toList) cs → p.hasNull = false →
        tree.find current p = .ok (.file (String.ofList cs).toUTF8.data.toList) →
        (Printed.line (Loader.notice p texts)).outcome = .ok () →
        (Program.work ⟨[], .path path, false, v⟩
          (fun s => ((Loader.new current base).load tree s).2) replies).outcome = .ok (.done rows)) ∧
      ∀ prompt, ∃ t : Transcript,
        (interact prompt v ((texts.map some).map .answer)).outcome = .ok t ∧
        t.rows = rows.takeWhile (!isLetterQ ·.expression) ∧
        ((∀ s ∈ texts, isLetterQ s = false) → t.rows = rows) := by
  refine ⟨rowsOf texts, rowsOf_written written, fun load replies => ?_, ?_, fun prompt => ?_⟩
  · exact Program.work_outcome (Program.gather_arguments visible v) rfl replies
  · intro current base tree path cs replies p holds legal found told
    have read : Loader.expressionsIn cs = texts := expressionsIn_written written apart holds
    have decoded := Utf8.decode_toUTF8 (String.ofList cs)
    rw [String.toList_ofList] at decoded
    have given := Loader.read_file (p := p) decoded (by rwa [read])
    rw [read] at given
    have fresh := Loader.loadWith_fresh legal rfl found given
    refine Program.work_outcome (Program.gather_file visible v ?_) rfl replies
    show ((Loader.new current base).loadWith (tree.find current) path.toText).2.outcome = _
    rw [fresh]
    exact Loader.announce_told told
  · have rows := rows_of_answers written fun s member => (apart s member).2
    refine ⟨_, interact_outcome prompt v (texts.map some), rows, fun none => ?_⟩
    exact rows.trans (takeWhile_rowsOf none)

/-- Three expressions as arguments, as the lines of a file, and as answers, the second of which ends
the session. -/
theorem rows_alike_three :
    let texts := ["!(a + B)", "q", "1"]
    let cs := "!(a + B)\r\nq\r1".toList
    let tree : FileTree := ⟨[(["e.txt"], .file (String.ofList cs).toUTF8.data.toList)]⟩
    let p := (Loader.new [] ⟨.root, []⟩).locate (Path.toText ⟨.here, ["e.txt"]⟩)
    texts ≠ [] ∧ (∀ s ∈ texts, ∃ f : Formula, f.WrittenAs s) ∧
    (∀ s ∈ texts, Unbroken s.toList ∧ trim s.toList = s.toList) ∧
    HoldsLines (texts.map String.toList) cs ∧ p.hasNull = false ∧
    tree.find [] p = .ok (.file (String.ofList cs).toUTF8.data.toList) ∧
    (Printed.line (Loader.notice p texts)).outcome = .ok () ∧
    ∃ rows : List Row, rows.map Row.expression = texts ∧
      (Program.work ⟨texts, .none, false, .plain⟩ (fun _ => pure (.ok [])) []).outcome =
        .ok (.done rows) ∧
      (Program.work ⟨[], .path ⟨.here, ["e.txt"]⟩, false, .plain⟩
        (fun s => ((Loader.new [] ⟨.root, []⟩).load tree s).2) []).outcome = .ok (.done rows) ∧
      ∃ t : Transcript,
        (interact "" .plain ((texts.map some).map .answer)).outcome = .ok t ∧
        t.rows.map Row.expression = ["!(a + B)"] := by
  intro texts cs tree p
  have place : p = ⟨.root, ["e.txt"]⟩ := by decide
  have legal : p.hasNull = false := by
    rw [place]
    decide
  have first : (Formula.not (.or (.var ⟨'A', rfl⟩) (.var ⟨'B', rfl⟩))).WrittenAs "!(a + B)" :=
    ⟨_, .product (.factor (.not (.brackets (.or (.product (.factor (.letter _)))
      (.factor (.letter _)))))), Expression.spells_iff.2 (Expression.mapM_readChar_ok_iff.1 rfl)⟩
  have second : (Formula.var ⟨'Q', rfl⟩).WrittenAs "q" :=
    ⟨_, .product (.factor (.letter _)),
      Expression.spells_iff.2 (Expression.mapM_readChar_ok_iff.1 rfl)⟩
  have third : (Formula.const true).WrittenAs "1" :=
    ⟨_, .product (.factor (.digit _)),
      Expression.spells_iff.2 (Expression.mapM_readChar_ok_iff.1 rfl)⟩
  have written : ∀ s ∈ texts, ∃ f : Formula, f.WrittenAs s := by
    simp only [texts, List.forall_mem_cons, List.not_mem_nil, false_imp_iff, implies_true, and_true]
    exact ⟨⟨_, first⟩, ⟨_, second⟩, ⟨_, third⟩⟩
  have apart : ∀ s ∈ texts, Unbroken s.toList ∧ trim s.toList = s.toList := by
    simp only [texts, Unbroken, List.forall_mem_cons, List.not_mem_nil, false_imp_iff,
      implies_true, and_true]
    decide
  have ended : ['\r', '\n'] ∈ lineEnds ∧ ['\r'] ∈ lineEnds := by decide
  have holds : HoldsLines (texts.map String.toList) cs := .line ended.1 (.line ended.2 (.last _))
  have found : tree.find [] p = .ok (.file (String.ofList cs).toUTF8.data.toList) := by
    rw [place]
    rfl
  have told : (Printed.line (Loader.notice p texts)).outcome = .ok () := by
    rw [place]
    exact Loader.told_of_clear texts rfl
  obtain ⟨rows, parsed, given, loaded, answers⟩ := rows_alike .plain (by decide) written apart
  obtain ⟨t, asked, taken, _⟩ := answers ""
  have expressions : rows.map Row.expression = texts := by
    have pairs := congrArg (List.map Prod.fst) parsed
    simpa [Function.comp_def] using pairs
  refine ⟨by decide, written, apart, holds, legal, found, told, rows, expressions, given _ _, ?_, t,
    asked, ?_⟩
  · exact loaded [] ⟨.root, []⟩ tree ⟨.here, ["e.txt"]⟩ cs [] holds legal found told
  · have front : (rows.map Row.expression).takeWhile (!isLetterQ ·) =
        (rows.takeWhile (!isLetterQ ·.expression)).map Row.expression := List.takeWhile_map ..
    rw [taken, ← front, expressions]
    rfl

/-- Not all expressions can be answers: the letter Q ends the session. -/
theorem rows_of_letterQ : ¬ ∀ (v : View) (texts : List String), texts ≠ [] →
    (∀ s ∈ texts, ∃ f : Formula, f.WrittenAs s) →
    (∀ s ∈ texts, Unbroken s.toList ∧ trim s.toList = s.toList) →
    ∀ rows load replies prompt t,
      (Program.work ⟨texts, .none, false, v⟩ load replies).outcome = .ok (.done rows) →
      (interact prompt v ((texts.map some).map .answer)).outcome = .ok t → t.rows = rows := by
  intro alike
  have letter : (Formula.var ⟨'Q', rfl⟩).WrittenAs "q" :=
    ⟨_, .product (.factor (.letter _)),
      Expression.spells_iff.2 (Expression.mapM_readChar_ok_iff.1 rfl)⟩
  have alone : Unbroken "q".toList ∧ trim "q".toList = "q".toList := by
    rw [Unbroken]
    decide
  have rows : rowsOf ["q"] = [⟨"q", .ok [.letter ⟨'Q', rfl⟩]⟩] := rfl
  have given := @Program.work_outcome ⟨["q"], .none, false, .plain⟩ (fun _ => pure (.ok [])) ["q"]
    (Program.gather_arguments (by simp) .plain) rfl []
  have asked := interact_outcome "" .plain [some "q"]
  have same := alike .plain ["q"] (by simp) (by simpa using ⟨_, letter⟩) (by simpa using alone)
    _ _ _ _ _ given asked
  rw [rows] at same
  cases same

end ReversePolish
