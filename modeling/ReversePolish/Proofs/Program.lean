import ReversePolish.Program
import ReversePolish.Proofs.File.Cache
import ReversePolish.Proofs.Session

/-!
# What the program does

Arguments, a file and answers give rows in this order, one for each text that is not blank. Once the
file is loaded nothing else decides the rows and the status, and the view decides no more than what
is printed on the way: `Program.work_settled`.
-/

namespace ReversePolish

open Session

/-! ### Expressions of a file -/

theorem Loader.not_blank_of_read {p : Path} {entry : Entry} {es : List String}
    (h : read p entry = .ok es) : ∀ s ∈ es, Text.isBlank s.toList = false := by
  obtain ⟨-, cs, rfl⟩ := expressionsIn_of_read h
  intro s member
  obtain ⟨l, kept, rfl⟩ := List.mem_map.1 member
  obtain ⟨trimmed, visible⟩ := List.mem_filter.1 kept
  obtain ⟨line, -, rfl⟩ := List.mem_map.1 trimmed
  rw [isExpression, Bool.and_eq_true, Bool.not_eq_true'] at visible
  rw [String.toList_ofList, Expression.isBlank_trim]
  exact visible.1

/-- What a loader gives at first is in the file, and is told of. -/
theorem Scene.announced_of_given {files : FileTree} {current : List String} {base : Path}
    {s : String} {es : List String}
    (h : ((start files current base).answer s).outcome = .ok (.ok es)) :
    (start files current base).Holds s es ∧ (start files current base).answer s =
      Loader.announce ((Loader.new current base).locate s) es := by
  have told := loads (start files current base) s
  generalize (start files current base).after (.load s) = c',
    (start files current base).answer s = told at told h ⊢
  cases told with
  | refused _ _ => cases h
  | blocked _ _ => cases h
  -- a new loader remembers nothing
  | remembered _ known => cases known
  | fresh _ _ holds =>
    cases Loader.announce_given h
    exact ⟨holds, rfl⟩

namespace Program

/-! ### The summary -/

def summaryTitle : String := "Conversion Summary"

/-- What sums up rows: nothing if they are fewer than two, else a table that lists them in order. -/
inductive SummedUp (naming : Naming) (rows : List Row) : String → Prop
  | few : rows.length < 2 → SummedUp naming rows ""
  | listed {texts table} {m n : Nat} : 2 ≤ rows.length →
      List.Forall₂ (Display.Lists naming) rows texts →
      Table.Lays [Table.blanks m ++ summaryTitle.toList ++ Table.blanks n] Display.summaryColumns
        texts table →
      Display.summaryTable summaryTitle naming (rows.map Row.shown) = ⟨table, .ok ()⟩ →
      SummedUp naming rows ("\n" ++ table)

theorem shownTitle_summary : Display.shownTitle summaryTitle = .ok (some summaryTitle) := by
  decide +kernel

theorem plain_summaryTitle : Table.Plain summaryTitle :=
  Table.plain_of_all rfl (by decide +kernel)

/-- The table of conversions has its title on one line. -/
theorem layout_summary {naming : Naming} {rows : List Row} {cells : List (List Cell)}
    (lists : List.Forall₂ (Display.Lists naming) rows (cells.map (·.map Cell.text))) :
    ∃ m n, Table.Lays [Table.blanks m ++ summaryTitle.toList ++ Table.blanks n]
      Display.summaryColumns (cells.map (·.map Cell.text))
      (Table.layout (some summaryTitle) Display.summaryColumns cells) := by
  have even : ∀ row ∈ cells, row.length = Display.summaryColumns.length := by
    have sizes := forall_of_forall₂ (p := fun texts => texts.length = 3) <|
      lists.imp fun row texts ⟨_, _, same⟩ => by rw [same]; rfl
    intro row member
    rw [← List.length_map Cell.text]
    exact sizes _ (List.mem_map_of_mem member)
  obtain ⟨room, least, lays⟩ := Table.layout_lays (some summaryTitle) even
  have frame : Text.width summaryTitle.toList ≤
      Table.total (Display.summaryColumns.map (Table.widest ·.header)) := by decide +kernel
  obtain ⟨m, n, title⟩ :=
    Table.place_fitting plain_summaryTitle .fold true .centre (Nat.le_trans frame least)
  rw [Option.map_some, Option.getD_some, title] at lays
  exact ⟨m, n, lays⟩

theorem line_blank : Printed.line "" = ⟨"\n", .ok ()⟩ := by
  have rendered : Markup.render "" = .ok "" := by decide +kernel
  rw [Printed.line_eq rendered]
  rfl

theorem summarize_printed (v : View) {rows : List Row}
    (h : ∀ row ∈ rows, parse row.expression = some row.result) :
    ∃ summary, SummedUp v.naming rows summary ∧ summarize v rows = ⟨summary, .ok ()⟩ := by
  unfold summarize
  split
  · next several =>
    have paired : Markup.Paired summaryTitle.toList := Markup.paired_plain (by decide)
    obtain ⟨name, cells, titled, lists, printed⟩ := Display.summaryTable_printed paired v.naming h
    cases titled.symm.trans shownTitle_summary
    obtain ⟨m, n, lays⟩ := layout_summary lists
    refine ⟨_, .listed several lists lays printed, ?_⟩
    rw [line_blank, Printed.bind_eq rfl]
    show Printed.mk (_ ++ (Display.summaryTable summaryTitle v.naming (rows.map Row.shown)).text)
      (Display.summaryTable summaryTitle v.naming (rows.map Row.shown)).outcome = _
    rw [printed]
  · exact ⟨"", .few (by omega), rfl⟩

theorem plain_verdict (result : Except Refusal (List Token)) :
    Table.Plain (Display.verdict result) := by
  cases result with
  | ok p => exact (Table.plain_of_all rfl (by decide +kernel) : Table.Plain "✓ ok")
  | error e => rw [Display.verdict]; cases e.rule <;> exact Table.plain_of_all rfl (by decide +kernel)

/-- A row of plain texts is on a line of the summary. -/
theorem SummedUp.line {naming : Naming} {rows : List Row} {summary shown : String}
    (h : SummedUp naming rows summary) (several : 2 ≤ rows.length) {row : Row} (member : row ∈ rows)
    (worded : Display.wording naming row.result = .ok shown)
    (plain : Table.Plain (Display.undropped (Markup.echo row.expression.toList)))
    (plain' : Table.Plain (Display.undropped shown.toList)) :
    ∃ m n k, Table.barred '│'
      [(Display.undropped (Markup.echo row.expression.toList)).toList ++ Table.blanks m,
        (Display.undropped shown.toList).toList ++ Table.blanks n,
        (Display.verdict row.result).toList ++ Table.blanks k] ++ ['\n'] <:+: summary.toList := by
  cases h with
  | few single => omega
  | @listed texts table m n _ lists lays _ =>
    obtain ⟨row', present, shown', worded', rfl⟩ := exists_of_forall₂ lists member
    cases worded.symm.trans worded'
    obtain ⟨places, lines, line⟩ := lays.line_of_plain (by decide) present (by simp) (by
      simpa using ⟨plain, plain', plain_verdict row.result⟩)
    obtain _ | ⟨⟨m, rfl⟩, _ | ⟨⟨n, rfl⟩, _ | ⟨⟨k, rfl⟩, _ | _⟩⟩⟩ := lines
    refine ⟨m, n, k, line.trans ?_⟩
    rw [String.toList_append]
    exact (List.suffix_append _ _).isInfix

theorem failed_iff {row : Row} : row.failed = true ↔ ∃ e, row.result = .error e := by
  obtain ⟨s, result⟩ := row
  cases result with
  | ok ts => exact ⟨fun h => (nomatch h), fun ⟨_, h⟩ => (nomatch h)⟩
  | error e => exact ⟨fun _ => ⟨e, rfl⟩, fun _ => rfl⟩

theorem status_eq_one_iff {rows : List Row} :
    status rows = 1 ↔ ∃ row ∈ rows, ∃ e, row.result = .error e := by
  simp [status, failed_iff]

/-! ### Before the summary -/

variable {o : Options} {load : String → Printed (Except LoadError (List String))}
  {texts more : List String}

/-- What a file that is asked for gives, if there is one. -/
def Gives (load : String → Printed (Except LoadError (List String))) :
    FileChoice → List String → Prop
  | .path p, more => (load p.toText).outcome = .ok (.ok more)
  | .none, more | .pathless, more => more = []

/-- There is nothing to convert and nobody to ask. -/
def Idle (o : Options) (more : List String) : Prop :=
  o.expressions ++ more = [] ∧ o.interactive = false

instance (o : Options) (more : List String) : Decidable (Idle o more) :=
  inferInstanceAs (Decidable (_ ∧ _))

/-- What is told where there is nothing to do. -/
def idleReason : String := "No expressions given (pass EXPRESSION, --file or --interactive)"

theorem refuse_idle : (refuse idleReason).outcome = .ok () :=
  @Display.line_styled .error ("Error: " ++ idleReason) rfl

theorem gather_given (given : Gives load o.file more) :
    (gather o load).outcome = .ok (if (o.expressions ++ more).isEmpty && !o.interactive then
      .error idleReason else .ok (o.expressions ++ more)) := by
  unfold gather
  cases file : o.file with
  | none | pathless =>
    rw [file] at given
    cases given
    rfl
  | path p =>
    rw [file] at given
    exact Printed.outcome_bind_ok given _

theorem gather_idle (given : Gives load o.file more) (idle : Idle o more) :
    (gather o load).outcome = .ok (.error idleReason) := by
  obtain ⟨empty, quiet⟩ := idle
  rw [gather_given given, empty, quiet]
  rfl

theorem gather_busy (given : Gives load o.file more) (busy : ¬ Idle o more) :
    (gather o load).outcome = .ok (.ok (o.expressions ++ more)) := by
  rw [gather_given given, if_neg]
  simpa only [Bool.and_eq_true, List.isEmpty_iff, Bool.not_eq_true', Idle] using busy

theorem prepare_outcome (h : (gather o load).outcome = .ok (.ok texts)) :
    (prepare o load).outcome = .ok (some (rowsOf texts)) := by
  rw [prepare, Printed.outcome_bind_ok h]
  dsimp only
  rw [Printed.outcome_bind_ok (convertAll_outcome o.view texts)]
  split
  · exact Printed.outcome_bind_ok greeting_outcome _
  · rfl

theorem gather_text {path : Path} (file : o.file = .path path)
    (given : (load path.toText).outcome = .ok (.ok more)) :
    (gather o load).text = (load path.toText).text := by
  unfold gather
  rw [file]
  dsimp only
  rw [Printed.text_bind_ok given, Printed.text_pure, String.append_empty]

/-- Before anything else it is told what the file gives, and what comes of each text. -/
theorem prepare_text (h : (gather o load).outcome = .ok (.ok texts)) :
    ∃ rest, (prepare o load).text = (gather o load).text ++
      String.join (texts.map fun text => (convert o.view text).text) ++ rest := by
  rw [prepare, Printed.text_bind_ok h]
  dsimp only
  rw [Printed.text_bind_ok (convertAll_outcome o.view texts), convertAll_text]
  exact ⟨_, (String.append_assoc ..).symm⟩

/-! ### Work -/

theorem work_text {rows : Option (List Row)} (h : (prepare o load).outcome = .ok rows)
    (replies : List Reply) : ∃ rest, (work o load replies).text = (prepare o load).text ++ rest := by
  rw [work, Printed.text_bind_ok h]
  exact ⟨_, rfl⟩

/-- What is printed before the summary: what comes before the first prompt, and the session. -/
def front (o : Options) (load : String → Printed (Except LoadError (List String)))
    (replies : List Reply) : String :=
  (prepare o load).text ++ if o.interactive then (ask prompt o.view replies).text else ""

def Work.rows : Work → List Row
  | .done rows => rows
  | .refused | .interrupted => []

theorem work_quiet (h : (gather o load).outcome = .ok (.ok texts)) (quiet : o.interactive = false)
    (replies : List Reply) : ∃ summary, SummedUp o.view.naming (rowsOf texts) summary ∧
      work o load replies = ⟨front o load replies ++ summary, .ok (.done (rowsOf texts))⟩ := by
  obtain ⟨summary, summed, printed⟩ :=
    summarize_printed o.view fun row => @parse_of_mem_rowsOf texts row
  refine ⟨summary, summed, ?_⟩
  rw [work, Printed.bind_eq (prepare_outcome h), front]
  simp only [quiet, Bool.false_eq_true, if_false, printed, String.append_empty]
  rw [Printed.bind_eq rfl, Printed.text_pure, Printed.outcome_pure, String.append_empty]

theorem work_asked (h : (gather o load).outcome = .ok (.ok texts)) (asks : o.interactive = true)
    (lines : List String) :
    let replies := lines.map Reply.ofLine
    let rows := rowsOf (texts ++ heeded lines)
    ∃ summary, SummedUp o.view.naming rows summary ∧
      work o load replies = ⟨front o load replies ++ summary, .ok (.done rows)⟩ := by
  intro replies rows
  obtain ⟨summary, summed, printed⟩ :=
    summarize_printed o.view fun row => @parse_of_mem_rowsOf (texts ++ heeded lines) row
  obtain ⟨unread, asked⟩ := ask_typed prompt o.view lines
  refine ⟨summary, summed, ?_⟩
  rw [work, Printed.bind_eq (prepare_outcome h), front]
  simp only [asks, if_true]
  rw [Printed.bind_eq asked]
  simp only [Bool.false_eq_true, if_false, ← rowsOf_append]
  rw [printed, Printed.bind_eq rfl, Printed.text_pure, Printed.outcome_pure, String.append_empty,
    String.append_assoc]

theorem work_refused {reason : String} (h : (gather o load).outcome = .ok (.error reason))
    (tells : (refuse reason).outcome = .ok ()) (quiet : o.interactive = false)
    (replies : List Reply) : work o load replies = ⟨front o load replies, .ok .refused⟩ := by
  have prepared : (prepare o load).outcome = .ok none := by
    rw [prepare, Printed.outcome_bind_ok h]
    exact Printed.outcome_bind_ok tells _
  rw [work, Printed.bind_eq prepared, front]
  simp [quiet, Printed.text_pure, Printed.outcome_pure]

theorem work_outcome (h : (gather o load).outcome = .ok (.ok texts)) (quiet : o.interactive = false)
    (replies : List Reply) : (work o load replies).outcome = .ok (.done (rowsOf texts)) := by
  obtain ⟨summary, -, printed⟩ := work_quiet h quiet replies
  rw [printed]

/-! ### Rows and status -/

/-- The texts that are converted: arguments, then those of the file, then answers. -/
def textsOf (o : Options) (more lines : List String) : List String :=
  o.expressions ++ more ++ if o.interactive then heeded lines else []

def statusOf (o : Options) (more : List String) (rows : List Row) : Nat :=
  if Idle o more then 1 else status rows

theorem statusOf_cases (o : Options) (more : List String) (rows : List Row) :
    statusOf o more rows = 0 ∨ statusOf o more rows = 1 := by
  unfold statusOf status
  split
  · exact .inr rfl
  · split
    · exact .inr rfl
    · exact .inl rfl

theorem statusOf_eq_one_iff {rows : List Row} :
    statusOf o more rows = 1 ↔ (∃ row ∈ rows, ∃ e, row.result = .error e) ∨ Idle o more := by
  unfold statusOf
  split
  · next idle => simp [idle]
  · next busy => simp [busy, status_eq_one_iff]

theorem work_printed (given : Gives load o.file more) (lines : List String) :
    let rows := rowsOf (textsOf o more lines)
    ∃ summary w, SummedUp o.view.naming rows summary ∧
      work o load (lines.map .ofLine) = ⟨front o load (lines.map .ofLine) ++ summary, .ok w⟩ ∧
      w.rows = rows ∧ w.ending = .returned (statusOf o more rows) := by
  intro rows
  by_cases idle : Idle o more
  · have none : rows = [] := by simp [rows, textsOf, idle.1, idle.2, rowsOf]
    have refused := work_refused (gather_idle given idle) refuse_idle idle.2 (lines.map .ofLine)
    rw [none, statusOf, if_pos idle]
    refine ⟨"", .refused, .few (by decide), ?_, rfl, rfl⟩
    rw [refused, String.append_empty]
  · have gathered := gather_busy given idle
    rw [statusOf, if_neg idle]
    cases asks : o.interactive with
    | false =>
      have all : textsOf o more lines = o.expressions ++ more := by simp [textsOf, asks]
      obtain ⟨summary, summed, printed⟩ := work_quiet gathered asks (lines.map .ofLine)
      rw [← all] at summed printed
      exact ⟨summary, _, summed, printed, rfl, rfl⟩
    | true =>
      have all : textsOf o more lines = o.expressions ++ more ++ heeded lines := by
        simp [textsOf, asks]
      obtain ⟨summary, summed, printed⟩ := work_asked gathered asks lines
      rw [← all] at summed printed
      exact ⟨summary, _, summed, printed, rfl, rfl⟩

theorem run_of_work {arguments : List String} {replies : List Reply} {text : String} {w : Work}
    (parsed : CommandLine.parseOptions arguments = .ok o)
    (works : work o load replies = ⟨text, .ok w⟩) :
    run arguments load replies = ⟨text, "", w.ending⟩ := by
  rw [run, parsed]
  dsimp only
  rw [works]

theorem filter_textsOf {lines : List String} (h : ∀ s ∈ more, Text.isBlank s.toList = false) :
    (textsOf o more lines).filter (!Text.isBlank ·.toList) =
      o.expressions.filter (!Text.isBlank ·.toList) ++ more ++
        if o.interactive then heeded lines else [] := by
  have kept : more.filter (!Text.isBlank ·.toList) = more := by
    rw [List.filter_eq_self]
    exact fun s member => by rw [h s member, Bool.not_false]
  have answers : (heeded lines).filter (!Text.isBlank ·.toList) = heeded lines := by
    rw [List.filter_eq_self]
    exact fun s member => by rw [not_blank_of_heeded member, Bool.not_false]
  rw [textsOf, List.filter_append, List.filter_append, kept]
  split
  · rw [answers]
  · rfl

theorem not_blank_of_given {current : List String} {base : Path} {tree : FileTree}
    {choice : FileChoice} (given : Gives (Scene.start tree current base).answer choice more) :
    ∀ s ∈ more, Text.isBlank s.toList = false := by
  cases choice with
  | none | pathless =>
    cases given
    exact fun _ absent => (List.not_mem_nil absent).elim
  | path p =>
    obtain ⟨⟨entry, -, holds⟩, -⟩ := Scene.announced_of_given given
    exact Loader.not_blank_of_read holds

/-- The rows of a run are those of its texts that are not blank, in order: arguments, then the file,
then answers up to the first that ends the session. The status tells whether one of them failed, or
there was nothing to do. The rows are summed up if they are two or more. None of this depends on the
view. -/
theorem work_settled (o : Options) (current : List String) (base : Path) (tree : FileTree)
    (lines : List String) {more : List String}
    (given : Gives (Scene.start tree current base).answer o.file more) :
    let load := (Scene.start tree current base).answer
    let replies := lines.map Reply.ofLine
    ∃ (rows : List Row) (status : Nat),
      rows.map (fun row => (row.expression, some row.result)) =
        (o.expressions.filter (!Text.isBlank ·.toList) ++ more ++
          if o.interactive then heeded lines else []).map (fun s => (s, parse s)) ∧
      (status = 0 ∨ status = 1) ∧
      (status = 1 ↔ (∃ row ∈ rows, ∃ e, row.result = .error e) ∨
        (o.expressions ++ more = [] ∧ o.interactive = false)) ∧
      ∀ v : View, ∃ summary w, SummedUp v.naming rows summary ∧
        work { o with view := v } load replies =
          ⟨front { o with view := v } load replies ++ summary, .ok w⟩ ∧
        w.rows = rows ∧ w.ending = .returned status ∧
        ∀ arguments, CommandLine.parseOptions arguments = .ok { o with view := v } →
          run arguments load replies =
            ⟨front { o with view := v } load replies ++ summary, "", .returned status⟩ := by
  intro load replies
  refine ⟨rowsOf (textsOf o more lines), statusOf o more (rowsOf (textsOf o more lines)), ?_,
    statusOf_cases _ _ _, statusOf_eq_one_iff, fun v => ?_⟩
  · rw [map_rowsOf, filter_textsOf (not_blank_of_given given)]
  · have given' : Gives load { o with view := v }.file more := given
    obtain ⟨summary, w, summed, works, rows, ending⟩ := work_printed given' lines
    refine ⟨summary, w, summed, works, rows, ending, fun arguments parsed => ?_⟩
    rw [run_of_work parsed works, ending]
    rfl

/-- A blank argument, a file with a comment, and a session that a quit word ends. -/
theorem work_settled_mixed :
    let o : Options := ⟨["a+b", " "], .path ⟨.here, ["e.txt"]⟩, true, ⟨false, true, false⟩⟩
    let tree := FileTree.empty.write [] (.ofText "/w/e.txt") [35, 10, 33, 13, 10, 113]
    let load := (Scene.start tree ["w"] (.ofText "/w")).answer
    let replies := ["1.", " Quit\n", "a"].map Reply.ofLine
    Gives load o.file ["!", "q"] ∧
    ∃ rows summary, rows.map Row.expression = ["a+b", "!", "q", "1."] ∧
      SummedUp .names rows summary ∧
      (∃ m n k, Table.barred '│' ["a+b".toList ++ Table.blanks m,
        "VAR(A) VAR(B) OR".toList ++ Table.blanks n, "✓ ok".toList ++ Table.blanks k] ++ ['\n'] <:+:
          summary.toList) ∧
      run ["a+b", " ", "--file", "e.txt", "--interactive", "--names"] load replies =
        ⟨front o load replies ++ summary, "", .returned 1⟩ := by
  intro o tree load replies
  have given : Gives load o.file ["!", "q"] := by
    change (load _).outcome = _
    decide +kernel
  have parsed : CommandLine.parseOptions
      ["a+b", " ", "--file", "e.txt", "--interactive", "--names"] = .ok o := by decide +kernel
  have heeds : heeded ["1.", " Quit\n", "a"] = ["1."] := by decide +kernel
  obtain ⟨rows, status, pairs, -, failing, views⟩ :=
    work_settled o ["w"] (.ofText "/w") tree ["1.", " Quit\n", "a"] given
  obtain ⟨summary, w, summed, -, -, -, runs⟩ := views ⟨false, true, false⟩
  have texts : o.expressions.filter (!Text.isBlank ·.toList) ++ ["!", "q"] ++
      (if o.interactive then heeded ["1.", " Quit\n", "a"] else []) = ["a+b", "!", "q", "1."] := by
    rw [heeds]
    decide
  rw [texts] at pairs
  have expressions : rows.map Row.expression = ["a+b", "!", "q", "1."] := by
    simpa [Function.comp_def] using congrArg (List.map Prod.fst) pairs
  have listed (s : String) (typed : s ∈ ["a+b", "!", "q", "1."]) :
      ∃ row ∈ rows, row.expression = s ∧ some row.result = parse s := by
    have present : (s, parse s) ∈ rows.map fun row => (row.expression, some row.result) := by
      rw [pairs]
      exact List.mem_map_of_mem typed
    obtain ⟨row, member, same⟩ := List.mem_map.1 present
    exact ⟨row, member, congrArg Prod.fst same, congrArg Prod.snd same⟩
  have one : status = 1 := by
    obtain ⟨row, member, -, result⟩ := listed "!" (by decide)
    exact failing.2 (.inl ⟨row, member, _, Option.some.inj result⟩)
  have line : ∃ m n k, Table.barred '│' ["a+b".toList ++ Table.blanks m,
      "VAR(A) VAR(B) OR".toList ++ Table.blanks n, "✓ ok".toList ++ Table.blanks k] ++ ['\n'] <:+:
        summary.toList := by
    obtain ⟨⟨text, result⟩, member, rfl, results⟩ := listed "a+b" (by decide)
    let sum : List Token := [⟨.var, some "A"⟩, ⟨.var, some "B"⟩, ⟨.or, none⟩]
    have parsed : parse "a+b" = some (.ok sum) := by decide +kernel
    cases results.trans parsed
    have worded : Display.wording .names (.ok sum) = .ok "VAR(A) VAR(B) OR" := rfl
    have several : 2 ≤ rows.length := by
      rw [← List.length_map Row.expression, expressions]
      decide
    have echoed : Display.undropped (Markup.echo "a+b".toList) = "a+b" := by decide +kernel
    have shown : Display.undropped "VAR(A) VAR(B) OR".toList = "VAR(A) VAR(B) OR" := by
      decide +kernel
    have plain : Table.Plain "a+b" := Table.plain_of_all rfl (by decide +kernel)
    have plain' : Table.Plain "VAR(A) VAR(B) OR" := Table.plain_of_all rfl (by decide +kernel)
    have line := summed.line several member worded (by rwa [echoed]) (by rwa [shown])
    rwa [echoed, shown] at line
  exact ⟨given, rows, summary, expressions, summed, line, by rw [runs _ parsed, one]⟩

end Program

end ReversePolish
