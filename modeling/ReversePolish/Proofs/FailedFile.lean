import ReversePolish.Proofs.Console.Inert
import ReversePolish.Proofs.Program

/-!
# Files that cannot be loaded

A run whose file cannot be loaded prints the reason and converts nothing, whatever else is asked for.
The reason holds the path and is not escaped: it is told as it is if it is inert, and if it is not,
something else is printed or the run breaks off, `Program.failedFile_told`.
-/

namespace ReversePolish

open Markup

/-! ### Reasons -/

theorem Text.Utf8.harmless_describe (f : Fault) : Harmless f.describe.toList := by
  have place : Harmless (if f.length = 1 then
      "byte 0x" ++ String.ofList (hexDigits 2 f.lead.toNat) ++ " in position " ++ f.position.repr
    else "bytes in position " ++ f.position.repr ++ "-" ++
      (f.position + f.length - 1).repr).toList := by
    split
    · have lead : Harmless (String.ofList (hexDigits 2 f.lead.toNat)).toList := by
        rw [String.toList_ofList]
        exact harmless_hexDigits _ _
      exact harmless_concat (harmless_concat (harmless_concat rfl lead) rfl) (harmless_repr _)
    · exact harmless_concat (harmless_concat (harmless_concat rfl (harmless_repr _)) rfl)
        (harmless_repr _)
  have reason : Harmless f.reason.describe.toList := by cases f.reason <;> rfl
  exact harmless_concat (harmless_concat (harmless_concat rfl place) rfl) reason

theorem Loader.harmless_of_read {p : Path} {entry : Entry} {e : LoadError}
    (h : read p entry = .error e) (path : Harmless p.toText.toList) :
    Harmless e.message.toList := by
  unfold read at h
  split at h
  · cases h
    exact harmless_concat rfl path
  · split at h
    · next fault _ =>
      cases h
      have front : Harmless ("Cannot read expression file " ++ p.toText ++ ": ").toList :=
        harmless_concat (harmless_concat rfl path) rfl
      exact harmless_concat front (Text.Utf8.harmless_describe fault)
    · split at h
      · cases h
        exact harmless_concat rfl path
      · cases h

/-- Once a file has been read only its notice can fail. -/
theorem Loader.announce_error {p : Path} {es : List String} {e : LoadError}
    (h : (announce p es).outcome = .ok (.error e)) :
    announce p es = pure (.error e) ∧ e = .untold := by
  unfold announce at h ⊢
  dsimp only at h ⊢
  split at h
  · cases h
    exact ⟨rfl, rfl⟩
  · cases told : (Printed.line (notice p es)).outcome with
    | ok _ =>
      rw [Printed.outcome_bind_ok told] at h
      cases h
    | error f => simp [bind, Printed.andThen, told] at h

namespace Scene

variable {c : Scene} {s : String} {e : LoadError}

/-- A load that fails prints nothing. -/
theorem answer_of_error (h : (c.answer s).outcome = .ok (.error e)) :
    c.answer s = pure (.error e) := by
  have told := loads c s
  generalize c.after (.load s) = c', c.answer s = given at told h
  cases told with
  | refused _ _ =>
    cases h
    rfl
  | blocked _ _ => cases h
  | remembered _ _ => cases h
  | fresh _ _ _ => exact (Loader.announce_error h).1

/-- A reason is about the path that was looked for. -/
theorem harmless_message (h : (c.answer s).outcome = .ok (.error e))
    (path : Harmless (c.loader.locate s).toText.toList) : Harmless e.message.toList := by
  change (c.loader.loadWith (c.files.find c.loader.current) s).2.outcome = _ at h
  unfold Loader.loadWith at h
  dsimp only at h
  split at h
  · cases h
    exact (rfl : Harmless LoadError.nullInPath.message.toList)
  · split at h
    · cases h
    · split at h
      · cases h
        exact harmless_concat rfl path
      · cases h
      · split at h
        · next unread =>
          cases h
          exact Loader.harmless_of_read unread path
        · obtain ⟨-, rfl⟩ := Loader.announce_error h
          exact (rfl : Harmless LoadError.untold.message.toList)

end Scene

namespace Program

open Session Printed

/-- The line that tells a reason as it is. -/
def told (reason : String) : String :=
  lineText (String.ofList (("Error: " ++ reason).toList.filter (!isDropped ·)))

theorem told_harmless {reason : String} (h : Harmless reason.toList) :
    told reason = "Error: " ++ reason ++ "\n" := by
  have words : Harmless ("Error: " ++ reason).toList := harmless_concat rfl h
  rw [told, words.steady.filter_eq, lineText_steady words.steady, String.ofList_toList]

/-- How a run ends that tells a reason and does nothing else. -/
inductive Tells (reason : String) : Run → Prop
  | asItIs : Inert reason.toList → Tells reason ⟨told reason, "", .returned 1⟩
  | garbled {plain} : ¬ Inert reason.toList → ¬ reason.toList <:+: (lineText plain).toList →
      Tells reason ⟨lineText plain, "", .returned 1⟩
  | broken {f} : ¬ Inert reason.toList → IsTagFault f →
      (f = .missingNumber ∨ ['[', '/'] <:+: reason.toList) → Tells reason ⟨"", "", .failed f⟩

theorem Tells.of_harmless {reason : String} {r : Run} (h : Tells reason r)
    (harmless : Harmless reason.toList) : r = ⟨"Error: " ++ reason ++ "\n", "", .returned 1⟩ := by
  cases h with
  | asItIs _ => rw [told_harmless harmless]
  | garbled marked _ => exact absurd harmless.inert marked
  | broken marked _ _ => exact absurd harmless.inert marked

/-- A run that is refused. -/
def refusal (reason : String) : Run :=
  ⟨(refuse reason).text, "", match (refuse reason).outcome with
    | .ok () => .returned 1
    | .error f => .failed f⟩

theorem toList_reason (reason : String) :
    ("Error: " ++ reason).toList = "Error: ".toList ++ reason.toList :=
  String.toList_append

theorem inert_reason_iff {reason : String} :
    Inert ("Error: " ++ reason).toList ↔ Inert reason.toList := by
  rw [toList_reason, inert_append_iff (by decide) (by decide)]

theorem weight_reason (reason : String) :
    weight ("Error: " ++ reason).toList = weight reason.toList := by
  rw [toList_reason, weight_append]
  exact Nat.zero_add _

theorem tells_of_fault {reason : String} {f : Failure}
    (h : renderChars (wrapped .error ("Error: " ++ reason).toList) = .error f) :
    Tells reason ⟨"", "", .failed f⟩ := by
  have marked : ¬ Inert reason.toList := by
    intro inert
    rw [renderChars_inert .error (inert_reason_iff.2 inert)] at h
    cases h
  refine .broken marked (isTagFault_of_renderChars h) ?_
  by_cases closing : ['[', '/'] <:+: ("Error: " ++ reason).toList
  · rw [toList_reason] at closing
    exact .inr (infix_of_append (by decide) closing)
  · rcases renderChars_wrapped .error closing with missing | ⟨shown, rendered⟩
    · exact .inl (Except.error.inj (h.symm.trans missing))
    · cases h.symm.trans rendered

theorem tells_of_shown {reason : String} {shown : List Char}
    (h : renderChars (wrapped .error ("Error: " ++ reason).toList) = .ok shown) :
    Tells reason ⟨lineText (String.ofList shown), "", .returned 1⟩ := by
  by_cases inert : Inert reason.toList
  · rw [renderChars_inert .error (inert_reason_iff.2 inert)] at h
    cases h
    exact .asItIs inert
  · refine .garbled inert fun contained => inert (inert_reason_iff.1 (inert_of_weight .error ?_))
    calc weight ("Error: " ++ reason).toList
      _ = weight reason.toList := weight_reason reason
      _ ≤ weight (lineText (String.ofList shown)).toList := weight_le_of_sublist contained.sublist
      _ = weight shown := by rw [weight_lineText, String.toList_ofList]
      _ ≤ weight (visible (pieces (wrapped .error ("Error: " ++ reason).toList))) := by
        rw [eq_of_renderChars h]
        exact weight_le_of_sublist List.filter_sublist

theorem tells_refusal (reason : String) : Tells reason (refusal reason) := by
  have whole : ("[red]Error: " ++ reason ++ "[/red]").toList =
      wrapped .error ("Error: " ++ reason).toList := by
    simp [wrapped, bracketed, Style.tag]
  cases rendered : renderChars (wrapped .error ("Error: " ++ reason).toList) with
  | error f =>
    have printed : refuse reason = ⟨"", .error f⟩ :=
      line_eq_error (by rw [render, whole, rendered]; rfl)
    rw [refusal, printed]
    exact tells_of_fault rendered
  | ok shown =>
    have printed : refuse reason = ⟨lineText (String.ofList shown), .ok ()⟩ :=
      line_eq (by rw [render, whole, rendered]; rfl)
    rw [refusal, printed]
    exact tells_of_shown rendered

variable {o : Options} {load : String → Printed (Except LoadError (List String))} {p : Path}
  {e : LoadError}

/-- Arguments are not converted, and nobody is asked. -/
theorem work_failedFile (asked : o.file = .path p) (fails : load p.toText = pure (.error e))
    (replies : List Reply) : work o load replies = do
      refuse e.message
      return .refused := by
  rw [work, prepare, gather, asked]
  dsimp only
  rw [fails, pure_bind, pure_bind]
  simp only [bind_assoc, pure_bind]

theorem run_failedFile (asked : o.file = .path p) (fails : load p.toText = pure (.error e))
    {arguments : List String} (parsed : CommandLine.parseOptions arguments = .ok o)
    (replies : List Reply) : run arguments load replies = refusal e.message := by
  rw [run, parsed]
  dsimp only
  rw [work_failedFile asked fails, refusal]
  cases tells : (refuse e.message).outcome with
  | ok _ =>
    rw [bind_eq tells, text_pure, outcome_pure, String.append_empty]
    rfl
  | error f => simp [bind, andThen, tells]

/-- Whatever the files are, if the one that is asked for cannot be loaded then the run tells why and
does nothing else, whatever else the arguments ask for and whatever is typed. -/
theorem failedFile_told (o : Options) (current : List String) (base : Path) (tree : FileTree)
    {p : Path} {e : LoadError} (asked : o.file = .path p)
    (fails : ((Scene.start tree current base).answer p.toText).outcome = .ok (.error e)) :
    ∃ r, Tells e.message r ∧
      (Harmless (base.under (.ofText p.toText)).toText.toList →
        r = ⟨"Error: " ++ e.message ++ "\n", "", .returned 1⟩) ∧
      ∀ arguments replies, CommandLine.parseOptions arguments = .ok o →
        run arguments (Scene.start tree current base).answer replies = r := by
  have given : (Scene.start tree current base).answer p.toText = pure (.error e) :=
    Scene.answer_of_error fails
  have tells := tells_refusal e.message
  refine ⟨refusal e.message, tells, fun path => ?_, fun arguments replies parsed =>
    run_failedFile asked given parsed replies⟩
  have harmless : Harmless e.message.toList := Scene.harmless_message fails path
  exact tells.of_harmless harmless

/-- A file that is missing, with an argument and a session asked for. -/
theorem failedFile_told_missing :
    let o : Options := ⟨["A"], .path ⟨.here, ["m.txt"]⟩, true, .plain⟩
    let load := (Scene.start .empty ["w"] (.ofText "/w")).answer
    o.file = .path ⟨.here, ["m.txt"]⟩ ∧
    (load "m.txt").outcome = .ok (.error (.notFound ⟨.root, ["w", "m.txt"]⟩)) ∧
    ∀ replies, run ["A", "--file", "m.txt", "--interactive"] load replies =
      ⟨"Error: Expression file not found: /w/m.txt\n", "", .returned 1⟩ := by
  intro o load
  have fails : (load (Path.toText ⟨.here, ["m.txt"]⟩)).outcome =
      .ok (.error (.notFound ⟨.root, ["w", "m.txt"]⟩)) := by decide +kernel
  have parsed : CommandLine.parseOptions ["A", "--file", "m.txt", "--interactive"] = .ok o := by
    decide +kernel
  obtain ⟨r, -, plain, runs⟩ := failedFile_told o ["w"] (.ofText "/w") .empty rfl fails
  have path : Harmless ((Path.ofText "/w").under (.ofText "m.txt")).toText.toList := by
    rw [Harmless]
    decide +kernel
  refine ⟨rfl, fails, fun replies => ?_⟩
  rw [runs _ replies parsed, plain path]
  rfl

/-- A path that closes a tag that is not open breaks the run off, and one that opens a tag is not
told as it is. -/
theorem failedFile_told_exceptions :
    let load := (Scene.start .empty ["w"] (.ofText "/w")).answer
    (load "[/x]").outcome = .ok (.error (.notFound ⟨.root, ["w", "[", "x]"]⟩)) ∧
    run ["--file", "[/x]"] load [] = ⟨"", "", .failed .unopenedTag⟩ ∧
    (load "[red]x").outcome = .ok (.error (.notFound ⟨.root, ["w", "[red]x"]⟩)) ∧
    run ["--file", "[red]x"] load [] =
      ⟨"Error: Expression file not found: /w/x\n", "", .returned 1⟩ := by
  decide +kernel

end Program

end ReversePolish
