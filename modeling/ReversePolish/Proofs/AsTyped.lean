import ReversePolish.Proofs.Display

/-!
# Expressions as they are typed

The line of an expression shows the expression as it was typed, but for two things. A backslash in
front of a bracket that begins no tag is left out, and a single one at the end is doubled:
`Display.conversion_echoes`. Tags are shown with all their backslashes.
-/

namespace ReversePolish

open Markup

/-! ### What is neither dropped nor filled up -/

theorem steady_of_isWordChar {c : Char} (h : isWordChar c = true) :
    c ≠ '\t' ∧ isDropped c = false := by
  refine steady_of_le ?_
  rcases Bool.or_eq_true_iff.1 h with upper | sign
  · simp only [Char.isUpper, decide_eq_true_eq, ge_iff_le, UInt32.le_iff_toNat_le] at upper
    have low : 65 ≤ c.toNat := upper.1
    omega
  · have all : "01.+¬() ".toList.all (fun d => 32 ≤ d.toNat) = true := rfl
    exact of_decide_eq_true (List.all_eq_true.1 all c (List.contains_iff_mem.1 sign))

theorem Wordy.steady {s : String} (h : Wordy s) : Steady s.toList :=
  steady_iff.2 fun c member => steady_of_isWordChar (List.all_eq_true.1 h c member)

theorem steady_cleaned {cs : List Char} (h : Steady cs) : Steady (Expression.cleanChars cs) := by
  rw [steady_iff] at h ⊢
  intro c member
  rw [Expression.cleanChars_eq] at member
  obtain ⟨d, kept, rfl⟩ := List.mem_map.1 member
  by_cases lower : d.isLower = true
  · have upper : d.toUpper.isUpper = true := by
      rw [Char.isUpper_toUpper_eq_isAlpha, Char.isAlpha, lower, Bool.or_true]
    exact steady_of_isWordChar (by rw [isWordChar, upper, Bool.true_or])
  · rw [Char.toUpper_eq_of_not_isLower lower]
    exact h d (List.mem_filter.1 kept).1

theorem steady_echo {cs : List Char} (h : Steady cs) : Steady (echo cs) := by
  have kept : Steady (unslashed cs) := by
    rw [steady_iff] at h ⊢
    exact fun c member => h c ((unslashed_sublist cs).subset member)
  refine steady_append kept ?_
  unfold endGuard
  split <;> rfl

namespace Display

theorem wording_steady {naming : Naming} {text shown : String}
    {result : Except Refusal (List Token)} (h : parse text = some result)
    (worded : wording naming result = .ok shown) (steady : Steady text.toList) :
    Steady shown.toList := by
  cases result with
  | ok p =>
    obtain ⟨s, written, wordy⟩ := format_wordy naming (legal_of_parse h)
    cases written.symm.trans worded
    exact wordy.steady
  | error e =>
    cases worded
    rcases message_cases h with ⟨c, member, same⟩ | harmless
    · rw [same, String.toList_append, String.toList_singleton]
      refine steady_append rfl (steady_iff.2 fun d last => ?_)
      rw [List.mem_singleton.1 last]
      exact steady_iff.1 (steady_cleaned steady) c member
    · exact harmless.steady

theorem mark_steady (result : Except Refusal (List Token)) : Steady (mark result).toList := by
  rw [steady_iff]
  intro c mem
  obtain ⟨-, kept, -, tab⟩ := mark_plain mem
  exact ⟨tab, kept⟩

theorem conversion_echo {naming : Naming} {text shown : String}
    {result : Except Refusal (List Token)} (parsed : parse text = some result)
    (worded : wording naming result = .ok shown) (steady : Steady text.toList) :
    conversion naming none text (.ofTokens result) =
      ⟨mark result ++ " " ++ String.ofList (echo text.toList) ++ " → " ++ shown ++ "\n", .ok ()⟩ := by
  obtain ⟨line, shown', written, worded', tags, seen⟩ := conversionLine_shows naming parsed
  cases worded'.symm.trans worded
  have whole : Steady (visible (pieces line.toList)) := by
    rw [seen]
    exact steady_append (mark_steady result) <| steady_append rfl <|
      steady_append (steady_echo steady) <| steady_append rfl <|
        wording_steady parsed worded steady
  have rendered : render line = .ok (String.ofList (visible (pieces line.toList))) := by
    rw [render, renderChars_paired ⟨_, tags⟩, shownChars, whole.filter_eq]
    rfl
  rw [conversion_alone written rendered, Printed.lineText_steady whole, seen]
  simp only [String.ofList_append, String.ofList_toList, String.append_assoc]

/-- Each text that is not blank is shown as it is echoed, with what comes of it. It is shown as it
was typed just when no backslash stands in front of a bracket without a tag and it does not end in a
single one. -/
theorem conversion_echoes (naming : Naming) {text : String}
    (nonblank : Text.isBlank text.toList = false) (steady : Steady text.toList) :
    ∃ result shown, parse text = some result ∧ wording naming result = .ok shown ∧
      conversion naming none text (.ofTokens result) =
        ⟨mark result ++ " " ++ String.ofList (echo text.toList) ++ " → " ++ shown ++ "\n", .ok ()⟩ ∧
      (conversion naming none text (.ofTokens result) =
          ⟨mark result ++ " " ++ text ++ " → " ++ shown ++ "\n", .ok ()⟩ ↔
        Unslashable text.toList ∧ ¬ EndsLone text.toList) := by
  obtain ⟨result, parsed⟩ : ∃ result, parse text = some result := ⟨_, if_neg (by simp [nonblank])⟩
  obtain ⟨_, shown, _, worded, _⟩ := conversionLine_shows naming parsed
  have printed := conversion_echo parsed worded steady
  have same : String.ofList (echo text.toList) = text ↔ echo text.toList = text.toList := by
    rw [← String.toList_inj, String.toList_ofList]
  refine ⟨result, shown, parsed, worded, printed, ?_⟩
  rw [printed, ← echo_eq_iff, ← same]
  simp [String.append_right_inj, String.append_left_inj]

theorem conversion_echoes_backslashes :
    Text.isBlank "a\\[\\[b]\\".toList = false ∧ Steady "a\\[\\[b]\\".toList ∧
    conversion .symbols none "a\\[\\[b]\\"
        (.ofTokens (.error (.invalidCharacter (.datum (.text "\\"))))) =
      ⟨"✗ a[\\[b]\\\\ → Invalid character found: \\\n", .ok ()⟩ := by
  refine ⟨rfl, rfl, ?_⟩
  obtain ⟨result, shown, parsed, worded, printed, -⟩ :=
    @conversion_echoes .symbols "a\\[\\[b]\\" rfl rfl
  obtain rfl : .error (.invalidCharacter (.datum (.text "\\"))) = result := Option.some.inj parsed
  cases worded
  rw [printed]
  rfl

/-- A single backslash at the end is shown twice. -/
theorem conversion_not_verbatim :
    ¬ ∀ text result shown, Text.isBlank text.toList = false →
      (∀ c ∈ text.toList, ' ' ≤ c ∧ c ≤ '~') → parse text = some result →
      wording .symbols result = .ok shown →
      conversion .symbols none text (.ofTokens result) =
        ⟨mark result ++ " " ++ text ++ " → " ++ shown ++ "\n", .ok ()⟩ := by
  intro verbatim
  have parsed : parse "a\\" = some (.error (.invalidCharacter (.datum (.text "\\")))) := rfl
  have plain : ∀ c ∈ "a\\".toList, ' ' ≤ c ∧ c ≤ '~' := by simp
  have printed := @conversion_echo .symbols _ _ _ parsed rfl rfl
  rw [verbatim "a\\" _ _ rfl plain parsed rfl] at printed
  exact absurd (congrArg Printed.text printed) (by decide)

end Display

end ReversePolish
