import ReversePolish.Proofs.Console.Echo
import ReversePolish.Proofs.Console.Unescaped

/-!
# Inert texts

Between a style and its end a text that is not escaped is shown as it is if nothing in it is markup:
`renderChars_inert`. Else it is not in what is shown, as markup costs backslashes or opening
brackets: `inert_of_weight`.
-/

namespace ReversePolish

namespace Markup

/-- A text has no tags, no backslash escapes a bracket in it, and none at its end reaches what
follows. -/
structure Inert (cs : List Char) : Prop where
  tagless : ∀ body, IsBody body → ¬ bracketed body <:+: cs
  unescaped : ¬ ['\\', '['] <:+: cs
  ends : cs.getLast? ≠ some '\\'

theorem inert_of_bracketless {cs : List Char} (h : '[' ∉ cs) (ends : cs.getLast? ≠ some '\\') :
    Inert cs where
  tagless _ _ inside := h (inside.subset List.mem_cons_self)
  unescaped inside := h (inside.subset (by simp))
  ends := ends

theorem infix_of_append {c : Char} {as bs cs : List Char} (h : c ∉ as)
    (inside : c :: bs <:+: as ++ cs) : c :: bs <:+: cs := by
  induction as with
  | nil => exact inside
  | cons a as ih =>
    rw [List.mem_cons, not_or] at h
    rcases List.infix_cons_iff.1 inside with ⟨_, front⟩ | later
    · exact absurd (List.cons.inj front).1 h.1
    · exact ih h.2 later

theorem inert_append_iff {as cs : List Char} (bracket : '[' ∉ as) (slash : '\\' ∉ as) :
    Inert (as ++ cs) ↔ Inert cs := by
  have whole : cs <:+: as ++ cs := (List.suffix_append as cs).isInfix
  have last : (as ++ cs).getLast? = some '\\' ↔ cs.getLast? = some '\\' := by
    have none : as.getLast? ≠ some '\\' := fun ends => slash (List.mem_of_getLast? ends)
    rw [List.getLast?_append]
    cases cs.getLast? <;> simp [none]
  constructor
  · intro h
    exact ⟨fun body isBody inside => h.tagless body isBody (inside.trans whole),
      fun inside => h.unescaped (inside.trans whole), mt last.2 h.ends⟩
  · intro h
    exact ⟨fun body isBody inside => h.tagless body isBody (infix_of_append bracket inside),
      fun inside => h.unescaped (infix_of_append slash inside), mt last.1 h.ends⟩

/-! ### Pieces of inert texts -/

theorem isBody_of_mem_pieces {cs body : List Char} {n : Nat} (h : .tag n body ∈ pieces cs) :
    IsBody body := by
  induction cs using reading with
  | nil => simp [pieces_nil] at h
  | tag m other rest isBody ih =>
    rw [pieces_tag m isBody] at h
    rcases List.mem_cons.1 h with same | later
    · cases same
      exact isBody
    · exact ih later
  | char c cs none ih =>
    rw [pieces_cons none] at h
    rcases List.mem_cons.1 h with same | later
    · cases same
    · exact ih later

/-- What is read as single characters is read apart from what follows. -/
theorem pieces_of_append {as cs : List Char} {ps : List Piece}
    (h : pieces (as ++ cs) = as.map .char ++ ps) : pieces cs = ps := by
  induction as with
  | nil => exact h
  | cons a as ih =>
    rw [List.cons_append, pieces] at h
    split at h
    · cases (List.cons.inj h).1
    · exact ih (List.cons.inj h).2

theorem chars_of_tagless {ps : List Piece} (h : ∀ n body, .tag n body ∉ ps) :
    ps = (ps.flatMap Piece.source).map .char := by
  induction ps with
  | nil => rfl
  | cons p ps ih =>
    have rest := ih fun n body member => h n body (List.mem_cons_of_mem _ member)
    cases p with
    | char c => exact congrArg (.char c :: ·) rest
    | tag n body => exact absurd List.mem_cons_self (h n body)

theorem pieces_inert_append {cs body : List Char} (inert : Inert cs) (h : IsBody body) :
    pieces (cs ++ bracketed body) = cs.map .char ++ [.tag 0 body] := by
  obtain ⟨ps, n, read, source⟩ := pieces_append_tag cs h
  have none : n = 0 := by
    cases n with
    | zero => rfl
    | succ n =>
      rw [backslashes, List.replicate_succ', ← List.append_assoc] at source
      exact absurd (source ▸ List.getLast?_concat ..) inert.ends
  subst none
  have source' : ps.flatMap Piece.source = cs := by
    rw [← source]
    exact (List.append_nil _).symm
  have tagless : ∀ n body', .tag n body' ∉ ps := by
    intro n body' member
    have isBody : IsBody body' :=
      isBody_of_mem_pieces (read ▸ List.mem_append_left _ member)
    have own : bracketed body' <:+: Piece.source (.tag n body') := (List.suffix_append _ _).isInfix
    exact inert.tagless body' isBody (source' ▸ own.trans (infix_source_of_mem member))
  rw [read, chars_of_tagless tagless, source']

theorem inert_of_pieces {cs body : List Char} (h : IsBody body)
    (read : pieces (cs ++ bracketed body) = cs.map .char ++ [.tag 0 body])
    (unescaped : ¬ ['\\', '['] <:+: cs) : Inert cs where
  tagless body' isBody := by
    rintro ⟨front, back, rfl⟩
    simp only [List.append_assoc, List.map_append] at read
    have tail := pieces_of_append read
    have tag := pieces_tag 0 isBody (back ++ bracketed body)
    cases tag.symm.trans tail
  unescaped := unescaped
  ends := by
    intro last
    obtain ⟨front, rfl⟩ := List.getLast?_eq_some_iff.1 last
    rw [List.append_assoc, List.map_append, List.append_assoc] at read
    have tail := pieces_of_append read
    -- the backslash is read with the tag
    have tag := pieces_tag 1 h []
    rw [List.append_nil] at tag
    cases tag.symm.trans tail

/-! ### What is shown of them -/

theorem visible_chars {cs : List Char} (h : ¬ ['\\', '['] <:+: cs) :
    visible (cs.map .char) = cs := by
  induction cs with
  | nil => rfl
  | cons c cs ih =>
    have rest := ih fun inside => h (List.infix_cons inside)
    rw [List.map_cons, visible, rest]
    rintro tail front rfl
    obtain ⟨d, cs', rfl, same, -⟩ := List.map_eq_cons_iff.1 front
    cases same
    exact h ⟨[], cs', rfl⟩

/-! ### Weights -/

/-- How many backslashes, which count twice, and opening brackets a text has. Markup costs some. -/
def weight (cs : List Char) : Nat := 2 * cs.count '\\' + cs.count '['

theorem weight_append (as bs : List Char) : weight (as ++ bs) = weight as + weight bs := by
  simp only [weight, List.count_append]
  omega

theorem weight_cons (c : Char) (cs : List Char) : weight (c :: cs) = weight [c] + weight cs :=
  weight_append [c] cs

theorem weight_le_of_sublist {as bs : List Char} (h : as.Sublist bs) : weight as ≤ weight bs := by
  have slashes := h.count_le '\\'
  have brackets := h.count_le '['
  unfold weight
  omega

theorem weight_backslashes (n : Nat) : weight (backslashes n) = 2 * n := by
  simp [weight, backslashes, List.count_replicate]

theorem weight_bracketed (body : List Char) : weight (bracketed body) = weight body + 1 := by
  simp [weight, bracketed]
  omega

theorem weight_visible_tag (n : Nat) (body : List Char) :
    weight (backslashes (n / 2) ++ if n % 2 = 1 then bracketed body else []) <
      weight (Piece.source (.tag n body)) := by
  rw [Piece.source, weight_append, weight_append, weight_backslashes, weight_backslashes,
    weight_bracketed]
  split
  · rw [weight_bracketed]
    omega
  · simp only [weight, List.count_nil]
    omega

theorem weight_visible (ps : List Piece) :
    weight (visible ps) ≤ weight (ps.flatMap Piece.source) := by
  fun_induction visible ps with
  | case1 => exact Nat.le_refl _
  | case2 rest ih =>
    rw [List.flatMap_cons, List.flatMap_cons, weight_append, weight_append, weight_cons]
    exact (Nat.add_le_add_left ih _).trans (Nat.le_add_left _ _)
  | case3 c rest other ih =>
    rw [List.flatMap_cons, weight_append, weight_cons]
    exact Nat.add_le_add_left ih _
  | case4 n body rest ih =>
    rw [List.flatMap_cons, weight_append _ (visible rest), weight_append _ (rest.flatMap _)]
    exact Nat.add_le_add (Nat.le_of_lt (weight_visible_tag n body)) ih

/-- Only what has no markup keeps its weight. -/
theorem unmarked_of_weight {ps : List Piece}
    (h : weight (ps.flatMap Piece.source) ≤ weight (visible ps)) :
    ∃ cs, ps = cs.map .char ∧ ¬ ['\\', '['] <:+: cs := by
  fun_induction visible ps with
  | case1 => exact ⟨[], rfl, by simp⟩
  | case2 rest ih =>
    rw [List.flatMap_cons, List.flatMap_cons, weight_append, weight_append, weight_cons '['] at h
    have slash : weight (Piece.char '\\').source = 2 := rfl
    have bracket : weight (Piece.char '[').source = weight ['['] := rfl
    have less := weight_visible rest
    omega
  | case3 c rest other ih =>
    rw [List.flatMap_cons, weight_append, weight_cons] at h
    obtain ⟨cs, rfl, unescaped⟩ := ih (Nat.le_of_add_le_add_left h)
    refine ⟨c :: cs, rfl, fun inside => ?_⟩
    rcases List.infix_cons_iff.1 inside with ⟨back, front⟩ | later
    · obtain ⟨rfl, rfl⟩ := List.cons.inj front
      exact other (back.map .char) rfl rfl
    · exact unescaped later
  | case4 n body rest ih =>
    rw [List.flatMap_cons, weight_append _ (visible rest), weight_append _ (rest.flatMap _)] at h
    have less := weight_visible_tag n body
    have rest := weight_visible rest
    omega

/-! ### Between a style and its end -/

theorem visible_wrapped (s : Style) (cs : List Char) :
    visible (pieces (wrapped s cs)) = visible (pieces (cs ++ bracketed ('/' :: s.tag.toList))) :=
  visible_tag_append (isBody_tag s) _

theorem weight_visible_closing (s : Style) (n : Nat) :
    weight (visible [.tag n ('/' :: s.tag.toList)]) = n := by
  have closing : weight ('/' :: s.tag.toList) = 0 := by cases s <;> rfl
  rw [visible, visible, List.append_nil, weight_append, weight_backslashes]
  split
  · rw [weight_bracketed, closing]
    omega
  · simp only [weight, List.count_nil]
    omega

/-- A text that loses nothing is inert. -/
theorem inert_of_weight (s : Style) {cs : List Char}
    (h : weight cs ≤ weight (visible (pieces (wrapped s cs)))) : Inert cs := by
  obtain ⟨ps, n, read, source⟩ := pieces_append_tag cs (isBody_closing s)
  rw [visible_wrapped, read, visible_append _ (by simp), weight_append, weight_visible_closing, ← source,
    weight_append, weight_backslashes] at h
  have less := weight_visible ps
  have none : n = 0 := by omega
  subst none
  have kept : weight (ps.flatMap Piece.source) ≤ weight (visible ps) := by omega
  obtain ⟨chars, rfl, unescaped⟩ := unmarked_of_weight kept
  have same : chars = cs := by
    rw [← source]
    simp [List.flatMap_map, Piece.source, backslashes]
  subst same
  exact inert_of_pieces (isBody_closing s) read unescaped

theorem visible_inert (s : Style) {cs : List Char} (h : Inert cs) :
    visible (pieces (wrapped s cs)) = cs := by
  rw [visible_wrapped, pieces_inert_append h (isBody_closing s), visible_append _ (by simp),
    visible_chars h.unescaped]
  exact List.append_nil cs

theorem renderChars_inert (s : Style) {cs : List Char} (h : Inert cs) :
    renderChars (wrapped s cs) = .ok (cs.filter (!isDropped ·)) := by
  have paired : Paired (wrapped s cs) := by
    refine ⟨[s], ?_⟩
    rw [wrapped, styles_tag_append (isBody_tag s), pieces_inert_append h (isBody_closing s),
      styles_append, styles_chars]
    rfl
  rw [renderChars_paired paired, shownChars, visible_inert s h]

/-! ### Harmless characters -/

/-- A text of which the console neither drops nor fills up a character. -/
def Steady (cs : List Char) : Prop := cs.all (fun c => c != '\t' && !isDropped c) = true

theorem steady_iff {cs : List Char} : Steady cs ↔ ∀ c ∈ cs, c ≠ '\t' ∧ isDropped c = false := by
  simp [Steady]

theorem steady_append {as bs : List Char} (ha : Steady as) (hb : Steady bs) : Steady (as ++ bs) := by
  rw [Steady, List.all_append, ha, hb, Bool.and_self]

theorem steady_of_le {c : Char} (h : 32 ≤ c.toNat) : c ≠ '\t' ∧ isDropped c = false := by
  constructor
  · rintro rfl
    exact absurd h (by decide)
  · simp only [isDropped, Bool.or_eq_false_iff, beq_eq_false_iff_ne]
    omega

theorem Steady.filter_eq {cs : List Char} (h : Steady cs) : cs.filter (!isDropped ·) = cs := by
  rw [List.filter_eq_self]
  intro c member
  simp [(steady_iff.1 h c member).2]

/-- Characters that the console neither reads nor drops nor fills up. -/
def isHarmless (c : Char) : Bool := c != '[' && c != '\\' && c != '\t' && !isDropped c

/-- A text that is shown as it is anywhere. -/
def Harmless (cs : List Char) : Prop := cs.all isHarmless = true

theorem harmless_iff {cs : List Char} : Harmless cs ↔ ∀ c ∈ cs, isHarmless c = true :=
  List.all_eq_true

theorem harmless_append {as bs : List Char} (ha : Harmless as) (hb : Harmless bs) :
    Harmless (as ++ bs) := by
  rw [harmless_iff] at ha hb ⊢
  exact List.forall_mem_append.2 ⟨ha, hb⟩

theorem harmless_concat {s t : String} (hs : Harmless s.toList) (ht : Harmless t.toList) :
    Harmless (s ++ t).toList := by
  rw [String.toList_append]
  exact harmless_append hs ht

theorem Harmless.not_mem {cs : List Char} (h : Harmless cs) {c : Char}
    (read : isHarmless c = false) : c ∉ cs := by
  intro member
  rw [harmless_iff.1 h c member] at read
  cases read

theorem Harmless.inert {cs : List Char} (h : Harmless cs) : Inert cs :=
  inert_of_bracketless (h.not_mem rfl) fun last =>
    h.not_mem (c := '\\') rfl (List.mem_of_getLast? last)

theorem Harmless.steady {cs : List Char} (h : Harmless cs) : Steady cs := by
  rw [steady_iff]
  intro c member
  have harmless := harmless_iff.1 h c member
  simp only [isHarmless, Bool.and_eq_true, bne_iff_ne, Bool.not_eq_true'] at harmless
  exact ⟨harmless.1.2, harmless.2⟩

theorem harmless_repr (n : Nat) : Harmless n.repr.toList := by
  rw [harmless_iff]
  intro c member
  have digit := isDigit_of_mem_repr member
  have low : 48 ≤ c.toNat := by
    rw [Char.isDigit, Bool.and_eq_true, decide_eq_true_eq] at digit
    exact digit.1
  obtain ⟨tab, kept⟩ := steady_of_le (by omega : 32 ≤ c.toNat)
  have other {d : Char} (h : d.isDigit = false) : c ≠ d := fun same => not_mem_repr h (same ▸ member)
  simp [isHarmless, kept, tab, other (d := '[') rfl, other (d := '\\') rfl]

theorem harmless_hexDigits (width n : Nat) : Harmless (Text.hexDigits width n) := by
  have digit : ∀ k < 16, [Nat.digitChar k].all isHarmless = true := by decide
  induction width generalizing n with
  | zero => rfl
  | succ width ih => exact harmless_append (ih _) (digit _ (Nat.mod_lt _ (by decide)))

/-! ### What is rendered -/

theorem eq_of_renderChars {cs shown : List Char} (h : renderChars cs = .ok shown) :
    shown = shownChars (pieces cs) := by
  obtain ⟨styled, read, text⟩ := bind_ok_iff.1 h
  obtain ⟨t, -, same⟩ := bind_ok_iff.1 read
  cases same
  unfold Styled.text at text
  split at text
  · cases text
  · exact (Except.ok.inj text).symm

/-- What can be wrong with markup. -/
def IsTagFault (f : Failure) : Prop := f ∈ [.unopenedTag, .unreadableAction, .missingNumber]

theorem isTagFault_of_normalName {name : List Char} {f : Failure} (h : normalName name = .error f) :
    IsTagFault f := by
  rcases normalName_cases name with missing | ⟨normal, named⟩
  · rw [missing] at h
    cases h
    simp [IsTagFault]
  · rw [named] at h
    cases h

theorem isTagFault_of_lastOpen {t : Tagging} {name : List Char} {f : Failure}
    (h : t.lastOpen name = .error f) : IsTagFault f := by
  unfold Tagging.lastOpen at h
  dsimp only at h
  split at h
  · rcases bind_error h with untagged | ⟨named, -, none⟩
    · cases untagged
    · split at none
      · cases none
      · cases none
        simp [IsTagFault]
  · rcases bind_error h with lacking | ⟨normal, -, h⟩
    · exact isTagFault_of_normalName lacking
    · rcases bind_error h with untagged | ⟨named, -, none⟩
      · cases untagged
      · split at none
        · cases none
        · cases none
          simp [IsTagFault]

theorem isTagFault_of_take {t : Tagging} {tag : Nat × List Char} {f : Failure}
    (h : t.take tag = .error f) : IsTagFault f := by
  unfold Tagging.take at h
  split at h
  · rcases bind_error h with none | ⟨last, -, unclosed⟩
    · exact isTagFault_of_lastOpen none
    · unfold Tagging.close at unclosed
      split at unclosed
      · cases unclosed
      · cases unclosed
        simp [IsTagFault]
  · rcases bind_error h with lacking | ⟨_, -, opened⟩
    · exact isTagFault_of_normalName lacking
    · cases opened

theorem isTagFault_of_foldlM {tags : List (Nat × List Char)} {t : Tagging} {f : Failure}
    (h : tags.foldlM Tagging.take t = .error f) : IsTagFault f := by
  induction tags generalizing t with
  | nil => cases h
  | cons tag tags ih =>
    rw [List.foldlM_cons] at h
    rcases bind_error h with untaken | ⟨t', -, later⟩
    · exact isTagFault_of_take untaken
    · exact ih later

theorem isTagFault_of_renderChars {cs : List Char} {f : Failure} (h : renderChars cs = .error f) :
    IsTagFault f := by
  rcases bind_error h with unread | ⟨styled, -, unshown⟩
  · rcases bind_error unread with untaken | ⟨t, -, read⟩
    · exact isTagFault_of_foldlM untaken
    · cases read
  · unfold Styled.text at unshown
    split at unshown
    · cases unshown
      simp [IsTagFault]
    · cases unshown

end Markup

/-! ### Lines -/

namespace Text

theorem count_expandTabsFrom {c : Char} (space : c ≠ ' ') (tab : c ≠ '\t') (column : Nat)
    (part cs : List Char) : (expandTabsFrom column part cs).count c = part.count c + cs.count c := by
  induction cs generalizing column part with
  | nil => simp [expandTabsFrom]
  | cons d cs ih =>
    rw [expandTabsFrom]
    split
    · next filled =>
      simp [ih, filled, List.count_replicate, Ne.symm space, Ne.symm tab]
    · split
      · next lineEnd =>
        rw [List.count_append, List.count_reverse, lineEnd, List.count_cons, List.count_cons, ih,
          List.count_nil, Nat.zero_add]
      · rw [ih, List.count_cons, List.count_cons]
        omega

theorem count_expandTabs {c : Char} (space : c ≠ ' ') (tab : c ≠ '\t') (cs : List Char) :
    (expandTabs cs).count c = cs.count c := by
  rw [expandTabs, count_expandTabsFrom space tab, List.count_nil, Nat.zero_add]

end Text

namespace Printed

open Markup

theorem weight_lineText (plain : String) : weight (lineText plain).toList = weight plain.toList := by
  rw [lineText, String.toList_append, String.toList_ofList, weight_append, weight,
    Text.count_expandTabs (by decide) (by decide), Text.count_expandTabs (by decide) (by decide)]
  rfl

theorem line_eq_error {markup : String} {f : Failure} (h : Markup.render markup = .error f) :
    line markup = ⟨"", .error f⟩ := by
  rw [line, h]
  rfl

theorem lineText_steady {cs : List Char} (h : Steady cs) :
    lineText (String.ofList cs) = String.ofList cs ++ "\n" := by
  rw [lineText, String.toList_ofList, Text.expandTabs_eq_self fun tab => (steady_iff.1 h _ tab).1 rfl]

end Printed

end ReversePolish
