import ReversePolish.Display
import ReversePolish.Proofs.Console.Pieces

/-!
# Markup that is shown

Rendering fails only for the style tags of a text. Where these are pairs of a style that is opened
and closed at once, the text is shown, `renderChars_paired`; a text in a style is such a pair,
`styles_inStyle_append`, and an escaped text has no style tags at all, `styles_escape_append`.
-/

namespace ReversePolish

namespace Markup

/-- The bodies of the style tags, which have an even number of backslashes in front of them. -/
def styles : List Piece → List (List Char)
  | [] => []
  | .char _ :: ps => styles ps
  | .tag n body :: ps => if n % 2 = 1 then styles ps else body :: styles ps

theorem map_styleTags (shown : Nat) (ps : List Piece) :
    (styleTags shown ps).map Prod.snd = styles ps := by
  fun_induction styleTags shown ps with
  | case1 => rfl
  | case2 _ _ ih => exact ih
  | case3 _ _ _ _ ih => exact ih
  | case4 _ n _ _ _ odd ih => rw [styles, if_pos odd, ih]
  | case5 _ n _ _ _ even ih => rw [styles, if_neg even, List.map_cons, ih]

theorem styles_append (ps qs : List Piece) : styles (ps ++ qs) = styles ps ++ styles qs := by
  induction ps with
  | nil => rfl
  | cons p ps ih =>
    cases p with
    | char c => exact ih
    | tag n body =>
      rw [List.cons_append, styles, styles, ih]
      split <;> rfl

theorem styles_chars (cs : List Char) : styles (cs.map .char) = [] := by
  induction cs with
  | nil => rfl
  | cons c cs ih => exact ih

theorem styles_escaped (ps : List Piece) : styles (ps.map Piece.escaped) = [] := by
  induction ps with
  | nil => rfl
  | cons p ps ih =>
    cases p with
    | char c => exact ih
    | tag n body =>
      have odd : (2 * n + 1) % 2 = 1 := by omega
      rw [List.map_cons, Piece.escaped, styles, if_pos odd, ih]

theorem styles_escape_append (cs : List Char) {rest : List Char} (open? : closes rest = false)
    (apart : tag? rest = none) :
    styles (pieces (escapeChars cs ++ rest)) = styles (pieces rest) := by
  rw [pieces_escape_append cs open? apart, styles_append, styles_append, styles_escaped,
    styles_chars]
  rfl

theorem styles_plain_append {cs : List Char} (h : '[' ∉ cs) (h' : '\\' ∉ cs)
    (rest : List Char) : styles (pieces (cs ++ rest)) = styles (pieces rest) := by
  rw [pieces_plain_append h h', styles_append, styles_chars]
  rfl

theorem styles_tag_append {body : List Char} (h : IsBody body) (rest : List Char) :
    styles (pieces (bracketed body ++ rest)) = body :: styles (pieces rest) := by
  have front := pieces_tag 0 h rest
  rw [backslashes, List.replicate_zero, List.nil_append] at front
  rw [front]
  rfl

/-! ### Pairs of tags -/

theorem isBody_tag (s : Style) : IsBody s.tag.toList := by
  cases s <;> exact ⟨_, _, rfl, rfl, List.all_eq_true.1 rfl⟩

theorem isBody_closing (s : Style) : IsBody ('/' :: s.tag.toList) := by
  cases s <;> exact ⟨_, _, rfl, rfl, List.all_eq_true.1 rfl⟩

theorem not_lacksPart_tag (s : Style) : Appearance.lacksPart s.tag.toList = false := by
  cases s <;> rfl

theorem take_opening (s : Style) (t : Tagging) (position : Nat) :
    t.take (position, s.tag.toList) =
      .ok { t with opened := ⟨position, s.tag.toList, none⟩ :: t.opened } := by
  cases s <;> rfl

theorem isSound_style (s : Style) {tag : OpenTag} (h : tag.name = s.tag.toList) :
    tag.isSound = true := by
  unfold OpenTag.isSound
  rw [h]
  cases s <;> rfl

/-- The end of a style closes the tag of the style that was opened last. -/
theorem take_closing (s : Style) {t : Tagging} {last : OpenTag} {others : List OpenTag}
    (h : t.opened.filter (·.name == s.tag.toList) = last :: others) (position : Nat) :
    t.take (position, '/' :: s.tag.toList) =
      .ok ⟨t.opened.erase last, ⟨last.start, position, last.style⟩ :: t.closed⟩ := by
  have split : splitTag ('/' :: s.tag.toList) = ('/' :: s.tag.toList, none) := by
    cases s <;> rfl
  have name : normalName (Text.trim s.tag.toList) = .ok s.tag.toList := by
    cases s <;> rfl
  have visible : Text.isBlank s.tag.toList = false := by
    cases s <;> rfl
  have found : t.lastOpen s.tag.toList = .ok last := by
    simp [Tagging.lastOpen, visible, name, h, bind, Except.bind, pure, Except.pure]
  have member : last ∈ t.opened.filter (·.name == s.tag.toList) := by
    rw [h]
    exact List.mem_cons_self
  have sound := isSound_style s (beq_iff_eq.1 (List.mem_filter.1 member).2)
  simp [Tagging.take, split, found, Tagging.close, sound, bind, Except.bind]

/-- The style tags of a text are pairs of a style that is opened and closed at once. -/
def Paired (cs : List Char) : Prop :=
  ∃ sts : List Style, styles (pieces cs) = sts.flatMap fun s => [s.tag.toList, '/' :: s.tag.toList]

theorem foldlM_take_pairs {tags : List (Nat × List Char)} {sts : List Style}
    (h : tags.map Prod.snd = sts.flatMap fun s => [s.tag.toList, '/' :: s.tag.toList])
    {closed : List Span} (shown : ∀ span ∈ closed, Appearance.lacksPart span.style = false) :
    ∃ closed', tags.foldlM Tagging.take ⟨[], closed⟩ = .ok ⟨[], closed'⟩ ∧
      ∀ span ∈ closed', Appearance.lacksPart span.style = false := by
  induction sts generalizing tags closed with
  | nil =>
    obtain rfl := List.map_eq_nil_iff.1 h
    exact ⟨closed, rfl, shown⟩
  | cons s sts ih =>
    match tags, h with
    | (start, _) :: (position, _) :: tags, h =>
      obtain ⟨rfl, rfl, others⟩ : _ ∧ _ ∧ tags.map Prod.snd = _ := by simpa using h
      have shown' : ∀ span ∈ ⟨start, position, s.tag.toList⟩ :: closed,
          Appearance.lacksPart span.style = false :=
        List.forall_mem_cons.2 ⟨not_lacksPart_tag s, shown⟩
      obtain ⟨closed', taken, shown'⟩ := ih others shown'
      refine ⟨closed', ?_, shown'⟩
      have last : [OpenTag.mk start s.tag.toList none].filter (·.name == s.tag.toList) =
          [⟨start, s.tag.toList, none⟩] := by simp
      rw [List.foldlM_cons, take_opening]
      change Tagging.take _ _ >>= _ = _
      rw [take_closing s last, List.erase_cons_head]
      exact taken

theorem readChars_paired {cs : List Char} (h : Paired cs) :
    ∃ spans, readChars cs = .ok ⟨shownChars (pieces cs), spans⟩ ∧
      ∀ span ∈ spans, Appearance.lacksPart span.style = false := by
  obtain ⟨sts, same⟩ := h
  rw [← map_styleTags 0] at same
  have none : ∀ span ∈ ([] : List Span), Appearance.lacksPart span.style = false := by simp
  obtain ⟨closed, taken, shown⟩ := foldlM_take_pairs same none
  refine ⟨closed, ?_, shown⟩
  rw [readChars, Tagging.start, taken]
  rfl

theorem text_of_shown {s : Styled}
    (h : ∀ span ∈ s.spans, Appearance.lacksPart span.style = false) : s.text = .ok s.chars := by
  rw [Styled.text, if_neg]
  rw [Bool.not_eq_true, List.any_eq_false]
  intro span member
  simp [h span member]

theorem renderChars_paired {cs : List Char} (h : Paired cs) :
    renderChars cs = .ok (shownChars (pieces cs)) := by
  obtain ⟨spans, read, shown⟩ := readChars_paired h
  rw [renderChars, read]
  exact text_of_shown (s := ⟨_, spans⟩) shown

/-! ### Texts without style tags, and texts in a style -/

theorem paired_plain {cs : List Char} (h : '[' ∉ cs) : Paired cs :=
  ⟨[], by rw [pieces_plain h, styles_chars]; rfl⟩

theorem paired_escape (cs : List Char) : Paired (escapeChars cs) := by
  have alone : styles (pieces (escapeChars cs ++ [])) = _ := styles_escape_append cs rfl rfl
  rw [List.append_nil, pieces_nil] at alone
  exact ⟨[], alone⟩

/-- A text whose last backslash does not reach what follows once the text is escaped. -/
def Tame (cs : List Char) : Prop :=
  cs.getLast? ≠ some '\\' ∨ ∃ front, cs = front ++ ['\\'] ∧ '[' ∉ front ∧ '\\' ∉ front

theorem endGuard_of_last {cs : List Char} (h : cs.getLast? ≠ some '\\') : endGuard cs = [] :=
  if_neg fun lone => h lone.1

theorem endGuard_backslash {front : List Char} (h : '\\' ∉ front) :
    endGuard (front ++ ['\\']) = ['\\'] := by
  refine if_pos ⟨List.getLast?_concat .., fun again => h ?_⟩
  rw [List.dropLast_concat] at again
  exact List.mem_of_getLast? again

/-- A tame text leaves a tag that follows as it is, but for the two backslashes that come of one at
its end. -/
theorem pieces_tame_append {cs body : List Char} (tame : Tame cs) (h : IsBody body)
    (rest : List Char) : ∃ ps n,
      pieces (escapeChars cs ++ (bracketed body ++ rest)) = ps ++ .tag n body :: pieces rest ∧
      (n = 0 ∧ ps = (pieces cs).map Piece.escaped ∨
        n = 2 ∧ ∃ front, cs = front ++ ['\\'] ∧ '[' ∉ front ∧ '\\' ∉ front ∧
          ps = front.map .char) := by
  rcases tame with last | ⟨front, rfl, bracket, slash⟩
  · have open? : closes (bracketed body ++ rest) = false := closes_tag 0 body rest
    refine ⟨_, 0, ?_, .inl ⟨rfl, rfl⟩⟩
    rw [escapeChars_eq, endGuard_of_last last, List.append_nil,
      pieces_escapedTags_append open? fun ends => absurd ends last]
    exact congrArg (_ ++ ·) (pieces_tag 0 h rest)
  · have plain : escapedTags (front ++ ['\\']) = front ++ ['\\'] := by
      rw [escapedTags, pieces_plain (by simpa using bracket)]
      simp [List.flatMap_map, escapePiece]
    have same : escapeChars (front ++ ['\\']) = front ++ backslashes 2 := by
      rw [escapeChars_eq, plain, endGuard_backslash slash, List.append_assoc]
      rfl
    refine ⟨_, 2, ?_, .inr ⟨rfl, front, rfl, bracket, slash, rfl⟩⟩
    rw [same, List.append_assoc, pieces_plain_append bracket slash, ← List.append_assoc,
      pieces_tag 2 h]

theorem styles_tame_append {cs body : List Char} (tame : Tame cs) (h : IsBody body)
    (rest : List Char) :
    styles (pieces (escapeChars cs ++ (bracketed body ++ rest))) = body :: styles (pieces rest) := by
  obtain ⟨ps, n, same, ⟨rfl, rfl⟩ | ⟨rfl, front, -, -, -, rfl⟩⟩ := pieces_tame_append tame h rest
  · rw [same, styles_append, styles_escaped]
    rfl
  · rw [same, styles_append, styles_chars]
    rfl

/-! ### Texts without brackets -/

/-- A text that is its own escape, and closes no bracket that is open before it. -/
def Clear (cs : List Char) : Prop := (cs.all fun c => staysInTag c && c != '\\') = true

theorem clear_iff {cs : List Char} : Clear cs ↔ ∀ c ∈ cs, staysInTag c = true ∧ c ≠ '\\' := by
  simp [Clear]

theorem clear_append {as bs : List Char} (ha : Clear as) (hb : Clear bs) : Clear (as ++ bs) := by
  rw [clear_iff] at ha hb ⊢
  exact List.forall_mem_append.2 ⟨ha, hb⟩

theorem isDigit_of_mem_repr {n : Nat} {c : Char} (h : c ∈ n.repr.toList) : c.isDigit = true := by
  rw [Nat.repr, String.toList_ofList] at h
  exact Nat.isDigit_of_mem_toDigits (by decide) (by decide) h

theorem not_mem_repr {n : Nat} {c : Char} (h : c.isDigit = false) : c ∉ n.repr.toList := by
  intro member
  rw [isDigit_of_mem_repr member] at h
  cases h

theorem clear_repr (n : Nat) : Clear n.repr.toList := by
  rw [clear_iff]
  intro c member
  have other {d : Char} (h : d.isDigit = false) : c ≠ d :=
    fun same => not_mem_repr h (same ▸ member)
  simp [staysInTag, other (d := '[') rfl, other (d := ']') rfl, other (d := '\\') rfl]

theorem Clear.not_mem {cs : List Char} (h : Clear cs) : '[' ∉ cs ∧ '\\' ∉ cs := by
  rw [clear_iff] at h
  exact ⟨fun member => absurd (h _ member).1 (by decide), fun member => (h _ member).2 rfl⟩

theorem Clear.escapeChars_eq {cs : List Char} (h : Clear cs) : escapeChars cs = cs := by
  have same : escapedTags cs = cs := by
    rw [escapedTags, pieces_plain h.not_mem.1, List.flatMap_map]
    exact List.flatMap_singleton' cs
  have last : cs.getLast? ≠ some '\\' := fun ends => h.not_mem.2 (List.mem_of_getLast? ends)
  rw [Markup.escapeChars_eq, same, endGuard_of_last last, List.append_nil]

theorem Clear.closes_eq {cs : List Char} (h : Clear cs) : closes cs = false := by
  have stays := fun c member => (clear_iff.1 h c member).1
  rw [closes, List.dropWhile_eq_nil_iff.2 stays]
  rfl

theorem Clear.tame {cs : List Char} (h : Clear cs) : Tame cs :=
  .inl fun ends => h.not_mem.2 (List.mem_of_getLast? ends)

end Markup

namespace Display

open Markup

theorem toList_inStyle (st : Style) (text : String) : (inStyle st text).toList =
    bracketed st.tag.toList ++ (escapeChars text.toList ++ bracketed ('/' :: st.tag.toList)) := by
  simp [inStyle, escape, bracketed]

theorem styles_inStyle_append (st : Style) {text : String} (tame : Tame text.toList)
    (rest : List Char) : styles (pieces ((inStyle st text).toList ++ rest)) =
      st.tag.toList :: ('/' :: st.tag.toList) :: styles (pieces rest) := by
  rw [toList_inStyle, List.append_assoc, List.append_assoc, styles_tag_append (isBody_tag st),
    styles_tame_append tame (isBody_closing st)]

theorem paired_inStyle_append (st : Style) {text : String} (tame : Tame text.toList)
    {rest : List Char} (h : Paired rest) : Paired ((inStyle st text).toList ++ rest) := by
  obtain ⟨sts, same⟩ := h
  exact ⟨st :: sts, by rw [styles_inStyle_append st tame, same]; rfl⟩

theorem paired_inStyle (st : Style) {text : String} (tame : Tame text.toList) :
    Paired (inStyle st text).toList := by
  have alone := paired_inStyle_append st tame (paired_plain (List.not_mem_nil))
  rwa [List.append_nil] at alone

end Display

theorem Printed.ofExcept_bind_ok {α β : Type} {r : Except Failure α} {a : α} (h : r = .ok a)
    (f : α → Printed β) : (Printed.ofExcept r >>= f) = f a := by
  rw [h]
  change Printed.mk ("" ++ (f a).text) (f a).outcome = f a
  rw [String.empty_append]

theorem Printed.bind_eq {α β : Type} {p : Printed α} {a : α} (h : p.outcome = .ok a)
    (f : α → Printed β) : (p >>= f) = ⟨p.text ++ (f a).text, (f a).outcome⟩ := by
  rw [← Printed.text_bind_ok h, ← Printed.outcome_bind_ok h]

/-- A plain text as it is printed on a line of its own. -/
def Printed.lineText (plain : String) : String :=
  String.ofList (Text.expandTabs plain.toList) ++ "\n"

theorem Printed.line_eq {markup plain : String} (h : Markup.render markup = .ok plain) :
    Printed.line markup = ⟨lineText plain, .ok ()⟩ := by
  rw [Printed.line, Printed.ofExcept_bind_ok h]
  rfl

theorem Printed.line_paired {markup : String} (h : Markup.Paired markup.toList) :
    (Printed.line markup).outcome = .ok () := by
  rw [Printed.line, Markup.render, Markup.renderChars_paired h]
  rfl

end ReversePolish
