import ReversePolish.Proofs.Console.Rendering

/-!
# Escaped texts, shown

What is left of a text once it is escaped and shown: `echo`. The tags of the text come out as they
are, with all their backslashes. But a backslash in front of a bracket that begins no tag is lost,
and a single one at the end is doubled, so that the text itself is shown just when it has neither,
`echo_eq_iff`. Between a style and its end nothing is added at the end either:
`Display.visible_inStyle_append`.
-/

namespace ReversePolish

namespace Markup

/-- A text without the backslashes in front of brackets that begin no tag. -/
def unslashed : List Char → List Char
  | [] => []
  | c :: cs =>
    if c = '\\' ∧ cs.head? = some '[' ∧ tag? cs = none then unslashed cs else c :: unslashed cs

/-- What is shown of a text that is escaped. -/
def echo (cs : List Char) : List Char := unslashed cs ++ endGuard cs

/-! ### What pieces show -/

theorem head?_pieces {cs : List Char} {c : Char} :
    (pieces cs).head? = some (.char c) ↔ cs.head? = some c ∧ tag? cs = none := by
  induction cs using reading with
  | nil => simp [pieces_nil]
  | tag n body rest isBody _ =>
    rw [pieces_tag n isBody, tag?_tag n isBody]
    simp
  | char d cs none _ => simp [pieces_cons none, none]

theorem visible_char (c : Char) (ps : List Piece) : visible (.char c :: ps) =
    if c = '\\' ∧ ps.head? = some (.char '[') then visible ps else c :: visible ps := by
  split
  · next lost =>
    obtain ⟨rfl, front⟩ := lost
    obtain ⟨rest, rfl⟩ := List.head?_eq_some_iff.1 front
    rw [visible, visible]
    simp
  · next kept =>
    rw [visible]
    rintro rest rfl rfl
    exact kept ⟨rfl, rfl⟩

theorem visible_append (ps : List Piece) {qs : List Piece} (apart : qs.head? ≠ some (.char '[')) :
    visible (ps ++ qs) = visible ps ++ visible qs := by
  induction ps with
  | nil => rfl
  | cons p ps ih =>
    cases p with
    | char c =>
      have front : (ps ++ qs).head? = some (.char '[') ↔ ps.head? = some (.char '[') := by
        cases ps with
        | nil => simp [apart]
        | cons p ps => simp
      rw [List.cons_append, visible_char, visible_char, ih]
      simp only [front]
      split <;> rfl
    | tag n body => rw [List.cons_append, visible, visible, ih, List.append_assoc (_ ++ _)]

theorem visible_chars_append {cs : List Char} (h : '\\' ∉ cs) (ps : List Piece) :
    visible (cs.map .char ++ ps) = cs ++ visible ps := by
  induction cs with
  | nil => rfl
  | cons c cs ih =>
    rw [List.mem_cons, not_or] at h
    rw [List.map_cons, List.cons_append, visible_char, if_neg fun lost => h.1 lost.1.symm, ih h.2]
    rfl

/-! ### The backslashes that are lost -/

theorem unslashed_cons_of_tag {cs : List Char} (h : tag? cs ≠ none) (c : Char) :
    unslashed (c :: cs) = c :: unslashed cs := by
  rw [unslashed, if_neg fun lost => h lost.2.2]

theorem unslashed_append {as : List Char} (bracket : '[' ∉ as) {cs : List Char}
    (front : cs.head? ≠ some '[') : unslashed (as ++ cs) = as ++ unslashed cs := by
  induction as with
  | nil => rfl
  | cons a as ih =>
    rw [List.mem_cons, not_or] at bracket
    have next : (as ++ cs).head? ≠ some '[' := by
      cases as with
      | nil => exact front
      | cons b as => exact fun same => bracket.2 (Option.some.inj same ▸ List.mem_cons_self)
    rw [List.cons_append, unslashed, if_neg fun lost => next lost.2.1, ih bracket.2]
    rfl

theorem unslashed_bracketless {cs : List Char} (h : '[' ∉ cs) : unslashed cs = cs := by
  have alone := @unslashed_append cs h [] (by simp)
  rwa [unslashed, List.append_nil] at alone

theorem unslashed_tag (n : Nat) {body : List Char} (h : IsBody body) (rest : List Char) :
    unslashed (backslashes n ++ bracketed body ++ rest) =
      backslashes n ++ bracketed body ++ unslashed rest := by
  induction n with
  | zero =>
    have inside := @unslashed_append body (not_mem_of_isBody h).1 (']' :: rest) (by simp)
    have parts (cs : List Char) : backslashes 0 ++ bracketed body ++ cs =
        '[' :: (body ++ ']' :: cs) := by simp [backslashes, bracketed]
    rw [parts, parts, unslashed, if_neg (by simp), inside, unslashed, if_neg (by simp)]
  | succ n ih =>
    have begins : tag? (backslashes n ++ bracketed body ++ rest) ≠ none := by
      rw [tag?_tag n h]
      exact Option.some_ne_none _
    rw [backslashes, List.replicate_succ]
    exact (unslashed_cons_of_tag begins '\\').trans (congrArg ('\\' :: ·) ih)

theorem visible_escaped (cs : List Char) :
    visible ((pieces cs).map Piece.escaped) = unslashed cs := by
  induction cs using reading with
  | nil => rw [pieces_nil]; rfl
  | tag n body rest isBody ih =>
    -- escaped, the tag has backslashes enough for all that it had to be shown, and one for itself
    have half : (2 * n + 1) / 2 = n := by omega
    have odd : (2 * n + 1) % 2 = 1 := by omega
    rw [pieces_tag n isBody, List.map_cons, Piece.escaped, visible, ih, half, if_pos odd,
      unslashed_tag n isBody]
  | char c cs none ih =>
    have front : ((pieces cs).map Piece.escaped).head? = some (.char '[') ↔
        cs.head? = some '[' ∧ tag? cs = Option.none := by
      rw [← head?_pieces]
      cases pieces cs with
      | nil => simp
      | cons p ps => cases p <;> simp [Piece.escaped]
    rw [pieces_cons none, List.map_cons, Piece.escaped, visible_char, ih, unslashed]
    simp only [front]

/-! ### Texts in front of others -/

theorem visible_plain_append {cs : List Char} (h : '[' ∉ cs) (h' : '\\' ∉ cs) (rest : List Char) :
    visible (pieces (cs ++ rest)) = cs ++ visible (pieces rest) := by
  rw [pieces_plain_append h h', visible_chars_append h']

theorem visible_tag_append {body : List Char} (h : IsBody body) (rest : List Char) :
    visible (pieces (bracketed body ++ rest)) = visible (pieces rest) := by
  have front := pieces_tag 0 h rest
  rw [backslashes, List.replicate_zero, List.nil_append] at front
  rw [front]
  rfl

theorem visible_escape_append (cs : List Char) {rest : List Char} (open? : closes rest = false)
    (apart : tag? rest = none) (front : rest.head? ≠ some '[') :
    visible (pieces (escapeChars cs ++ rest)) = echo cs ++ visible (pieces rest) := by
  have between : (pieces rest).head? ≠ some (.char '[') := fun same => front (head?_pieces.1 same).1
  have guard : visible ((endGuard cs).map .char) = endGuard cs := by
    unfold endGuard
    split <;> rfl
  have guarded : ((endGuard cs).map Piece.char).head? ≠ some (.char '[') := by
    unfold endGuard
    split <;> simp
  rw [pieces_escape_append cs open? apart, visible_append _ between, visible_append _ guarded,
    visible_escaped, guard]
  rfl

theorem visible_escape (cs : List Char) : visible (pieces (escapeChars cs)) = echo cs := by
  have alone := @visible_escape_append cs [] rfl rfl (by simp)
  rwa [List.append_nil, pieces_nil, visible, List.append_nil] at alone

theorem visible_tame_append {cs body : List Char} (tame : Tame cs) (h : IsBody body)
    (rest : List Char) : visible (pieces (escapeChars cs ++ (bracketed body ++ rest))) =
      unslashed cs ++ visible (pieces rest) := by
  obtain ⟨ps, n, same, ⟨rfl, rfl⟩ | ⟨rfl, front, rfl, bracket, slash, rfl⟩⟩ :=
    pieces_tame_append tame h rest
  · rw [same, visible_append _ (by simp), visible_escaped]
    rfl
  · -- one of the two backslashes in front of the tag is shown
    have whole : '[' ∉ front ++ ['\\'] := by simpa using bracket
    rw [same, visible_chars_append slash, unslashed_bracketless whole, List.append_assoc]
    rfl

/-! ### Texts that are shown as they are -/

/-- A text begins with a tag. -/
def BeginsTag (cs : List Char) : Prop := ∃ body rest, IsBody body ∧ cs = bracketed body ++ rest

theorem beginsTag_iff {cs : List Char} (h : cs.head? = some '[') : BeginsTag cs ↔ tag? cs ≠ none := by
  constructor
  · rintro ⟨body, rest, isBody, rfl⟩ none
    cases (tag?_tag 0 isBody rest).symm.trans none
  · intro some
    obtain ⟨⟨n, body, rest⟩, found⟩ := Option.ne_none_iff_exists'.1 some
    obtain ⟨rfl, isBody⟩ := eq_of_tag? found
    cases n with
    | zero => exact ⟨body, rest, isBody, rfl⟩
    | succ n => cases h

/-- A backslash stands in front of a bracket only where the bracket begins a tag. -/
def Unslashable (cs : List Char) : Prop :=
  ∀ front back, cs = front ++ '\\' :: '[' :: back → BeginsTag ('[' :: back)

theorem unslashed_sublist (cs : List Char) : (unslashed cs).Sublist cs := by
  fun_induction unslashed cs with
  | case1 => exact .slnil
  | case2 c cs _ ih => exact ih.cons c
  | case3 c cs _ ih => exact ih.cons_cons c

theorem unslashed_eq_iff {cs : List Char} : unslashed cs = cs ↔ Unslashable cs := by
  fun_induction unslashed cs with
  | case1 => simp [Unslashable]
  | case2 c cs lost _ =>
    obtain ⟨rfl, bracket, none⟩ := lost
    obtain ⟨back, rfl⟩ := List.head?_eq_some_iff.1 bracket
    constructor
    · intro same
      have shorter := (unslashed_sublist ('[' :: back)).length_le
      rw [same, List.length_cons] at shorter
      omega
    · intro unslashable
      exact absurd none ((beginsTag_iff rfl).1 (unslashable [] back rfl))
  | case3 c cs kept ih =>
    rw [List.cons.injEq, ih]
    constructor
    · rintro ⟨-, unslashable⟩ front back same
      cases front with
      | nil =>
        obtain ⟨rfl, rfl⟩ := List.cons.inj same
        exact (beginsTag_iff rfl).2 fun none => kept ⟨rfl, rfl, none⟩
      | cons d front => exact unslashable front back (List.cons.inj same).2
    · intro unslashable
      exact ⟨rfl, fun front back same => unslashable (c :: front) back (by rw [same]; rfl)⟩

theorem getLast?_unslashed (cs : List Char) : (unslashed cs).getLast? = cs.getLast? := by
  fun_induction unslashed cs with
  | case1 => rfl
  | case2 c cs lost ih =>
    obtain ⟨back, rfl⟩ := List.head?_eq_some_iff.1 lost.2.1
    rw [ih, List.getLast?_cons_cons]
  | case3 c cs _ ih => rw [List.getLast?_cons, List.getLast?_cons, ih]

theorem unslashed_slashless {cs : List Char} (h : '\\' ∉ cs) : unslashed cs = cs :=
  unslashed_eq_iff.2 fun front back same => absurd (same ▸ by simp) h

/-- A text is shown as it is unless a backslash of it is lost or one is added to it. -/
theorem echo_eq_iff {cs : List Char} : echo cs = cs ↔ Unslashable cs ∧ ¬ EndsLone cs := by
  rw [← unslashed_eq_iff, echo, endGuard]
  split
  · next lone =>
    refine iff_of_false (fun same => lone.2 ?_) fun both => both.2 lone
    -- the text would end in two backslashes
    have front := congrArg List.dropLast same
    rw [List.dropLast_concat] at front
    rw [← front, getLast?_unslashed, lone.1]
  · next apart => simp [apart]

theorem echo_slashless {cs : List Char} (h : '\\' ∉ cs) : echo cs = cs := by
  apply echo_eq_iff.2
  refine ⟨unslashed_eq_iff.1 (unslashed_slashless h), fun lone => ?_⟩
  exact h (List.mem_of_getLast? lone.1)

end Markup

namespace Display

open Markup

theorem visible_inStyle_append (st : Style) {text : String} (tame : Tame text.toList)
    (rest : List Char) : visible (pieces ((inStyle st text).toList ++ rest)) =
      unslashed text.toList ++ visible (pieces rest) := by
  rw [toList_inStyle, List.append_assoc, List.append_assoc, visible_tag_append (isBody_tag st),
    visible_tame_append tame (isBody_closing st)]

theorem visible_inStyle (st : Style) {text : String} (tame : Tame text.toList) :
    visible (pieces (inStyle st text).toList) = unslashed text.toList := by
  have alone := visible_inStyle_append st tame []
  rwa [List.append_nil, pieces_nil, visible, List.append_nil] at alone

end Display

end ReversePolish
