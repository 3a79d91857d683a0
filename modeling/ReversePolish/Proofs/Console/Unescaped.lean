import Mathlib.Data.List.Basic
import ReversePolish.Proofs.Console.Rendering

/-!
# Texts that are not escaped

A text between a style and its end that is not escaped may hold tags. If it has no tag that closes
another, all can be taken but a color that lacks a number, `renderChars_wrapped`, and if it has no
bracket, all can, `renderChars_bracketless`.
-/

namespace ReversePolish

namespace Markup

/-- A tag that is taken off the front is all that the text has left of the last tag, or leaves that
tag as it is. -/
theorem tag_front {cs body body' rest : List Char} {n : Nat} (h : IsBody body) (h' : IsBody body')
    (same : cs ++ bracketed body = backslashes n ++ bracketed body' ++ rest) :
    (rest = [] ∧ body' = body ∧ cs = backslashes n) ∨
      ∃ cs', rest = cs' ++ bracketed body ∧ cs = backslashes n ++ bracketed body' ++ cs' := by
  obtain ⟨opening, closing⟩ := not_mem_of_isBody h
  obtain ⟨opening', closing'⟩ := not_mem_of_isBody h'
  rcases List.append_eq_append_iff.1 same with ⟨as, tag, front⟩ | ⟨cs', front, tail⟩
  · cases as with
    | nil =>
      rw [List.append_nil] at tag
      exact .inr ⟨[], front.symm, by rw [tag, List.append_nil]⟩
    | cons d as =>
      -- both tags begin at the same bracket
      obtain ⟨rfl, inside⟩ := List.cons.inj front
      have slashes : '[' ∉ backslashes n := fun member =>
        absurd (List.eq_of_mem_replicate member) (by decide)
      have after : '[' ∉ body' ++ [']'] := by simpa using opening'
      obtain ⟨rfl, -, rfl⟩ := (List.append_cons_inj_of_notMem slashes after).1 tag
      have inside' : body ++ ']' :: [] = body' ++ ']' :: rest := by simpa using inside
      obtain ⟨rfl, -, rfl⟩ := (List.append_cons_inj_of_notMem closing List.not_mem_nil).1 inside'
      exact .inl ⟨rfl, rfl, rfl⟩
  · exact .inr ⟨cs', tail, front⟩

/-- A tag at the end of a text is read as one, whatever is in front of it. -/
theorem pieces_append_tag (cs : List Char) {body : List Char} (h : IsBody body) :
    ∃ ps n, pieces (cs ++ bracketed body) = ps ++ [.tag n body] ∧
      ps.flatMap Piece.source ++ backslashes n = cs := by
  generalize same : cs ++ bracketed body = text
  induction text using reading generalizing cs with
  | nil => simp [bracketed] at same
  | tag n body' rest isBody ih =>
    rw [pieces_tag n isBody]
    rcases tag_front h isBody same with ⟨rfl, rfl, rfl⟩ | ⟨cs', rfl, rfl⟩
    · exact ⟨[], n, by rw [pieces_nil]; rfl, rfl⟩
    · obtain ⟨ps, m, rest, source⟩ := ih cs' rfl
      refine ⟨.tag n body' :: ps, m, by rw [rest]; rfl, ?_⟩
      rw [List.flatMap_cons, List.append_assoc, source]
      rfl
  | char c text none ih =>
    cases cs with
    | nil =>
      have front := tag?_tag 0 h []
      rw [← same, List.nil_append] at none
      rw [List.append_nil] at front
      cases none.symm.trans front
    | cons d cs =>
      obtain ⟨rfl, rfl⟩ := List.cons.inj same
      obtain ⟨ps, m, rest, source⟩ := ih cs rfl
      refine ⟨.char d :: ps, m, by rw [pieces_cons none, rest]; rfl, ?_⟩
      rw [List.flatMap_cons, List.append_assoc, source]
      rfl

/-! ### Taking the tags -/

theorem normalName_cases (name : List Char) :
    normalName name = .error .missingNumber ∨ ∃ normal, normalName name = .ok normal := by
  unfold normalName
  split
  · exact .inr ⟨_, rfl⟩
  · exact .inr ⟨_, rfl⟩
  · exact .inl rfl

theorem head?_splitTag {body : List Char} (h : body.head? ≠ some '/') :
    (splitTag body).1.head? ≠ some '/' := by
  unfold splitTag
  split
  · intro first
    obtain ⟨rest, front⟩ := List.head?_eq_some_iff.1 first
    obtain ⟨tail, same⟩ := List.takeWhile_prefix (p := (· != '=')) (l := body)
    dsimp only at front
    rw [front] at same
    rw [← same] at h
    exact h rfl
  · exact h

/-- A tag that closes no other is opened, if it lacks no number. -/
theorem take_opened {body : List Char} (h : body.head? ≠ some '/') (t : Tagging) (position : Nat) :
    t.take (position, body) = .error .missingNumber ∨
      ∃ tag, t.take (position, body) = .ok { t with opened := tag :: t.opened } := by
  unfold Tagging.take
  dsimp only
  split
  · next name parameters split =>
    have first := head?_splitTag h
    rw [split] at first
    exact absurd rfl first
  · next name parameters _ split =>
    rcases normalName_cases name with missing | ⟨normal, named⟩
    · rw [missing]
      exact .inl rfl
    · rw [named]
      exact .inr ⟨_, rfl⟩

theorem foldlM_take_opened {tags : List (Nat × List Char)}
    (h : ∀ tag ∈ tags, tag.2.head? ≠ some '/') (t : Tagging) :
    tags.foldlM Tagging.take t = .error .missingNumber ∨
      ∃ more, tags.foldlM Tagging.take t = .ok { t with opened := more ++ t.opened } := by
  induction tags generalizing t with
  | nil => exact .inr ⟨[], rfl⟩
  | cons tag tags ih =>
    obtain ⟨first, rest⟩ := List.forall_mem_cons.1 h
    rw [List.foldlM_cons]
    rcases take_opened first t tag.1 with missing | ⟨opened, taken⟩
    · rw [missing]
      exact .inl rfl
    · rw [taken]
      rcases ih rest { t with opened := opened :: t.opened } with missing | ⟨more, others⟩
      · exact .inl missing
      · refine .inr ⟨more ++ [opened], ?_⟩
        rw [List.append_assoc]
        exact others

/-- In a text that opens a style, then perhaps other tags, and at most closes the style at its end,
every tag can be taken unless one lacks a number. -/
theorem foldlM_take_styled (s : Style) {tags : List (Nat × List Char)}
    {bodies last : List (List Char)} (h : tags.map Prod.snd = s.tag.toList :: (bodies ++ last))
    (opening : ∀ body ∈ bodies, body.head? ≠ some '/')
    (ends : last = [] ∨ last = ['/' :: s.tag.toList]) :
    tags.foldlM Tagging.take .start = .error .missingNumber ∨
      ∃ t, tags.foldlM Tagging.take .start = .ok t := by
  obtain ⟨⟨start, _⟩, tags, rfl, rfl, others⟩ := List.map_eq_cons_iff.1 h
  obtain ⟨inside, final, rfl, rfl, rfl⟩ := List.map_eq_append_iff.1 others
  rw [List.foldlM_cons, take_opening]
  change (List.foldlM _ _ _ = _) ∨ ∃ t, List.foldlM _ _ _ = _
  have opened : ∀ tag ∈ inside, tag.2.head? ≠ some '/' := fun tag member =>
    opening _ (List.mem_map_of_mem member)
  rw [List.foldlM_append]
  rcases foldlM_take_opened opened _ with missing | ⟨more, taken⟩
  · rw [missing]
    exact .inl rfl
  · rw [taken]
    refine .inr ?_
    rcases ends with none | one
    · rw [List.map_eq_nil_iff.1 none]
      exact ⟨_, rfl⟩
    · obtain ⟨⟨position, _⟩, single, rfl⟩ := List.map_eq_singleton_iff.1 one
      rw [single]
      -- the tag that was opened first has the name, if no other has
      have named : OpenTag.mk start s.tag.toList none ∈
          (more ++ [OpenTag.mk start s.tag.toList none]).filter (·.name == s.tag.toList) := by
        simp
      obtain ⟨open?, others, found⟩ := List.exists_cons_of_ne_nil (List.ne_nil_of_mem named)
      have closed := take_closing s
        (t := ⟨more ++ [OpenTag.mk start s.tag.toList none], []⟩) found position
      refine ⟨_, Eq.trans ?_ closed⟩
      exact bind_pure (Tagging.take _ (position, '/' :: s.tag.toList))

theorem mem_styles {ps : List Piece} {body : List Char} (h : body ∈ styles ps) :
    ∃ n, .tag n body ∈ ps := by
  induction ps with
  | nil => cases h
  | cons p ps ih =>
    cases p with
    | char c =>
      obtain ⟨n, member⟩ := ih h
      exact ⟨n, List.mem_cons_of_mem _ member⟩
    | tag n other =>
      rw [styles] at h
      split at h
      · obtain ⟨m, member⟩ := ih h
        exact ⟨m, List.mem_cons_of_mem _ member⟩
      · rcases List.mem_cons.1 h with rfl | later
        · exact ⟨n, List.mem_cons_self⟩
        · obtain ⟨m, member⟩ := ih later
          exact ⟨m, List.mem_cons_of_mem _ member⟩

theorem infix_source_of_mem {ps : List Piece} {p : Piece} (h : p ∈ ps) :
    p.source <:+: ps.flatMap Piece.source := by
  obtain ⟨before, after, rfl⟩ := List.append_of_mem h
  refine ⟨before.flatMap Piece.source, after.flatMap Piece.source, ?_⟩
  rw [List.flatMap_append, List.flatMap_cons, List.append_assoc]

/-! ### Between a style and its end -/

/-- A text between a style and its end, as it is. -/
def wrapped (s : Style) (cs : List Char) : List Char :=
  bracketed s.tag.toList ++ (cs ++ bracketed ('/' :: s.tag.toList))

/-- What stands between a style and its end opens tags of its own, and backslashes may keep the end
from being one. -/
theorem styles_wrapped (s : Style) (cs : List Char) :
    ∃ bodies last,
      styles (pieces (wrapped s cs)) = s.tag.toList :: (bodies ++ last) ∧
      (∀ body ∈ bodies, bracketed body <:+: cs) ∧ (last = [] ∨ last = ['/' :: s.tag.toList]) := by
  obtain ⟨ps, n, read, source⟩ := pieces_append_tag cs (isBody_closing s)
  refine ⟨styles ps, styles [.tag n ('/' :: s.tag.toList)], ?_, ?_, ?_⟩
  · rw [wrapped, styles_tag_append (isBody_tag s), read, styles_append]
  · intro body member
    obtain ⟨m, piece⟩ := mem_styles member
    have own : bracketed body <:+: Piece.source (.tag m body) := (List.suffix_append _ _).isInfix
    rw [← source]
    exact (own.trans (infix_source_of_mem piece)).trans (List.prefix_append _ _).isInfix
  · rw [styles]
    split
    · exact .inl rfl
    · exact .inr rfl

/-- Text without tags that close others can be shown between a style and its end, unless a color in
it lacks a number. -/
theorem renderChars_wrapped (s : Style) {cs : List Char} (h : ¬ ['[', '/'] <:+: cs) :
    renderChars (wrapped s cs) = .error .missingNumber ∨
      ∃ shown, renderChars (wrapped s cs) = .ok shown := by
  obtain ⟨bodies, last, tags, inside, ends⟩ := styles_wrapped s cs
  have opening : ∀ body ∈ bodies, body.head? ≠ some '/' := by
    intro body member first
    obtain ⟨rest, rfl⟩ := List.head?_eq_some_iff.1 first
    have front : ['[', '/'] <+: bracketed ('/' :: rest) := ⟨rest ++ [']'], rfl⟩
    exact h (front.isInfix.trans (inside _ member))
  rw [← map_styleTags 0] at tags
  rw [renderChars, readChars]
  rcases foldlM_take_styled s tags opening ends with missing | ⟨t, taken⟩
  · rw [missing]
    exact .inl rfl
  · rw [taken]
    change Styled.text _ = _ ∨ ∃ shown, Styled.text _ = _
    unfold Styled.text
    split
    · exact .inl rfl
    · exact .inr ⟨_, rfl⟩

/-- Without brackets there is no such color. -/
theorem renderChars_bracketless (s : Style) {cs : List Char} (h : '[' ∉ cs) :
    ∃ shown, renderChars (wrapped s cs) = .ok shown := by
  obtain ⟨bodies, last, tags, inside, ends⟩ := styles_wrapped s cs
  have none : bodies = [] := by
    rw [List.eq_nil_iff_forall_not_mem]
    exact fun body member => h ((inside body member).subset List.mem_cons_self)
  rw [none, List.nil_append] at tags
  rcases ends with rfl | rfl
  · -- the style is not closed, and reaches up to the end
    rw [← map_styleTags 0] at tags
    obtain ⟨⟨start, _⟩, alone, rfl⟩ := List.map_eq_singleton_iff.1 tags
    have taken : [(start, s.tag.toList)].foldlM Tagging.take .start =
        .ok ⟨[⟨start, s.tag.toList, Option.none⟩], []⟩ := by
      rw [List.foldlM_cons, take_opening]
      rfl
    rw [renderChars, readChars, alone, taken]
    refine ⟨_, text_of_shown ?_⟩
    intro span member
    rw [List.mem_singleton.1 (show span ∈ [_] from member)]
    exact not_lacksPart_tag s
  · exact ⟨_, renderChars_paired ⟨[s], tags⟩⟩

end Markup

end ReversePolish
