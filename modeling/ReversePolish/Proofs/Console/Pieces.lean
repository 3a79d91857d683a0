import Mathlib.Data.List.TakeWhile
import ReversePolish.Console.Markup

/-!
# Pieces of markup

Where the pieces of a markup text lie: a tag with its backslashes is taken off the front wherever
one stands there, `pieces_tag`. In an escaped text each tag has an odd number of backslashes in front
of it and all else is as it was, whatever follows: `pieces_escape_append`.
-/

namespace ReversePolish.Markup

/-- What may stand between the brackets of a tag. -/
def IsBody (body : List Char) : Prop :=
  ∃ c cs, body = c :: cs ∧ startsTag c = true ∧ ∀ d ∈ cs, staysInTag d = true

namespace Piece

/-- A piece as it stands in the text. -/
def source : Piece → List Char
  | char c => [c]
  | tag n body => backslashes n ++ bracketed body

/-- What becomes of a piece when the text is escaped. -/
def escaped : Piece → Piece
  | char c => char c
  | tag n body => tag (2 * n + 1) body

end Piece

/-! ### Tags at the front -/

theorem bracket?_bracketed {body : List Char} (h : IsBody body) (rest : List Char) :
    bracket? (bracketed body ++ rest) = some (body, rest) := by
  obtain ⟨c, cs, rfl, starts, stays⟩ := h
  have stop : staysInTag ']' = false := rfl
  simp [bracket?, bracketed, starts, List.takeWhile_append_of_pos stays,
    List.dropWhile_append_of_pos stays, stop]

theorem eq_of_bracket? {cs body rest : List Char} (h : bracket? cs = some (body, rest)) :
    cs = bracketed body ++ rest ∧ IsBody body := by
  unfold bracket? at h
  split at h
  · rename_i c cs
    split at h
    · rename_i starts
      split at h
      · rename_i rest' tail
        cases h
        have parts := List.takeWhile_append_dropWhile (p := staysInTag) (l := cs)
        refine ⟨?_, c, _, rfl, starts, fun d => List.mem_takeWhile_imp⟩
        rw [tail] at parts
        simp [bracketed, parts]
      · cases h
    · cases h
  · cases h

theorem takeWhile_backslashes (n : Nat) {cs : List Char} (h : cs.head? ≠ some '\\') :
    (backslashes n ++ cs).takeWhile (· == '\\') = backslashes n ∧
      (backslashes n ++ cs).dropWhile (· == '\\') = cs := by
  have all : ∀ c ∈ backslashes n, (c == '\\') = true := by
    intro c member
    simp [List.eq_of_mem_replicate member]
  rw [List.takeWhile_append_of_pos all, List.dropWhile_append_of_pos all]
  cases cs with
  | nil => simp
  | cons c cs =>
    have other : (c == '\\') = false := by simpa using h
    simp [other]

theorem tag?_tag (n : Nat) {body : List Char} (h : IsBody body) (rest : List Char) :
    tag? (backslashes n ++ bracketed body ++ rest) = some (n, body, rest) := by
  have front : (bracketed body ++ rest).head? ≠ some '\\' := by simp [bracketed]
  obtain ⟨taken, dropped⟩ := takeWhile_backslashes n front
  rw [List.append_assoc, tag?, taken, dropped, bracket?_bracketed h]
  simp [backslashes]

theorem eq_of_tag? {cs body rest : List Char} {n : Nat} (h : tag? cs = some (n, body, rest)) :
    cs = backslashes n ++ bracketed body ++ rest ∧ IsBody body := by
  obtain ⟨⟨_, _⟩, bracket, same⟩ := Option.map_eq_some_iff.1 h
  cases same
  obtain ⟨tail, isBody⟩ := eq_of_bracket? bracket
  have slashes : cs.takeWhile (· == '\\') = backslashes (cs.takeWhile (· == '\\')).length := by
    rw [backslashes, List.eq_replicate_iff]
    exact ⟨rfl, fun c member => by simpa using List.mem_takeWhile_imp member⟩
  refine ⟨?_, isBody⟩
  rw [← slashes, List.append_assoc, ← tail, List.takeWhile_append_dropWhile]

theorem pieces_tag (n : Nat) {body : List Char} (h : IsBody body) (rest : List Char) :
    pieces (backslashes n ++ bracketed body ++ rest) = .tag n body :: pieces rest := by
  rw [pieces]
  split
  · rename_i found
    rw [tag?_tag n h] at found
    cases found
    rfl
  · rename_i none
    rw [tag?_tag n h] at none
    cases none

theorem pieces_cons {c : Char} {cs : List Char} (h : tag? (c :: cs) = none) :
    pieces (c :: cs) = .char c :: pieces cs := by
  rw [pieces]
  split
  · rename_i found
    rw [h] at found
    cases found
  · rfl

theorem pieces_nil : pieces [] = [] := by
  rw [pieces]
  rfl

/-- A text is read from the left: it begins with a tag, or with a character that no tag begins with,
or it is empty. -/
theorem reading {motive : List Char → Prop} (nil : motive [])
    (tag : ∀ n body rest, IsBody body → motive rest →
      motive (backslashes n ++ bracketed body ++ rest))
    (char : ∀ c cs, tag? (c :: cs) = none → motive cs → motive (c :: cs)) (cs : List Char) :
    motive cs := by
  induction cs using pieces.induct with
  | case1 cs n body rest found ih =>
    obtain ⟨rfl, isBody⟩ := eq_of_tag? found
    exact tag n body rest isBody ih
  | case2 => exact nil
  | case3 c cs none ih => exact char c cs none ih

/-! ### Where no tag begins -/

/-- A bracket that is open before the text is closed in it: a closing bracket comes first. -/
def closes (cs : List Char) : Bool := (cs.dropWhile staysInTag).head? == some ']'

theorem closes_cons_of_stays {c : Char} (h : staysInTag c = true) (cs : List Char) :
    closes (c :: cs) = closes cs := by
  simp [closes, h]

theorem closes_cons_of_not_stays {c : Char} (h : staysInTag c = false) (cs : List Char) :
    closes (c :: cs) = (c == ']') := by
  simp [closes, h]

theorem closes_backslashes (n : Nat) (cs : List Char) :
    closes (backslashes n ++ cs) = closes cs := by
  have all : ∀ c ∈ backslashes n, staysInTag c = true := by
    intro c member
    simp [List.eq_of_mem_replicate member, staysInTag]
  rw [closes, List.dropWhile_append_of_pos all, closes]

theorem closes_tag (n : Nat) (body rest : List Char) :
    closes (backslashes n ++ bracketed body ++ rest) = false := by
  rw [List.append_assoc, closes_backslashes]
  rfl

theorem stays_of_starts {c : Char} (h : startsTag c = true) : staysInTag c = true := by
  by_cases opening : c = '['
  · subst opening
    cases h
  · by_cases closing : c = ']'
    · subst closing
      cases h
    · simp [staysInTag, opening, closing]

theorem not_mem_of_isBody {body : List Char} (h : IsBody body) : '[' ∉ body ∧ ']' ∉ body := by
  obtain ⟨c, cs, rfl, starts, stays⟩ := h
  have all : ∀ d ∈ c :: cs, staysInTag d = true :=
    List.forall_mem_cons.2 ⟨stays_of_starts starts, stays⟩
  exact ⟨fun member => absurd (all _ member) (by decide),
    fun member => absurd (all _ member) (by decide)⟩

theorem tag?_backslash (cs : List Char) : tag? ('\\' :: cs) = none ↔ tag? cs = none := by
  simp [tag?]

theorem tag?_other {c : Char} (h : c ≠ '[') (h' : c ≠ '\\') (cs : List Char) :
    tag? (c :: cs) = none := by
  have front : ((c :: cs).dropWhile (· == '\\')) = c :: cs := by simp [h']
  rw [tag?, front]
  unfold bracket?
  split
  · rename_i same
    cases same
    exact absurd rfl h
  · rfl

/-- An opening bracket begins a tag where a fitting character and a closing bracket follow. -/
theorem tag?_bracket (cs : List Char) :
    tag? ('[' :: cs) = none ↔ ¬ (cs.head?.any startsTag = true ∧ closes cs = true) := by
  have front : (('[' :: cs).dropWhile (· == '\\')) = '[' :: cs := by simp
  rw [tag?, front, Option.map_eq_none_iff]
  cases cs with
  | nil => simp [bracket?]
  | cons c cs =>
    by_cases starts : startsTag c = true
    · rw [closes_cons_of_stays (stays_of_starts starts)]
      simp only [bracket?, starts, if_true, List.head?_cons, Option.any_some, true_and, closes]
      cases cs.dropWhile staysInTag with
      | nil => simp
      | cons d rest =>
        by_cases closing : d = ']'
        · simp [closing]
        · simp [closing]
    · simp [bracket?, starts]

theorem tag?_plain {cs : List Char} (h : '[' ∉ cs) : tag? cs = none := by
  rw [tag?, Option.map_eq_none_iff]
  have absent : '[' ∉ cs.dropWhile (· == '\\') :=
    fun member => h ((List.dropWhile_suffix _).subset member)
  unfold bracket?
  split
  · rename_i same
    simp [same] at absent
  · rfl

/-- Without brackets there are no tags, and what follows is read for itself. -/
theorem pieces_plain_append {cs : List Char} (h : '[' ∉ cs) (h' : '\\' ∉ cs)
    (rest : List Char) : pieces (cs ++ rest) = cs.map .char ++ pieces rest := by
  induction cs with
  | nil => rfl
  | cons c cs ih =>
    rw [List.mem_cons, not_or] at h h'
    rw [List.cons_append, pieces_cons (tag?_other (Ne.symm h.1) (Ne.symm h'.1) _), ih h.2 h'.2]
    rfl

theorem pieces_plain {cs : List Char} (h : '[' ∉ cs) : pieces cs = cs.map .char := by
  induction cs with
  | nil => exact pieces_nil
  | cons c cs ih =>
    rw [pieces_cons (tag?_plain h), ih fun member => h (List.mem_cons_of_mem _ member)]
    rfl

/-! ### Escaped texts -/

/-- The text with the tags escaped, whatever it ends with. -/
def escapedTags (cs : List Char) : List Char := (pieces cs).flatMap escapePiece

theorem escapedTags_nil : escapedTags [] = [] := by
  rw [escapedTags, pieces_nil]
  rfl

theorem escapedTags_tag (n : Nat) {body : List Char} (h : IsBody body) (rest : List Char) :
    escapedTags (backslashes n ++ bracketed body ++ rest) =
      backslashes (2 * n + 1) ++ bracketed body ++ escapedTags rest := by
  rw [escapedTags, pieces_tag n h]
  rfl

theorem escapedTags_cons {c : Char} {cs : List Char} (h : tag? (c :: cs) = none) :
    escapedTags (c :: cs) = c :: escapedTags cs := by
  rw [escapedTags, pieces_cons h]
  rfl

section

variable {more : List Char}

theorem closes_escapedTags (open? : closes more = false) {cs : List Char}
    (h : closes (escapedTags cs ++ more) = true) : closes cs = true := by
  induction cs using reading with
  | nil =>
    rw [escapedTags_nil, List.nil_append, open?] at h
    cases h
  | tag n body rest isBody _ =>
    rw [escapedTags_tag n isBody, List.append_assoc, closes_tag] at h
    cases h
  | char c cs none ih =>
    rw [escapedTags_cons none, List.cons_append] at h
    by_cases stays : staysInTag c = true
    · rw [closes_cons_of_stays stays] at h ⊢
      exact ih h
    · rw [Bool.not_eq_true] at stays
      rwa [closes_cons_of_not_stays stays] at h ⊢

theorem starts_escapedTags {cs : List Char} (visible : cs ≠ [])
    (h : (escapedTags cs ++ more).head?.any startsTag = true) :
    cs.head?.any startsTag = true := by
  induction cs using reading with
  | nil => exact absurd rfl visible
  | tag n body rest isBody _ =>
    rw [escapedTags_tag n isBody] at h
    cases h
  | char c cs none _ =>
    rw [escapedTags_cons none] at h
    exact h

/-- Escaping makes no tag of what was none, unless it is made by backslashes at the end of the text
and a tag that follows. -/
theorem tag?_escapedTags (open? : closes more = false) {c : Char} {cs : List Char}
    (apart : (c :: cs).getLast? = some '\\' → tag? more = none) (h : tag? (c :: cs) = none) :
    tag? (c :: (escapedTags cs ++ more)) = none := by
  induction cs using reading generalizing c with
  | nil =>
    rw [escapedTags_nil, List.nil_append]
    by_cases slash : c = '\\'
    · subst slash
      exact (tag?_backslash _).2 (apart rfl)
    · by_cases bracket : c = '['
      · subst bracket
        rw [tag?_bracket, open?]
        simp
      · exact tag?_other bracket slash _
  | tag n body rest isBody _ =>
    by_cases slash : c = '\\'
    · subst slash
      rw [tag?_backslash, tag?_tag n isBody] at h
      cases h
    · by_cases bracket : c = '['
      · subst bracket
        rw [tag?_bracket, escapedTags_tag n isBody, List.append_assoc, closes_tag]
        simp
      · exact tag?_other bracket slash _
  | char d cs none ih =>
    by_cases slash : c = '\\'
    · subst slash
      rw [tag?_backslash, escapedTags_cons none]
      exact ih (by simpa using apart) none
    · by_cases bracket : c = '['
      · subst bracket
        rw [tag?_bracket] at h ⊢
        rintro ⟨starts, closed⟩
        exact h ⟨starts_escapedTags (by simp) starts, closes_escapedTags open? closed⟩
      · exact tag?_other bracket slash _

theorem pieces_escapedTags_append (open? : closes more = false) {cs : List Char}
    (apart : cs.getLast? = some '\\' → tag? more = none) :
    pieces (escapedTags cs ++ more) = (pieces cs).map Piece.escaped ++ pieces more := by
  induction cs using reading with
  | nil => simp [escapedTags_nil, pieces_nil]
  | tag n body rest isBody ih =>
    rw [escapedTags_tag n isBody, List.append_assoc, pieces_tag _ isBody, pieces_tag n isBody, ih]
    · rfl
    · intro last
      refine apart ?_
      rw [List.getLast?_append, last]
      rfl
  | char c cs none ih =>
    rw [escapedTags_cons none, List.cons_append, pieces_cons (tag?_escapedTags open? apart none),
      pieces_cons none, ih]
    · rfl
    · intro last
      refine apart ?_
      rw [List.getLast?_cons, last]
      rfl

end

/-! ### The end of an escaped text -/

theorem getLast?_tag_append (n : Nat) (body rest : List Char) :
    (backslashes n ++ bracketed body ++ rest).getLast? = rest.getLast?.or (some ']') := by
  rw [List.getLast?_append, bracketed, ← List.append_assoc, List.getLast?_concat]

theorem getLast?_escapedTags (cs : List Char) : (escapedTags cs).getLast? = cs.getLast? := by
  induction cs using reading with
  | nil => rw [escapedTags_nil]
  | tag n body rest isBody ih =>
    rw [escapedTags_tag n isBody, getLast?_tag_append, getLast?_tag_append, ih]
  | char c cs none ih => rw [escapedTags_cons none, List.getLast?_cons, List.getLast?_cons, ih]

/-- A text ends in a backslash that has none before it. -/
def EndsLone (cs : List Char) : Prop :=
  cs.getLast? = some '\\' ∧ cs.dropLast.getLast? ≠ some '\\'

instance (cs : List Char) : Decidable (EndsLone cs) := inferInstanceAs (Decidable (_ ∧ _))

/-- What is added at the end of a text once its tags are escaped. -/
def endGuard (cs : List Char) : List Char := if EndsLone cs then ['\\'] else []

theorem guardEnd_eq (cs : List Char) : guardEnd cs = cs ++ endGuard cs := by
  have lone : EndsLone cs ↔ cs.reverse.head? = some '\\' ∧ cs.reverse.tail.head? ≠ some '\\' := by
    rw [EndsLone, List.head?_reverse, List.tail_reverse, List.head?_reverse]
  unfold guardEnd endGuard
  split
  · next double => simp [lone, double]
  · next rest single ends =>
    have alone : EndsLone cs := by
      rw [lone, ends]
      refine ⟨rfl, fun again => ?_⟩
      obtain ⟨tail, same⟩ := List.head?_eq_some_iff.1 again
      exact single tail same
    rw [if_pos alone]
  · next other =>
    have apart : ¬ EndsLone cs := by
      rw [lone]
      rintro ⟨last, -⟩
      obtain ⟨tail, same⟩ := List.head?_eq_some_iff.1 last
      exact other tail same
    rw [if_neg apart, List.append_nil]

theorem escapedTags_eq_nil_iff {cs : List Char} : escapedTags cs = [] ↔ cs = [] := by
  rw [← List.getLast?_eq_none_iff, getLast?_escapedTags, List.getLast?_eq_none_iff]

theorem getLast?_dropLast_escapedTags (cs : List Char) :
    (escapedTags cs).dropLast.getLast? = cs.dropLast.getLast? := by
  induction cs using reading with
  | nil => rw [escapedTags_nil]
  | tag n body rest isBody ih =>
    rw [escapedTags_tag n isBody]
    by_cases more : rest = []
    · have ends (m : Nat) : (backslashes m ++ bracketed body).dropLast.getLast? =
          ('[' :: body).getLast? := by
        rw [bracketed, ← List.append_assoc, List.dropLast_concat, List.getLast?_append,
          List.getLast?_cons, Option.some_or]
      rw [more, escapedTags_nil, List.append_nil, List.append_nil, ends, ends]
    · have more' := mt escapedTags_eq_nil_iff.1 more
      rw [List.dropLast_append_of_ne_nil more, List.dropLast_append_of_ne_nil more',
        getLast?_tag_append, getLast?_tag_append, ih]
  | char c cs none ih =>
    rw [escapedTags_cons none]
    by_cases more : cs = []
    · rw [more, escapedTags_nil]
    · have more' := mt escapedTags_eq_nil_iff.1 more
      rw [List.dropLast_cons_of_ne_nil more, List.dropLast_cons_of_ne_nil more',
        List.getLast?_cons, List.getLast?_cons, ih]

theorem endGuard_escapedTags (cs : List Char) : endGuard (escapedTags cs) = endGuard cs := by
  have same : EndsLone (escapedTags cs) ↔ EndsLone cs := by
    rw [EndsLone, EndsLone, getLast?_escapedTags, getLast?_dropLast_escapedTags]
  simp only [endGuard, same]

theorem escapeChars_eq (cs : List Char) : escapeChars cs = escapedTags cs ++ endGuard cs := by
  rw [← endGuard_escapedTags]
  exact guardEnd_eq (escapedTags cs)

/-- An escaped text is read for itself where neither the end of a tag nor a tag follows. -/
theorem pieces_escape_append (cs : List Char) {rest : List Char} (open? : closes rest = false)
    (apart : tag? rest = none) : pieces (escapeChars cs ++ rest) =
      (pieces cs).map Piece.escaped ++ (endGuard cs).map .char ++ pieces rest := by
  rw [escapeChars_eq, List.append_assoc]
  unfold endGuard
  split
  · have apart' : tag? ('\\' :: rest) = none := (tag?_backslash rest).2 apart
    have open' : closes (['\\'] ++ rest) = false := by
      rwa [List.singleton_append, closes_cons_of_stays rfl]
    rw [pieces_escapedTags_append open' fun _ => apart', List.singleton_append,
      pieces_cons apart']
    simp
  · rw [List.nil_append, pieces_escapedTags_append open? fun _ => apart]
    simp

end ReversePolish.Markup
