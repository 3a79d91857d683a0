import Mathlib.Data.List.Infix
import ReversePolish.Proofs.Wording

/-!
# Telling tokens from what is written

The symbols of tokens are a prefix code, and so are their names: no word begins with another. Words
of such a code can be told apart whatever stands between each two, `PrefixCode.intercalate_inj`, so
that different lists of tokens are never written alike: `format_tells`.
-/

namespace ReversePolish

/-! ### Words with a separator -/

section

variable (sep : List Char)

/-- What comes after a word: nothing, or the separator and the words that are left. -/
def continued (words : List (List Char)) : List Char :=
  if words = [] then [] else sep ++ sep.intercalate words

theorem intercalate_cons (word : List Char) (words : List (List Char)) :
    sep.intercalate (word :: words) = word ++ continued sep words := by
  unfold continued
  split
  · next last => rw [last, List.intercalate_singleton, List.append_nil]
  · next more => rw [List.intercalate_cons_of_ne_nil more, List.append_assoc]

theorem intercalate_eq_nil_iff {words : List (List Char)} (visible : ∀ w ∈ words, w ≠ []) :
    sep.intercalate words = [] ↔ words = [] := by
  cases words with
  | nil => simp
  | cons w words =>
    obtain ⟨first, -⟩ := List.forall_mem_cons.1 visible
    simp [intercalate_cons, first]

/-- Whether a text ends after a word or goes on can be seen, even if the separator is empty. -/
theorem intercalate_of_continued {words words' : List (List Char)}
    (visible : ∀ w ∈ words, w ≠ []) (visible' : ∀ w ∈ words', w ≠ [])
    (same : continued sep words = continued sep words') :
    sep.intercalate words = sep.intercalate words' := by
  unfold continued at same
  split at same
  · next last =>
    split at same
    · next last' => rw [last, last']
    · next more =>
      have silent := (List.append_eq_nil_iff.1 same.symm).2
      exact absurd ((intercalate_eq_nil_iff sep visible').1 silent) more
  · next more =>
    split at same
    · next last =>
      have silent := (List.append_eq_nil_iff.1 same).2
      exact absurd ((intercalate_eq_nil_iff sep visible).1 silent) more
    · exact List.append_cancel_left same

end

/-! ### Prefix codes -/

/-- Words for what is legal, none of which is empty or begins with another. -/
structure PrefixCode {α : Type} (legal : α → Prop) (word : α → List Char) : Prop where
  visible : ∀ {a}, legal a → word a ≠ []
  apart : ∀ {a b}, legal a → legal b → word a <+: word b → a = b

namespace PrefixCode

variable {α : Type} {legal : α → Prop} {word : α → List Char}

theorem visible_words (code : PrefixCode legal word) {as : List α} (h : ∀ a ∈ as, legal a) :
    ∀ w ∈ as.map word, w ≠ [] := by
  intro w member
  obtain ⟨a, present, rfl⟩ := List.mem_map.1 member
  exact code.visible (h a present)

/-- The word that a text begins with can be told whatever comes after it. -/
theorem append_inj (code : PrefixCode legal word) {a b : α} (ha : legal a) (hb : legal b)
    {as bs : List Char} (same : word a ++ as = word b ++ bs) : a = b ∧ as = bs := by
  have front : word a <+: word b ++ bs := ⟨as, same⟩
  obtain rfl : a = b := by
    rcases List.prefix_or_prefix_of_prefix front (List.prefix_append _ _) with shorter | longer
    · exact code.apart ha hb shorter
    · exact (code.apart hb ha longer).symm
  exact ⟨rfl, List.append_cancel_left same⟩

theorem intercalate_inj (code : PrefixCode legal word) (sep : List Char) {as bs : List α}
    (ha : ∀ a ∈ as, legal a) (hb : ∀ b ∈ bs, legal b)
    (same : sep.intercalate (as.map word) = sep.intercalate (bs.map word)) : as = bs := by
  induction as generalizing bs with
  | nil =>
    have silent := (intercalate_eq_nil_iff sep (code.visible_words hb)).1 same.symm
    exact (List.map_eq_nil_iff.1 silent).symm
  | cons a as ih =>
    cases bs with
    | nil =>
      have silent := (intercalate_eq_nil_iff sep (code.visible_words ha)).1 same
      cases silent
    | cons b bs =>
      obtain ⟨first, others⟩ := List.forall_mem_cons.1 ha
      obtain ⟨first', others'⟩ := List.forall_mem_cons.1 hb
      rw [List.map_cons, List.map_cons, intercalate_cons, intercalate_cons] at same
      -- the first words are the same; the induction goes on once the separator is gone
      obtain ⟨rfl, rest⟩ := code.append_inj first first' same
      have later := intercalate_of_continued sep (code.visible_words others)
        (code.visible_words others') rest
      rw [ih others others' later]

end PrefixCode

/-! ### Words of tokens -/

theorem Kind.eq_of_name_front {k k' : Kind} (h : k.name.toList <+: k'.name.toList) : k = k' := by
  have names : ∀ k ∈ all, ∀ k' ∈ all, k.name.toList <+: k'.name.toList → k = k' := by decide
  exact names k (by cases k <;> decide) k' (by cases k' <;> decide) h

namespace Token

theorem prefixCode_symbols : PrefixCode Legal fun t => (t.written .symbols).toList where
  visible h := by
    obtain ⟨c, word, -⟩ := h.exists_char
    simp [word]
  apart {t u} ht hu front := by
    obtain ⟨c, word, read⟩ := ht.exists_char
    obtain ⟨d, word', read'⟩ := hu.exists_char
    simp only [word, word', List.cons_prefix_cons, List.prefix_rfl, and_true] at front
    rw [front, read'] at read
    exact (Option.some.inj read).symm

theorem name_front (t : Token) : t.kind.name.toList <+: (t.written .names).toList := by
  change _ <+: t.describe.toList
  rw [describe]
  split
  · simp only [String.toList_append, List.append_assoc]
    exact List.prefix_append _ _
  · exact List.prefix_rfl

theorem kind_eq_of_prefix {t u : Token}
    (h : (t.written .names).toList <+: (u.written .names).toList) : t.kind = u.kind := by
  have front := (name_front t).trans h
  rcases List.prefix_or_prefix_of_prefix front (name_front u) with shorter | longer
  · exact Kind.eq_of_name_front shorter
  · exact (Kind.eq_of_name_front longer).symm

theorem names_letter (c : Letter) :
    ((letter c).written .names).toList = "VAR(".toList ++ [c.1, ')'] := by
  change ("VAR(" ++ String.singleton c.1 ++ ")").toList = _
  simp

theorem prefixCode_names : PrefixCode Legal fun t => (t.written .names).toList where
  visible {t} _ silent := by
    have front := name_front t
    rw [silent, List.prefix_nil] at front
    cases kind : t.kind <;> rw [kind] at front <;> cases front
  apart {t u} ht hu front := by
    have kinds := kind_eq_of_prefix front
    cases ht with
    | letter c =>
      cases hu with
      | letter d =>
        rw [names_letter, names_letter, List.prefix_append_right_inj, List.cons_prefix_cons] at front
        rw [Subtype.ext front.1]
      | digit b => cases kinds
      | sign sign =>
        cases kinds
        cases sign
    | digit b =>
      cases hu with
      | letter d => cases kinds
      | digit b' => cases b <;> cases b' <;> first | rfl | exact absurd front (by decide)
      | sign sign =>
        cases kinds
        cases sign
    | sign sign =>
      cases hu with
      | letter d =>
        cases kinds
        cases sign
      | digit b =>
        cases kinds
        cases sign
      | sign _ => exact congrArg plain kinds

theorem prefixCode_written (naming : Naming) :
    PrefixCode Legal fun t => (t.written naming).toList := by
  cases naming with
  | symbols => exact prefixCode_symbols
  | names => exact prefixCode_names

end Token

/-- Tokens of texts and of their postfix forms can be written, by symbols or by names and with any
text between each two, and no two lists of such tokens are written alike. -/
theorem format_tells :
    (∀ text ts, Expression.tokens text = .ok ts ∨ parse text = some (.ok ts) →
      ∀ t ∈ ts, t.Legal) ∧
    ∀ (sep : String) (naming : Naming) (ts : List Token), (∀ t ∈ ts, t.Legal) →
      ∃ shown, format sep naming (ts.map .token) = .ok shown ∧
        ∀ us : List Token, (∀ u ∈ us, u.Legal) →
          format sep naming (us.map .token) = .ok shown → us = ts := by
  constructor
  · rintro text ts (read | parsed)
    · exact legal_of_tokens read
    · exact legal_of_parse parsed
  · intro sep naming ts legal
    refine ⟨_, format_legal sep naming legal, ?_⟩
    intro us legal' same
    rw [format_legal sep naming legal'] at same
    have texts := congrArg String.toList (Except.ok.inj same)
    rw [String.toList_intercalate, String.toList_intercalate, List.map_map, List.map_map] at texts
    exact (Token.prefixCode_written naming).intercalate_inj sep.toList legal' legal texts

/-- The separator is the name of a token that is written. -/
theorem format_tells_names :
    let ts : List Token := [.letter ⟨'A', rfl⟩, .letter ⟨'B', rfl⟩, .plain .or]
    parse "a+b" = some (.ok ts) ∧ (∀ t ∈ ts, t.Legal) ∧
    format "OR" .names (ts.map .token) = .ok "VAR(A)ORVAR(B)OROR" ∧
    ∀ us : List Token, (∀ u ∈ us, u.Legal) →
      format "OR" .names (us.map .token) = .ok "VAR(A)ORVAR(B)OROR" → us = ts := by
  intro ts
  have parsed : parse "a+b" = some (.ok ts) := rfl
  have legal := format_tells.1 "a+b" ts (.inr parsed)
  obtain ⟨shown, written, tells⟩ := format_tells.2 "OR" .names ts legal
  have form : format "OR" .names (ts.map .token) = .ok "VAR(A)ORVAR(B)OROR" := rfl
  cases form.symm.trans written
  exact ⟨parsed, legal, form, tells⟩

end ReversePolish
