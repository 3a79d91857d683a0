import ReversePolish.Proofs.Language

/-!
# Spellings of a text

White space, the case of letters and the choice between the two signs of negation make no
difference. Each change of one of these leaves the characters that are left after cleaning to be
read as they were, `Respelled.readings_eq`, and parsing depends on nothing else: `parse_respelled`.
-/

namespace ReversePolish

open Expression

/-- One change of spelling, at any position of a text. -/
inductive Respelled : List Char → List Char → Prop
  | space {c} (pre post : List Char) : Text.isSpace c = true →
      Respelled (pre ++ post) (pre ++ c :: post)
  | small (pre post : List Char) (c : Letter) :
      Respelled (pre ++ c.1 :: post) (pre ++ c.1.toLower :: post)
  | bang (pre post : List Char) : Respelled (pre ++ '¬' :: post) (pre ++ '!' :: post)

namespace Expression

/-- What the characters that are left of a text are read as, one by one. -/
def readings (cs : List Char) : List (Except Refusal Token) := (cleanChars cs).map readChar

theorem readings_append (as bs : List Char) :
    readings (as ++ bs) = readings as ++ readings bs := by
  simp [readings, cleanChars_append]

theorem readings_space {c : Char} (cs : List Char) (h : Text.isSpace c = true) :
    readings (c :: cs) = readings cs := by
  rw [readings, cleanChars_space cs h, readings]

theorem readings_cons {c : Char} (cs : List Char) (h : Text.isSpace c = false) :
    readings (c :: cs) = readChar c.toUpper :: readings cs := by
  rw [readings, cleanChars_cons cs h, List.map_cons, readings]

theorem readings_eq_nil_iff {cs : List Char} : readings cs = [] ↔ cleanChars cs = [] :=
  List.map_eq_nil_iff

theorem tokens_congr {s t : String} (h : readings s.toList = readings t.toList) :
    tokens s = tokens t := by
  have read (cs : List Char) : cs.mapM readChar = (cs.map readChar).mapM id := by
    rw [List.mapM_map]
    rfl
  rw [tokens, tokens, tokensOfChars, tokensOfChars, read, read]
  exact congrArg (fun rs : List (Except Refusal Token) => rs.mapM id >>= _) h

end Expression

/-- A text is parsed by what its characters are read as. -/
theorem parse_congr {s t : String} (h : readings s.toList = readings t.toList) :
    parse s = parse t := by
  have blank := congrArg (· = []) h
  simp only [readings_eq_nil_iff, eq_iff_iff] at blank
  by_cases left : cleanChars s.toList = []
  · rw [parse_of_blank left, parse_of_blank (blank.1 left)]
  · rw [parse_of_visible left, parse_of_visible (mt blank.2 left), tokens_congr h]

theorem Respelled.readings_eq {s t : List Char} (h : Respelled s t) : readings s = readings t := by
  cases h with
  | space pre post space => rw [readings_append, readings_append, readings_space post space]
  | small pre post c =>
    rw [readings_append, readings_append, readings_cons post (not_space_of_spelling (.capital c)),
      readings_cons post (not_space_of_spelling (.small c)), c.toUpper_small, c.toUpper_capital]
  | bang pre post =>
    rw [readings_append, readings_append, readings_cons post (not_space_of_spelling .sign),
      readings_cons post (not_space_of_spelling .bang)]
    rfl

theorem readings_of_respellings {s t : List Char} (h : Relation.EqvGen Respelled s t) :
    readings s = readings t := by
  induction h with
  | rel s t step => exact step.readings_eq
  | refl s => rfl
  | symm s t _ ih => exact ih.symm
  | trans s t u _ _ ih ih' => exact ih.trans ih'

/-! ### Cleaning -/

namespace Expression

theorem not_space_toUpper {c : Char} (h : Text.isSpace c = false) :
    Text.isSpace c.toUpper = false := by
  by_cases lower : c.isLower = true
  · rw [← Bool.not_eq_true]
    intro space
    have alpha := not_alpha_of_space space
    simp [Char.isAlpha, lower] at alpha
  · rwa [Char.toUpper_eq_of_not_isLower lower]

theorem cleanChars_cleanChars (cs : List Char) : cleanChars (cleanChars cs) = cleanChars cs := by
  have visible : ∀ c ∈ cleanChars cs, Text.isSpace c = false := by
    intro c member
    rw [cleanChars_eq] at member
    obtain ⟨d, kept, rfl⟩ := List.mem_map.1 member
    exact not_space_toUpper (by simpa using (List.mem_filter.1 kept).2)
  rw [cleanChars_eq (cleanChars cs), List.filter_eq_self.2 fun c member => by
    simp [visible c member]]
  rw [cleanChars_eq, List.map_map]
  exact List.map_congr_left fun c _ => c.toUpper_toUpper_eq_toUpper

end Expression

/-- However a text is respelled, the same comes of it. Cleaning drops white space and capitalises
letters, character by character, so that it may be done twice and in parts. -/
theorem parse_respelled :
    (∀ s t : String, Relation.EqvGen Respelled s.toList t.toList → parse s = parse t) ∧
    (∀ s, clean s = String.ofList ((s.toList.filter (!Text.isSpace ·)).map Char.toUpper)) ∧
    (∀ s, clean (clean s) = clean s) ∧
    ∀ s t, clean (s ++ t) = clean s ++ clean t := by
  refine ⟨fun s t h => parse_congr (readings_of_respellings h), fun s => ?_, fun s => ?_,
    fun s t => ?_⟩
  · rw [clean, cleanChars_eq]
  · rw [clean, clean, String.toList_ofList, cleanChars_cleanChars]
  · rw [clean, String.toList_append, cleanChars_append, String.ofList_append]
    rfl

/-- A refused text and a respelling of it, refused for the same character. -/
theorem parse_respelled_refused :
    Relation.EqvGen Respelled "!a.é".toList " ¬A.é".toList ∧
    parse "!a.é" = parse " ¬A.é" ∧
    parse "!a.é" = some (.error (.invalidCharacter (.datum (.text "é")))) := by
  have space := Respelled.space (c := ' ') [] ['¬', 'A', '.', 'é'] rfl
  have small := Respelled.small ['¬'] ['.', 'é'] ⟨'A', rfl⟩
  have bang := Respelled.bang [] ['a', '.', 'é']
  have whole : Relation.EqvGen Respelled "!a.é".toList " ¬A.é".toList :=
    .trans _ _ _ (.symm _ _ (.trans _ _ _ (.rel _ _ small) (.rel _ _ bang))) (.rel _ _ space)
  exact ⟨whole, parse_respelled.1 _ _ whole, rfl⟩

end ReversePolish
