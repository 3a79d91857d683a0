import ReversePolish.Format
import ReversePolish.Proofs.Respelling
import ReversePolish.Proofs.Verdict

/-!
# Tokens that are printed

Tokens that all have symbols are printed as these symbols with a separator between each two,
`format_symbols`. The symbol of a token of a text is the character that it was read from, but for the
second sign of negation, so that what is printed is read again as the same tokens if the separator is
white space: `tokens_format`.
-/

namespace ReversePolish

open Expression

/-! ### Symbols -/

namespace Format

theorem presentFrom_some (position : Nat) (ss : List String) :
    presentFrom position (ss.map some) = .ok ss := by
  induction ss generalizing position with
  | nil => rfl
  | cons s ss ih =>
    rw [List.map_cons, presentFrom, ih]
    rfl

theorem mapM_symbol (ts : List Token) :
    (ts.map Element.token).mapM Element.symbol = .ok (ts.map Token.symbol?) := by
  induction ts with
  | nil => rfl
  | cons t ts ih =>
    rw [List.map_cons, List.mapM_cons, ih]
    rfl

end Format

theorem format_symbols (sep : String) {ts : List Token} {ss : List String}
    (h : ts.map Token.symbol? = ss.map some) :
    format sep .symbols (ts.map .token) = .ok (sep.intercalate ss) := by
  rw [format, Format.pieces, Format.mapM_symbol, h]
  change _ <$> Format.presentFrom 0 _ = _
  rw [Format.presentFrom_some]
  rfl

/-- A character with the sign of negation that is printed. -/
def printedSign (c : Char) : Char := if c = '!' then '¬' else c

theorem readChar_printedSign (c : Char) : readChar (printedSign c) = readChar c := by
  unfold printedSign
  split
  · next bang => rw [bang]; rfl
  · rfl

theorem symbol?_of_token? {c : Char} {t : Token} (h : token? c = some t) :
    t.symbol? = some (String.singleton (printedSign c)) := by
  have other {d : Char} (different : d ≠ '!') : printedSign d = d := if_neg different
  cases stands_iff.2 h with
  | letter upper =>
    rw [other (by rintro rfl; cases upper)]
    rfl
  | digit one =>
    rw [other (by rintro rfl; simp at one)]
    rfl
  | symbol pair =>
    simp only [List.mem_cons, Prod.mk.injEq, List.not_mem_nil, or_false] at pair
    rcases pair with ⟨rfl, rfl⟩ | ⟨rfl, rfl⟩ | ⟨rfl, rfl⟩ | ⟨rfl, rfl⟩ | ⟨rfl, rfl⟩ | ⟨rfl, rfl⟩ <;> rfl

theorem map_symbol?_of_read {cs : List Char} {ts : List Token} (h : ReadAs cs ts) :
    ts.map Token.symbol? = ((cs.map printedSign).map String.singleton).map some := by
  induction h with
  | nil => rfl
  | cons first _ ih =>
    rw [List.map_cons, List.map_cons, List.map_cons, List.map_cons, ih, symbol?_of_token? first]

/-! ### Cleaning what is printed -/

/-- White space between texts is dropped, whatever they are. -/
theorem cleanChars_intercalate {sep : String} (white : ∀ c ∈ sep.toList, Text.isSpace c = true)
    (ss : List String) :
    cleanChars (sep.intercalate ss).toList = ss.flatMap fun s => cleanChars s.toList := by
  have dropped : cleanChars sep.toList = [] := cleanChars_eq_nil_iff.2 white
  induction ss with
  | nil => rfl
  | cons s ss ih =>
    by_cases more : ss = []
    · rw [more, String.intercalate_singleton]
      simp
    · rw [String.intercalate_cons_of_ne_nil more, String.toList_append, String.toList_append,
        cleanChars_append, cleanChars_append, dropped, ih, List.append_nil, List.flatMap_cons]

theorem cleanChars_printedSign {cs : List Char} {c : Char} (h : c ∈ cleanChars cs) :
    cleanChars (String.singleton (printedSign c)).toList = [printedSign c] := by
  rw [String.toList_singleton]
  unfold printedSign
  split
  · rfl
  · rw [cleanChars_eq] at h
    obtain ⟨d, kept, rfl⟩ := List.mem_map.1 h
    have visible : Text.isSpace d = false := by simpa using (List.mem_filter.1 kept).2
    rw [cleanChars_cons [] (not_space_toUpper visible), Char.toUpper_toUpper_eq_toUpper]
    rfl

/-- The characters of a cleaned text, printed with white space between them, are left as they are. -/
theorem cleanChars_printed {sep : String} (white : ∀ c ∈ sep.toList, Text.isSpace c = true)
    (cs : List Char) :
    cleanChars (sep.intercalate (((cleanChars cs).map printedSign).map String.singleton)).toList =
      (cleanChars cs).map printedSign := by
  rw [cleanChars_intercalate white, List.flatMap_map, List.flatMap_map, List.map_eq_flatMap]
  exact List.flatMap_congr fun c member => cleanChars_printedSign member

theorem readings_printed {sep : String} (white : ∀ c ∈ sep.toList, Text.isSpace c = true)
    (cs : List Char) :
    readings (sep.intercalate (((cleanChars cs).map printedSign).map String.singleton)).toList =
      readings cs := by
  rw [readings, cleanChars_printed white, List.map_map, readings]
  exact List.map_congr_left fun c _ => readChar_printedSign c

theorem intercalate_singletons (cs : List Char) :
    "".intercalate (cs.map String.singleton) = String.ofList cs := by
  induction cs with
  | nil => rfl
  | cons c cs ih =>
    cases cs with
    | nil => rfl
    | cons d ds =>
      rw [List.map_cons, List.map_cons, String.intercalate_cons_cons, ← List.map_cons, ih]
      simp

/-- The tokens of a text are printed and read again, whatever white space stands between them.
Without any they are printed as the cleaned text, but for the second sign of negation. -/
theorem tokens_format {text : String} {ts : List Token} (h : tokens text = .ok ts) :
    (∀ sep : String, (∀ c ∈ sep.toList, Text.isSpace c = true) →
      ∃ printed, format sep .symbols (ts.map .token) = .ok printed ∧ tokens printed = .ok ts ∧
        parse printed = parse text) ∧
    format "" .symbols (ts.map .token) =
      .ok (String.ofList ((clean text).toList.map fun c => if c = '!' then '¬' else c)) := by
  have symbols := map_symbol?_of_read (tokensOfChars_ok_iff.1 h).1
  refine ⟨fun sep white => ⟨_, format_symbols sep symbols, ?_, ?_⟩, ?_⟩
  · rw [tokens_congr (readings_printed white text.toList), h]
  · exact parse_congr (readings_printed white text.toList)
  · rw [format_symbols "" symbols, intercalate_singletons, clean, String.toList_ofList]
    rfl

/-- A text with both signs of negation, printed with white space of several kinds. -/
theorem tokens_format_spaced :
    let ts : List Token := [.plain .not, .plain .openPar, .letter ⟨'A', rfl⟩, .plain .or,
      .plain .not, .digit true, .plain .closePar]
    tokens " !(a+\t¬1)" = .ok ts ∧
    format "\n\u3000" .symbols (ts.map .token) =
      .ok "¬\n\u3000(\n\u3000A\n\u3000+\n\u3000¬\n\u30001\n\u3000)" ∧
    tokens "¬\n\u3000(\n\u3000A\n\u3000+\n\u3000¬\n\u30001\n\u3000)" = .ok ts ∧
    parse "¬\n\u3000(\n\u3000A\n\u3000+\n\u3000¬\n\u30001\n\u3000)" = parse " !(a+\t¬1)" ∧
    format "" .symbols (ts.map .token) = .ok "¬(A+¬1)" := by
  intro ts
  have read : tokens " !(a+\t¬1)" = .ok ts := by rfl
  obtain ⟨spaced, dense⟩ := tokens_format read
  obtain ⟨printed, written, again, same⟩ := spaced "\n\u3000" (List.all_eq_true.1 rfl)
  have form : format "\n\u3000" .symbols (ts.map .token) =
      .ok "¬\n\u3000(\n\u3000A\n\u3000+\n\u3000¬\n\u30001\n\u3000)" := by rfl
  cases form.symm.trans written
  exact ⟨read, form, again, same, dense⟩

end ReversePolish
