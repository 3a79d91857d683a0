import ReversePolish.Proofs.Console.Inert
import ReversePolish.Proofs.File.Loading

/-!
# The notice of a file

The name of a file stands in the notice as it is, and may hold tags. It holds no slash, so that the
only tag of the notice that closes another is the last one, and there is one to be closed: the notice
fails only for a color that lacks a number, `notice_outcome`, and then only if the name has a bracket.
Where it is printed it begins with the number of expressions, whatever the name: `announce_text`.
-/

namespace ReversePolish

namespace Text

theorem expandTabsFrom_append {as : List Char} (tab : '\t' ∉ as) (feed : '\n' ∉ as) (column : Nat)
    (part bs : List Char) :
    expandTabsFrom column part (as ++ bs) = expandTabsFrom column (as.reverse ++ part) bs := by
  induction as generalizing part with
  | nil => rfl
  | cons a as ih =>
    rw [List.mem_cons, not_or] at tab feed
    rw [List.cons_append, expandTabsFrom, if_neg (Ne.symm tab.1), if_neg (Ne.symm feed.1),
      ih tab.2 feed.2, List.reverse_cons, List.append_assoc, List.singleton_append]

theorem prefix_expandTabsFrom (column : Nat) (part cs : List Char) :
    part.reverse <+: expandTabsFrom column part cs := by
  induction cs generalizing column part with
  | nil => exact List.prefix_rfl
  | cons c cs ih =>
    rw [expandTabsFrom]
    split
    · rw [List.append_assoc, List.append_assoc]
      exact List.prefix_append ..
    · split
      · exact List.prefix_append ..
      · refine List.IsPrefix.trans ?_ (ih column (c :: part))
        rw [List.reverse_cons]
        exact List.prefix_append ..

end Text

namespace Loader

open Markup

theorem toList_notice (p : Path) (es : List String) : (notice p es).toList =
    wrapped .dim ("Loaded " ++ es.length.repr ++ " expressions from " ++ p.name).toList := by
  simp [notice, wrapped, bracketed, Style.tag]

theorem outcome_line (markup : String) :
    (Printed.line markup).outcome = (renderChars markup.toList).map fun _ => () := by
  rw [Printed.line, render]
  cases renderChars markup.toList <;> rfl

/-- A file whose name holds no slash can be told of, unless a color in the name lacks a number. -/
theorem notice_outcome {p : Path} (es : List String) (h : '/' ∉ p.name.toList) :
    (Printed.line (notice p es)).outcome = .ok () ∨
      (Printed.line (notice p es)).outcome = .error .missingNumber ∧ '[' ∈ p.name.toList := by
  have front {c : Char} (words : c ∉ "Loaded ".toList ∧ c ∉ " expressions from ".toList)
      (digit : c.isDigit = false) (absent : c ∉ p.name.toList) :
      c ∉ ("Loaded " ++ es.length.repr ++ " expressions from " ++ p.name).toList := by
    simp only [String.toList_append, List.mem_append, not_or]
    exact ⟨⟨⟨words.1, not_mem_repr digit⟩, words.2⟩, absent⟩
  rw [outcome_line, toList_notice]
  by_cases bracket : '[' ∈ p.name.toList
  · have slashless := front (c := '/') (by decide) rfl h
    have opens := fun inside : ['[', '/'] <:+: _ => slashless (inside.subset (by simp))
    rcases renderChars_wrapped .dim opens with missing | ⟨shown, rendered⟩
    · rw [missing]
      exact .inr ⟨rfl, bracket⟩
    · rw [rendered]
      exact .inl rfl
  · obtain ⟨shown, rendered⟩ := renderChars_bracketless .dim (front (by decide) rfl bracket)
    rw [rendered]
    exact .inl rfl

/-- What is told of expressions, up to the name of their file. -/
def tally (es : List String) : String := "Loaded " ++ es.length.repr ++ " expressions from "

theorem harmless_tally (es : List String) : Harmless (tally es).toList :=
  harmless_concat (harmless_concat (s := "Loaded ") rfl (harmless_repr _)) rfl

theorem feed_not_mem_tally (es : List String) : '\n' ∉ (tally es).toList := by
  simp only [tally, String.toList_append, List.mem_append, not_or]
  exact ⟨⟨by decide, not_mem_repr rfl⟩, by decide⟩

theorem visible_notice (p : Path) (es : List String) :
    ∃ rest, visible (pieces (notice p es).toList) = (tally es).toList ++ rest := by
  have harmless := harmless_tally es
  have words : ("Loaded " ++ es.length.repr ++ " expressions from " ++ p.name).toList =
      (tally es).toList ++ p.name.toList := String.toList_append
  refine ⟨visible (pieces (p.name.toList ++ bracketed ('/' :: Style.dim.tag.toList))), ?_⟩
  rw [toList_notice, wrapped, visible_tag_append (isBody_tag .dim), words, List.append_assoc,
    visible_plain_append (harmless.not_mem rfl) (harmless.not_mem rfl)]

/-- What is told of expressions begins with their number. -/
theorem announce_text {p : Path} {es : List String}
    (told : (Printed.line (notice p es)).outcome = .ok ()) :
    ∃ rest, (announce p es).text = tally es ++ rest := by
  have harmless := harmless_tally es
  cases rendered : renderChars (notice p es).toList with
  | error f =>
    rw [outcome_line, rendered] at told
    cases told
  | ok shown =>
    obtain ⟨rest, seen⟩ := visible_notice p es
    have split : shown = (tally es).toList ++ rest.filter (!isDropped ·) := by
      rw [eq_of_renderChars rendered, shownChars, seen, List.filter_append,
        harmless.steady.filter_eq]
    have plain : render (notice p es) = .ok (String.ofList shown) := by
      rw [render, rendered]
      rfl
    obtain ⟨more, same⟩ :=
      Text.prefix_expandTabsFrom 0 (tally es).toList.reverse (rest.filter (!isDropped ·))
    rw [List.reverse_reverse] at same
    have line : Text.expandTabs shown = (tally es).toList ++ more := by
      rw [Text.expandTabs, split, Text.expandTabsFrom_append (harmless.not_mem rfl)
        (feed_not_mem_tally es), List.append_nil, ← same]
    refine ⟨String.ofList more ++ "\n", ?_⟩
    rw [announce_eq told, Printed.line_eq plain, Printed.lineText, String.toList_ofList, line,
      String.ofList_append, String.ofList_toList, String.append_assoc]

end Loader

end ReversePolish
