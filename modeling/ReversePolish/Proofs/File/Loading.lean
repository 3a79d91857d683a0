import ReversePolish.File.Loader
import ReversePolish.Proofs.Display

/-!
# Loading

What a loader gives for a path that it has not read yet. Whether it can be told of is another
matter: the notice of a file is markup, and the name of the file stands in it as it is.
-/

namespace ReversePolish.Loader

variable {l : Loader} {look : Path → Except Obstacle Entry} {s : String}

/-- A file that is read for the first time is remembered and told of. -/
theorem loadWith_fresh {entry : Entry} {es : List String} (legal : (l.locate s).hasNull = false)
    (unknown : l.cache.lookup (l.place s) = none) (found : look (l.locate s) = .ok entry)
    (given : read (l.locate s) entry = .ok es) :
    l.loadWith look s =
      ({ l with cache := (l.place s, es) :: l.cache }, announce (l.locate s) es) := by
  simp only [loadWith, legal, unknown, found, given, Bool.false_eq_true, if_false]

theorem read_file {p : Path} {bytes : List UInt8} {cs : List Char}
    (decoded : Text.Utf8.decode bytes = .ok cs) (visible : expressionsIn cs ≠ []) :
    read p (.file bytes) = .ok (expressionsIn cs) := by
  rw [read, decoded]
  dsimp only
  split
  · exact absurd ‹expressionsIn cs = []› visible
  · rfl

/-- What is read is in the text of a file. -/
theorem expressionsIn_of_read {p : Path} {entry : Entry} {es : List String}
    (h : read p entry = .ok es) : es ≠ [] ∧ ∃ cs, es = expressionsIn cs := by
  unfold read at h
  split at h
  · cases h
  · split at h
    · cases h
    · next cs _ =>
      split at h
      · cases h
      · next visible =>
        cases h
        exact ⟨visible, cs, rfl⟩

theorem announce_eq {p : Path} {es : List String}
    (told : (Printed.line (notice p es)).outcome = .ok ()) :
    announce p es = ⟨(Printed.line (notice p es)).text, .ok (.ok es)⟩ := by
  rw [announce, told]
  dsimp only
  rw [Printed.bind_eq told, Printed.text_pure, Printed.outcome_pure, String.append_empty]

theorem announce_told {p : Path} {es : List String}
    (told : (Printed.line (notice p es)).outcome = .ok ()) :
    (announce p es).outcome = .ok (.ok es) := by
  rw [announce_eq told]

/-- Expressions are given only once they are told of. -/
theorem told_of_announce {p : Path} {es es' : List String}
    (h : (announce p es).outcome = .ok (.ok es')) : (Printed.line (notice p es)).outcome = .ok () := by
  unfold announce at h
  dsimp only at h
  split at h
  · cases h
  · cases told : (Printed.line (notice p es)).outcome with
    | ok _ => rfl
    | error e => simp [bind, Printed.andThen, told] at h

/-- A name without brackets can be told. -/
theorem told_of_clear {p : Path} (es : List String) (h : Markup.Clear p.name.toList) :
    (Printed.line (notice p es)).outcome = .ok () := by
  have words : Markup.Clear
      ("Loaded " ++ es.length.repr ++ " expressions from " ++ p.name).toList := by
    simp only [String.toList_append]
    exact Markup.clear_append (Markup.clear_append
      (Markup.clear_append rfl (Markup.clear_repr _)) rfl) h
  have opening : "[" ++ Style.dim.tag ++ "]" ++ "Loaded " = "[dim]Loaded " := rfl
  have closing : "[/" ++ (Style.dim.tag ++ "]") = "[/dim]" := rfl
  rw [notice, ← opening, ← closing]
  simpa only [String.append_assoc] using Display.line_styled .dim words

end ReversePolish.Loader
