import ReversePolish.Proofs.File.Cache
import ReversePolish.Proofs.File.Lines
import ReversePolish.Proofs.Utf8

/-!
# What a file gives

A file gives the lines that it was made of, trimmed and in order, but for those of which nothing is
left and for comments: `Loader.load_lines`. How the lines are ended makes no difference, nor do more
or fewer blank lines and comments, anywhere. Only if the notice of the file cannot be printed, for a
tag in its name, nothing is given.
-/

namespace ReversePolish

/-- A file that holds a text. -/
def Entry.ofChars (cs : List Char) : Entry := .file (String.ofList cs).toUTF8.data.toList

namespace Loader

open Text

variable {l : Loader} {tree : FileTree} {s : String}

theorem read_ofChars (p : Path) (cs : List Char) : read p (.ofChars cs) =
    if expressionsIn cs = [] then .error (.noExpressions p) else .ok (expressionsIn cs) := by
  have decoded := Utf8.decode_toUTF8 (String.ofList cs)
  rw [String.toList_ofList] at decoded
  split
  · next blank =>
    rw [Entry.ofChars, read, decoded]
    dsimp only
    rw [blank]
  · next visible => exact read_file decoded visible

section

variable {cs : List Char} (legal : (l.locate s).hasNull = false)
  (fresh : l.cache.lookup (l.place s) = none)
  (found : tree.find l.current (l.locate s) = .ok (.ofChars cs))
include legal fresh found

theorem load_blank (blank : expressionsIn cs = []) :
    l.load tree s = (l, pure (.error (.noExpressions (l.locate s)))) := by
  have refused : read (l.locate s) (.ofChars cs) = .error (.noExpressions (l.locate s)) := by
    rw [read_ofChars, if_pos blank]
  simp only [load, loadWith, legal, fresh, found, refused, Bool.false_eq_true, if_false]

theorem load_visible (visible : expressionsIn cs ≠ []) : l.load tree s =
    ({ l with cache := (l.place s, expressionsIn cs) :: l.cache },
      announce (l.locate s) (expressionsIn cs)) := by
  refine loadWith_fresh legal fresh found ?_
  rw [read_ofChars, if_neg visible]

end

/-! ### Lines that count -/

theorem isExpression_iff {line : List Char} :
    isExpression line = true ↔ line ≠ [] ∧ line.head? ≠ some '#' := by
  simp [isExpression]

theorem expressionsIn_lines {ls : List (List Char)} {cs : List Char} (h : HoldsLines ls cs)
    (unbroken : ∀ line ∈ ls, Unbroken line) : expressionsIn cs =
      ((ls.map trim).filter fun line => line ≠ [] ∧ line.head? ≠ some '#').map String.ofList := by
  have same : isExpression = fun line => decide (line ≠ [] ∧ line.head? ≠ some '#') :=
    funext fun line => Bool.eq_iff_iff.2 (isExpression_iff.trans decide_eq_true_iff.symm)
  rw [expressionsIn_holds h unbroken, kept, same]

/-- A line that is blank, or a comment. -/
def Silent (line : List Char) : Prop := trim line = [] ∨ (trim line).head? = some '#'

theorem kept_silent {line : List Char} (h : Silent line) (ls : List (List Char)) :
    kept (line :: ls) = kept ls := by
  have dropped : ¬ isExpression (trim line) = true := by
    rw [isExpression_iff]
    rintro ⟨visible, other⟩
    exact h.elim visible other
  rw [kept, List.map_cons, List.filter_cons_of_neg dropped, kept]

/-- Lines that are the same but for blank ones and comments, on either side. -/
inductive Alike : List (List Char) → List (List Char) → Prop
  | nil : Alike [] []
  | both {ls ls'} (line) : Alike ls ls' → Alike (line :: ls) (line :: ls')
  | left {line ls ls'} : Silent line → Alike ls ls' → Alike (line :: ls) ls'
  | right {line ls ls'} : Silent line → Alike ls ls' → Alike ls (line :: ls')

theorem Alike.kept_eq {ls ls' : List (List Char)} (h : Alike ls ls') : kept ls = kept ls' := by
  induction h with
  | nil => rfl
  | both line _ ih => rw [kept_cons, ih, ← kept_cons]
  | left silent _ ih => rw [kept_silent silent, ih]
  | right silent _ ih => rw [kept_silent silent, ih]

theorem Alike.expressionsIn_eq {ls ls' : List (List Char)} {cs cs' : List Char} (h : Alike ls ls')
    (holds : HoldsLines ls cs) (unbroken : ∀ line ∈ ls, Unbroken line) (holds' : HoldsLines ls' cs')
    (unbroken' : ∀ line ∈ ls', Unbroken line) : expressionsIn cs = expressionsIn cs' := by
  rw [expressionsIn_holds holds unbroken, expressionsIn_holds holds' unbroken', h.kept_eq]

/-! ### Loads -/

theorem load_congr {tree' : FileTree} {cs cs' : List Char} (legal : (l.locate s).hasNull = false)
    (fresh : l.cache.lookup (l.place s) = none)
    (found : tree.find l.current (l.locate s) = .ok (.ofChars cs))
    (found' : tree'.find l.current (l.locate s) = .ok (.ofChars cs'))
    (same : expressionsIn cs = expressionsIn cs') : l.load tree s = l.load tree' s := by
  by_cases blank : expressionsIn cs = []
  · rw [load_blank legal fresh found blank, load_blank legal fresh found' (same ▸ blank)]
  · rw [load_visible legal fresh found blank, load_visible legal fresh found' (same ▸ blank), same]

/-- A file that has not been read yet gives its lines, trimmed and in order, without those of which
nothing is left and without comments. If there are none, this is said, and just then. Only a tag in the
name of the file can keep them from being given. The ends of the lines make no difference, nor do
blank lines and comments. -/
theorem load_lines {b : String} {ls : List (List Char)} {cs : List Char} (base : l.base = .ofText b)
    (legal : (l.locate s).hasNull = false)
    (fresh : l.cache.lookup (l.place s) = none)
    (unbroken : ∀ line ∈ ls, Unbroken line) (holds : HoldsLines ls cs)
    (found : tree.find l.current (l.locate s) = .ok (.ofChars cs)) :
    let p := l.locate s
    let es := ((ls.map trim).filter fun line => line ≠ [] ∧ line.head? ≠ some '#').map String.ofList
    (es ≠ [] → (l.load tree s).1 = { l with cache := (l.place s, es) :: l.cache } ∧
      ((l.load tree s).2.outcome = .ok (.ok es) ∨
        (l.load tree s).2 = pure (.error .untold) ∧ '[' ∈ p.name.toList)) ∧
    (es = [] → l.load tree s = (l, pure (.error (.noExpressions p)))) ∧
    ((l.load tree s).2.outcome = .ok (.error (.noExpressions p)) ↔ es = []) ∧
    ∀ ls' cs' tree', Alike ls ls' → (∀ line ∈ ls', Unbroken line) → HoldsLines ls' cs' →
      tree'.find l.current p = .ok (.ofChars cs') → l.load tree' s = l.load tree s := by
  intro p es
  have lines : expressionsIn cs = es := expressionsIn_lines holds unbroken
  have given : es ≠ [] → (l.load tree s).1 = { l with cache := (l.place s, es) :: l.cache } ∧
      ((l.load tree s).2.outcome = .ok (.ok es) ∨
        (l.load tree s).2 = pure (.error .untold) ∧ '[' ∈ p.name.toList) := by
    intro visible
    rw [load_visible legal fresh found (lines ▸ visible), lines]
    exact ⟨rfl, announce_outcome es (slash_not_mem_name base s)⟩
  have refused : es = [] → l.load tree s = (l, pure (.error (.noExpressions p))) := by
    intro blank
    exact load_blank legal fresh found (lines.trans blank)
  refine ⟨given, refused, ⟨fun none => ?_, fun blank => by rw [refused blank]; rfl⟩, ?_⟩
  · by_contra visible
    rcases (given visible).2 with told | ⟨untold, -⟩
    · cases told.symm.trans none
    · rw [untold] at none
      cases none
  · intro ls' cs' tree' alike unbroken' holds' found'
    exact (load_congr legal fresh found found'
      (alike.expressionsIn_eq holds unbroken holds' unbroken')).symm

/-- The return at the end of the first line and the feed of the blank one after it are read as one
end, and a line separator is white space. -/
theorem load_lines_mixed :
    let ls := ["A".toList, [], " # no".toList, "  b+\u2028".toList]
    let cs := "A\r\n # no\r  b+\u2028".toList
    let l := Loader.new ["w"] (.ofText "/")
    let tree : FileTree := ⟨[(["e.txt"], .ofChars cs)]⟩
    l.base = .ofText "/" ∧ (l.locate "e.txt").hasNull = false ∧
    l.cache.lookup (l.place "e.txt") = none ∧ (∀ line ∈ ls, Unbroken line) ∧
    HoldsLines ls cs ∧ tree.find l.current (l.locate "e.txt") = .ok (.ofChars cs) ∧
    (l.load tree "e.txt").2.outcome = .ok (.ok ["A", "b+"]) := by
  intro ls cs l tree
  have place : l.locate "e.txt" = ⟨.root, ["e.txt"]⟩ := by decide
  have legal : (l.locate "e.txt").hasNull = false := by
    rw [place]
    decide
  have fresh : l.cache.lookup (l.place "e.txt") = none := rfl
  have unbroken : ∀ line ∈ ls, Unbroken line := by
    simp only [ls, Unbroken, List.forall_mem_cons, List.not_mem_nil, false_imp_iff, implies_true,
      and_true]
    decide
  have ended : ['\n'] ∈ lineEnds ∧ ['\r'] ∈ lineEnds := by decide
  have holds : HoldsLines ls cs :=
    .line ended.2 (.line ended.1 (.line ended.2 (.last _)))
  have found : tree.find l.current (l.locate "e.txt") = .ok (.ofChars cs) := by
    rw [place]
    rfl
  refine ⟨rfl, legal, fresh, unbroken, holds, found, ?_⟩
  obtain ⟨-, told | ⟨-, bracket⟩⟩ :=
    (load_lines rfl legal fresh unbroken holds found).1 (by decide)
  · exact told
  · rw [place] at bracket
    exact absurd bracket (by decide)

/-- A color that lacks a number, in the name of a file, keeps its expressions from being given. -/
theorem load_lines_untold :
    ¬ ∀ (l : Loader) (b : String) (tree : FileTree) (s : String) (ls : List (List Char))
      (cs : List Char), l.base = .ofText b → (l.locate s).hasNull = false →
      l.cache.lookup (l.place s) = none → (∀ line ∈ ls, Unbroken line) →
      HoldsLines ls cs → tree.find l.current (l.locate s) = .ok (.ofChars cs) →
      let es := ((ls.map trim).filter fun line => line ≠ [] ∧ line.head? ≠ some '#').map
        String.ofList
      es ≠ [] → (l.load tree s).2.outcome = .ok (.ok es) := by
  intro always
  let tree : FileTree := ⟨[(["[rgb(,,)].txt"], .ofChars ['A', '\n'])]⟩
  have ended : ['\n'] ∈ lineEnds := by decide
  have holds : HoldsLines [['A']] ['A', '\n'] := .line ended .nil
  have unbroken : ∀ line ∈ [['A']], Unbroken line := by simp [Unbroken]
  have place : (Loader.new [] (.ofText "/")).locate "[rgb(,,)].txt" = ⟨.root, ["[rgb(,,)].txt"]⟩ := by
    decide
  have found : tree.find [] ((Loader.new [] (.ofText "/")).locate "[rgb(,,)].txt") =
      .ok (.ofChars ['A', '\n']) := by
    rw [place]
    rfl
  have given := always (Loader.new [] (.ofText "/")) "/" tree "[rgb(,,)].txt" [['A']] ['A', '\n'] rfl
    (by rw [place]; decide) rfl unbroken holds found (by decide)
  have refused : ((Loader.new [] (.ofText "/")).load tree "[rgb(,,)].txt").2.outcome =
      .ok (.error .untold) := by decide +kernel
  cases refused.symm.trans given

end Loader

end ReversePolish
