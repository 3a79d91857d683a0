import Mathlib.Data.List.DropRight
import ReversePolish.Proofs.File.Contents
import ReversePolish.Proofs.Program

/-!
# Expressions of a file, written again

What a file gives can be written to a file of its own, one on each line, and is given again:
`Scene.reloads`. Each of the expressions stands on its line as it is, trimmed and no comment, so
that nothing is dropped the second time. None of them is blank either, and the program makes as many
rows of them as are told of.
-/

namespace ReversePolish

namespace Text

/-! ### Trimmed lines -/

theorem trimEnd_trimEnd (cs : List Char) : trimEnd (trimEnd cs) = trimEnd cs :=
  List.rdropWhile_idempotent isSpace cs

theorem trim_trim (cs : List Char) : trim (trim cs) = trim cs := by
  have front : (trim cs).dropWhile isSpace = trim cs := by
    obtain ⟨rest, same⟩ := trimEnd_front (cs.dropWhile isSpace)
    cases kept : trim cs with
    | nil => rfl
    | cons c as =>
      -- trimming the end leaves the first character, which is no white space
      have whole : cs.dropWhile isSpace = c :: (as ++ rest) := by
        rw [← same]
        exact congrArg (· ++ rest) kept
      have first := List.head?_dropWhile_not isSpace cs
      rw [whole] at first
      exact List.dropWhile_cons_of_neg (by simpa using first)
  rw [trim, front]
  exact trimEnd_trimEnd _

theorem trim_subset (cs : List Char) : trim cs ⊆ cs := fun _ member =>
  (List.dropWhile_suffix isSpace).subset ((trimEnd_front _).subset member)

theorem unbroken_of_subset {as cs : List Char} (h : Unbroken cs) (part : as ⊆ cs) : Unbroken as :=
  ⟨fun feed => h.1 (part feed), fun ret => h.2 (part ret)⟩

theorem unbroken_of_mem_linesFrom {line cs : List Char} (h : Unbroken line) :
    ∀ l ∈ linesFrom line cs, Unbroken l := by
  have reversed {line : List Char} (h : Unbroken line) : Unbroken line.reverse :=
    unbroken_of_subset h (List.reverse_subset.2 fun _ => id)
  have blank : Unbroken [] := ⟨List.not_mem_nil, List.not_mem_nil⟩
  fun_induction linesFrom line cs with
  | case1 line => exact fun l member => List.mem_singleton.1 member ▸ reversed h
  | case2 line cs ih => exact List.forall_mem_cons.2 ⟨reversed h, ih blank⟩
  | case3 line c cs _ ends ih => exact List.forall_mem_cons.2 ⟨reversed h, ih blank⟩
  | case4 line c cs _ other ih =>
    rw [not_or] at other
    refine ih ⟨?_, ?_⟩
    · exact fun feed => (List.mem_cons.1 feed).elim (fun same => other.1 same.symm) h.1
    · exact fun ret => (List.mem_cons.1 ret).elim (fun same => other.2 same.symm) h.2

theorem holdsLines_join {texts : List String} (h : texts ≠ []) :
    HoldsLines (texts.map String.toList) ("\n".intercalate texts).toList := by
  induction texts with
  | nil => exact absurd rfl h
  | cons s texts ih =>
    by_cases more : texts = []
    · rw [more, String.intercalate_singleton]
      exact .last s.toList
    · have ended : ['\n'] ∈ lineEnds := by decide
      rw [String.intercalate_cons_of_ne_nil more, String.toList_append, String.toList_append]
      exact .line ended (ih more)

end Text

namespace Loader

open Text

theorem stands_of_mem_expressionsIn {cs : List Char} {s : String} (h : s ∈ expressionsIn cs) :
    Stands s := by
  obtain ⟨l, kept, rfl⟩ := List.mem_map.1 h
  obtain ⟨trimmed, visible⟩ := List.mem_filter.1 kept
  obtain ⟨line, present, rfl⟩ := List.mem_map.1 trimmed
  have whole : Unbroken line := by
    have blank : Unbroken [] := ⟨List.not_mem_nil, List.not_mem_nil⟩
    exact unbroken_of_mem_linesFrom blank line present
  constructor
  · rw [String.toList_ofList]
    exact unbroken_of_subset whole (trim_subset line)
  · rw [String.toList_ofList, trim_trim]
  · rwa [String.toList_ofList]

/-- The expressions of a text, one on each line, are the expressions of what they make. -/
theorem expressionsIn_join {cs : List Char} (visible : expressionsIn cs ≠ []) :
    expressionsIn ("\n".intercalate (expressionsIn cs)).toList = expressionsIn cs :=
  expressionsIn_stands (fun _ => stands_of_mem_expressionsIn) (holdsLines_join visible)

theorem announce_congr {p p' : Path} (h : p.name = p'.name) (es : List String) :
    announce p es = announce p' es := by
  have same : notice p es = notice p' es := by rw [notice, notice, h]
  rw [announce, announce, same]

end Loader

/-! ### The rows of a file -/

namespace Program

open Session

section

variable {o : Options} {path : Path} {current : List String} {base : Path} {tree : FileTree} {es : List String}
  (file : o.file = .path path)
  (given : ((Scene.start tree current base).answer path.toText).outcome = .ok (.ok es))
include file given

theorem gives_of_file : Gives (Scene.start tree current base).answer o.file es := by
  rw [file]
  exact given

theorem gather_of_file :
    (gather o (Scene.start tree current base).answer).outcome = .ok (.ok (o.expressions ++ es)) := by
  obtain ⟨⟨entry, -, held⟩, -⟩ := Scene.announced_of_given given
  obtain ⟨visible, -⟩ := Loader.expressionsIn_of_read held
  exact gather_busy (gives_of_file file given) fun idle =>
    visible (List.append_eq_nil_iff.1 idle.1).2

/-- What is told of the file comes first, then what is printed for each text. -/
theorem work_text_of_file (replies : List Reply) :
    ∃ rest, (work o (Scene.start tree current base).answer replies).text =
      ((Scene.start tree current base).answer path.toText).text ++
        String.join ((o.expressions ++ es).map fun e => (convert o.view e).text) ++ rest := by
  have gathered := gather_of_file file given
  obtain ⟨first, prepared⟩ := prepare_text gathered
  obtain ⟨second, worked⟩ := work_text (prepare_outcome gathered) replies
  refine ⟨first ++ second, ?_⟩
  rw [worked, prepared, gather_text file given, String.append_assoc]

theorem work_rows_of_file (lines : List String) :
    ∃ w, (work o (Scene.start tree current base).answer (lines.map .ofLine)).outcome = .ok w ∧
      w.rows = rowsOf o.expressions ++ rowsOf es ++
        rowsOf (if o.interactive then heeded lines else []) := by
  obtain ⟨_, w, -, worked, made, -⟩ := work_printed (gives_of_file file given) lines
  refine ⟨w, by rw [worked], ?_⟩
  rw [made, textsOf, rowsOf_append, rowsOf_append]

end

end Program

namespace Scene

open Loader Session Program

variable {files : FileTree} {current : List String} {b s : String} {es : List String}

theorem reload {base : Path} (given : ((start files current base).answer s).outcome = .ok (.ok es))
    {l : Loader} {tree : FileTree} {s' : String} (legal : (l.locate s').hasNull = false)
    (fresh : l.cache.lookup (l.place s') = none)
    (found : tree.find l.current (l.locate s') = .ok (.ofChars ("\n".intercalate es).toList)) :
    l.load tree s' =
      ({ l with cache := (l.place s', es) :: l.cache }, announce (l.locate s') es) := by
  obtain ⟨⟨entry, -, held⟩, -⟩ := announced_of_given given
  obtain ⟨visible, cs, rfl⟩ := expressionsIn_of_read held
  have again := expressionsIn_join visible
  rw [load_visible legal fresh found (again.symm ▸ visible), again]

theorem rows_of_given {base : Path} (given : ((start files current base).answer s).outcome = .ok (.ok es)) :
    (rowsOf es).map (fun row => (row.expression, some row.result)) = es.map fun e => (e, parse e) := by
  obtain ⟨⟨entry, -, held⟩, -⟩ := announced_of_given given
  have visible : es.filter (!Text.isBlank ·.toList) = es := by
    rw [List.filter_eq_self]
    exact fun e member => by rw [not_blank_of_read held e member, Bool.not_false]
  rw [map_rowsOf, visible]

/-- What a file gives is given again by any file that holds it line by line, unless a tag in another
name keeps it from being told. Its number is told, none of it is passed over as blank, and the program
makes a row of each, between those of the arguments and those of the answers. -/
theorem reloads (given : ((start files current (.ofText b)).answer s).outcome = .ok (.ok es)) :
    let load := (start files current (.ofText b)).answer
    (∀ (current' : List String) (b' : String) (tree : FileTree) (s' : String),
      let l := Loader.new current' (.ofText b')
      let p := l.locate s'
      p.hasNull = false → tree.find current' p = .ok (.ofChars ("\n".intercalate es).toList) →
        (l.load tree s').1 = { l with cache := [(l.place s', es)] } ∧
        ((l.load tree s').2.outcome = .ok (.ok es) ∨
          (l.load tree s').2 = pure (.error .untold) ∧ '[' ∈ p.name.toList ∧
            p.name ≠ ((Loader.new current (.ofText b)).locate s).name)) ∧
    (∃ rest, (load s).text = "Loaded " ++ es.length.repr ++ " expressions from " ++ rest) ∧
    (∀ e ∈ es, parse e ≠ none ∧ ∀ v, (convert v e).text ≠ "Skipping blank expression\n") ∧
    ∀ (o : Options) (path : Path), o.file = .path path → path.toText = s →
      ∃ rows : List Row, rows.length = es.length ∧
        rows.map (fun row => (row.expression, some row.result)) = es.map (fun e => (e, parse e)) ∧
        (prepare o load).outcome = .ok (some (rowsOf o.expressions ++ rows)) ∧
        (∀ replies, ∃ rest, (work o load replies).text = (load s).text ++
          String.join ((o.expressions ++ es).map fun e => (convert o.view e).text) ++ rest) ∧
        ∀ lines, ∃ w, (work o load (lines.map .ofLine)).outcome = .ok w ∧
          w.rows = rowsOf o.expressions ++ rows ++
            rowsOf (if o.interactive then heeded lines else []) := by
  intro load
  obtain ⟨⟨entry, found, held⟩, announced⟩ := announced_of_given given
  have told : (Printed.line (notice ((Loader.new current (.ofText b)).locate s) es)).outcome = .ok () :=
    told_of_announce (announced ▸ given)
  have nonblank := not_blank_of_read held
  refine ⟨?_, ?_, ?_, ?_⟩
  · intro current' b' tree s' l p legal found'
    rw [reload given legal rfl found']
    refine ⟨rfl, ?_⟩
    by_cases same : p.name = ((Loader.new current (.ofText b)).locate s).name
    · rw [announce_congr same]
      exact .inl (announce_told told)
    · exact (announce_outcome es (slash_not_mem_name rfl s')).imp_right fun untold =>
        ⟨untold.1, untold.2, same⟩
  · change ∃ rest, ((start files current (.ofText b)).answer s).text = _
    rw [announced]
    exact announce_text told
  · intro e member
    have parsed : parse e ≠ none := by
      rw [parse, if_neg (by simp [nonblank e member])]
      exact Option.some_ne_none _
    exact ⟨parsed, fun v same => parsed ((convert_text_iff v).1 same)⟩
  · rintro o path file rfl
    have rows := rows_of_given given
    refine ⟨rowsOf es, by simpa using congrArg List.length rows, rows, ?_,
      work_text_of_file file given, work_rows_of_file file given⟩
    rw [prepare_outcome (gather_of_file file given), rowsOf_append]

/-- A comment and white space are gone when what is left is written again. -/
theorem reloads_trimmed :
    let files := FileTree.empty.write [] (.ofText "/w/a.txt") [32, 65, 13, 10, 35, 10, 98, 32]
    let load := (start files ["w"] (.ofText "/w")).answer
    let tree : FileTree := ⟨[(["e.txt"], .ofChars "A\nb".toList)]⟩
    (load "a.txt").outcome = .ok (.ok ["A", "b"]) ∧
    ((Loader.new [] (.ofText "/")).load tree "e.txt").2.outcome = .ok (.ok ["A", "b"]) ∧
    ∃ rows : List Row, rows.map Row.expression = ["A", "b"] ∧
      (prepare ⟨["1"], .path ⟨.here, ["a.txt"]⟩, false, .plain⟩ load).outcome =
        .ok (some (rowsOf ["1"] ++ rows)) := by
  intro files load tree
  have given : (load "a.txt").outcome = .ok (.ok ["A", "b"]) := by decide +kernel
  have place : (Loader.new [] (.ofText "/")).locate "e.txt" = ⟨.root, ["e.txt"]⟩ := by decide
  have legal : ((Loader.new [] (.ofText "/")).locate "e.txt").hasNull = false := by
    rw [place]
    decide
  have found : tree.find [] ((Loader.new [] (.ofText "/")).locate "e.txt") =
      .ok (.ofChars ("\n".intercalate ["A", "b"]).toList) := by
    rw [place]
    rfl
  obtain ⟨again, -, -, works⟩ := reloads given
  obtain ⟨rows, -, pairs, prepared, -⟩ :=
    works ⟨["1"], .path ⟨.here, ["a.txt"]⟩, false, .plain⟩ ⟨.here, ["a.txt"]⟩ rfl (by decide)
  have expressions : rows.map Row.expression = ["A", "b"] := by
    simpa [Function.comp_def] using congrArg (List.map Prod.fst) pairs
  refine ⟨given, ?_, rows, expressions, prepared⟩
  rcases (again [] "/" tree "e.txt" legal found).2 with told | ⟨-, bracket, -⟩
  · exact told
  · rw [place] at bracket
    exact absurd bracket (by decide)

/-- A color that lacks a number, in the name of the second file, keeps the expressions from being given
again. -/
theorem reloads_untold :
    ¬ ∀ (files : FileTree) (current : List String) (b s : String) (es : List String),
      ((start files current (.ofText b)).answer s).outcome = .ok (.ok es) →
      ∀ (b' : String) (tree : FileTree) (s' : String),
        let l := Loader.new current (.ofText b')
        (l.locate s').hasNull = false →
        tree.find l.current (l.locate s') = .ok (.ofChars ("\n".intercalate es).toList) →
        (l.load tree s').2.outcome = .ok (.ok es) := by
  intro always
  let files := FileTree.empty.write [] (.ofText "/a.txt") [65, 10]
  let tree : FileTree := ⟨[(["[rgb(,,)].txt"], .ofChars ['A'])]⟩
  have given : ((start files [] (.ofText "/")).answer "a.txt").outcome = .ok (.ok ["A"]) := by
    decide +kernel
  have place : (Loader.new [] (.ofText "/")).locate "[rgb(,,)].txt" = ⟨.root, ["[rgb(,,)].txt"]⟩ := by
    decide
  have found : tree.find [] ((Loader.new [] (.ofText "/")).locate "[rgb(,,)].txt") =
      .ok (.ofChars ("\n".intercalate ["A"]).toList) := by
    rw [place, String.intercalate_singleton]
    rfl
  have again := always files [] "/" "a.txt" ["A"] given "/" tree "[rgb(,,)].txt"
    (by rw [place]; decide) found
  have refused : ((Loader.new [] (.ofText "/")).load tree "[rgb(,,)].txt").2.outcome =
      .ok (.error .untold) := by decide +kernel
  cases refused.symm.trans again

end Scene

end ReversePolish
