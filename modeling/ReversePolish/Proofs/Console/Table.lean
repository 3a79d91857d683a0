import Mathlib.Data.List.Forall2
import ReversePolish.Console.Table
import ReversePolish.Proofs.Fitting

/-!
# What tables show

A table shows its rows in their order, each on lines of its own: `layout_lays`. What stands there is
told by `IsRow`, without a word of how it is laid out. Side by side, between bars, are the lines of the
cells, and they hold the text of the cell. A text is broken or cut only where it is wider than its
column, and one of a single line that holds no tab never is, `IsRow.line_of_plain`.
-/

namespace ReversePolish

theorem forall₂_trans {α β γ : Type} {r : α → β → Prop} {s : β → γ → Prop} {t : α → γ → Prop}
    (h : ∀ a b c, r a b → s b c → t a c) {as : List α} {bs : List β} {cs : List γ}
    (first : List.Forall₂ r as bs) (second : List.Forall₂ s bs cs) : List.Forall₂ t as cs := by
  induction first generalizing cs with
  | nil => cases second; exact .nil
  | cons related _ ih =>
    cases second with
    | cons related' rest => exact .cons (h _ _ _ related related') (ih rest)

theorem exists_of_forall₂ {α β : Type} {r : α → β → Prop} {as : List α} {bs : List β}
    (h : List.Forall₂ r as bs) {a : α} (member : a ∈ as) : ∃ b ∈ bs, r a b := by
  induction h with
  | nil => exact absurd member List.not_mem_nil
  | cons first _ ih =>
    rcases List.mem_cons.1 member with rfl | later
    · exact ⟨_, List.mem_cons_self, first⟩
    · obtain ⟨b, present, related⟩ := ih later
      exact ⟨b, List.mem_cons_of_mem _ present, related⟩

namespace Table

open Text

/-! ### Places -/

/-- A part of a line in its place: but for white space at its end it is shown as it is, or it is too
wide and shown as far as there is room, with an ellipsis for the rest. -/
inductive Placed (alignment : Alignment) (room : Nat) (part : List Char) : List Char → Prop
  | whole {kept spaces : List Char} {m n : Nat} :
      part = kept ++ spaces → (∀ c ∈ spaces, isSpace c = true) → (alignment = .left → m = 0) →
      Placed alignment room part (blanks m ++ kept ++ blanks n)
  | cut {front : List Char} {k m n : Nat} :
      room < width part → front <+: part → (alignment = .left → m = 0) →
      Placed alignment room part (blanks m ++ (front ++ blanks k ++ ['…']) ++ blanks n)

theorem fit_eq (o : Overflow) (alignment : Alignment) (room : Nat) (l : List Char) :
    ∃ m n, (alignment = .left → m = 0) ∧ fit o alignment room l =
      blanks m ++ limitWidth o room (if alignment = .left then l else trimEnd l) ++ blanks n := by
  cases alignment with
  | left => exact ⟨0, _, fun _ => rfl, rfl⟩
  | right =>
    refine ⟨room - width (limitWidth o room (trimEnd l)), 0, by simp, ?_⟩
    show _ = _ ++ []
    rw [List.append_nil]
    rfl
  | centre => exact ⟨_, _, by simp, rfl⟩

theorem placed_fit (alignment : Alignment) (room : Nat) (part : List Char) :
    Placed alignment room part (fit .ellipsis alignment room (trimBeyond room part)) := by
  obtain ⟨m, n, left, fitted⟩ := fit_eq .ellipsis alignment room (trimBeyond room part)
  rw [fitted]
  obtain ⟨spaces, same, blank⟩ : ∃ spaces, part =
      (if alignment = .left then trimBeyond room part else trimEnd (trimBeyond room part)) ++ spaces ∧
        ∀ c ∈ spaces, isSpace c = true := by
    obtain ⟨beyond, whole, blank⟩ := exists_trimBeyond room part
    split
    · exact ⟨beyond, whole, blank⟩
    · obtain ⟨before, trimmed, blank'⟩ := exists_trimEnd (trimBeyond room part)
      refine ⟨before ++ beyond, ?_, fun c member => ?_⟩
      · rw [← List.append_assoc, ← trimmed, ← whole]
      · exact (List.mem_append.1 member).elim (blank' c) (blank c)
  generalize (if alignment = .left then trimBeyond room part
    else trimEnd (trimBeyond room part)) = kept at same ⊢
  have begins : kept <+: part := ⟨spaces, same.symm⟩
  rcases shorten_cases room kept with ⟨-, short⟩ | ⟨wide, front, k, begins', short⟩
  · rw [limitWidth, short]
    exact .whole same blank left
  · rw [limitWidth, short]
    exact .cut (Nat.lt_of_lt_of_le wide (width_prefix_le begins)) (begins'.trans begins) left

theorem blanks_append (m n : Nat) : blanks m ++ blanks n = blanks (m + n) :=
  List.replicate_append_replicate

theorem Placed.pad {alignment : Alignment} {room : Nat} {part l : List Char}
    (h : Placed alignment room part l) (width : Nat) : Placed alignment room part (pad width l) := by
  cases h with
  | whole same blank left =>
    rw [Table.pad, List.append_assoc _ (blanks _), blanks_append]
    exact .whole same blank left
  | cut wide begins left =>
    rw [Table.pad, List.append_assoc _ (blanks _), blanks_append]
    exact .cut wide begins left

/-! ### Cells -/

/-- A line as it is broken: into parts that make it up, and not at all if there is room for it. -/
structure Breaks (room : Nat) (line : List Char) (parts : List (List Char)) : Prop where
  whole : parts.flatten = line
  fits : width line ≤ room → parts = [line]

/-- A text that has been laid out in a column of some width, and the lines that show it. -/
structure Laid where
  column : Column
  room : Nat
  text : String
  lines : List (List Char)

/-- The lines show the text, line by line. -/
def Laid.Shows (c : Laid) : Prop :=
  ∃ parts, List.Forall₂ (Breaks c.room) ((Table.lines c.text.toList).map expandTabs) parts ∧
    List.Forall₂ (Placed c.column.alignment c.room) parts.flatten c.lines

/-- What stands on a line of the row; a text of fewer lines leaves its place empty. -/
def Laid.at (c : Laid) (i : Nat) : List Char := c.lines[i]?.getD (blanks c.room)

theorem breaks_wrap (wraps : Bool) (room : Nat) (line : List Char) :
    Breaks room line (if wraps then wrap .ellipsis room line else [line]) := by
  cases wraps with
  | true => exact ⟨flatten_wrap room line, wrap_fitting .ellipsis⟩
  | false => exact ⟨by simp, fun _ => rfl⟩

theorem shows_cellLines (column : Column) (room : Nat) (cell : Cell) :
    Laid.Shows ⟨column, room, cell.text, cellLines column room cell⟩ := by
  let parts := fun l => if column.wraps then wrap .ellipsis room l else [l]
  let expanded := (lines cell.text.toList).map expandTabs
  have placed : place .ellipsis column.wraps column.alignment room cell.text =
      (expanded.map parts).flatten.map fun part =>
        fit .ellipsis column.alignment room (trimBeyond room part) := by
    rw [place, List.map_flatten, List.map_map, ← List.flatMap_def, List.flatMap_map]
    rfl
  refine ⟨expanded.map parts, ?_, ?_⟩
  · rw [List.forall₂_map_right_iff, List.forall₂_same]
    exact fun line _ => breaks_wrap column.wraps room line
  · show List.Forall₂ _ _ (cellLines column room cell)
    rw [cellLines, placed]
    split
    · rw [List.forall₂_map_right_iff, List.forall₂_same]
      exact fun part _ => placed_fit column.alignment room part
    · rw [List.map_map, List.forall₂_map_right_iff, List.forall₂_same]
      exact fun part _ => (placed_fit column.alignment room part).pad room

/-! ### Rows -/

/-- Places side by side between bars, with a space at either side of each. -/
def barred (bar : Char) (places : List (List Char)) : List Char :=
  bar :: [bar].intercalate (places.map fun place => ' ' :: place ++ [' ']) ++ [bar]

/-- The lines of a row of texts, in columns of these widths: as many as the longest text needs, each
of which holds in its columns what the texts have on it. -/
inductive IsRow (bar : Char) (shape : List (Column × Nat)) (texts : List String) :
    List (List Char) → Prop
  | mk {cells : List Laid} : cells.map (fun c => (c.column, c.room)) = shape →
      cells.map Laid.text = texts → (∀ c ∈ cells, widest c.text ≤ c.room ∧ c.Shows) →
      IsRow bar shape texts
        ((List.range ((cells.map (·.lines.length)).foldl max 0)).map fun i =>
          barred bar (cells.map (·.at i)))

theorem isRow_rowLines (bar : Char) {shape : List (Column × Nat)} {cells : List Cell}
    (room : List.Forall₂ (fun slot cell => widest cell.text ≤ slot.2) shape cells) :
    IsRow bar shape (cells.map Cell.text) (rowLines bar shape cells) := by
  obtain ⟨even, rooms⟩ := List.forall₂_iff_zip.1 room
  let laid (p : (Column × Nat) × Cell) : Laid :=
    ⟨p.1.1, p.1.2, p.2.text, cellLines p.1.1 p.1.2 p.2⟩
  have slots : ((shape.zip cells).map laid).map (fun c => (c.column, c.room)) = shape := by
    rw [List.map_map]
    exact List.map_fst_zip (Nat.le_of_eq even)
  have texts : ((shape.zip cells).map laid).map Laid.text = cells.map Cell.text := by
    have seconds : (shape.zip cells).map Prod.snd = cells := List.map_snd_zip (Nat.le_of_eq even.symm)
    conv_rhs => rw [← seconds]
    rw [List.map_map, List.map_map]
    rfl
  have sound : ∀ c ∈ (shape.zip cells).map laid, widest c.text ≤ c.room ∧ c.Shows := by
    intro c member
    obtain ⟨⟨slot, cell⟩, present, rfl⟩ := List.mem_map.1 member
    exact ⟨rooms present, shows_cellLines _ _ _⟩
  have row : IsRow bar shape (cells.map Cell.text) _ := .mk slots texts sound
  have same : rowLines bar shape cells =
      (List.range ((((shape.zip cells).map laid).map (·.lines.length)).foldl max 0)).map fun i =>
        barred bar (((shape.zip cells).map laid).map (·.at i)) := by
    simp only [rowLines, barred, List.map_map]
    rfl
  rwa [same]

/-! ### Plain texts -/

/-- A text of one line that is shown as it is where there is room for it. -/
structure Plain (s : String) : Prop where
  uncut : ∀ c ∈ s.toList, c ≠ '\t' ∧ separatesLines c = false
  trimmed : trimEnd s.toList = s.toList

theorem plain_of_all {s : String}
    (uncut : (s.toList.all fun c => c != '\t' && !separatesLines c) = true)
    (trimmed : trimEnd s.toList = s.toList) : Plain s := by
  refine ⟨fun c member => ?_, trimmed⟩
  simpa using List.all_eq_true.1 uncut c member

section

variable {s : String} (plain : Plain s)
include plain

theorem Plain.lines_eq : lines s.toList = [s.toList] := by
  refine List.splitOnP_eq_singleton fun c member => ?_
  rw [beq_eq_false_iff_ne]
  rintro rfl
  exact absurd (plain.uncut _ member).2 (by decide)

theorem Plain.widest_eq : widest s = width s.toList := by
  rw [widest, List.splitOnP_eq_singleton fun c member => (plain.uncut c member).2]
  exact Nat.zero_max _

theorem Plain.expandTabs_eq : expandTabs s.toList = s.toList :=
  expandTabs_eq_self fun tab => (plain.uncut _ tab).1 rfl

theorem Plain.spaces_eq_nil {kept spaces : List Char} (same : s.toList = kept ++ spaces)
    (blank : ∀ c ∈ spaces, isSpace c = true) : spaces = [] := by
  have short : trimEnd s.toList = trimEnd kept := by
    have ended : ∀ c ∈ spaces.reverse, isSpace c = true := fun c member =>
      blank c (List.mem_reverse.1 member)
    rw [trimEnd, trimEnd, same, List.reverse_append, List.dropWhile_append_of_pos ended]
  have bound := (trimEnd_front kept).length_le
  rw [← short, plain.trimmed, same, List.length_append] at bound
  exact List.length_eq_zero_iff.1 (by omega)

/-- A text that is narrow enough is on one line, with spaces around it. -/
theorem place_fitting (o : Overflow) (wraps : Bool) (alignment : Alignment) {room : Nat}
    (fits : width s.toList ≤ room) :
    ∃ m n, place o wraps alignment room s = [blanks m ++ s.toList ++ blanks n] := by
  have unbroken : (if wraps then wrap o room s.toList else [s.toList]) = [s.toList] := by
    rw [wrap_fitting o fits, ite_self]
  have untrimmed : trimBeyond room s.toList = s.toList := by
    rw [trimBeyond, plain.trimmed]
    exact List.take_of_length_le (Nat.le_max_right ..)
  have uncut : limitWidth o room s.toList = s.toList := by
    cases o with
    | fold => exact if_pos fits
    | ellipsis => exact if_pos fits
  obtain ⟨m, n, -, fitted⟩ := fit_eq o alignment room s.toList
  rw [plain.trimmed, ite_self, uncut] at fitted
  refine ⟨m, n, ?_⟩
  rw [place, plain.lines_eq, List.flatMap_singleton]
  dsimp only
  rw [plain.expandTabs_eq, unbroken, List.map_singleton, untrimmed, fitted]

end

theorem Laid.lines_of_plain {c : Laid} (shows : c.Shows) (plain : Plain c.text)
    (left : c.column.alignment = .left) (room : widest c.text ≤ c.room) :
    ∃ n, c.lines = [c.text.toList ++ blanks n] := by
  obtain ⟨parts, breaks, placed⟩ := shows
  rw [plain.lines_eq, List.map_singleton, plain.expandTabs_eq] at breaks
  rw [plain.widest_eq] at room
  generalize c.lines = ls at placed ⊢
  cases breaks with
  | cons first rest =>
    cases rest
    rw [first.fits room, List.flatten_singleton] at placed
    cases placed with
    | cons part others =>
      cases others
      cases part with
      | @whole kept spaces m n same blank indent =>
        obtain rfl := indent left
        obtain rfl := plain.spaces_eq_nil same blank
        rw [List.append_nil] at same
        rw [same]
        exact ⟨n, rfl⟩
      | cut wide => exact absurd room (Nat.not_le.2 wide)

theorem foldl_max_ones (n : Nat) : (List.replicate (n + 1) 1).foldl max 0 = 1 := by
  induction n with
  | zero => rfl
  | succ n ih => rw [List.replicate_succ', List.foldl_append, ih]; rfl

/-- Plain texts are on one line, each with spaces after it. -/
theorem IsRow.line_of_plain {bar : Char} {shape : List (Column × Nat)} {texts : List String}
    {block : List (List Char)} (h : IsRow bar shape texts block) (some : texts ≠ [])
    (left : ∀ slot ∈ shape, slot.1.alignment = .left) (plain : ∀ s ∈ texts, Plain s) :
    ∃ places, List.Forall₂ (fun s place => ∃ n, place = s.toList ++ blanks n) texts places ∧
      block = [barred bar places] := by
  cases h with
  | @mk cells slots names sound =>
    subst slots names
    have single : ∀ c ∈ cells, ∃ n, c.lines = [c.text.toList ++ blanks n] := by
      intro c member
      obtain ⟨room, shows⟩ := sound c member
      exact c.lines_of_plain shows (plain _ (List.mem_map_of_mem member))
        (left _ (List.mem_map_of_mem member)) room
    have heights : cells.map (·.lines.length) = List.replicate cells.length 1 := by
      refine List.eq_replicate_iff.2 ⟨List.length_map .., ?_⟩
      intro height member
      obtain ⟨c, present, rfl⟩ := List.mem_map.1 member
      obtain ⟨n, line⟩ := single c present
      rw [line]
      rfl
    refine ⟨cells.map (·.at 0), ?_, ?_⟩
    · rw [List.forall₂_map_left_iff, List.forall₂_map_right_iff, List.forall₂_same]
      intro c member
      obtain ⟨n, line⟩ := single c member
      exact ⟨n, by rw [Laid.at, line]; rfl⟩
    · cases cells with
      | nil => exact absurd rfl some
      | cons c cells =>
        rw [heights, List.length_cons, foldl_max_ones]
        rfl

/-! ### Widths of columns -/

theorem widths_le_trans {as bs cs : List Nat} (h : List.Forall₂ (· ≤ ·) as bs)
    (h' : List.Forall₂ (· ≤ ·) bs cs) : List.Forall₂ (· ≤ ·) as cs := by
  refine forall₂_trans ?_ h h'
  exact fun _ _ _ => Nat.le_trans

theorem zipWith_max_le {as bs : List Nat} (even : as.length = bs.length) :
    List.Forall₂ (· ≤ ·) as (List.zipWith max as bs) ∧
      List.Forall₂ (· ≤ ·) bs (List.zipWith max as bs) := by
  induction as generalizing bs with
  | nil =>
    obtain rfl := List.length_eq_zero_iff.1 even.symm
    exact ⟨.nil, .nil⟩
  | cons a as ih =>
    cases bs with
    | nil => cases even
    | cons b bs =>
      obtain ⟨left, right⟩ := ih (Nat.succ.inj even)
      exact ⟨.cons (Nat.le_max_left a b) left, .cons (Nat.le_max_right a b) right⟩

/-- A column never gets narrower, and has room for all the cells that it is measured by. -/
theorem widest_le_foldl {start : List Nat} {rows : List (List Cell)}
    (even : ∀ row ∈ rows, row.length = start.length) :
    let ws := rows.foldl (fun ws row => List.zipWith max ws (row.map (widest ·.text))) start
    List.Forall₂ (· ≤ ·) start ws ∧
      ∀ row ∈ rows, List.Forall₂ (fun w cell => widest cell.text ≤ w) ws row := by
  induction rows generalizing start with
  | nil => exact ⟨List.forall₂_same.2 fun w _ => Nat.le_refl w, by simp⟩
  | cons row rows ih =>
    obtain ⟨size, sizes⟩ := List.forall_mem_cons.1 even
    have paired : start.length = (row.map (widest ·.text)).length := by rw [List.length_map, size]
    obtain ⟨grown, measured⟩ := zipWith_max_le paired
    have longer : ∀ row' ∈ rows,
        row'.length = (List.zipWith max start (row.map (widest ·.text))).length := by
      intro row' member
      rw [← grown.length_eq, sizes row' member]
    obtain ⟨kept, rest⟩ := ih longer
    have whole := widths_le_trans measured kept
    rw [List.forall₂_map_left_iff] at whole
    exact ⟨widths_le_trans grown kept, List.forall_mem_cons.2 ⟨whole.flip, rest⟩⟩

theorem widest_le_widths {columns : List Column} {rows : List (List Cell)}
    (even : ∀ row ∈ rows, row.length = columns.length) :
    List.Forall₂ (fun column w => widest column.header ≤ w) columns (widths columns rows) ∧
      ∀ row ∈ rows, List.Forall₂ (fun w cell => widest cell.text ≤ w) (widths columns rows) row := by
  obtain ⟨headers, cells⟩ :=
    @widest_le_foldl (columns.map (widest ·.header)) rows (by simpa using even)
  rw [List.forall₂_map_left_iff] at headers
  exact ⟨headers, cells⟩

theorem forall₂_zip_left {α β γ : Type} {r : β → γ → Prop} {as : List α} {bs : List β} {cs : List γ}
    (even : as.length = bs.length) (h : List.Forall₂ r bs cs) :
    List.Forall₂ (fun (slot : α × β) c => r slot.2 c) (as.zip bs) cs := by
  have seconds : (as.zip bs).map Prod.snd = bs := List.map_snd_zip (Nat.le_of_eq even.symm)
  rw [← seconds, List.forall₂_map_left_iff] at h
  exact h

/-! ### Tables -/

/-- Lines as they are printed. -/
def printed (ls : List (List Char)) : String := String.ofList (ls.flatMap (· ++ ['\n']))

/-- The text of a table: below its name the names of its columns and then its rows, in their order. -/
inductive Lays (name : List (List Char)) (columns : List Column) (rows : List (List String)) :
    String → Prop
  | mk {shape : List (Column × Nat)} {header : List (List Char)} {blocks : List (List (List Char))} :
      shape.map Prod.fst = columns → IsRow '┃' shape (columns.map Column.header) header →
      List.Forall₂ (IsRow '│' shape) rows blocks →
      Lays name columns rows (printed (name ++ [rule '┏' '┳' '┓' '━' (shape.map Prod.snd)] ++ header ++
        [rule '┡' '╇' '┩' '━' (shape.map Prod.snd)] ++ blocks.flatten ++
        [rule '└' '┴' '┘' '─' (shape.map Prod.snd)]))

/-- The columns that a frame takes, with all that is in it. -/
def total (ws : List Nat) : Nat := ws.foldl (fun total width => total + width + 3) 1

theorem total_mono {as bs : List Nat} (h : List.Forall₂ (· ≤ ·) as bs) : total as ≤ total bs := by
  suffices general : ∀ m n, m ≤ n → as.foldl (fun total width => total + width + 3) m ≤
      bs.foldl (fun total width => total + width + 3) n from general 1 1 (Nat.le_refl 1)
  induction h with
  | nil => exact fun m n le => le
  | @cons a b _ _ le _ ih =>
    intro m n le'
    refine ih _ _ ?_
    show m + a + 3 ≤ n + b + 3
    omega

/-- A table shows all its rows, in their order, and its title has the width of the frame. -/
theorem layout_lays (title : Option String) {columns : List Column} {rows : List (List Cell)}
    (even : ∀ row ∈ rows, row.length = columns.length) :
    ∃ room, total (columns.map (widest ·.header)) ≤ room ∧
      Lays ((title.map (place .fold true .centre room)).getD []) columns
        (rows.map (·.map Cell.text)) (layout title columns rows) := by
  obtain ⟨headers, cells⟩ := widest_le_widths even
  have size := headers.length_eq
  refine ⟨total (widths columns rows), total_mono ?_, ?_⟩
  · rwa [List.forall₂_map_left_iff]
  have firsts : (columns.zip (widths columns rows)).map Prod.fst = columns :=
    List.map_fst_zip (Nat.le_of_eq size)
  have seconds : (columns.zip (widths columns rows)).map Prod.snd = widths columns rows :=
    List.map_snd_zip (Nat.le_of_eq size.symm)
  have names : List.Forall₂ (fun w cell => widest (Cell.text cell) ≤ w) (widths columns rows)
      (columns.map fun column => ⟨column.header, false⟩) := by
    rw [List.forall₂_map_right_iff]
    exact headers.flip
  have header := isRow_rowLines '┃' (forall₂_zip_left size names)
  have blocks : List.Forall₂ (IsRow '│' (columns.zip (widths columns rows)))
      (rows.map (·.map Cell.text))
      (rows.map (rowLines '│' (columns.zip (widths columns rows)))) := by
    rw [List.forall₂_map_left_iff, List.forall₂_map_right_iff, List.forall₂_same]
    exact fun row member => isRow_rowLines '│' (forall₂_zip_left size (cells row member))
  rw [List.map_map] at header
  have lays : Lays ((title.map (place .fold true .centre (total (widths columns rows)))).getD [])
      columns (rows.map (·.map Cell.text)) _ := .mk firsts header blocks
  rw [seconds, ← List.flatMap_def] at lays
  exact lays

example : layout (some "T") [⟨"A", .left, false⟩, ⟨"n", .right, true⟩]
    [[⟨"b", false⟩, ⟨"1", false⟩], [⟨"cd", true⟩, ⟨"10", true⟩]] =
    "     T     \n┏━━━━┳━━━━┓\n┃ A  ┃  n ┃\n┡━━━━╇━━━━┩\n│ b  │  1 │\n│ cd │ 10 │\n└────┴────┘\n" := by
  decide +kernel

theorem line_mem_printed {ls : List (List Char)} {l : List Char} (member : l ∈ ls) :
    l ++ ['\n'] <:+: (printed ls).toList := by
  obtain ⟨before, after, rfl⟩ := List.append_of_mem member
  refine ⟨before.flatMap (· ++ ['\n']), after.flatMap (· ++ ['\n']), ?_⟩
  rw [printed, String.toList_ofList, List.flatMap_append, List.flatMap_cons, List.append_assoc]

/-- A row of plain texts is on a line of the table. -/
theorem Lays.line_of_plain {name : List (List Char)} {columns : List Column}
    {rows : List (List String)} {text : String} (h : Lays name columns rows text)
    (left : ∀ column ∈ columns, column.alignment = .left) {row : List String} (member : row ∈ rows)
    (some : row ≠ []) (plain : ∀ s ∈ row, Plain s) :
    ∃ places, List.Forall₂ (fun s place => ∃ n, place = s.toList ++ blanks n) row places ∧
      barred '│' places ++ ['\n'] <:+: text.toList := by
  cases h with
  | @mk shape header blocks slots _ body =>
    subst slots
    obtain ⟨block, present, isRow⟩ := exists_of_forall₂ body member
    obtain ⟨places, shown, rfl⟩ :=
      isRow.line_of_plain some (fun slot slotted => left _ (List.mem_map_of_mem slotted)) plain
    have listed : barred '│' places ∈ blocks.flatten :=
      List.mem_flatten.2 ⟨_, present, List.mem_singleton_self _⟩
    refine ⟨places, shown, line_mem_printed ?_⟩
    simp only [List.mem_append, listed, or_true, true_or]

end Table

end ReversePolish
