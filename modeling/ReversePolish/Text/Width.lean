import ReversePolish.Text.Columns

/-!
# The width of text

How many columns a line takes, how it is cut where no more columns are left, and how its tabs are
filled up with spaces. A joiner makes one picture of the characters at its two sides, and a selector
asks for the picture of the character before it. `flatten_clusters` and `expandTabs_eq_self` tell
what is kept.
-/

namespace ReversePolish.Text

/-- Joins the characters at its two sides into one picture. -/
def joiner : Char := '\u200d'

/-- Asks for the picture of the character before it. -/
def selector : Char := '\ufe0f'

/-- The columns of a text after `last`, the last character that took any and has no selector. -/
def widthFrom (last : Option Char) : List Char → Nat
  | [] => 0
  | c :: cs =>
    if c = joiner then
      match cs with
      | [] => 0
      | _ :: cs => widthFrom last cs
    else if c = selector then (if last.any isPicture then 1 else 0) + widthFrom none cs
    else columns c + widthFrom (if columns c = 0 then last else some c) cs

def width (cs : List Char) : Nat := widthFrom none cs

/-! ### Clusters -/

/-- Characters that are shown in one place, and the columns of that place. -/
structure Cluster where
  chars : List Char
  columns : Nat
  deriving DecidableEq, Repr

/-- Clusters, the last one first, with characters added to the last one. -/
def addToLast (cs : List Char) (more : Nat) : List Cluster → List Cluster
  | [] => [⟨cs, more⟩]
  | k :: ks => ⟨k.chars ++ cs, k.columns + more⟩ :: ks

/-- The clusters of a text after those in `before`, the last one first, and after `last`, the last
character that took columns and has no selector. -/
def clustersFrom (before : List Cluster) (last : Option Char) : List Char → List Cluster
  | [] => before.reverse
  | c :: cs =>
    if c = joiner ∧ before ≠ [] then
      match cs with
      | [] => (addToLast [c] 0 before).reverse
      | d :: cs => clustersFrom (addToLast [c, d] 0 before) last cs
    else if c = selector ∧ last.any isPicture then clustersFrom (addToLast [c] 1 before) none cs
    else if columns c = 0 then clustersFrom (addToLast [c] 0 before) last cs
    else clustersFrom (⟨[c], columns c⟩ :: before) (some c) cs

def clusters (cs : List Char) : List Cluster := clustersFrom [] none cs

/-- The lines that clusters fill after `line`, which takes `used` columns. -/
def chopFrom (limit : Nat) (line : List Char) (used : Nat) : List Cluster → List (List Char)
  | [] => if used = 0 then [] else [line]
  | k :: ks =>
    if limit < used + k.columns then line :: chopFrom limit k.chars k.columns ks
    else chopFrom limit (line ++ k.chars) (used + k.columns) ks

def chop (limit : Nat) (cs : List Char) : List (List Char) := chopFrom limit [] 0 (clusters cs)

/-- The clusters that a limit leaves room for. Half a cluster becomes a space. -/
def cutClusters (limit : Nat) : List Cluster → List Char
  | [] => []
  | k :: ks =>
    if k.columns ≤ limit then k.chars ++ cutClusters (limit - k.columns) ks
    else List.replicate limit ' '

/-- A text no wider than a limit: one that is too wide ends in an ellipsis. -/
def shorten (limit : Nat) (cs : List Char) : List Char :=
  if width cs ≤ limit then cs else cutClusters (limit - 1) (clusters cs) ++ ['…']

/-! ### Tabs -/

/-- Fills up tabs to the next multiple of eight columns, after `part`, which begins at a column and
is kept last character first. A line begins at column zero. -/
def expandTabsFrom (column : Nat) (part : List Char) : List Char → List Char
  | [] => part.reverse
  | c :: cs =>
    if c = '\t' then
      let filled := part.reverse ++ [' ']
      let reached := column + width filled
      let gap := (8 - reached % 8) % 8
      filled ++ List.replicate gap ' ' ++ expandTabsFrom (reached + gap) [] cs
    else if c = '\n' then part.reverse ++ '\n' :: expandTabsFrom 0 [] cs
    else expandTabsFrom column (c :: part) cs

def expandTabs (cs : List Char) : List Char := expandTabsFrom 0 [] cs

theorem expandTabsFrom_eq {cs : List Char} (h : '\t' ∉ cs) (column : Nat) (part : List Char) :
    expandTabsFrom column part cs = part.reverse ++ cs := by
  induction cs generalizing column part with
  | nil => simp [expandTabsFrom]
  | cons c cs ih =>
    obtain ⟨head, tail⟩ := not_or.mp (mt List.mem_cons.mpr h)
    rw [expandTabsFrom, if_neg (Ne.symm head)]
    split
    · rename_i lineEnd
      rw [ih tail, lineEnd, List.reverse_nil, List.nil_append]
    · rw [ih tail, List.reverse_cons, List.append_assoc, List.singleton_append]

theorem expandTabs_eq_self {cs : List Char} (h : '\t' ∉ cs) : expandTabs cs = cs :=
  expandTabsFrom_eq h 0 []

/-! ### What clusters keep -/

theorem flatten_addToLast (cs : List Char) (more : Nat) (ks : List Cluster) :
    ((addToLast cs more ks).map Cluster.chars).reverse.flatten =
      (ks.map Cluster.chars).reverse.flatten ++ cs := by
  cases ks <;> simp [addToLast]

theorem flatten_clustersFrom (before : List Cluster) (last : Option Char) (cs : List Char) :
    ((clustersFrom before last cs).map Cluster.chars).flatten =
      (before.map Cluster.chars).reverse.flatten ++ cs := by
  fun_induction clustersFrom before last cs with
  | case1 => simp
  | case2 => simp [flatten_addToLast]
  | case3 _ _ _ _ _ _ ih => simp [ih, flatten_addToLast]
  | case4 _ _ _ _ _ _ ih => simp [ih, flatten_addToLast]
  | case5 _ _ _ _ _ _ _ ih => simp [ih, flatten_addToLast]
  | case6 _ _ _ _ _ _ _ ih => simp [ih]

/-- The clusters of a text are its characters in order. -/
theorem flatten_clusters (cs : List Char) : ((clusters cs).map Cluster.chars).flatten = cs := by
  simp [clusters, flatten_clustersFrom]

end ReversePolish.Text
