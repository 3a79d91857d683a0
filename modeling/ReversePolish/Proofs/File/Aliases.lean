import Mathlib.Data.List.Basic
import Mathlib.Logic.Relation
import ReversePolish.File.Loader
import ReversePolish.Proofs.Splitting

/-!
# Places and their names

What a path stands for is remembered under the place that it names. Many paths name one place, whether
or not there are files on their way: `key?_of_aliases`.
-/

namespace ReversePolish

namespace Path

theorem names_append_slash (x y : String) :
    (ofText (x ++ "/" ++ y)).names = (ofText x).names ++ (ofText y).names := by
  have parts : (x ++ "/" ++ y).toList = x.toList ++ '/' :: y.toList := by simp
  simp only [ofText, parts]
  rw [List.splitOnP_append_cons _ _ (by decide), List.map_append, List.filter_append]

theorem slash_not_mem_names {s name : String} (h : name ∈ (ofText s).names) : '/' ∉ name.toList := by
  obtain ⟨piece, present, rfl⟩ := List.mem_map.1 (List.mem_of_mem_filter h)
  rw [String.toList_ofList]
  intro slash
  exact absurd ((uncut_of_mem_splitOnP present).2 _ slash) (by decide)

/-- A text that holds no slash is one name, unless it is dropped. -/
theorem names_single {n : String} (h : '/' ∉ n.toList) (visible : n ≠ "" ∧ n ≠ ".") :
    (ofText n).names = [n] := by
  have other : ∀ c ∈ n.toList, (c == '/') = false := by
    intro c member
    rw [beq_eq_false_iff_ne]
    rintro rfl
    exact h member
  simp only [ofText, List.splitOnP_eq_singleton other, List.map_singleton, String.ofList_toList]
  simp [visible]

theorem isAbsolute_ofText (s : String) : (ofText s).isAbsolute = (s.toList.head? == some '/') := by
  unfold ofText isAbsolute originOf
  cases chars : s.toList with
  | nil => rfl
  | cons c cs =>
    by_cases slash : c = '/'
    · subst slash
      simp only [List.takeWhile_cons, beq_self_eq_true, if_true, List.length_cons, List.head?_cons]
      split
      · omega
      · rfl
      · rfl
    · simp [slash]

theorem isAbsolute_append_slash (x y : String) :
    (ofText (x ++ "/" ++ y)).isAbsolute = ((x ++ "/").toList.head? == some '/') := by
  rw [isAbsolute_ofText, String.toList_append]
  cases chars : (x ++ "/").toList with
  | nil => simp at chars
  | cons c cs => rfl

theorem names_under (base p : Path) :
    (base.under p).names = (if p.isAbsolute then [] else base.names) ++ p.names := by
  unfold under
  split <;> simp_all

theorem isAbsolute_under (base p : Path) :
    (base.under p).isAbsolute = (p.isAbsolute || base.isAbsolute) := by
  unfold under
  split
  · next absolute => simp [absolute]
  · next relative =>
    rw [eq_false_of_ne_true relative, Bool.false_or]
    rfl

/-- A name and the way back from it lead nowhere. -/
theorem resolved_up {current : List String} {p q : Path} {before after : List String} {n : String}
    (h : n ≠ up) (there : p.names = before ++ n :: up :: after)
    (direct : q.names = before ++ after) (same : p.isAbsolute = q.isAbsolute) :
    p.resolved current = q.resolved current := by
  simp [resolved, start, next, there, direct, same, List.foldl_append, h]

theorem hasNull_up {p q : Path} {before after : List String} {n : String} (h : '\x00' ∉ n.toList)
    (there : p.names = before ++ n :: up :: after) (direct : q.names = before ++ after) :
    p.hasNull = q.hasNull := by
  have name : n.toList.contains '\x00' = false := by simpa using h
  have back : up.toList.contains '\x00' = false := by decide
  simp only [hasNull, there, direct, List.any_append, List.any_cons, name, back, Bool.false_or]

end Path

namespace Loader

open ReversePolish.Path

/-- The place under which a loader remembers what a path gives, unless no file can have the path. -/
def key? (current : List String) (base : Path) (s : String) : Option (List String) :=
  let p := base.under (.ofText s)
  if p.hasNull then none else some (p.resolved current)

section

variable {current : List String} {base : Path} {s t : String}

theorem key?_congr (null : (base.under (.ofText s)).hasNull = (base.under (.ofText t)).hasNull)
    (place : (base.under (.ofText s)).resolved current = (base.under (.ofText t)).resolved current) :
    key? current base s = key? current base t := by
  rw [key?, null, place, key?]

theorem key?_of_names (h : (base.under (.ofText s)).names = (base.under (.ofText t)).names)
    (same : (base.under (.ofText s)).isAbsolute = (base.under (.ofText t)).isAbsolute) :
    key? current base s = key? current base t := by
  refine key?_congr ?_ ?_
  · rw [hasNull, h, hasNull]
  · rw [resolved, resolved, start, start, h, same]

end

variable (current : List String) (base : Path) (x y : String)

/-- The names in front of a text that comes after a slash. -/
def namesBefore : List String :=
  (if ((x ++ "/").toList.head? == some '/') = true then [] else base.names) ++ (ofText x).names

theorem names_after :
    (base.under (.ofText (x ++ "/" ++ y))).names = namesBefore base x ++ (ofText y).names := by
  rw [names_under, isAbsolute_append_slash, names_append_slash, namesBefore, List.append_assoc]

theorem isAbsolute_after (z : String) : (base.under (.ofText (x ++ "/" ++ y))).isAbsolute =
    (base.under (.ofText (x ++ "/" ++ z))).isAbsolute := by
  rw [isAbsolute_under, isAbsolute_under, isAbsolute_append_slash, isAbsolute_append_slash]

/-- What gives no name may stand between two slashes. -/
theorem key?_between {middle : String} (h : (ofText middle).names = []) :
    key? current base (x ++ "/" ++ (middle ++ "/" ++ y)) = key? current base (x ++ "/" ++ y) := by
  refine key?_of_names ?_ (isAbsolute_after base x _ y)
  rw [names_after, names_append_slash, h, names_after, List.nil_append]

theorem key?_slash : key? current base (x ++ "//" ++ y) = key? current base (x ++ "/" ++ y) := by
  have doubled : x ++ "//" ++ y = x ++ "/" ++ ("" ++ "/" ++ y) := by
    simp [← String.toList_inj]
  rw [doubled]
  exact key?_between current base x y rfl

theorem key?_dot : key? current base (x ++ "/./" ++ y) = key? current base (x ++ "/" ++ y) := by
  have dotted : x ++ "/./" ++ y = x ++ "/" ++ ("." ++ "/" ++ y) := by
    simp [← String.toList_inj]
  rw [dotted]
  exact key?_between current base x y rfl

/-- A name and the way back from it may stand between two slashes, whatever the files are. -/
theorem key?_up {n : String} (h : '/' ∉ n.toList) (h' : '\x00' ∉ n.toList)
    (name : n ∉ ["", ".", ".."]) :
    key? current base (x ++ "/" ++ n ++ "/../" ++ y) = key? current base (x ++ "/" ++ y) := by
  have back : x ++ "/" ++ n ++ "/../" ++ y = x ++ "/" ++ (n ++ "/" ++ (".." ++ "/" ++ y)) := by
    simp [← String.toList_inj]
  simp only [List.mem_cons, List.not_mem_nil, or_false, not_or] at name
  obtain ⟨full, visible, forth⟩ := name
  have there : (base.under (.ofText (x ++ "/" ++ (n ++ "/" ++ (".." ++ "/" ++ y))))).names =
      namesBefore base x ++ n :: up :: (ofText y).names := by
    rw [names_after, names_append_slash, names_append_slash, names_single h ⟨full, visible⟩]
    rfl
  have direct := names_after base x y
  rw [back]
  exact key?_congr (hasNull_up h' there direct)
    (resolved_up forth there direct (isAbsolute_after base x _ y))

/-- A place below the base may be named from the base or from the root. -/
theorem key?_absolute {b : String} (absolute : (ofText b).isAbsolute = true)
    (relative : (ofText x).isAbsolute = false) :
    key? current (ofText b) (b ++ "/" ++ x) = key? current (ofText b) x := by
  have front : ((b ++ "/").toList.head? == some '/') = true := by
    rw [isAbsolute_ofText] at absolute
    rw [String.toList_append, List.head?_append, eq_of_beq absolute]
    rfl
  apply key?_of_names
  · rw [names_after, namesBefore, if_pos front, names_under, relative, List.nil_append]
    rfl
  · rw [isAbsolute_under, isAbsolute_under, absolute, Bool.or_true, Bool.or_true]

/-- Two paths of one place, for a loader with the base `b`. -/
inductive Alias (b : String) : String → String → Prop
  | slash (x y : String) : Alias b (x ++ "//" ++ y) (x ++ "/" ++ y)
  | dot (x y : String) : Alias b (x ++ "/./" ++ y) (x ++ "/" ++ y)
  | up (x y : String) {n : String} : '/' ∉ n.toList → '\x00' ∉ n.toList → n ∉ ["", ".", ".."] →
      Alias b (x ++ "/" ++ n ++ "/../" ++ y) (x ++ "/" ++ y)
  | absolute {x : String} : (ofText b).isAbsolute = true → (ofText x).isAbsolute = false →
      Alias b (b ++ "/" ++ x) x

theorem key?_of_aliases {current : List String} {b s t : String}
    (h : Relation.EqvGen (Alias b) s t) : key? current (ofText b) s = key? current (ofText b) t := by
  induction h with
  | rel s t h =>
    cases h with
    | slash x y => exact key?_slash _ _ x y
    | dot x y => exact key?_dot _ _ x y
    | up x y single legal name => exact key?_up _ _ x y single legal name
    | absolute absolute relative => exact key?_absolute _ t absolute relative
  | refl _ => rfl
  | symm _ _ _ ih => exact ih.symm
  | trans _ _ _ _ _ ih ih' => exact ih.trans ih'

end Loader

end ReversePolish
