import ReversePolish.Proofs.File.Aliases
import ReversePolish.Proofs.File.Notice

/-!
# A loader while files change

Files are written and deleted between the loads of one loader. The files of a place are read once; what
they gave then is given ever after, and is told of once. A load that fails leaves the loader as it was,
with one exception: what is read is remembered before it is told of, and telling can fail.
-/

namespace ReversePolish

namespace Loader

theorem read_ne_untold (p : Path) (entry : Entry) : read p entry ≠ .error .untold := by
  intro h
  unfold read at h
  split at h
  · cases h
  · split at h
    · cases h
    · split at h <;> cases h

theorem slash_not_mem_name {l : Loader} {b : String} (base : l.base = .ofText b) (s : String) :
    '/' ∉ (l.locate s).name.toList := by
  unfold Path.name
  cases last : (l.locate s).names.getLast? with
  | none => decide
  | some name =>
    have member := List.mem_of_getLast? last
    rw [locate, Path.names_under, base] at member
    rcases List.mem_append.1 member with front | own
    · split at front
      · cases front
      · exact Path.slash_not_mem_names front
    · exact Path.slash_not_mem_names own

theorem announce_outcome {p : Path} (es : List String) (h : '/' ∉ p.name.toList) :
    (announce p es).outcome = .ok (.ok es) ∨
      announce p es = pure (.error .untold) ∧ '[' ∈ p.name.toList := by
  rcases notice_outcome es h with told | ⟨untold, bracket⟩
  · exact .inl (announce_told told)
  · refine .inr ⟨?_, bracket⟩
    rw [announce, untold]

theorem announce_given {p : Path} {es es' : List String}
    (h : (announce p es).outcome = .ok (.ok es')) : es' = es := by
  rw [announce_told (told_of_announce h)] at h
  cases h
  rfl

end Loader

/-- What is done to the files or asked of the loader. -/
inductive Act where
  | write (p : Path) (bytes : List UInt8)
  | makeDirectory (p : Path)
  | delete (p : Path)
  | load (s : String)
  deriving DecidableEq, Repr

structure Scene where
  files : FileTree
  loader : Loader
  deriving DecidableEq, Repr

namespace Scene

open Loader

/-- What a load gives at the moment. -/
def answer (c : Scene) (s : String) : Printed (Except LoadError (List String)) :=
  (c.loader.load c.files s).2

def after (c : Scene) : Act → Scene
  | .write p bytes => { c with files := c.files.write c.loader.current p bytes }
  | .makeDirectory p => { c with files := c.files.makeDirectory c.loader.current p }
  | .delete p => { c with files := c.files.delete c.loader.current p }
  | .load s => { c with loader := (c.loader.load c.files s).1 }

def run (c : Scene) (acts : List Act) : Scene := acts.foldl after c

def start (files : FileTree) (current : List String) (base : Path) : Scene :=
  ⟨files, .new current base⟩

def known? (c : Scene) (key : List String) : Option (List String) := c.loader.cache.lookup key

/-- What is found at the path that a text names. -/
def found (c : Scene) (s : String) : Except Obstacle Entry :=
  c.files.find c.loader.current (c.loader.locate s)

/-- The scene with the expressions of one more place in mind. -/
def keeping (c : Scene) (key es : List String) : Scene :=
  { c with loader := { c.loader with cache := (key, es) :: c.loader.cache } }

def place? (c : Scene) (s : String) : Option (List String) := key? c.loader.current c.loader.base s

/-- The expressions in the file that a path leads to at the moment. -/
def Holds (c : Scene) (s : String) (es : List String) : Prop :=
  ∃ entry, c.found s = .ok entry ∧ read (c.loader.locate s) entry = .ok es

def Unknown (c : Scene) (s : String) : Prop := ∀ key ∈ c.place? s, c.known? key = none

/-- What a load can do. -/
inductive Loads (c : Scene) (s : String) :
    Scene → Printed (Except LoadError (List String)) → Prop
  | refused {e} : c.Unknown s → e ≠ .untold → Loads c s c (pure (.error e))
  | blocked : c.Unknown s → c.found s = .error .nameTooLong →
      Loads c s c (Printed.ofExcept (.error (.nameTooLong (c.loader.locate s).toText)))
  | remembered {key es} : c.place? s = some key → c.known? key = some es → Loads c s c (pure (.ok es))
  | fresh {key es} : c.place? s = some key → c.known? key = none → c.Holds s es →
      Loads c s (c.keeping key es) (announce (c.loader.locate s) es)

variable {c : Scene} {s : String} {key es : List String}

theorem unknown_of_place (place : c.place? s = some key) (h : c.known? key = none) : c.Unknown s := by
  intro key' place'
  rw [Option.mem_def, place] at place'
  cases place'
  exact h

theorem loads (c : Scene) (s : String) : Loads c s (c.after (.load s)) (c.answer s) := by
  change Loads c s
    { c with loader := (c.loader.loadWith (c.files.find c.loader.current) s).1 }
    (c.loader.loadWith (c.files.find c.loader.current) s).2
  by_cases null : (c.loader.locate s).hasNull = true
  · have nowhere : c.place? s = none := if_pos null
    rw [loadWith, if_pos null]
    exact .refused (by simp [Unknown, nowhere]) (by decide)
  · have place : c.place? s = some (c.loader.place s) := if_neg null
    rw [loadWith, if_neg null]
    cases known : c.known? (c.loader.place s) with
    | some es =>
      rw [known?] at known
      rw [known]
      exact .remembered place known
    | none =>
      have unknown := unknown_of_place place known
      rw [known?] at known
      rw [known]
      dsimp only
      cases found : c.files.find c.loader.current (c.loader.locate s) with
      | error obstacle =>
        cases obstacle with
        | missing => exact .refused unknown (by simp)
        | nameTooLong => exact .blocked unknown found
      | ok entry =>
        dsimp only
        cases given : read (c.loader.locate s) entry with
        | error e => exact .refused unknown fun untold => read_ne_untold _ _ (untold ▸ given)
        | ok es => exact .fresh place known ⟨entry, found, given⟩

/-! ### One act -/

theorem known?_keeping : (c.keeping key es).known? key = some es := by
  simp [keeping, known?]

theorem known?_keeping_of_ne {key' : List String} (h : key' ≠ key) :
    (c.keeping key es).known? key' = c.known? key' := by
  simp [keeping, known?, List.lookup_cons, beq_false_of_ne h]

theorem after_base (c : Scene) (a : Act) : (c.after a).loader.current = c.loader.current ∧
    (c.after a).loader.base = c.loader.base := by
  cases a with
  | load s =>
    have h := loads c s
    generalize c.after (.load s) = c', c.answer s = told at h ⊢
    cases h <;> exact ⟨rfl, rfl⟩
  | _ => exact ⟨rfl, rfl⟩

/-- What is known stays known, and only a load that finds its file adds to it. -/
theorem known?_after (c : Scene) (a : Act) (key : List String) :
    (c.after a).known? key = c.known? key ∨
      ∃ s es, a = .load s ∧ c.place? s = some key ∧ c.known? key = none ∧ c.Holds s es ∧
        (c.after a).known? key = some es := by
  cases a with
  | load s =>
    have h := loads c s
    generalize c.after (.load s) = c', c.answer s = told at h ⊢
    cases h with
    | @fresh place es lies unknown holds =>
      by_cases same : key = place
      · subst same
        exact .inr ⟨s, es, rfl, lies, unknown, holds, known?_keeping⟩
      · exact .inl (known?_keeping_of_ne same)
    | _ => exact .inl rfl
  | _ => exact .inl rfl

theorem known?_after_of_known (a : Act) (h : c.known? key = some es) :
    (c.after a).known? key = some es := by
  rcases known?_after c a key with same | ⟨_, _, -, -, unknown, -⟩
  · rw [same, h]
  · rw [h] at unknown
    cases unknown

theorem answer_of_known (place : c.place? s = some key) (h : c.known? key = some es) :
    c.answer s = pure (.ok es) := by
  have told := loads c s
  generalize c.after (.load s) = c', c.answer s = told at told ⊢
  cases told with
  | remembered place' known =>
    cases place.symm.trans place'
    cases h.symm.trans known
    rfl
  | refused unknown _ => exact absurd h (by simp [unknown key place])
  | blocked unknown _ => exact absurd h (by simp [unknown key place])
  | fresh place' unknown _ =>
    cases place.symm.trans place'
    cases h.symm.trans unknown

/-! ### Runs -/

theorem run_base (c : Scene) (acts : List Act) : (c.run acts).loader.current = c.loader.current ∧
    (c.run acts).loader.base = c.loader.base := by
  induction acts generalizing c with
  | nil => exact ⟨rfl, rfl⟩
  | cons a acts ih =>
    obtain ⟨current, base⟩ := ih (c.after a)
    exact ⟨current.trans (after_base c a).1, base.trans (after_base c a).2⟩

theorem run_known (h : c.known? key = some es) (acts : List Act) :
    (c.run acts).known? key = some es := by
  induction acts generalizing c with
  | nil => exact h
  | cons a acts ih => exact ih (known?_after_of_known a h)

/-- What is known after a run was known before, or was read by one of the loads of the run. -/
theorem known?_run (c : Scene) (acts : List Act) (h : (c.run acts).known? key = some es) :
    c.known? key = some es ∨
      ∃ before s more, acts = before ++ .load s :: more ∧ (c.run before).place? s = some key ∧
        (c.run before).known? key = none ∧ (c.run before).Holds s es := by
  induction acts generalizing c with
  | nil => exact .inl h
  | cons a acts ih =>
    rcases ih (c.after a) h with known | ⟨before, s, more, rfl, read⟩
    · rcases known?_after c a key with same | ⟨s, es', rfl, place, unknown, holds, kept⟩
      · exact .inl (same ▸ known)
      · cases kept.symm.trans known
        exact .inr ⟨[], s, acts, rfl, place, unknown, holds⟩
    · exact .inr ⟨a :: before, s, more, rfl, read⟩

theorem place?_run (c : Scene) (acts : List Act) (s : String) :
    (c.run acts).place? s = c.place? s := by
  rw [place?, (run_base c acts).1, (run_base c acts).2, place?]

/-! ### Loads -/

theorem known_of_given (h : (c.answer s).outcome = .ok (.ok es)) :
    ∃ key, c.place? s = some key ∧ (c.after (.load s)).known? key = some es := by
  have told := loads c s
  generalize c.after (.load s) = c', c.answer s = told at told h ⊢
  cases told with
  | refused _ _ => cases h
  | blocked _ _ => cases h
  | remembered place known =>
    cases h
    exact ⟨_, place, known⟩
  | fresh place unknown holds =>
    cases announce_given h
    exact ⟨_, place, known?_keeping⟩

theorem known_of_told (h : (c.answer s).text ≠ "") :
    ∃ key es, c.place? s = some key ∧ (c.after (.load s)).known? key = some es := by
  have told := loads c s
  generalize c.after (.load s) = c', c.answer s = told at told h ⊢
  cases told with
  | fresh place _ _ => exact ⟨_, _, place, known?_keeping⟩
  | _ => exact absurd rfl h

/-- A load that fails keeps nothing, unless it is the name of the file that cannot be told. -/
theorem after_of_refused {b : String} (base : c.loader.base = .ofText b) {e : LoadError}
    (h : (c.answer s).outcome = .ok (.error e)) :
    c.after (.load s) = c ∨
      e = .untold ∧ '[' ∈ (c.loader.locate s).name.toList ∧
        ∃ key es, c.place? s = some key ∧ c.known? key = none ∧ c.Holds s es ∧
          c.after (.load s) = c.keeping key es := by
  have told := loads c s
  generalize c.after (.load s) = c', c.answer s = told at told h ⊢
  cases told with
  | @fresh key es place unknown holds =>
    rcases announce_outcome es (slash_not_mem_name base s) with given | ⟨untold, bracket⟩
    · cases given.symm.trans h
    · rw [untold] at h
      cases h
      exact .inr ⟨rfl, bracket, key, es, place, unknown, holds, rfl⟩
  | _ => exact .inl rfl

theorem answer_ends {b : String} (base : c.loader.base = .ofText b) :
    (∃ r, (c.answer s).outcome = .ok r) ∨
      c.found s = .error .nameTooLong ∧ c.after (.load s) = c ∧
        (c.answer s).outcome = .error (.nameTooLong (c.loader.locate s).toText) := by
  have told := loads c s
  generalize c.after (.load s) = c', c.answer s = told at told ⊢
  cases told with
  | blocked _ long => exact .inr ⟨long, rfl, rfl⟩
  | @fresh key es _ _ _ =>
    rcases announce_outcome es (slash_not_mem_name base s) with given | ⟨untold, _⟩
    · exact .inl ⟨_, given⟩
    · exact .inl ⟨.error .untold, by rw [untold]; rfl⟩
  | _ => exact .inl ⟨_, rfl⟩

/-! ### Later loads -/

theorem place?_later (c : Scene) (a : Act) (acts : List Act) (s : String) :
    ((c.after a).run acts).place? s = c.place? s := place?_run c (a :: acts) s

theorem answer_later_of_known {a : Act} {s' : String} (place : c.place? s = some key)
    (known : (c.after a).known? key = some es) (same : c.place? s' = c.place? s) (acts : List Act) :
    ((c.after a).run acts).answer s' = pure (.ok es) := by
  refine answer_of_known ?_ (run_known known acts)
  rw [place?_later, same, place]

theorem answer_later {s' : String} (given : (c.answer s).outcome = .ok (.ok es))
    (same : c.place? s' = c.place? s) (acts : List Act) :
    ((c.after (.load s)).run acts).answer s' = pure (.ok es) := by
  obtain ⟨key, place, known⟩ := known_of_given given
  exact answer_later_of_known place known same acts

theorem text_later {s' : String} (told : (c.answer s).text ≠ "")
    (same : c.place? s' = c.place? s) (acts : List Act) :
    (((c.after (.load s)).run acts).answer s').text = "" := by
  obtain ⟨key, es, place, known⟩ := known_of_told told
  rw [answer_later_of_known place known same acts]
  rfl

/-- Below the root, a name too long for any file ends a load that has not read it before. -/
theorem answer_long {n : String} (base : c.loader.base = .ofText "/") (unknown : c.known? [n] = none)
    (single : '/' ∉ n.toList) (legal : '\x00' ∉ n.toList) (long : FileTree.nameLimit < n.utf8ByteSize) :
    (c.answer n).outcome = .error (.nameTooLong (Path.toText ⟨.root, [n]⟩)) := by
  have other {m : String} (short : m.utf8ByteSize ≤ FileTree.nameLimit) : n ≠ m := by
    rintro rfl
    exact absurd long (Nat.not_lt.2 short)
  have name : (Path.ofText n).names = [n] :=
    Path.names_single single ⟨other (by decide), other (by decide)⟩
  have relative : (Path.ofText n).isAbsolute = false := by
    rw [Path.isAbsolute_ofText, beq_eq_false_iff_ne]
    exact fun first => single (List.mem_of_head? first)
  have root : Path.ofText "/" = ⟨.root, []⟩ := by decide
  have place : c.loader.locate n = ⟨.root, [n]⟩ := by
    rw [locate, base, Path.under, relative, name, root]
    rfl
  have allowed : (Path.mk .root [n]).hasNull = false := by simpa [Path.hasNull] using legal
  have forth : n ≠ Path.up := other (by decide)
  have here : c.loader.place n = [n] := by
    rw [Loader.place, place]
    show Path.next [] n = [n]
    rw [Path.next, if_neg forth, List.nil_append]
  have directory : c.files.isDirectory [] = true := rfl
  have blocked : c.files.find c.loader.current ⟨.root, [n]⟩ = .error .nameTooLong := by
    unfold FileTree.find
    split
    · rfl
    · show c.files.walk [] [n] >>= _ = _
      rw [FileTree.walk, directory, if_neg (by simp), if_pos long]
      rfl
  rw [known?] at unknown
  rw [answer, load, loadWith, place, allowed, here, unknown, blocked]
  rfl

theorem place?_reached (files : FileTree) (current : List String) (base : Path) (acts : List Act)
    (s : String) : ((start files current base).run acts).place? s = key? current base s :=
  place?_run _ acts s

/-- Whatever is done to the files between the loads, what a place has given is given ever after, for
each of its paths; what is remembered was in the file when the place was first read with success, and
is not replaced; and a place is told of once. A load that fails changes nothing, save that a file is
remembered even if its name cannot be told; and only a path too long for any file fails in another way. -/
theorem load_outcome (files : FileTree) (current : List String) (b : String) (acts : List Act)
    (s : String) :
    let start := start files current (.ofText b)
    let key := key? current (.ofText b)
    let c := start.run acts
    let next := c.after (.load s)
    (∀ es, (c.answer s).outcome = .ok (.ok es) → ∀ more s',
      key s' = key s → (next.run more).answer s' = pure (.ok es)) ∧
    (∀ s', Relation.EqvGen (Alias b) s' s → key s' = key s) ∧
    (∀ e, (c.answer s).outcome = .ok (.error e) → next = c ∨
      e = .untold ∧ '[' ∈ (c.loader.locate s).name.toList ∧
        ∃ place es, key s = some place ∧ c.known? place = none ∧ c.Holds s es ∧
          next = c.keeping place es) ∧
    (∀ place es, c.known? place = some es →
      (∃ before s' later, acts = before ++ .load s' :: later ∧ key s' = some place ∧
        (start.run before).known? place = none ∧ (start.run before).Holds s' es) ∧
      ∀ more, (c.run more).known? place = some es) ∧
    ((c.answer s).text ≠ "" → ∀ more s',
      key s' = key s → ((next.run more).answer s').text = "") ∧
    ((∃ r, (c.answer s).outcome = .ok r) ∨
      c.found s = .error .nameTooLong ∧ next = c ∧
        (c.answer s).outcome = .error (.nameTooLong (c.loader.locate s).toText)) := by
  intro start key c next
  have base : c.loader.base = .ofText b := (run_base _ acts).2
  have place (s : String) : c.place? s = key s := place?_reached files current _ acts s
  refine ⟨?_, fun s' => key?_of_aliases, ?_, ?_, ?_, answer_ends base⟩
  · intro es given more s' same
    exact answer_later given (by rw [place, place, same]) more
  · intro e refused
    rw [← place]
    exact after_of_refused base refused
  · intro key es known
    refine ⟨?_, run_known known⟩
    rcases known?_run _ acts known with first | ⟨before, s', later, rfl, lies, unknown, holds⟩
    · cases first
    · rw [place?_reached files current] at lies
      exact ⟨before, s', later, rfl, lies, unknown, holds⟩
  · intro told more s' same
    exact text_later told (by rw [place, place, same]) more

/-- A file is read, then its directory is deleted, and its expressions are given again, to another path
of its place. -/
theorem load_outcome_deleted :
    let c := (start .empty ["w"] (.ofText "d")).run
      [.makeDirectory (.ofText "/w"), .write (.ofText "d/a.txt") [65, 10]]
    let later := (c.after (.load "a.txt")).run [.delete (.ofText "/w/d")]
    (c.answer "a.txt").outcome = .ok (.ok ["A"]) ∧
    later.found "x/../a.txt" = .error .missing ∧
    later.answer "x/../a.txt" = pure (.ok ["A"]) := by
  intro c later
  have given : (c.answer "a.txt").outcome = .ok (.ok ["A"]) := by decide +kernel
  have gone : later.found "x/../a.txt" = .error .missing := by decide +kernel
  exact ⟨given, gone, (load_outcome .empty ["w"] "d" _ "a.txt").1 _ given _ _ (by decide)⟩

/-- Both exceptions occur. A file whose name cannot be told is refused, and given when it is asked for
again; and a name too long for any file is no error of the loader. -/
theorem load_outcome_exceptions :
    let c := (start .empty [] (.ofText "/")).run [.write (.ofText "/[rgb(,,)].txt") [65, 10]]
    let next := c.after (.load "[rgb(,,)].txt")
    let long := String.ofList (List.replicate 256 'n')
    (c.answer "[rgb(,,)].txt").outcome = .ok (.error .untold) ∧ next ≠ c ∧
    (next.answer "[rgb(,,)].txt").outcome = .ok (.ok ["A"]) ∧
    (c.answer long).outcome = .error (.nameTooLong (Path.toText ⟨.root, [long]⟩)) := by
  intro c next long
  have refused : (c.answer "[rgb(,,)].txt").outcome = .ok (.error .untold) := by decide +kernel
  have given : (next.answer "[rgb(,,)].txt").outcome = .ok (.ok ["A"]) := by decide +kernel
  have blocked : (c.answer long).outcome = .error (.nameTooLong (Path.toText ⟨.root, [long]⟩)) := by
    have other {d : Char} (h : 'n' ≠ d) : d ∉ long.toList := by
      rw [String.toList_ofList]
      exact fun member => h (List.eq_of_mem_replicate member).symm
    exact answer_long rfl rfl (other (by decide)) (other (by decide)) (by decide +kernel)
  refine ⟨refused, ?_, given, blocked⟩
  intro same
  rw [same, refused] at given
  cases given

end Scene

end ReversePolish
