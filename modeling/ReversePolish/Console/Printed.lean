import ReversePolish.Console.Markup
import ReversePolish.Text.Width

/-!
# Printing

A computation that prints: the text it has printed, and what it ends with. What has been printed
before a failure stays printed. `text_bind_ok` and `outcome_bind_ok` give both for a sequence.
-/

namespace ReversePolish

structure Printed (α : Type) where
  text : String
  outcome : Except Failure α
  deriving Repr

namespace Printed

def andThen (p : Printed α) (f : α → Printed β) : Printed β :=
  match p.outcome with
  | .ok a => ⟨p.text ++ (f a).text, (f a).outcome⟩
  | .error e => ⟨p.text, .error e⟩

instance : Monad Printed where
  pure a := ⟨"", .ok a⟩
  bind := andThen

instance : LawfulMonad Printed := LawfulMonad.mk' Printed
  (fun p => by
    obtain ⟨text, outcome⟩ := p
    cases outcome <;> simp [Functor.map, andThen])
  (fun a f => by simp [pure, bind, andThen])
  (fun p f g => by
    obtain ⟨text, outcome⟩ := p
    cases outcome with
    | error e => rfl
    | ok a =>
      simp only [bind, andThen]
      cases (f a).outcome <;> simp [String.append_assoc])

theorem text_pure (a : α) : (pure a : Printed α).text = "" := rfl

theorem outcome_pure (a : α) : (pure a : Printed α).outcome = .ok a := rfl

/-- What has been printed stays in front of what is printed later. -/
theorem text_bind_ok {p : Printed α} {a : α} (h : p.outcome = .ok a) (f : α → Printed β) :
    (p >>= f).text = p.text ++ (f a).text := by
  simp [bind, andThen, h]

theorem outcome_bind_ok {p : Printed α} {a : α} (h : p.outcome = .ok a) (f : α → Printed β) :
    (p >>= f).outcome = (f a).outcome := by
  simp [bind, andThen, h]

def write (s : String) : Printed Unit := ⟨s, .ok ()⟩

def ofExcept (r : Except Failure α) : Printed α := ⟨"", r⟩

/-- Prints markup on a line of its own. -/
def line (markup : String) : Printed Unit := do
  let plain ← ofExcept (Markup.render markup)
  write (String.ofList (Text.expandTabs plain.toList) ++ "\n")

end Printed

end ReversePolish
