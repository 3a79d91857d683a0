import ReversePolish.Text.WordCharacter

/-!
# Literals

The arguments of an action are written as literals: numbers, texts, and groups of them in brackets.
`reads` tells whether a text is one literal. What the literal stands for makes no difference but for
two rules: signs belong to numbers, and a set holds nothing that can change.
-/

namespace ReversePolish.Literal

inductive Lexeme where
  | real
  | imaginary
  | text
  | bytes
  | ellipsis
  | word (w : String)
  | mark (c : Char)
  | lineEnd
  deriving DecidableEq, Repr

/-! ### Numbers -/

def isHexDigit (c : Char) : Bool :=
  c.isDigit || ('a' ≤ c && c ≤ 'f') || ('A' ≤ c && c ≤ 'F')

/-- What follows the digits that a text goes on with. An underscore may stand between two. -/
def afterDigits (ok : Char → Bool) : List Char → List Char
  | '_' :: c :: cs => if ok c then afterDigits ok cs else '_' :: c :: cs
  | c :: cs => if ok c then afterDigits ok cs else c :: cs
  | [] => []

/-- What follows the digits that a text begins with. -/
def digits? (ok : Char → Bool) : List Char → Option (List Char)
  | c :: cs => if ok c then some (afterDigits ok cs) else none
  | [] => none

/-- The digits of a number that is marked by a letter after its zero. -/
def markedDigits? (c : Char) : Option (Char → Bool) :=
  if c = 'x' ∨ c = 'X' then some isHexDigit
  else if c = 'o' ∨ c = 'O' then some fun d => '0' ≤ d && d ≤ '7'
  else if c = 'b' ∨ c = 'B' then some fun d => d == '0' || d == '1'
  else none

def markedNumber? : List Char → Option (List Char)
  | '0' :: c :: cs => do digits? (← markedDigits? c) (if cs.head? = some '_' then cs.tail else cs)
  | _ => none

def exponent? : List Char → Option (List Char)
  | c :: cs =>
    if c = 'e' ∨ c = 'E' then
      digits? Char.isDigit (if cs.head? = some '+' ∨ cs.head? = some '-' then cs.tail else cs)
    else none
  | [] => none

/-- What follows the decimal point that a text begins with, and the digits after the point. -/
def fraction? : List Char → Option (List Char)
  | '.' :: cs => some ((digits? Char.isDigit cs).getD cs)
  | _ => none

/-- A whole number begins with zero only if it is zero. -/
def isWhole (cs : List Char) : Bool := cs.head? != some '0' || cs.all fun c => c == '0' || c == '_'

def decimal? (cs : List Char) : Option (Lexeme × List Char) := do
  let whole := digits? Char.isDigit cs
  let pointed := fraction? (whole.getD cs)
  if whole.isNone ∧ (cs.tail.head?.all fun c => !c.isDigit) then none
  let mantissa ← pointed <|> whole
  let scaled := exponent? mantissa
  let rest := scaled.getD mantissa
  match rest with
  | 'j' :: more | 'J' :: more => some (.imaginary, more)
  | _ =>
    if (pointed <|> scaled).isSome ∨ isWhole (cs.take (cs.length - rest.length)) then
      some (.real, rest)
    else none

/-- The number that a text begins with, which no letter may touch. -/
def number? (cs : List Char) : Option (Lexeme × List Char) := do
  let (lexeme, rest) ← ((markedNumber? cs).map (Lexeme.real, ·)) <|> decimal? cs
  if rest.head?.any Text.isWordCharacter then none else some (lexeme, rest)

/-! ### Texts -/

def isAscii (c : Char) : Bool := c.toNat < 0x80

def hexNumber (cs : List Char) : Nat :=
  cs.foldl (fun n c => 16 * n + (if c.isDigit then c.toNat - 48 else c.toLower.toNat - 87)) 0

/-- A number of hexadecimal digits comes next, and they stand for a code. -/
def codeFollows (count : Nat) (cs : List Char) : Bool :=
  let digits := cs.take count
  digits.length == count && digits.all isHexDigit && hexNumber digits ≤ 0x10FFFF

/-- The name of a character comes next, in braces. -/
def nameFollows : List Char → Bool
  | '\x7b' :: cs =>
    let inside := cs.takeWhile fun c => c.isAlphanum || c == ' ' || c == '-'
    !inside.isEmpty && (cs.drop inside.length).head? == some '\x7d'
  | _ => false

/-- A backslash, a character and what follows it are an escape. -/
def escapes (bytes : Bool) (c : Char) (cs : List Char) : Bool :=
  if c = 'x' then codeFollows 2 cs
  else if bytes then isAscii c
  else if c = 'u' then codeFollows 4 cs
  else if c = 'U' then codeFollows 8 cs
  else if c = 'N' then nameFollows cs
  else true

structure Quoting where
  quote : Char
  triple : Bool
  raw : Bool
  bytes : Bool

/-- What follows a text after its opening quotes. -/
def afterText? (q : Quoting) : List Char → Option (List Char)
  | [] => none
  | '\\' :: c :: cs =>
    if (q.raw && (isAscii c || !q.bytes)) || (!q.raw && escapes q.bytes c cs) then afterText? q cs
    else none
  | c :: cs =>
    if c = q.quote then
      if q.triple then
        if cs.take 2 = [q.quote, q.quote] then some (cs.drop 2) else afterText? q cs
      else some cs
    else if (c = '\n' ∧ !q.triple) ∨ (q.bytes ∧ !isAscii c) then none
    else afterText? q cs

/-- The text that begins with a quote, after the letters that tell how it is written. -/
def text? (letters : String) : List Char → Option (Lexeme × List Char)
  | quote :: cs => do
    if ¬ letters ∈ ["", "r", "b", "u", "br", "rb"] then none
    let triple := cs.take 2 = [quote, quote]
    let bytes := 'b' ∈ letters.toList
    let q : Quoting := ⟨quote, triple, 'r' ∈ letters.toList, bytes⟩
    let rest ← afterText? q (if triple then cs.drop 2 else cs)
    some (if bytes then .bytes else .text, rest)
  | [] => none

def isQuote (c : Char) : Bool := c == '\'' || c == '"'

/-! ### Lexemes -/

def isMark (c : Char) : Bool := "()\x7b\x7d,:+-".toList.contains c

/-- The lexeme that a text begins with, and what follows it. -/
def lexeme? : List Char → Option (Lexeme × List Char)
  | [] => none
  | c :: cs =>
    if isMark c then some (.mark c, cs)
    else if isQuote c then text? "" (c :: cs)
    else if (c :: cs).take 3 = ['.', '.', '.'] then some (.ellipsis, cs.drop 2)
    else if c.isDigit ∨ c = '.' then number? (c :: cs)
    else if Text.isWordCharacter c then
      let word := (c :: cs).takeWhile Text.isWordCharacter
      let rest := (c :: cs).dropWhile Text.isWordCharacter
      if rest.head?.any isQuote then text? (String.ofList (word.map Char.toLower)) rest
      else some (.word (String.ofList word), rest)
    else none

/-- The lexemes of a text within so many brackets, after the last lexeme. White space and comments
separate lexemes, and a line ends where no bracket is open. -/
def lexemesFrom (fuel : Nat) (depth : Nat) (last : Lexeme) (cs : List Char) :
    Option (List Lexeme) :=
  match fuel, cs with
  | _, [] => some []
  | 0, _ => none
  | fuel + 1, c :: cs =>
    if c = '\n' then
      if depth = 0 ∧ last ≠ .lineEnd then
        (lexemesFrom fuel depth .lineEnd cs).map (.lineEnd :: ·)
      else lexemesFrom fuel depth last cs
    else if c = ' ' ∨ c = '\t' ∨ c = '\x0c' then lexemesFrom fuel depth last cs
    else if c = '#' then lexemesFrom fuel depth last (cs.dropWhile (· != '\n'))
    else if c = '\\' ∧ cs.head? = some '\n' then lexemesFrom fuel depth last cs.tail
    else do
      let (lexeme, rest) ← lexeme? (c :: cs)
      let depth := match lexeme with
        | .mark '(' | .mark '\x7b' => depth + 1
        | .mark ')' | .mark '\x7d' => depth - 1
        | _ => depth
      return lexeme :: (← lexemesFrom fuel depth lexeme rest)

/-- The lexemes of a text, less the ends of its last lines. -/
def lexemes (cs : List Char) : Option (List Lexeme) :=
  let cs := cs.map fun c => if c = '\r' then '\n' else c
  (lexemesFrom cs.length 0 .lineEnd cs).map fun ls =>
    (ls.reverse.dropWhile (· == .lineEnd)).reverse

/-! ### Values -/

inductive Value where
  | real
  | imaginary
  | signed
  | constant
  /-- A set, a dictionary, or a group that holds one. -/
  | changing
  deriving DecidableEq, Repr

def Value.ofGroup (values : List Value) : Value :=
  if values.contains .changing then .changing else .constant

mutual

/-- The literal that lexemes begin with, and what follows it. -/
def readValue : Nat → List Lexeme → Option (Value × List Lexeme)
  | 0, _ => none
  | fuel + 1, ls => do
    let (left, rest) ← match ls with
      | .mark '+' :: more | .mark '-' :: more =>
        match readAtom fuel more with
        | some (.real, rest) => some (.signed, rest)
        | some (.imaginary, rest) => some (.constant, rest)
        | _ => none
      | _ => readAtom fuel ls
    match rest with
    | .mark '+' :: more | .mark '-' :: more =>
      match left, readAtom fuel more with
      | .real, some (.imaginary, rest) | .signed, some (.imaginary, rest) => some (.constant, rest)
      | _, _ => none
    | _ => some (left, rest)

/-- The literal without a sign that lexemes begin with, and what follows it. -/
def readAtom : Nat → List Lexeme → Option (Value × List Lexeme)
  | 0, _ => none
  | fuel + 1, ls =>
    match ls with
    | .real :: rest => some (.real, rest)
    | .imaginary :: rest => some (.imaginary, rest)
    | .ellipsis :: rest => some (.constant, rest)
    | .text :: rest => some (.constant, rest.dropWhile (· == .text))
    | .bytes :: rest => some (.constant, rest.dropWhile (· == .bytes))
    | .word "set" :: .mark '(' :: .mark ')' :: rest => some (.changing, rest)
    | .word w :: rest => if w ∈ ["True", "False", "None"] then some (.constant, rest) else none
    | .mark '(' :: .mark ')' :: rest => some (.constant, rest)
    | .mark '(' :: rest => do
      let (values, grouped, rest) ← readGroup fuel ')' rest
      match values, grouped with
      | [v], false => some (v, rest)
      | _, _ => some (.ofGroup values, rest)
    | .mark '\x7b' :: .mark '\x7d' :: rest => some (.changing, rest)
    | .mark '\x7b' :: rest =>
      match readGroup fuel '\x7d' rest with
      | some (values, _, rest) => if values.contains .changing then none else some (.changing, rest)
      | none => readEntries fuel rest
    | _ => none

/-- The literals up to a closing bracket, whether a comma comes after one of them, and what follows
the bracket. -/
def readGroup : Nat → Char → List Lexeme → Option (List Value × Bool × List Lexeme)
  | 0, _, _ => none
  | fuel + 1, close, ls => do
    let (v, rest) ← readValue fuel ls
    match rest with
    | .mark ',' :: .mark c :: rest =>
      if c = close then some ([v], true, rest)
      else do
        let (vs, _, rest) ← readGroup fuel close (.mark c :: rest)
        some (v :: vs, true, rest)
    | .mark ',' :: rest => do
      let (vs, _, rest) ← readGroup fuel close rest
      some (v :: vs, true, rest)
    | .mark c :: rest => if c = close then some ([v], false, rest) else none
    | _ => none

/-- A dictionary after its opening brace, and what follows it. -/
def readEntries : Nat → List Lexeme → Option (Value × List Lexeme)
  | 0, _ => none
  | fuel + 1, ls => do
    let (key, rest) ← readValue fuel ls
    match key, rest with
    | .changing, _ => none
    | _, .mark ':' :: rest => do
      let (_, rest) ← readValue fuel rest
      match rest with
      | .mark '\x7d' :: rest | .mark ',' :: .mark '\x7d' :: rest => some (.changing, rest)
      | .mark ',' :: rest => readEntries fuel rest
      | _ => none
    | _, _ => none

end

/-- A text is one literal. Round brackets around a group may be left out. -/
def reads (cs : List Char) : Bool :=
  match lexemes cs with
  | some (l :: ls) =>
    match readAtom (3 * ls.length + 9) (.mark '(' :: l :: ls ++ [.mark ')']) with
    | some (_, []) => true
    | _ => false
  | _ => false

end ReversePolish.Literal
