/-!
# Help

What the program tells of itself.
-/

namespace ReversePolish.CommandLine

def programName : String := "bool-postfix"

def programVersion : String := "20261019"

def usage : String :=
  "usage: bool-postfix [-h] [--version] [--file PATH] [--interactive] [--tokens]\n" ++
  "                    [--names] [--verbose]\n" ++
  "                    [EXPRESSION ...]\n"

/-- The usage, and all that options and expressions mean. -/
def help : String :=
  usage ++
  "\n" ++
  "Boolean Postfix - Convert boolean-algebra expressions to postfix (RPN) order\n" ++
  "\n" ++
  "positional arguments:\n" ++
  "  EXPRESSION     Expression(s) to convert (blank expressions are skipped)\n" ++
  "\n" ++
  "options:\n" ++
  "  -h, --help     show this help message and exit\n" ++
  "  --version      Show program version and exit\n" ++
  "\n" ++
  "input sources:\n" ++
  "  --file PATH    Read expressions from a file, one per line\n" ++
  "  --interactive  Prompt for expressions until an empty line or \"quit\"\n" ++
  "\n" ++
  "output options:\n" ++
  "  --tokens       Show the token sequence before the postfix form\n" ++
  "  --names        Show tokens by kind name (VAR(A) AND) instead of symbols (A\n" ++
  "                 .)\n" ++
  "  --verbose      Show a table of tokens for every expression\n" ++
  "\n" ++
  "Expression Syntax:\n" ++
  "    Variables:          A-Z (single letters, case-insensitive)\n" ++
  "    Constants:          0  1\n" ++
  "    NOT:                ¬A  or  !A     (may be chained: ¬¬A)\n" ++
  "    AND:                A.B\n" ++
  "    OR:                 A+B\n" ++
  "    Grouping:           (A+B).C\n" ++
  "    Whitespace is ignored.\n" ++
  "\n" ++
  "Precedence:             parentheses → NOT → AND → OR\n" ++
  "                        AND and OR are left-associative, NOT is right-associative\n" ++
  "\n" ++
  "Expression Files (--file):\n" ++
  "    One expression per line, blank lines and lines starting with # are ignored.\n" ++
  "\n" ++
  "Examples:\n" ++
  "    bool-postfix \"A+B.C\"                   # → A B C . +\n" ++
  "    bool-postfix \"(A+B).C\" \"!!A\"           # Several expressions, summary table\n" ++
  "    bool-postfix \"A.B\" --tokens            # Also show the token sequence\n" ++
  "    bool-postfix \"A.B\" --names             # VAR(A) VAR(B) AND\n" ++
  "    bool-postfix --file expressions.txt    # Convert every expression in a file\n" ++
  "    bool-postfix --interactive             # Prompt until an empty line or 'quit'\n" ++
  "\n" ++
  "Note: No short arguments are provided to ensure clarity.\n" ++
  "      Use quotes around expressions containing brackets, '!' or spaces.\n"

end ReversePolish.CommandLine
