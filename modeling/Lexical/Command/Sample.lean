import Lexical.Text

/-! The program that the command scans when it is given no input. It has every kind of token that a
scan can produce, and comments of all three forms. -/

namespace Lexical.Command

def sampleLines : List Text :=
  ["/**",
   " * Program entry point.",
   " *",
   " * @param args command line arguments",
   " */",
   "int main() \x7b",
   "    // integer variable",
   "    int a = 10; // trailing comment",
   "    float b = 20.5;",
   "",
   "    /* character literal */",
   "    char c = 'A';",
   "",
   "    // string literal",
   "    String str = \"Hello, World!\";",
   "",
   "    // multi-line string literal",
   "    String multilineStr = \"\"\"",
   "        This is a",
   "        multi-line string",
   "        with multiple lines.",
   "    \"\"\";",
   "",
   "    // conditional",
   "    if (a < b) \x7b",
   "        a++;",
   "    \x7d else \x7b",
   "        a--;",
   "    \x7d",
   "",
   "    // operators",
   "    int result = a + b * 2 / (1 - 3) == 10;",
   "",
   "    // special symbols and separators",
   "    @SpecialSymbol",
   "    return result;",
   "\x7d"].map String.toList

/-- The program as a text, with a newline at its end. -/
def sample : Text := .unlines sampleLines

end Lexical.Command
