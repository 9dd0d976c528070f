/-!
# Texts about the command

What the command says of itself.
-/

namespace MarkupTree.Command.Usage

/-- The name of the command. -/
def program : String := "hast-to-parse5"

/-- The version of the command. -/
def version : String := "0.1.0"

/-- The line that names the version. -/
def versionLine : String := program ++ " " ++ version ++ "\n"

/-- Each line with a line break behind it. -/
def paragraph (lines : List String) : String :=
  String.join (lines.map fun line => line ++ "\n")

/-- The forms of a command line. -/
def usage : String := paragraph
  ["usage: hast-to-parse5 [-h] [--space \x7bhtml,svg\x7d] [--fragment]",
   "                      [--format \x7bjson,tree\x7d] [--indent INDENT] [--version]",
   "                      [path]"]

def summary : String := paragraph
  ["Convert a hast tree (JSON) to a parse5 tree and print it."]

def operands : String := paragraph
  ["positional arguments:",
   "  path                  hast JSON file to convert, or '-' to read from stdin"]

def options : String := paragraph
  ["options:",
   "  -h, --help            show this help message and exit",
   "  --space \x7bhtml,svg\x7d    Schema the tree starts in (default: html)",
   "  --fragment            Convert the root as a #document-fragment instead of a",
   "                        #document",
   "  --format \x7bjson,tree\x7d  Output format: parse5 JSON or an html5lib-style tree",
   "                        dump (default: json)",
   "  --indent INDENT       JSON-only: indentation width (default: compact)",
   "  --version             show program's version number and exit"]

def examples : String := paragraph
  ["Examples:",
   "  hast-to-parse5 tree.json",
   "  cat tree.json | hast-to-parse5 - --indent 2",
   "  hast-to-parse5 icon.json --space svg --fragment --format tree",
   "",
   "If you don't have the 'hast-to-parse5' command available, use:",
   "  python -m hast_to_parse5 ..."]

/-- The help text. -/
def help : String := "\n".intercalate [usage, summary, operands, options, examples]

/-- What is written when a command line is refused. -/
def refusal (message : String) : String := usage ++ program ++ ": error: " ++ message ++ "\n"

end MarkupTree.Command.Usage
