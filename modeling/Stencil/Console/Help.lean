import Stencil.Check.Outline
/-!
# Help

What the command says of itself.
-/

namespace Stencil.Help

/-- How the command is called. -/
def usage (program : String) : List String :=
  ["Usage: " ++ program ++ " <template|directory> [options]",
   "       " ++ program ++ " --help"]

/-- The options. -/
def options : List String :=
  ["OPTIONS:",
   "    --help              Show this help message",
   "    --config FILE       Load delimiters from a TOML file",
   "    --tokens            Print the token stream",
   "    --tree              Print the syntax tree",
   "    --facts             Print collected template facts",
   "    --json              Emit JSON instead of text",
   "    --sequential        Force sequential processing (no parallelism)",
   "    --threads N         Set maximum number of threads (default: auto)",
   "    --no-recursive      Don't search subdirectories",
   "    --max-files N       Limit maximum files to process",
   "    --fail-fast         Stop on first failed file",
   "    --quiet             Suppress progress reporting"]

/-- A file of delimiters. -/
def settings : List String :=
  ["DELIMITER FILE:",
   "    block_start = \"<%\"",
   "    block_end = \"%>\"",
   "    variable_start = \"[[\"",
   "    variable_end = \"]]\"",
   "    line_statement_prefix = \"%%\""]

/-- Some calls of the command. -/
def examples (program : String) : List String :=
  ["EXAMPLES:",
   "    " ++ program ++ " page.html --tree                # Show syntax tree",
   "    " ++ program ++ " templates/ --threads 4          # 4 threads max",
   "    " ++ program ++ " mail.j2 --config latex.toml     # Custom delimiters"]

/-- The whole help. -/
def lines (program : String) : List String :=
  ["Jinja Delimiters v0.1.0",
   "Tokenize and parse Jinja-style templates with configurable delimiters",
   "",
   "USAGE:",
   "    " ++ program ++ " <template> [options]           # Process single file",
   "    " ++ program ++ " <directory> [options]          # Process directory",
   ""] ++
  options ++ [""] ++ settings ++ [""] ++ examples program ++ ["", "PIPELINE CAPABILITIES:"] ++
  Outline.lines.map fun line => "    " ++ line

end Stencil.Help
