/-!
# Help

What the program says about itself.
-/

namespace Tokenizer.Command

/-- Lines as a text, each with its line feed. -/
def unlines (lines : List String) : String :=
  String.join (lines.map (· ++ "\n"))

/-- The version of the program. -/
def versionText : String :=
  unlines ["golex 0.1.0"]

/-- The short help: a line for each option. -/
def helpText : String :=
  unlines [
    "golex command-line tokenizer",
    "",
    "Usage: golex [OPTIONS] [INPUT]",
    "",
    "Arguments:",
    "  [INPUT]  Input source file ('-' or omitted for stdin)",
    "",
    "Options:",
    "      --format <FORMAT>  Output format: text or json (default from Golex.toml, else text)",
    "      --check            Report diagnostics without printing tokens",
    "      --no-eof           Omit the trailing end-of-input token",
    "  -q, --quiet            Suppress warning output",
    "  -v, --verbose          Enable debug logging (overridden by RUST_LOG)",
    "      --config <CONFIG>  Path to a Golex.toml (default: searched upward from the input)",
    "  -h, --help             Print help (see more with '--help')",
    "  -V, --version          Print version"]

/-- The full help: what the program does, with examples, and each option at length. -/
def fullHelpText : String :=
  unlines [
    "golex tokenizer.",
    "",
    "Reads a source file, or standard input when no file (or '-') is given,",
    "and prints one token per line.",
    "",
    "Examples:",
    "  golex main.go                 Print the token stream",
    "  golex main.go --format json   Print tokens as a JSON array",
    "  golex main.go --check         Report illegal tokens only",
    "  cat main.go | golex           Tokenize standard input",
    "",
    "Usage: golex [OPTIONS] [INPUT]",
    "",
    "Arguments:",
    "  [INPUT]",
    "          Input source file ('-' or omitted for stdin)",
    "",
    "Options:",
    "      --format <FORMAT>",
    "          Output format: text or json (default from Golex.toml, else text)",
    "",
    "      --check",
    "          Report diagnostics without printing tokens",
    "",
    "      --no-eof",
    "          Omit the trailing end-of-input token",
    "",
    "  -q, --quiet",
    "          Suppress warning output",
    "",
    "  -v, --verbose",
    "          Enable debug logging (overridden by RUST_LOG)",
    "",
    "      --config <CONFIG>",
    "          Path to a Golex.toml (default: searched upward from the input)",
    "",
    "  -h, --help",
    "          Print help (see a summary with '-h')",
    "",
    "  -V, --version",
    "          Print version"]

end Tokenizer.Command
