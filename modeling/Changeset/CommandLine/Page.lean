/-!
# Help pages

What the program says about itself and its two commands.
-/

namespace Changeset.CommandLine

inductive Page where
  | program
  | diff
  | split
  deriving DecidableEq, Repr

namespace Page

def path : Page → String
  | program => "semantic-diff"
  | diff => "semantic-diff diff"
  | split => "semantic-diff split"

def usage : Page → String
  | program => "Usage: semantic-diff [OPTIONS] COMMAND [ARGS]...\n"
  | diff => "Usage: semantic-diff diff [OPTIONS] BEFORE AFTER\n"
  | split => "Usage: semantic-diff split [OPTIONS] PATCH\n"

def details : Page → List String
  | program => [
    "",
    "  Symbol-level diffs and patch splitting for reviewable commits.",
    "",
    "Options:",
    "  -c, --config PATH  Path to configuration file (YAML/JSON)",
    "  -v, --verbose      Verbose output",
    "  --debug            Enable debug logging",
    "  --help             Show this message and exit.",
    "",
    "Commands:",
    "  diff   Print the symbol-level changes between BEFORE and AFTER as JSON.",
    "  split  Split PATCH (or - for stdin) into independently appliable..."]
  | diff => [
    "",
    "  Print the symbol-level changes between BEFORE and AFTER as JSON.",
    "",
    "Options:",
    "  -l, --language TEXT  Language tag (default: detected from AFTER extension)",
    "  --help               Show this message and exit."]
  | split => [
    "",
    "  Split PATCH (or - for stdin) into independently appliable fragments as JSON.",
    "",
    "Options:",
    "  -l, --language TEXT           Language tag of the patched file",
    "  -s, --strategy [hunk|symbol]  Split strategy (default: from config)",
    "  --before FILE                 Old version of the file, enables symbol",
    "                                alignment",
    "  --after FILE                  New version of the file, enables symbol",
    "                                alignment",
    "  --help                        Show this message and exit."]

def help (p : Page) : String := p.usage ++ String.join (p.details.map (· ++ "\n"))

def hint (p : Page) : String := p.usage ++ "Try '" ++ p.path ++ " --help' for help.\n\n"

end Page

end Changeset.CommandLine
