namespace Mathdown.CommandLine

def programName : String := "texmark"

/-- The version, which also marks a cache directory, so that another version starts with none. -/
def version : String := "0.1.0"

def help : String :=
  "Markdown to HTML renderer with math and highlighting - CLI\n\n" ++
  "Usage: texmark <COMMAND>\n\n" ++
  "Commands:\n" ++
  "  render  Render markdown to HTML\n" ++
  "  help    Print this message or the help of the given subcommand(s)\n\n" ++
  "Options:\n" ++
  "  -h, --help     Print help\n" ++
  "  -V, --version  Print version\n"

def complaint (message : String) : String :=
  "error: " ++ message ++ "\n\nFor more information, try '--help'.\n"

end Mathdown.CommandLine
