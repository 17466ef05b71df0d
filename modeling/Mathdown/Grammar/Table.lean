import Mathdown.Grammar

namespace Mathdown.Grammar

open Pattern (any anyOf atLeastOnce blank digit maybe noneOf word wordFold)

private def lineRange : Pattern :=
  .seq [atLeastOnce digit, .many (.seq [word ",", atLeastOnce digit])]

def diffLine : Pattern :=
  .seq [.start, .either [
    word "=== modified file",
    .seq [word "====", .many blank, word "//", atLeastOnce any, blank, word "-", blank,
      atLeastOnce any, atLeastOnce blank, word "===="],
    word "Index: ",
    .seq [word "--- ", noneOf "%"],
    .seq [word "***", .many any, digit, digit, digit, digit, .many blank, .stop],
    .seq [lineRange, anyOf "adc", lineRange, .stop],
    word "diff --git "]]

/-- The first line of a shell script: its interpreter, or a note for an editor. -/
def shellLine : Pattern :=
  .either [
    .seq [.start, word "#!", .many any, .wordEdge,
      .either [word "bash", word "zsh", word "sh", word "tcsh"], .wordEdge],
    .seq [.start, word "#", .many blank, word "-*-", .many (noneOf "*"), word "mode:", .many blank,
      word "shell-script", .many (noneOf "*"), word "-*-"]]

/-- The first line of XML: its declaration, or the element around a message. -/
def xmlLine : Pattern :=
  .seq [.start, .either [
    .seq [word "<?xml", blank],
    .seq [.many blank, word "<",
      .group (atLeastOnce (.one fun c => Unicode.isWord c || c == '-')), word ":Envelope",
      atLeastOnce blank, word "xmlns:", .again, .many blank, word "=", .many blank,
      word "\"http://schemas", any, word "xmlsoap", any, word "org/soap/envelope/\"", .many blank,
      word ">"]]]

def plainText : Grammar := ⟨"Plain Text", "text.plain", ["txt"], none⟩

def table : List Grammar := [
  plainText,
  ⟨"ASP", "source.asp", ["asa"], none⟩,
  ⟨"HTML (ASP)", "text.html.asp", ["asp"], none⟩,
  ⟨"ActionScript", "source.actionscript.2", ["as"], none⟩,
  ⟨"AppleScript", "source.applescript", ["applescript", "script editor"], some (
      .seq [.start, word "#!", .many any, word "osascript"])⟩,
  ⟨"Batch File", "source.dosbatch", ["bat", "cmd"], none⟩,
  ⟨"NAnt Build File", "source.nant-build", ["build"], none⟩,
  ⟨"C#", "source.cs", ["cs", "csx"], none⟩,
  ⟨"C++", "source.c++",
    ["cpp", "cc", "cp", "cxx", "c++", "C", "h", "hh", "hpp", "hxx", "h++", "inl", "ipp"], some (
      word "-*- C++ -*-")⟩,
  ⟨"C", "source.c", ["c", "h"], some (
      .seq [word "-*-", maybe (word " Mode:"), word " C -*-"])⟩,
  ⟨"CSS", "source.css", ["css", "css.erb", "css.liquid"], none⟩,
  ⟨"Clojure", "source.clojure", ["clj"], none⟩,
  ⟨"D", "source.d", ["d", "di"], some (
      .seq [.start, word "#!", .many any, .wordEdge, maybe (word "g"), word "dmd", .wordEdge, any])⟩,
  ⟨"Diff", "source.diff", ["diff", "patch"], some (
      diffLine)⟩,
  ⟨"Erlang", "source.erlang",
    ["erl", "hrl", "Emakefile", "emakefile"], none⟩,
  ⟨"HTML (Erlang)", "text.html.erlang.yaws", ["yaws"], none⟩,
  ⟨"Go", "source.go", ["go"], some (
      .seq [word "-*-", maybe (word " Mode:"), word " Go -*-"])⟩,
  ⟨"Graphviz (DOT)", "source.dot", ["dot", "DOT", "gv"], none⟩,
  ⟨"Groovy", "source.groovy", ["groovy", "gvy", "gradle"], none⟩,
  ⟨"HTML", "text.html.basic",
    ["html", "htm", "shtml", "xhtml", "inc", "tmpl", "tpl"], some (
      .seq [word "<", maybe (.seq [wordFold "!DOCTYPE", .many blank]), wordFold "html"])⟩,
  ⟨"Haskell", "source.haskell", ["hs"], none⟩,
  ⟨"Literate Haskell", "text.tex.latex.haskell", ["lhs"], none⟩,
  ⟨"Java Server Page (JSP)", "text.html.jsp", ["jsp"], none⟩,
  ⟨"Java", "source.java", ["java", "bsh"], none⟩,
  ⟨"JavaDoc", "text.html.javadoc", [], none⟩,
  ⟨"Java Properties", "source.java-props", ["properties"], none⟩,
  ⟨"JSON", "source.json",
    ["json", "sublime-settings", "sublime-menu", "sublime-keymap", "sublime-mousemap",
     "sublime-theme", "sublime-build", "sublime-project", "sublime-completions",
     "sublime-commands", "sublime-macro", "sublime-color-scheme"], none⟩,
  ⟨"JavaScript", "source.js", ["js", "htc"], some (
      .seq [.start, word "#!", .many blank, word "/", .many any, .wordEdge,
        .either [word "node", word "js"], .wordEdge])⟩,
  ⟨"Regular Expressions (Javascript)", "source.regexp.js",
    [], none⟩,
  ⟨"BibTeX", "text.bibtex", ["bib"], none⟩,
  ⟨"LaTeX Log", "text.log.latex", [], some (
      .seq [word "This is ", maybe (.either [word "pdf", word "pdfe"]), word "TeX",
        maybe (word "k"), word ", Version "])⟩,
  ⟨"LaTeX", "text.tex.latex", ["tex", "ltx"], none⟩,
  ⟨"TeX", "text.tex", ["sty", "cls"], none⟩,
  ⟨"Lisp", "source.lisp",
    ["lisp", "cl", "clisp", "l", "mud", "el", "scm", "ss", "lsp", "fasl"], none⟩,
  ⟨"Lua", "source.lua", ["lua"], none⟩,
  ⟨"Make Output", "source.build_output", [], none⟩,
  ⟨"Makefile", "source.makefile",
    ["make", "GNUmakefile", "makefile", "Makefile", "OCamlMakefile", "mak", "mk"], some (
      .seq [.start, word "#!", .many blank, word "/usr/bin/make", .wordEdge])⟩,
  ⟨"Markdown", "text.html.markdown",
    ["md", "mdown", "markdown", "markdn"], none⟩,
  ⟨"MultiMarkdown", "text.html.markdown.multimarkdown",
    [], some (
      .seq [.start, wordFold "format:", .many blank, wordFold "complete", .many blank, .stop])⟩,
  ⟨"MATLAB", "source.matlab", ["matlab"], none⟩,
  ⟨"OCaml", "source.ocaml", ["ml", "mli"], none⟩,
  ⟨"OCamllex", "source.ocamllex", ["mll"], none⟩,
  ⟨"OCamlyacc", "source.ocamlyacc", ["mly"], none⟩,
  ⟨"camlp4", "source.camlp4.ocaml", [], none⟩,
  ⟨"Objective-C++", "source.objc++", ["mm", "M", "h"], none⟩,
  ⟨"Objective-C", "source.objc", ["m", "h"], none⟩,
  ⟨"PHP Source", "source.php", [], none⟩,
  ⟨"PHP", "embedding.php",
    ["php", "php3", "php4", "php5", "php7", "phps", "phpt", "phtml"], some (
      .seq [.start,
        .either [.seq [word "#!", .many any, noneOf "-", word "php", maybe (anyOf "0123456789")],
          word "<?php"], .wordEdge])⟩,
  ⟨"Pascal", "source.pascal", ["pas", "p", "dpr"], none⟩,
  ⟨"Perl", "source.perl",
    ["pl", "pm", "pod", "t", "PL"], some (
      .seq [.start, word "#!", .many any, .wordEdge, word "perl", .wordEdge])⟩,
  ⟨"Python", "source.python",
    ["py", "py3", "pyw", "pyi", "pyx", "pyx.in", "pxd", "pxd.in", "pxi", "pxi.in", "rpy",
     "cpy", "SConstruct", "Sconstruct", "sconstruct", "SConscript", "gyp", "gypi",
     "Snakefile", "wscript"], some (
      .seq [.start, word "#!", .many blank, word "/", .many any, .wordEdge, word "python",
        maybe (.seq [digit, maybe (.seq [word ".", digit])]), .wordEdge])⟩,
  ⟨"Regular Expressions (Python)", "source.regexp.python",
    [], none⟩,
  ⟨"R Console", "source.r-console", [], none⟩,
  ⟨"R", "source.r",
    ["R", "r", "s", "S", "Rprofile"], none⟩,
  ⟨"Rd (R Documentation)", "text.tex.latex.rd", ["rd"], none⟩,
  ⟨"HTML (Rails)", "text.html.ruby",
    ["rails", "rhtml", "erb", "html.erb"], none⟩,
  ⟨"JavaScript (Rails)", "source.js.rails", ["js.erb"], none⟩,
  ⟨"Ruby Haml", "text.haml", ["haml", "sass"], none⟩,
  ⟨"Ruby on Rails", "source.ruby.rails", ["rxml", "builder"], none⟩,
  ⟨"SQL (Rails)", "source.sql.ruby", ["erbsql", "sql.erb"], none⟩,
  ⟨"Regular Expression", "source.regexp", ["re"], none⟩,
  ⟨"reStructuredText", "text.restructuredtext", ["rst", "rest"], none⟩,
  ⟨"Ruby", "source.ruby",
    ["rb", "Appfile", "Appraisals", "Berksfile", "Brewfile", "capfile", "cgi", "Cheffile",
     "config.ru", "Deliverfile", "Fastfile", "fcgi", "Gemfile", "gemspec", "Guardfile",
     "irbrc", "jbuilder", "podspec", "prawn", "rabl", "rake", "Rakefile", "Rantfile", "rbx",
     "rjs", "ruby.rail", "Scanfile", "simplecov", "Snapfile", "thor", "Thorfile",
     "Vagrantfile"], some (
      .seq [.start, word "#!", .many blank, word "/", .many any, .wordEdge, maybe (word "j"),
        word "ruby", .wordEdge])⟩,
  ⟨"Cargo Build Results", "source.build_results", [], none⟩,
  ⟨"Rust", "source.rust", ["rs"], none⟩,
  ⟨"SQL", "source.sql", ["sql", "ddl", "dml"], none⟩,
  ⟨"Scala", "source.scala", ["scala", "sbt"], none⟩,
  ⟨"Bourne Again Shell (bash)", "source.shell.bash",
    ["sh", "bash", "zsh", "fish", ".bash_aliases", ".bash_completions", ".bash_functions",
     ".bash_login", ".bash_logout", ".bash_profile", ".bash_variables", ".bashrc", ".profile",
     ".textmate_init"], some (
      shellLine)⟩,
  ⟨"Shell-Unix-Generic", "source.shell", [], none⟩,
  ⟨"commands-builtin-shell-bash", "commands.builtin.shell.bash",
    [], none⟩,
  ⟨"HTML (Tcl)", "text.html.tcl", ["adp"], none⟩,
  ⟨"Tcl", "source.tcl", ["tcl"], none⟩,
  ⟨"Textile", "text.html.textile", ["textile"], some (
      word "textile")⟩,
  ⟨"XML", "text.xml",
    ["xml", "xsd", "xslt", "tld", "dtml", "rss", "opml", "svg"], some (
      xmlLine)⟩,
  ⟨"YAML", "source.yaml", ["yaml", "yml", "sublime-syntax"], some (
      .seq [.start, word "%YAML", maybe (.seq [maybe (word " "), word "1", any, atLeastOnce digit])])⟩]

end Mathdown.Grammar
