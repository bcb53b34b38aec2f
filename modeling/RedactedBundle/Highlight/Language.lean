import RedactedBundle.Files.Path

/-!
# Languages

The languages that can be highlighted, told by the extension of a file's name without regard to
the case of ASCII letters.

## Main definitions

- `languageOfExtension?`: the language of an extension
- `languageOfFile?`: the language of a file
-/

namespace RedactedBundle

/-- The languages with the extensions they are told by, in lower case. Of two languages with one
extension the first counts. -/
def languages : List (String × List String) :=
  [("C#", ["cs", "csx"]), ("Rust", ["rs"]),
    ("Python", ["py", "py3", "pyw", "pyi", "rpy", "cpy", "gyp", "gypi", "sconstruct", "sconscript",
      "snakefile", "wscript"]),
    ("Plain Text", ["txt"]), ("Markdown", ["md", "mdown", "markdown", "markdn"]),
    ("JSON", ["json", "sublime-settings", "sublime-menu", "sublime-keymap", "sublime-mousemap",
      "sublime-theme", "sublime-build", "sublime-project", "sublime-completions"]),
    ("XML", ["xml", "xsd", "xslt", "tld", "dtml", "rss", "opml", "svg"]),
    ("YAML", ["yaml", "yml", "sublime-syntax"]),
    ("HTML", ["html", "htm", "shtml", "xhtml", "inc", "tmpl", "tpl"]),
    ("JavaScript", ["js", "htc"]), ("C", ["c"]), ("Objective-C", ["h", "m"]),
    ("Objective-C++", ["mm"]),
    ("C++", ["cpp", "cc", "cp", "cxx", "c++", "hh", "hpp", "hxx", "h++", "inl", "ipp"]),
    ("Java", ["java", "bsh"]), ("Java Server Page (JSP)", ["jsp"]),
    ("Java Properties", ["properties"]), ("Go", ["go"]),
    ("Makefile", ["make", "gnumakefile", "makefile", "ocamlmakefile", "mak", "mk"]),
    ("ActionScript", ["as"]), ("AppleScript", ["applescript", "script editor"]),
    ("ASP", ["asa"]), ("HTML (ASP)", ["asp"]), ("Batch File", ["bat", "cmd"]),
    ("BibTeX", ["bib"]), ("CSS", ["css", "css.erb", "css.liquid"]), ("Clojure", ["clj"]),
    ("D", ["d", "di"]), ("Diff", ["diff", "patch"]), ("Erlang", ["erl", "hrl", "emakefile"]),
    ("Graphviz (DOT)", ["dot"]), ("Groovy", ["groovy", "gvy", "gradle"]), ("Haskell", ["hs"]),
    ("Literate Haskell", ["lhs"]), ("LaTeX", ["tex", "ltx"]), ("TeX", ["sty", "cls"]),
    ("Lisp", ["lisp", "cl", "l", "mud", "el", "scm", "ss", "lsp", "fasl"]), ("Lua", ["lua"]),
    ("MATLAB", ["matlab"]), ("OCaml", ["ml", "mli"]), ("OCamllex", ["mll"]),
    ("OCamlyacc", ["mly"]), ("PHP", ["php", "php3", "php4", "php5", "php7", "phps", "phpt",
      "phtml"]),
    ("Pascal", ["pas", "p", "dpr"]), ("Perl", ["pl", "pm", "pod", "t"]),
    ("R", ["r", "s", "rprofile"]), ("Rd (R Documentation)", ["rd"]),
    ("HTML (Rails)", ["rails", "rhtml", "erb", "html.erb"]), ("Ruby on Rails", ["rxml", "builder"]),
    ("Ruby Haml", ["haml", "sass"]), ("SQL (Rails)", ["erbsql", "sql.erb"]),
    ("JavaScript (Rails)", ["js.erb"]),
    ("Regular Expression", ["re"]), ("reStructuredText", ["rst", "rest"]),
    ("Ruby", ["rb", "appfile", "appraisals", "berksfile", "brewfile", "capfile", "cgi",
      "cheffile", "config.ru", "deliverfile", "fastfile", "fcgi", "gemfile", "gemspec",
      "guardfile", "irbrc", "jbuilder", "podspec", "prawn", "rabl", "rake", "rakefile", "rantfile",
      "rbx", "rjs", "ruby.rail", "scanfile", "simplecov", "snapfile", "thor", "thorfile",
      "vagrantfile"]),
    ("Scala", ["scala", "sbt"]), ("Bourne Again Shell (bash)", ["sh", "bash", "zsh", "fish"]),
    ("SQL", ["sql", "ddl", "dml"]), ("Tcl", ["tcl"]), ("HTML (Tcl)", ["adp"]),
    ("Textile", ["textile"])]

/-- The language of an extension, whose ASCII letters may be in any case. -/
def languageOfExtension? (ending : String) : Option String :=
  let ending := String.ofList (ending.toList.map Char.toLower)
  (languages.find? fun language => language.2.contains ending).map Prod.fst

/-- The language of a file by its name. -/
def languageOfFile? (name : String) : Option String :=
  (Path.ofString name).extension?.bind fun ending =>
    languageOfExtension? (String.ofList (Utf8.decodeLossy ending))

end RedactedBundle
