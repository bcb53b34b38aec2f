import RedactedBundle.Document
import RedactedBundle.Proofs.Files.Resolve
import RedactedBundle.Template.Render

/-!
# The layout of documents

What the built-in template renders to, written out as texts: a title line, the number of files,
and for each snapshot a heading with its name and a fenced block with its text. The names, texts,
title and language stand in the document as they are; nothing in them is read as a part of the
template, and nothing is escaped. That is so with every engine that renders plain templates as they
read.

## Main definitions

- `Snapshot.block`: the part of a document that holds one snapshot
- `DocumentOptions.layout`: the document of a bundle
- `TemplateEngine.RendersPlain`: engines that render plain templates as they read

## Main statements

- `DocumentOptions.render_builtin`: the built-in template renders to the layout
- `DocumentOptions.render_markdownTemplate`: a file that holds the template renders to the same
-/

namespace RedactedBundle

open Template

/-- The part of a document that holds one snapshot. -/
def Snapshot.block (language : String) (snapshot : Snapshot) : String :=
  "## File: `" ++ snapshot.name ++ "`\n```" ++ language ++ "\n" ++ snapshot.text ++
    "\n```\n---\n"

/-- The parts of a document that hold the snapshots of a list. -/
def Snapshot.blocks (language : String) : List Snapshot → String
  | [] => ""
  | snapshot :: rest => snapshot.block language ++ blocks language rest

/-- The document of a bundle: a title, the number of files, and each file in a block. -/
def DocumentOptions.layout (options : DocumentOptions) (bundle : Bundle) : String :=
  "# " ++ options.title ++ "\n**Total files:** " ++ toString bundle.size ++ "\n\n" ++
    Snapshot.blocks options.language bundle.entries

/-! ## Variables in scope -/

namespace Template.Scope

@[simp] theorem find?_assign (name : String) (v : Value) (scope : Scope) :
    (scope.assign name v).find? name = some v := by
  cases scope <;> simp [assign, find?, Value.lookup?]

theorem find?_assign_of_ne {name other : String} (h : name ≠ other) (v : Value) (scope : Scope) :
    (scope.assign name v).find? other = scope.find? other := by
  cases scope <;> simp [assign, find?, Value.lookup?, h]

end Template.Scope

/-! ## Parts one after the other -/

namespace Template.Node

variable {node : Template.Node} {rest : List Template.Node} {scope next last : Scope}
  {out more : String}

theorem renderAll?_cons (hnode : render? node scope = some (out, next))
    (hrest : renderAll? rest next = some (more, last)) :
    renderAll? (node :: rest) scope = some (out ++ more, last) := by
  simp [renderAll?, hnode, hrest]

theorem renderAll?_text_cons (s : String) (hrest : renderAll? rest scope = some (more, last)) :
    renderAll? (.text s :: rest) scope = some (s ++ more, last) :=
  renderAll?_cons (by rw [render?]) hrest

/-- An output tag writes the text of its value; a value that is a text is written as it is. -/
theorem renderAll?_output_cons {e : Expr} {v : Value} (he : e.eval? scope = some v)
    (hrest : renderAll? rest scope = some (more, last)) :
    renderAll? (.output e :: rest) scope = some (v.text ++ more, last) :=
  renderAll?_cons (by rw [render?, he, Option.map_some]) hrest

theorem renderAll?_nil (scope : Scope) : renderAll? [] scope = some ("", scope) := by
  rw [renderAll?]

end Template.Node

theorem Template.Expr.eval?_variable {name : String} {v : Value} {scope : Scope}
    (h : scope.find? name = some v) : (Expr.variable name).eval? scope = some v := by
  rw [Expr.eval?, h, Option.getD_some]

/-! ## The parts of the built-in template -/

/-- What the built-in template does with one file. -/
def markdownBlock : List Template.Node :=
  [.text "## File: `", .output (.attribute (.variable "file") "name"), .text "`\n```",
    .output (.variable "language"), .text "\n",
    .output (.attribute (.variable "file") "contents"), .text "\n```\n---\n"]

/-- The built-in template as a tree. The line ends behind its two block tags belong to the tags. -/
def markdownBody : List Template.Node :=
  [.text "# ", .output (.variable "title"), .text "\n**Total files:** ",
    .output (.variable "count"), .text "\n\n",
    .loop ["file"] (.variable "files") none markdownBlock []]

theorem segments_markdownTemplate :
    Segment.ofText? true true markdownTemplate = some
      [.text "# ".toList, .output [.word "title"], .text "\n**Total files:** ".toList,
        .output [.word "count"], .text "\n\n".toList,
        .block [.word "for", .word "file", .word "in", .word "files"],
        .text "## File: `".toList, .output [.word "file", .mark ".", .word "name"],
        .text "`\n```".toList, .output [.word "language"], .text "\n".toList,
        .output [.word "file", .mark ".", .word "contents"], .text "\n```\n---\n".toList,
        .block [.word "endfor"]] := by
  decide +kernel

theorem body_markdownTemplate : Body.ofText? true true markdownTemplate = some markdownBody := by
  rw [Body.ofText?, segments_markdownTemplate]
  rfl

/-! ## Plain templates -/

/-- A variable, or an attribute of one. -/
inductive Template.Expr.IsPlain : Expr → Prop where
  | variable (name : String) : IsPlain (.variable name)
  | attribute (owner name : String) : IsPlain (.attribute (.variable owner) name)

/-- Texts, outputs of variables and of their attributes, and loops over variables. -/
inductive Template.Node.IsPlain : Template.Node → Prop where
  | text (s : String) : IsPlain (.text s)
  | output {e : Expr} (he : e.IsPlain) : IsPlain (.output e)
  | loop (target items : String) {body : List Template.Node} (hbody : ∀ node ∈ body, IsPlain node) :
      IsPlain (.loop [target] (.variable items) none body [])

/-- Whatever an engine compiles of the plain templates, it renders as they read over the values of
documents. A template may have values escaped by what its name ends with, behind a dot. -/
structure TemplateEngine.RendersPlain [TemplateEngine] : Prop where
  render_eq {trimBlocks lstripBlocks : Bool} {name source : String} {body : List Template.Node}
    {template : List (String × Value) → Option String} (hname : '.' ∉ name.toList)
    (hbody : Body.ofText? trimBlocks lstripBlocks source = some body)
    (hplain : ∀ node ∈ body, node.IsPlain)
    (htemplate : TemplateEngine.compile? trimBlocks lstripBlocks name source = some template)
    (options : DocumentOptions) (bundle : Bundle) :
    template (options.values bundle) = Body.render? body (options.values bundle)

theorem Template.Body.rendersPlain : TemplateEngine.RendersPlain := by
  refine ⟨fun {trimBlocks lstripBlocks name source body template} _ hbody _ htemplate _ _ => ?_⟩
  obtain ⟨body', hbody', rfl⟩ := Option.map_eq_some_iff.mp htemplate
  obtain rfl : body = body' := Option.some.inj (hbody.symm.trans hbody')
  rfl

theorem isPlain_of_mem_markdownBody : ∀ node ∈ markdownBody, node.IsPlain := by
  have hblock : ∀ node ∈ markdownBlock, node.IsPlain := by
    simp only [markdownBlock, List.forall_mem_cons, List.not_mem_nil, false_imp_iff, implies_true,
      and_true]
    exact ⟨.text _, .output (.attribute ..), .text _, .output (.variable _), .text _,
      .output (.attribute ..), .text _⟩
  simp only [markdownBody, List.forall_mem_cons, List.not_mem_nil, false_imp_iff, implies_true,
    and_true]
  exact ⟨.text _, .output (.variable _), .text _, .output (.variable _), .text _,
    .loop "file" "files" hblock⟩

/-! ## Rendering -/

open Template.Node (renderAll?_cons renderAll?_text_cons renderAll?_output_cons renderAll?_nil)

namespace Snapshot

/-- A snapshot as a template sees it. -/
def value (snapshot : Snapshot) : Value :=
  .map [("contents", .string snapshot.text), ("name", .string snapshot.name)]

variable {language : String} {scope : Scope}

/-- One pass of the loop over the files writes the block of its file, and assigns nothing. -/
theorem renderAll?_markdownBlock {snapshot : Snapshot}
    (hfile : scope.find? "file" = some snapshot.value)
    (hlanguage : scope.find? "language" = some (.string language)) :
    Template.Node.renderAll? markdownBlock scope = some (snapshot.block language, scope) := by
  have hname : (Expr.attribute (.variable "file") "name").eval? scope =
      some (.string snapshot.name) := by
    rw [Expr.eval?, Expr.eval?_variable hfile]
    rfl
  have hcontents : (Expr.attribute (.variable "file") "contents").eval? scope =
      some (.string snapshot.text) := by
    rw [Expr.eval?, Expr.eval?_variable hfile]
    rfl
  have hparts := renderAll?_text_cons "## File: `" <| renderAll?_output_cons hname <|
    renderAll?_text_cons "`\n```" <| renderAll?_output_cons (Expr.eval?_variable hlanguage) <|
    renderAll?_text_cons "\n" <| renderAll?_output_cons hcontents <|
    renderAll?_text_cons "\n```\n---\n" <| renderAll?_nil scope
  simpa only [markdownBlock, block, Value.text, Value.plainText, String.append_assoc,
    String.append_empty] using hparts

/-- The loop over the files writes their blocks in order. The language stays in scope, as each pass
assigns only the loop's own variables. -/
theorem passes?_markdownBlock (depth length : Nat) (snapshots : List Snapshot) :
    ∀ (previous : Value) (index : Nat) (scope : Scope),
      scope.find? "language" = some (.string language) →
      passes? ["file"] depth length (fun scope => Template.Node.renderAll? markdownBlock scope)
        previous index (snapshots.map value) scope = some (blocks language snapshots) := by
  induction snapshots with
  | nil => intro _ _ _ _; rfl
  | cons snapshot rest ih =>
    intro previous index scope hlanguage
    let facts := Scope.loopFacts depth index length previous ((rest.map value).headD .undefined)
    let inner := (scope.assign Scope.loopName facts).assign "file" snapshot.value
    have hinner : inner.find? "language" = some (.string language) := by
      simp only [inner]
      rw [Scope.find?_assign_of_ne (by decide), Scope.find?_assign_of_ne (by decide), hlanguage]
    have hblock : Template.Node.renderAll? markdownBlock inner =
        some (snapshot.block language, inner) :=
      renderAll?_markdownBlock (Scope.find?_assign ..) hinner
    change (Template.Node.renderAll? markdownBlock inner).bind _ = _
    rw [hblock, Option.bind_some]
    change (passes? _ _ _ _ _ _ (rest.map value) inner).map _ = _
    rw [ih _ _ _ hinner]
    rfl

/-- The whole loop over the files. Over no files it writes nothing. -/
theorem render?_filesLoop {snapshots : List Snapshot}
    (hfiles : scope.find? "files" = some (.list (snapshots.map value)))
    (hlanguage : scope.find? "language" = some (.string language)) :
    Template.Node.render? (.loop ["file"] (.variable "files") none markdownBlock []) scope =
      some (blocks language snapshots, scope) := by
  have hpassing (elements : List Value) :
      passing? ["file"] none scope elements = some elements := by
    cases elements <;> rfl
  have hpasses := passes?_markdownBlock scope.loopDepth.toNat snapshots.length snapshots
    .undefined 0 ([] :: scope) hlanguage
  simp only [Template.Node.render?, Expr.eval?, hfiles, Option.getD_some, Option.bind_some,
    Value.items?, hpassing, List.length_map]
  cases snapshots with
  | nil => rfl
  | cons snapshot rest => simpa using hpasses

end Snapshot

namespace DocumentOptions

/-- Options with the built-in template. -/
def builtin (title language : String) : DocumentOptions := ⟨title, language, builtinTemplate⟩

variable (options : DocumentOptions) (fs : FileSystem) (bundle : Bundle)

theorem render?_markdownBody :
    Body.render? markdownBody (options.values bundle) = some (options.layout bundle) := by
  let scope : Scope := [[], options.values bundle]
  have htitle : scope.find? "title" = some (.string options.title) := rfl
  have hcount : scope.find? "count" = some (.integer bundle.size) := rfl
  have hfiles : scope.find? "files" = some (.list (bundle.entries.map Snapshot.value)) := rfl
  have hlanguage : scope.find? "language" = some (.string options.language) := rfl
  have hloop := Snapshot.render?_filesLoop hfiles hlanguage
  have hbody : Template.Node.renderAll? markdownBody scope =
      some (options.layout bundle, scope) := by
    have hparts := renderAll?_text_cons "# " <|
      renderAll?_output_cons (Expr.eval?_variable htitle) <|
      renderAll?_text_cons "\n**Total files:** " <|
      renderAll?_output_cons (Expr.eval?_variable hcount) <|
      renderAll?_text_cons "\n\n" <| renderAll?_cons hloop (renderAll?_nil scope)
    have hsize : toString (bundle.size : Int) = toString bundle.size := rfl
    simpa only [markdownBody, layout, hsize, Value.text, Value.plainText, String.append_assoc,
      String.append_empty] using hparts
  rw [Body.render?, hbody, Option.map_some]

section Engine

variable [TemplateEngine] (hengine : TemplateEngine.RendersPlain)

include hengine

/-- The text of the built-in template renders to the layout under each name that asks for no
escaping. -/
theorem renderBy_markdownTemplate {name : String} (hname : '.' ∉ name.toList) :
    options.renderBy ⟨name, markdownTemplate⟩ bundle = .ok (options.layout bundle) := by
  obtain ⟨template, htemplate⟩ := Option.isSome_iff_exists.mp (TemplateEngine.takesBuiltin name)
  have hplain := hengine.render_eq hname body_markdownTemplate isPlain_of_mem_markdownBody htemplate
  rw [renderBy, htemplate]
  simp only [hplain, render?_markdownBody]

/-- The built-in template renders to the layout, whatever the title, the language and the
snapshots are; an empty bundle has no document. -/
theorem render_builtin (title language : String) :
    (builtin title language).render fs bundle =
      .ok (if bundle.isEmpty then "" else (builtin title language).layout bundle) := by
  have hsource : (builtin title language).templateSource fs =
      .ok ⟨builtinTemplate, markdownTemplate⟩ := by
    rw [templateSource, builtin, if_pos rfl]
  rw [render]
  split
  · rfl
  · rw [hsource, Except.bind, renderBy_markdownTemplate _ _ hengine (by decide)]

end Engine

/-! ## The same template in a file -/

/-- A file that can be read as text is found as a template. -/
theorem templateSource_of_readText {cs : List Char} (hname : options.template ≠ builtinTemplate)
    (hread : fs.readText (.ofString options.template) = .ok cs) :
    options.templateSource fs = .ok ⟨externalTemplate, String.ofList cs⟩ := by
  have hholds : fs.holds (.ofString options.template) := FileSystem.holds_of_readText_eq_ok hread
  rw [templateSource]
  simp only [if_neg hname, if_pos hholds, hread]

/-- A bundle with something in it is rendered to the layout by the built-in template, with every
title, language, name and text standing in it as it is. A file that holds that template renders each
bundle to the same document, be it empty or not. -/
theorem render_markdownTemplate [TemplateEngine] (hengine : TemplateEngine.RendersPlain)
    (title language : String) :
    (¬ bundle.isEmpty → (builtin title language).render fs bundle =
        .ok ("# " ++ title ++ "\n**Total files:** " ++ toString bundle.size ++ "\n\n" ++
          Snapshot.blocks language bundle.entries)) ∧
      ∀ path, fs.readText (.ofString path) = .ok markdownTemplate.toList →
        (DocumentOptions.mk title language path).render fs bundle =
          (builtin title language).render fs bundle := by
  refine ⟨fun hstaged => ?_, fun path hread => ?_⟩
  · rw [render_builtin _ _ hengine, if_neg hstaged]
    rfl
  · let options : DocumentOptions := ⟨title, language, path⟩
    by_cases hname : path = builtinTemplate
    · rw [hname]
      rfl
    have hsource : options.templateSource fs = .ok ⟨externalTemplate, markdownTemplate⟩ := by
      rw [options.templateSource_of_readText fs hname hread, String.ofList_toList]
    change options.render fs bundle = _
    rw [render_builtin _ _ hengine, render]
    split
    · rfl
    · rw [hsource, Except.bind, renderBy_markdownTemplate _ _ hengine (by decide)]
      -- The layout makes no use of the name of the template.
      rfl

/-- A file that holds the built-in template. -/
def templateFiles : FileSystem :=
  { entries := [([Utf8.encode "own.md".toList], .file (Utf8.encode markdownTemplate.toList) false)]
    working := [] }

/-- A bundle with names and texts that look like parts of a template or of a document. -/
def bracedBundle : Bundle :=
  { entries :=
      [⟨"<a>.cs", "\n\x7b\x7b title \x7d\x7d\n"⟩, ⟨"b`.cs", "```\n---\n\x7b% endfor %\x7d"⟩]
    nodup := by decide }

/-- The document of that bundle, whichever way the template is found. -/
theorem render_markdownTemplate_bracedBundle :
    TemplateEngine.RendersPlain ∧ ¬ bracedBundle.isEmpty ∧
      templateFiles.readText (.ofString "own.md") = .ok markdownTemplate.toList ∧
      (DocumentOptions.mk "\x7b% if a & b %\x7d\n" "c\x7b\x7b" "own.md").render templateFiles
          bracedBundle =
        .ok ("# \x7b% if a & b %\x7d\n\n**Total files:** 2\n\n" ++
          "## File: `<a>.cs`\n```c\x7b\x7b\n\n\x7b\x7b title \x7d\x7d\n\n```\n---\n" ++
          "## File: `b`.cs`\n```c\x7b\x7b\n```\n---\n\x7b% endfor %\x7d\n```\n---\n") := by
  have hstaged : ¬ bracedBundle.isEmpty := by decide
  have hread : templateFiles.readText (.ofString "own.md") = .ok markdownTemplate.toList := by
    decide +kernel
  obtain ⟨hbuiltin, hfile⟩ := render_markdownTemplate templateFiles bracedBundle
    Body.rendersPlain "\x7b% if a & b %\x7d\n" "c\x7b\x7b"
  refine ⟨Body.rendersPlain, hstaged, hread, ?_⟩
  rw [hfile "own.md" hread, hbuiltin hstaged]
  decide +kernel

end DocumentOptions

end RedactedBundle
