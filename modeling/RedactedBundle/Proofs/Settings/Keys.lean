import Mathlib.Algebra.BigOperators.Group.List.Basic
import RedactedBundle.Settings.Layers

/-!
# The keys of the settings

Settings consist of what they hold under nine keys. A layer has a value of its own under a key if
it mentions the key; outside of the settings for the document, repeating the built-in value is no
different from not mentioning the key. Merging takes under each key the later layer's own value, and
without one the earlier layer's. So layers form a monoid, whose unit is the layer that mentions
nothing.

## Main definitions

- `Setting`, `Settings.Key`: what is set, and under which keys
- `Settings.get`, `Settings.own?`: the value in effect under a key, and the own value of a layer
- `Settings.Key.written?`, `Settings.Key.counted?`: the value that a text writes for a key, and the
  one that makes a difference

## Main statements

- `Settings.get_eq`: the value in effect is the own one, or else the built-in one
- `Settings.own?_merge`: the own values of merged layers
- `Settings.merge_assoc`, `Settings.unset_merge`, `Settings.merge_unset`: layers form a monoid
- `Settings.own?_prod`: of several layers the last one with an own value counts
- `Settings.own?_of_ofToml?_eq_some`: the own values of a layer are those written in its text
-/

namespace RedactedBundle

/-- What can be set under a key. -/
inductive Setting where
  | text (t : String)
  | texts (ts : List String)
  deriving Repr, DecidableEq, Inhabited

/-- A value of a TOML document as a setting; only texts and lists of texts are settings. -/
def Setting.ofValue? : Toml.Value → Option Setting
  | .string t => some (.text t)
  | .array values => (Settings.texts? values).map .texts
  | _ => none

namespace Settings

/-- The keys of the settings. -/
inductive Key where
  | patterns
  | outputFile
  | placeholderFile
  | methodComment
  | classComment
  | title
  | language
  | template
  | theme
  deriving Repr, DecidableEq, Inhabited

namespace Key

/-- The section of a document in which the key stands. -/
def sectionName : Key → String
  | .patterns | .outputFile | .placeholderFile => "project"
  | .methodComment | .classComment => "redaction"
  | .title | .language | .template => "export"
  | .theme => "ui"

/-- The name of the key in its section. -/
def name : Key → String
  | .patterns => "extensions"
  | .outputFile => "output_file"
  | .placeholderFile => "placeholder_file"
  | .methodComment => "method_placeholder"
  | .classComment => "class_placeholder"
  | .title => "title"
  | .language => "language"
  | .template => "template"
  | .theme => "theme"

/-- The place of the key in a section whose values are given in order. -/
def place : Key → Nat
  | .patterns | .methodComment | .title | .theme => 0
  | .outputFile | .classComment | .language => 1
  | .placeholderFile | .template => 2

/-- The key is one of the settings for the document, for which every mention counts. -/
def isDocument : Key → Bool
  | .title | .language | .template => true
  | _ => false

/-- What a text writes for a key. -/
def written? [TomlReader] (key : Key) (cs : List Char) : Option Setting :=
  (TomlReader.parse? cs).bind fun document =>
    (section? document key.sectionName).bind fun found =>
      (found.value? key.name key.place).bind Setting.ofValue?

end Key

/-- The value in effect under a key. -/
def get (settings : Settings) : Key → Setting
  | .patterns => .texts settings.project.patterns
  | .outputFile => .text settings.project.outputFile
  | .placeholderFile => .text settings.project.placeholderFile
  | .methodComment => .text settings.placeholders.methodComment
  | .classComment => .text settings.placeholders.classComment
  | .title => .text settings.title
  | .language => .text settings.language
  | .template => .text settings.template
  | .theme => .text settings.theme

/-- The built-in value of a key. -/
def Key.standard (key : Key) : Setting := builtin.get key

/-- What a text writes for a key, if it makes a difference: outside of the settings for the document
the built-in value makes none. -/
def Key.counted? [TomlReader] (key : Key) (cs : List Char) : Option Setting :=
  (key.written? cs).filter fun setting => key.isDocument || setting ≠ key.standard

/-- A value, unless it is the built-in one. -/
def differing? {α : Type} [DecidableEq α] (standard value : α) : Option α :=
  if value = standard then none else some value

/-- The value that a layer has of its own under a key. -/
def own? (settings : Settings) : Key → Option Setting
  | .title => settings.document.title.map .text
  | .language => settings.document.language.map .text
  | .template => settings.document.template.map .text
  | key => differing? key.standard (settings.get key)

/-! ## Values that differ from the built-in one -/

section Differing

variable {α β : Type} [DecidableEq α] [DecidableEq β] {standard earlier later : α}

theorem differing?_choose :
    differing? standard (choose standard earlier later) =
      (differing? standard later).or (differing? standard earlier) := by
  by_cases h : later = standard <;> simp [differing?, choose, h]

theorem getD_differing? (value : α) : (differing? standard value).getD standard = value := by
  by_cases h : value = standard <;> simp [differing?, h]

theorem differing?_getD (written : Option α) :
    differing? standard (written.getD standard) = written.filter (· ≠ standard) := by
  cases written with
  | none => simp [differing?]
  | some value => by_cases h : value = standard <;> simp [differing?, h, Option.filter]

theorem map_choose {f : α → β} (hf : f.Injective) (standard earlier later : α) :
    f (choose standard earlier later) = choose (f standard) (f earlier) (f later) := by
  by_cases h : later = standard <;> simp [choose, h, hf.eq_iff]

end Differing

/-! ## Own values -/

section Own

variable {settings settings' : Settings} {key : Key}

theorem own?_eq_differing? (settings : Settings) (hkey : key.isDocument = false) :
    settings.own? key = differing? key.standard (settings.get key) := by
  cases key <;> first | rfl | cases hkey

theorem get_eq (settings : Settings) (key : Key) :
    settings.get key = (settings.own? key).getD key.standard := by
  cases hkey : key.isDocument with
  | false => rw [own?_eq_differing? settings hkey, getD_differing?]
  | true =>
    cases key with
    | title => exact (Option.getD_map ..).symm
    | language => exact (Option.getD_map ..).symm
    | template => exact (Option.getD_map ..).symm
    | _ => cases hkey

theorem own?_unset (key : Key) : unset.own? key = none := by
  cases key <;> rfl

theorem eq_of_own?_eq (h : ∀ key, settings.own? key = settings'.own? key) :
    settings = settings' := by
  have hget (key : Key) : settings.get key = settings'.get key := by rw [get_eq, get_eq, h]
  have htext : Function.Injective (Option.map Setting.text) :=
    Option.map_injective fun _ _ heq => Setting.text.inj heq
  obtain ⟨⟨patterns, outputFile, placeholderFile⟩, ⟨methodComment, classComment⟩,
    ⟨title, language, template⟩, theme⟩ := settings
  obtain ⟨⟨patterns', outputFile', placeholderFile'⟩, ⟨methodComment', classComment'⟩,
    ⟨title', language', template'⟩, theme'⟩ := settings'
  obtain rfl : patterns = patterns' := Setting.texts.inj (hget .patterns)
  obtain rfl : outputFile = outputFile' := Setting.text.inj (hget .outputFile)
  obtain rfl : placeholderFile = placeholderFile' := Setting.text.inj (hget .placeholderFile)
  obtain rfl : methodComment = methodComment' := Setting.text.inj (hget .methodComment)
  obtain rfl : classComment = classComment' := Setting.text.inj (hget .classComment)
  obtain rfl : title = title' := htext (h .title)
  obtain rfl : language = language' := htext (h .language)
  obtain rfl : template = template' := htext (h .template)
  obtain rfl : theme = theme' := Setting.text.inj (hget .theme)
  rfl

/-! ## Merging -/

theorem get_merge (earlier later : Settings) (hkey : key.isDocument = false) :
    (earlier.merge later).get key = choose key.standard (earlier.get key) (later.get key) := by
  have htext : Setting.text.Injective := fun _ _ heq => Setting.text.inj heq
  cases key with
  | patterns => exact map_choose (fun _ _ heq => Setting.texts.inj heq) _ _ _
  | outputFile => exact map_choose htext _ _ _
  | placeholderFile => exact map_choose htext _ _ _
  | methodComment => exact map_choose htext _ _ _
  | classComment => exact map_choose htext _ _ _
  | theme => exact map_choose htext _ _ _
  | _ => cases hkey

/-- Under each key, merged layers have the own value of the later one, or else of the earlier. -/
theorem own?_merge (earlier later : Settings) (key : Key) :
    (earlier.merge later).own? key = (later.own? key).or (earlier.own? key) := by
  cases hkey : key.isDocument with
  | false =>
    rw [own?_eq_differing? _ hkey, own?_eq_differing? _ hkey, own?_eq_differing? _ hkey,
      get_merge _ _ hkey, differing?_choose]
  | true =>
    cases key with
    | title => exact Option.map_or
    | language => exact Option.map_or
    | template => exact Option.map_or
    | _ => cases hkey

theorem merge_assoc (a b c : Settings) : (a.merge b).merge c = a.merge (b.merge c) :=
  eq_of_own?_eq fun key => by simp only [own?_merge, Option.or_assoc]

theorem unset_merge (settings : Settings) : unset.merge settings = settings :=
  eq_of_own?_eq fun key => by rw [own?_merge, own?_unset, Option.or_none]

theorem merge_unset (settings : Settings) : settings.merge unset = settings :=
  eq_of_own?_eq fun key => by rw [own?_merge, own?_unset, Option.none_or]

/-- Layers as the factors of a product, the earliest one first. -/
instance : Monoid Settings where
  mul := merge
  one := unset
  mul_assoc := merge_assoc
  one_mul := unset_merge
  mul_one := merge_unset

theorem mul_eq_merge (earlier later : Settings) : earlier * later = earlier.merge later := rfl

/-- Of several layers, the last one that has an own value under a key decides. -/
theorem own?_prod (layers : List Settings) (key : Key) :
    layers.prod.own? key = layers.reverse.findSome? (·.own? key) := by
  induction layers with
  | nil => exact own?_unset key
  | cons layer rest ih =>
    rw [List.prod_cons, mul_eq_merge, own?_merge, ih, List.reverse_cons, List.findSome?_append,
      List.findSome?_singleton]

end Own

/-! ## Layers from texts -/

theorem bind_value?_of_text? {found : Section} {name : String} {place : Nat} {t : Option String}
    (h : found.text? name place = some t) :
    (found.value? name place).bind Setting.ofValue? = t.map .text := by
  rw [Section.text?] at h
  split at h
  · next hvalue => cases h; rw [hvalue]; rfl
  · next hvalue => cases h; rw [hvalue]; rfl
  · cases h

theorem bind_value?_of_texts? {found : Section} {name : String} {place : Nat}
    {ts : Option (List String)} (h : found.texts? name place = some ts) :
    (found.value? name place).bind Setting.ofValue? = ts.map .texts := by
  rw [Section.texts?] at h
  split at h
  · next hvalue => cases h; rw [hvalue]; rfl
  · next values hvalue =>
    obtain ⟨inner, hinner, rfl⟩ := Option.map_eq_some_iff.mp h
    rw [hvalue, Option.bind_some, Setting.ofValue?, hinner]
  · cases h

section OfToml

variable [TomlReader] {cs : List Char} {document : List (String × Toml.Value)} {found : Section}
  {key : Key} {layer : Settings}

section Found

variable (key) (hdocument : TomlReader.parse? cs = some document)
  (hfound : section? document key.sectionName = some found)

include hdocument hfound

theorem written?_of_text? {t : Option String} (ht : found.text? key.name key.place = some t) :
    key.written? cs = t.map .text := by
  rw [Key.written?, hdocument, Option.bind_some, hfound, Option.bind_some, bind_value?_of_text? ht]

theorem written?_of_texts? {ts : Option (List String)}
    (hts : found.texts? key.name key.place = some ts) : key.written? cs = ts.map .texts := by
  rw [Key.written?, hdocument, Option.bind_some, hfound, Option.bind_some,
    bind_value?_of_texts? hts]

end Found

theorem own?_of_get_eq (hkey : key.isDocument = false)
    (hget : layer.get key = (key.written? cs).getD key.standard) :
    layer.own? key = key.counted? cs := by
  rw [own?_eq_differing? layer hkey, hget, differing?_getD, Key.counted?, hkey]
  simp only [Bool.false_or]

theorem own?_of_own?_eq (hkey : key.isDocument = true) (hown : layer.own? key = key.written? cs) :
    layer.own? key = key.counted? cs := by
  rw [hown, Key.counted?, hkey]
  cases key.written? cs <;> rfl

/-- The own values of a layer are those written in its text that make a difference. -/
theorem own?_of_ofToml?_eq_some (h : ofToml? cs = some layer) (key : Key) :
    layer.own? key = key.counted? cs := by
  -- Each section is there and each value of its sort, or else the text gives no layer.
  rw [ofToml?] at h
  obtain ⟨document, hdocument, h⟩ := Option.bind_eq_some_iff.mp h
  obtain ⟨project, hproject, h⟩ := Option.bind_eq_some_iff.mp h
  obtain ⟨redaction, hredaction, h⟩ := Option.bind_eq_some_iff.mp h
  obtain ⟨layout, hlayout, h⟩ := Option.bind_eq_some_iff.mp h
  obtain ⟨ui, hui, h⟩ := Option.bind_eq_some_iff.mp h
  obtain ⟨patterns, hpatterns, h⟩ := Option.bind_eq_some_iff.mp h
  obtain ⟨outputFile, houtputFile, h⟩ := Option.bind_eq_some_iff.mp h
  obtain ⟨placeholderFile, hplaceholderFile, h⟩ := Option.bind_eq_some_iff.mp h
  obtain ⟨methodComment, hmethodComment, h⟩ := Option.bind_eq_some_iff.mp h
  obtain ⟨classComment, hclassComment, h⟩ := Option.bind_eq_some_iff.mp h
  obtain ⟨title, htitle, h⟩ := Option.bind_eq_some_iff.mp h
  obtain ⟨language, hlanguage, h⟩ := Option.bind_eq_some_iff.mp h
  obtain ⟨template, htemplate, h⟩ := Option.bind_eq_some_iff.mp h
  obtain ⟨theme, htheme, h⟩ := Option.bind_eq_some_iff.mp h
  cases h
  have hgetD {t : Option String} (standard : String) :
      Setting.text (t.getD standard) = (t.map Setting.text).getD (.text standard) :=
    (Option.getD_map ..).symm
  cases key with
  | patterns =>
    refine own?_of_get_eq rfl ?_
    rw [written?_of_texts? .patterns hdocument hproject hpatterns]
    exact (Option.getD_map ..).symm
  | outputFile =>
    refine own?_of_get_eq rfl ?_
    rw [written?_of_text? .outputFile hdocument hproject houtputFile]
    exact hgetD _
  | placeholderFile =>
    refine own?_of_get_eq rfl ?_
    rw [written?_of_text? .placeholderFile hdocument hproject hplaceholderFile]
    exact hgetD _
  | methodComment =>
    refine own?_of_get_eq rfl ?_
    rw [written?_of_text? .methodComment hdocument hredaction hmethodComment]
    exact hgetD _
  | classComment =>
    refine own?_of_get_eq rfl ?_
    rw [written?_of_text? .classComment hdocument hredaction hclassComment]
    exact hgetD _
  | title => exact own?_of_own?_eq rfl (written?_of_text? .title hdocument hlayout htitle).symm
  | language =>
    exact own?_of_own?_eq rfl (written?_of_text? .language hdocument hlayout hlanguage).symm
  | template =>
    exact own?_of_own?_eq rfl (written?_of_text? .template hdocument hlayout htemplate).symm
  | theme =>
    refine own?_of_get_eq rfl ?_
    rw [written?_of_text? .theme hdocument hui htheme]
    exact hgetD _

/-- A layer whose text mentions no key is the unit of merging. -/
theorem eq_unset_of_written?_eq_none (h : ofToml? cs = some layer)
    (hnone : ∀ key : Key, key.written? cs = none) : layer = unset :=
  eq_of_own?_eq fun key => by
    rw [own?_of_ofToml?_eq_some h, Key.counted?, hnone, own?_unset, Option.filter_none]

end OfToml

end Settings

end RedactedBundle
