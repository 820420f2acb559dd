/-
  WorkspaceTemplates/Config/Reader.lean
  =====================================
  **Reading configurations.**

  A configuration is a YAML mapping, or a JSON record, of fields that may all be
  left out.  Numbers and truth values have to be plain scalars, texts may be any
  scalars, and what is left blank counts as an empty mapping or sequence.  Fields
  that are not known are ignored; known ones may not come twice.
-/
import WorkspaceTemplates.Config
import WorkspaceTemplates.Json.Reader
import WorkspaceTemplates.Json.Record
import WorkspaceTemplates.Text.Blank
import WorkspaceTemplates.Yaml.Meaning

namespace WorkspaceTemplates.Config

open Yaml (Node Document)

/-! ### Scalars of YAML documents -/

/-- Whether a scalar counts as more than a text: a plain one, or a literal one with the tag. -/
def speaksAs (tag : Yaml.Tag) (style : Yaml.ScalarStyle) (found : Option Yaml.Tag) : Bool :=
  style = .plain || (style = .literal && found = some tag)

/-- A natural number of 32 bits. -/
def versionOf? : Node → Option UInt32
  | .scalar _ tag style s =>
    if speaksAs Yaml.Tag.int style tag && !s.startsWith "-" then
      (Yaml.integerOfText? s).bind fun i =>
        if i < UInt32.size then some (UInt32.ofNat i.toNat) else none
    else none
  | _ => none

def boolOf? : Node → Option Bool
  | .scalar _ tag style s => if speaksAs Yaml.Tag.bool style tag then Yaml.boolOfText? s else none
  | _ => none

/-- A text, whatever the scalar that holds it. -/
def textOf? : Node → Option String
  | .scalar _ _ _ s => some s
  | _ => none

def optionalTextOf? : Node → Option (Option String)
  | .scalar _ tag .plain s =>
    if tag = some Yaml.Tag.null then (if Yaml.isNullText s then some none else none)
    else if tag.isNone && (s.isEmpty || Yaml.isNullText s) then some none
    else some (some s)
  | .scalar _ _ _ s => some (some s)
  | _ => none

/-! ### Collections of YAML documents -/

/-- A node that is no alias, read by `read`; the counter says how often aliases were followed. -/
def followed {α : Type} (d : Document) (read : Node → Option α) (n : Node) (used : Nat) :
    Option (α × Nat) :=
  (d.follow? n used).bind fun (n, used) => (read n).map (·, used)

/-- Read entries one after another into a record.  `field` says how an entry of a name changes the
    record, for names that are known; `seen` are the names of the entries before. -/
def readFields {α : Type} (d : Document)
    (field : String → Option (Node → Nat → α → Option (α × Nat))) :
    List String → List (Node × Node) → Nat → α → Option (α × Nat)
  | _, [], used, record => some (record, used)
  | seen, (k, v) :: rest, used, record =>
    (followed d textOf? k used).bind fun (name, used) =>
      match field name with
      -- a name that is not known may come twice, and its value is passed over unread
      | none => readFields d field seen rest used record
      | some read =>
        if seen.contains name then none
        else
          (read v used record).bind fun (record, used) =>
            readFields d field (name :: seen) rest used record

def readRecord {α : Type} (d : Document)
    (field : String → Option (Node → Nat → α → Option (α × Nat)))
    (n : Node) (used : Nat) (record : α) : Option (α × Nat) :=
  (d.follow? n used).bind fun (n, used) =>
    match n with
    | .mapping _ _ entries => readFields d field [] entries used record
    | n => if Document.isVoid n then some (record, used) else none

def readTexts (d : Document) : List Node → Nat → Option (List String × Nat)
  | [], used => some ([], used)
  | n :: rest, used =>
    (followed d textOf? n used).bind fun (s, used) =>
      (readTexts d rest used).map fun (ss, used) => (s :: ss, used)

/-! ### Configurations in YAML -/

def scalarField {α : Type} (d : Document) (read : Node → Option α)
    (set : α → Config → Config) (n : Node) (used : Nat) (c : Config) : Option (Config × Nat) :=
  (followed d read n used).map fun (x, used) => (set x c, used)

def readLevels (d : Document) (n : Node) (used : Nat) (c : Config) : Option (Config × Nat) :=
  (d.follow? n used).bind fun (n, used) =>
    match n with
    | .sequence _ _ items =>
      (readTexts d items used).map fun (ls, used) => ({ c with levels := ls }, used)
    | n => if Document.isVoid n then some ({ c with levels := [] }, used) else none

def rulesField (d : Document) (name : String) :
    Option (Node → Nat → Config → Option (Config × Nat)) :=
  if name == "levels" then some (readLevels d) else none

def field (d : Document) (name : String) :
    Option (Node → Nat → Config → Option (Config × Nat)) :=
  match name with
  | "version" => some (scalarField d versionOf? fun v c => { c with version := v })
  | "templates_dir" =>
    some (scalarField d optionalTextOf? fun dir c => { c with templatesDir? := dir })
  | "strict" => some (scalarField d boolOf? fun b c => { c with strict := b })
  | "overwrite" => some (scalarField d boolOf? fun b c => { c with overwrite := b })
  | "rules" => some (readRecord d (rulesField d))
  | _ => none

def ofDocument? (d : Document) : Option Config :=
  match d.root with
  | none => some standard
  | some n => (readRecord d (field d) n 0 standard).map (·.1)

def ofYamlText (text : String) : Except Fault Config :=
  match (Document.parse? text).bind ofDocument? with
  | some c => .ok c
  | none => .error .yaml

/-- Read the configuration of the workspace at a root.  Without a file, or with one of blanks, it
    is the standard one. -/
def load (disk : Disk) (root : String) : Except Fault Config :=
  let path := Path.join root Layout.config
  if !disk.exists? path then .ok standard
  else
    match disk.readText path with
    | .ok text => if Text.isAllBlank text then .ok standard else ofYamlText text
    | .error f => .error f

/-! ### Configurations in JSON -/

def versionOfJson? : Json → Option UInt32
  | .number (.natural n) => if n < UInt32.size then some (UInt32.ofNat n) else none
  | _ => none

def optionalTextOfJson? : Json → Option (Option String)
  | .null => some none
  | j => j.string?.map some

def levelsOfJson? (j : Json) : Option (List String) :=
  match j.fields? ["levels"] with
  | some [levels] => Json.orElse Json.strings? [] levels
  | _ => none

def ofJson? (j : Json) : Option Config :=
  match j.fields? ["version", "templates_dir", "strict", "overwrite", "rules"] with
  | some [version, dir, strict, overwrite, rules] => do
    let version ← Json.orElse versionOfJson? standard.version version
    let dir ← Json.orElse optionalTextOfJson? standard.templatesDir? dir
    let strict ← Json.orElse Json.bool? standard.strict strict
    let overwrite ← Json.orElse Json.bool? standard.overwrite overwrite
    let levels ← Json.orElse levelsOfJson? standard.levels rules
    return ⟨version, dir, strict, overwrite, levels⟩
  | _ => none

end WorkspaceTemplates.Config
