/-
  WorkspaceTemplates/Context/Writer.lean
  ======================================
  **Writing contexts.**

  A context is written as a YAML mapping in key order.
-/
import WorkspaceTemplates.Context
import WorkspaceTemplates.Yaml.Writer

namespace WorkspaceTemplates

namespace Value

def toTree : Value → Yaml.Tree
  | .null => .word "null"
  | .bool b => .word (boolText b)
  | .int i => .word (intText i)
  | .text s => .text s
  | .list items => .sequence (items.map .text)
  | .map keys _ value => .mapping (List.ofFn fun i => (keys.get i, toTree (value i)))

def entryTrees (entries : List (String × Value)) : List (String × Yaml.Tree) :=
  entries.map fun e => (e.1, toTree e.2)

theorem toTree_ofDictionary (d : Dictionary Value) :
    (ofDictionary d).toTree = .mapping (entryTrees d.entries) :=
  congrArg Yaml.Tree.mapping (d.ofFn_valueAt fun k v => (k, toTree v))

end Value

namespace Context

def yamlText (ctx : Context) : String := Yaml.documentText (Value.entryTrees ctx.entries)

end Context

end WorkspaceTemplates
