/-!
# Shader sources

A shader source is a text with a name and the names of its two entry points.
Of the text itself only two facts matter here, its length and the entry
points it defines; reading the shading language is the device's business.
-/

namespace SpriteRenderer

/-- The pipeline stage of an entry point. -/
inductive ShaderStage where
  | vertex
  | fragment
deriving DecidableEq

def ShaderStage.label : ShaderStage → String
  | .vertex => "Vertex"
  | .fragment => "Fragment"

/-- A function that a pipeline stage can start with. -/
structure EntryPoint where
  name : String
  stage : ShaderStage
deriving DecidableEq

/-- A shader text, by its length and its entry points in order. -/
structure ShaderText where
  byteLength : Nat
  entryPoints : List EntryPoint
deriving DecidableEq

/-- A named shader text and the entry points it is meant to be run by. -/
structure ShaderSource where
  name : String
  text : ShaderText
  vertexEntry : String
  fragmentEntry : String
deriving DecidableEq

namespace ShaderText

/-- The sprite program: projection, tint, colour offset, alpha discard. -/
def sprite : ShaderText := ⟨1374, [⟨"vs_main", .vertex⟩, ⟨"fs_main", .fragment⟩]⟩

def empty : ShaderText := ⟨0, []⟩

end ShaderText

namespace ShaderSource

/-- The one shader of a renderer. -/
def sprite : ShaderSource := ⟨"sprite", .sprite, "vs_main", "fs_main"⟩

/-- Refuses a source whose text lacks one of its entry points, the vertex
stage first; otherwise lists what the text defines. -/
def check (s : ShaderSource) : Except String (List EntryPoint) :=
  let missing := [EntryPoint.mk s.vertexEntry .vertex, EntryPoint.mk s.fragmentEntry .fragment].find?
    fun wanted => !s.text.entryPoints.contains wanted
  match missing with
  | some wanted =>
      .error s!"shader `{s.name}`: missing {wanted.stage.label} entry point `{wanted.name}`"
  | none => .ok s.text.entryPoints

end ShaderSource

end SpriteRenderer
