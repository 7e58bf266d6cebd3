import SpriteRenderer.Renderer.Device

/-!
# The compiled program of a renderer

A renderer has one shader program. It is compiled when first needed and kept
for good; a failed compilation is kept as well, and its error repeated
without asking the device again.
-/

namespace SpriteRenderer

/-- How far a program has got. -/
inductive ProgramState (P : Type) where
  | uncompiled
  | ready (program : P)
  | failed (log : String)

/-- A shader source and the outcome of compiling it. -/
structure ShaderCache (P : Type) where
  source : ShaderSource
  state : ProgramState P

/-- News about a compilation. -/
inductive ShaderNotice where
  | compiled (name : String)
  | rejected (name log : String)
deriving DecidableEq

def ShaderNotice.record : ShaderNotice → LogRecord
  | .compiled name => ⟨.debug, s!"shader `{name}` compiled"⟩
  | .rejected name log => ⟨.error, s!"shader `{name}` failed to compile:\n{log}"⟩

namespace ShaderCache

variable {ε σ P T : Type}

def ofSource (source : ShaderSource) : ShaderCache P := ⟨source, .uncompiled⟩

def isCompiled (c : ShaderCache P) : Bool :=
  match c.state with
  | .ready _ => true
  | _ => false

/-- The state after the device answered a compile request. -/
def settle (c : ShaderCache P) : Except String P → ShaderCache P
  | .ok program => { c with state := .ready program }
  | .error log => { c with state := .failed log }

/-- What to say about the device's answer. -/
def notice (c : ShaderCache P) : Except String P → ShaderNotice
  | .ok _ => .compiled c.source.name
  | .error log => .rejected c.source.name log

/-- The program, or why there is none. An uncompiled cache has no answer. -/
def program? (c : ShaderCache P) : Option (Except RenderError P) :=
  match c.state with
  | .uncompiled => none
  | .ready program => some (.ok program)
  | .failed log => some (.error (.shaderCompileFailure c.source.name log))

/-- A use of the cache: the program, the cache after it, what was asked of
the device and what there is to say. -/
structure Lookup (P T : Type) where
  outcome : Except RenderError P
  cache : ShaderCache P
  calls : List (Call P T)
  notices : List ShaderNotice

/-- What a device's answer makes of an uncompiled cache. -/
def Lookup.ofAnswer (c : ShaderCache P) (answer : Except String P) : Lookup P T where
  outcome := answer.mapError (.shaderCompileFailure c.source.name)
  cache := c.settle answer
  calls := [.compile c.source]
  notices := [c.notice answer]

/-- The program, compiled by the device if this is the first use. -/
def ensureCompiled (c : ShaderCache P) (B : Backend ε σ P T) : Effect ε σ (Lookup P T) :=
  match c.program? with
  | some outcome => pure ⟨outcome, c, [], []⟩
  | none => do return .ofAnswer c (← B.compile c.source)

end ShaderCache

end SpriteRenderer
