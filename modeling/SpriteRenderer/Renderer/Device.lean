import SpriteRenderer.Effect
import SpriteRenderer.Execution
import SpriteRenderer.Frame.Basic
import SpriteRenderer.Shader.Source

/-!
# What a renderer asks of a device

A renderer speaks to a device in commands that need no answer and in two
requests that do: compiling the shader and uploading geometry. `Backend` is
the device's side of it, for devices with programs `P`, textures `T`, a state
`σ` and observable events `ε`; `Call` is what a renderer said, in order.
-/

namespace SpriteRenderer

/-- What a renderer tells a device. State set by a command stays in force
until it is set again. -/
inductive Command (P T : Type) where
  | stencilTest (on : Bool)
  | scissorTest (on : Bool)
  | clear (color : Rgba Binary32) (stencil : UInt32)
  | useProgram (program : P) (projection : Projection)
  | drawing (command : DrawCommand T)
  | releaseGeometry
deriving DecidableEq

/-- One thing a renderer said to its device. -/
inductive Call (P T : Type) where
  | command (command : Command P T)
  | compile (source : ShaderSource)
  /-- An upload, and whether the device took it. -/
  | upload (vertices : List Vertex) (indices : List UInt16) (accepted : Bool)
deriving DecidableEq

/-- A device as a renderer sees it. -/
structure Backend (ε σ P T : Type) where
  /-- The size of the current target. -/
  viewport : σ → Viewport
  perform : Command P T → Effect ε σ Unit
  /-- Compiles the program, or tells why not. -/
  compile : ShaderSource → Effect ε σ (Except String P)
  /-- Creates the frame's vertex and index buffers. -/
  upload : List Vertex → List UInt16 → Effect ε σ (Except RenderError Unit)

/-- Performs commands in order. -/
def Backend.performAll {ε σ P T : Type} (B : Backend ε σ P T) :
    List (Command P T) → Effect ε σ Unit
  | [] => pure ()
  | c :: rest => do
      B.perform c
      B.performAll rest

/-! ## A device that only rehearses -/

/-- A device that draws nothing: it answers as it is told, and numbers the
programs it compiles. -/
structure Rehearsal where
  viewport : Viewport
  compileError : Option String
  uploadError : Option String
  /-- Programs compiled so far. -/
  programs : Nat

namespace Rehearsal

def start (viewport : Viewport) : Rehearsal := ⟨viewport, none, none, 0⟩

def compile : Effect Empty Rehearsal (Except String Nat) := do
  let s ← Effect.get
  match s.compileError with
  | some log => return .error log
  | none =>
      Effect.set { s with programs := s.programs + 1 }
      return .ok (s.programs + 1)

def upload : Effect Empty Rehearsal (Except RenderError Unit) := do
  let s ← Effect.get
  match s.uploadError with
  | some text => return .error (.backend (.reported text))
  | none => return .ok ()

def backend (T : Type) : Backend Empty Rehearsal Nat T where
  viewport := Rehearsal.viewport
  perform _ := pure ()
  compile _ := compile
  upload _ _ := upload

/-- The calls that reached the device; an upload that it refused left no
mark. -/
def reached {P T : Type} (calls : List (Call P T)) : List (Call P T) :=
  calls.filter fun
    | .upload _ _ false => false
    | _ => true

end Rehearsal

end SpriteRenderer
