import SpriteRenderer.Fault
import SpriteRenderer.Effect
import SpriteRenderer.Binary32
import SpriteRenderer.Binary32.Sine
import SpriteRenderer.Color
import SpriteRenderer.Vertex
import SpriteRenderer.Blend
import SpriteRenderer.Scissor
import SpriteRenderer.Batch
import SpriteRenderer.RenderError
import SpriteRenderer.Frame.Basic
import SpriteRenderer.Frame.Validation
import SpriteRenderer.Projection
import SpriteRenderer.Texture.Handle
import SpriteRenderer.Texture.Pool
import SpriteRenderer.Shader.Shading
import SpriteRenderer.Log
import SpriteRenderer.Shader.Source
import SpriteRenderer.Execution
import SpriteRenderer.Renderer.Device
import SpriteRenderer.Shader.Cache
import SpriteRenderer.Renderer.Basic
import SpriteRenderer.Clock
import SpriteRenderer.Quads
import SpriteRenderer.FrameBuilder
import SpriteRenderer.Viewer.Checkerboard
import SpriteRenderer.Viewer.Scene
import SpriteRenderer.Blank
import SpriteRenderer.LogFilter
import SpriteRenderer.Host.Failure
import SpriteRenderer.Host.Control
import SpriteRenderer.Graphics.Format
import SpriteRenderer.Graphics.Call
import SpriteRenderer.Graphics.Device
import SpriteRenderer.Sprite.Texture
import SpriteRenderer.Sprite.Program
import SpriteRenderer.Sprite.Pass
import SpriteRenderer.Surface.Choice
import SpriteRenderer.Surface.Error
import SpriteRenderer.Surface.Context
import SpriteRenderer.Decimal
import SpriteRenderer.Binary64
import SpriteRenderer.Host.Call
import SpriteRenderer.Host.App
import SpriteRenderer.Host.Platform
import SpriteRenderer.Host.Loop
import SpriteRenderer.Host.Scripted
import SpriteRenderer.Viewer.App
import SpriteRenderer.Graphics.Label
import SpriteRenderer.Host.Label
import SpriteRenderer.Listing
import SpriteRenderer.Graphics.Listing
import SpriteRenderer.Renderer.Listing
import SpriteRenderer.Host.Listing
import SpriteRenderer.Main
import SpriteRenderer.Proofs.Effect
import SpriteRenderer.Proofs.Frame
import SpriteRenderer.Proofs.Elision
import SpriteRenderer.Proofs.FrameCourse
import SpriteRenderer.Proofs.CallProtocol
import SpriteRenderer.Proofs.Extent
import SpriteRenderer.Proofs.Recording
import SpriteRenderer.Proofs.PassReplay
import SpriteRenderer.Proofs.DrawBounds
import SpriteRenderer.Proofs.PoolInvariant
import SpriteRenderer.Proofs.Packing
import SpriteRenderer.Proofs.QuadFrame
import SpriteRenderer.Proofs.QuadsDrawn
import SpriteRenderer.Proofs.DroppedFrames
import SpriteRenderer.Proofs.CompileOnce
import SpriteRenderer.Proofs.HostCourse
import SpriteRenderer.Proofs.ExitDiscipline
import SpriteRenderer.Proofs.CallbackOrder
import SpriteRenderer.Proofs.Painting
import SpriteRenderer.Proofs.SurfaceSizes
import SpriteRenderer.Proofs.PresentedFrames
import SpriteRenderer.Proofs.Reopening
import SpriteRenderer.Proofs.BatchChanges
import SpriteRenderer.Proofs.IgnoredData
import SpriteRenderer.Proofs.AllocationOrder
import SpriteRenderer.Proofs.LiveHandles
import SpriteRenderer.Proofs.UploadedBytes
import SpriteRenderer.Proofs.Narration
import SpriteRenderer.Proofs.TextureBooks
import SpriteRenderer.Proofs.TextureGroups
import SpriteRenderer.Proofs.Decoding
import SpriteRenderer.Proofs.PoolRefusals
import SpriteRenderer.Proofs.ClippedPixels
import SpriteRenderer.Proofs.HeldResources
import SpriteRenderer.Proofs.BatchTiling
import SpriteRenderer.Proofs.FrameBuilding
import SpriteRenderer.Proofs.UnboundWarning
import SpriteRenderer.Proofs.TextureCreation
import SpriteRenderer.Proofs.CheckerboardPixels
