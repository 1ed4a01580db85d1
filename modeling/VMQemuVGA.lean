import VMQemuVGA.Lib.Machine
import VMQemuVGA.Lib.SlotTable
import VMQemuVGA.Lib.Counter
import VMQemuVGA.Lib.FreeList
import VMQemuVGA.Lib.Pool
import VMQemuVGA.Lib.PointerArray
import VMQemuVGA.Lib.Pairing
import VMQemuVGA.IOKit
import VMQemuVGA.Gpu.Host
import VMQemuVGA.Gpu.Device
import VMQemuVGA.Gpu.Watch
import VMQemuVGA.Gpu.ResourcePool
import VMQemuVGA.Gpu.ResourceIds
import VMQemuVGA.Gpu.ContextIds
import VMQemuVGA.UserClient.Surfaces
import VMQemuVGA.UserClient.Backings
import VMQemuVGA.Virtqueue.Vring
import VMQemuVGA.Virtqueue.ControlQueue
import VMQemuVGA.Virtqueue.Completion
import VMQemuVGA.Virtqueue.Ownership
import VMQemuVGA.Virtqueue.CursorQueue
import VMQemuVGA.Accelerator.State
import VMQemuVGA.Accelerator.Clients
import VMQemuVGA.Accelerator.Contexts
import VMQemuVGA.Accelerator.Accounts
import VMQemuVGA.Accelerator.Slots
import VMQemuVGA.Accelerator.Isolation
import VMQemuVGA.Framebuffer.State
import VMQemuVGA.Framebuffer.Takeover
import VMQemuVGA.Framebuffer.Controller
import VMQemuVGA.Framebuffer.Modes
import VMQemuVGA.Lib.CommandStream
import VMQemuVGA.OpenGL.Protocol
import VMQemuVGA.OpenGL.Translator
import VMQemuVGA.OpenGL.Encoding
import VMQemuVGA.Gpu.Held
import VMQemuVGA.OpenGL.Handles
import VMQemuVGA.UserClient.Lifecycle
import VMQemuVGA.UserClient.Legacy
import VMQemuVGA.Gpu.Naming
import VMQemuVGA.UserClient.Winsys
import VMQemuVGA.UserClient.WinsysCommand
import VMQemuVGA.UserClient.Renaming
import VMQemuVGA.UserClient.Separation
import VMQemuVGA.Vga.State
import VMQemuVGA.Vga.CustomMode
import VMQemuVGA.Lib.IdPool
import VMQemuVGA.Lib.Lookaside
import VMQemuVGA.IOSurface.Surface
import VMQemuVGA.IOSurface.Store
import VMQemuVGA.IOSurface.Manager
import VMQemuVGA.IOSurface.Effects
import VMQemuVGA.IOSurface.Caches
import VMQemuVGA.IOSurface.Accounting
import VMQemuVGA.IOSurface.Sharing
import VMQemuVGA.IOSurface.Layout
import VMQemuVGA.IOSurface.Locks
import VMQemuVGA.Metal.MemoryPools
import VMQemuVGA.Metal.Resources
import VMQemuVGA.OpenGL.Bridge
import VMQemuVGA.Lib.Numbering
import VMQemuVGA.CoreAnimation.State
import VMQemuVGA.CoreAnimation.Layers
import VMQemuVGA.Texture.Manager
import VMQemuVGA.Texture.Usage
import VMQemuVGA.Texture.Existence
import VMQemuVGA.IOSurface.Regions
import VMQemuVGA.IOSurface.LockDiscipline
import VMQemuVGA.IOSurface.Statistics
import VMQemuVGA.IOSurface.Properties
import VMQemuVGA.Vga.Stride
import VMQemuVGA.Vga.Canvas
import VMQemuVGA.Virtqueue.Responses
import VMQemuVGA.Virtqueue.Wire
import VMQemuVGA.UserClient.Submit3D
import VMQemuVGA.Gpu.Scatter
import VMQemuVGA.Lib.History
import VMQemuVGA.Virtqueue.Descriptors
import VMQemuVGA.Virtqueue.TempBuffers
import VMQemuVGA.Virtqueue.Wraparound
import VMQemuVGA.UserClient.Residue
import VMQemuVGA.Gpu.Creation
import VMQemuVGA.OpenGL.Primitives
import VMQemuVGA.OpenGL.Batches
import VMQemuVGA.OpenGL.Flushes
import VMQemuVGA.Lib.Loop
import VMQemuVGA.Pci.Capabilities
import VMQemuVGA.Pci.Bars
import VMQemuVGA.Pci.Doorbell
import VMQemuVGA.Accelerator.Creations
import VMQemuVGA.Accelerator.SurfaceIds
import VMQemuVGA.Accelerator.Bindings
import VMQemuVGA.Accelerator.Collection
import VMQemuVGA.Accelerator.Framebuffers
import VMQemuVGA.Accelerator.DirectCopy
import VMQemuVGA.Accelerator.Blit
import VMQemuVGA.Lib.Locked
import VMQemuVGA.Accelerator.Locking
import VMQemuVGA.Lib.RefCount
import VMQemuVGA.CommandBuffer.Pool
import VMQemuVGA.CommandBuffer.Ownership
import VMQemuVGA.Metal.Storage
import VMQemuVGA.Framebuffer.RefreshTimer
import VMQemuVGA.Agdc.Service
import VMQemuVGA.Agdc.Modes
import VMQemuVGA.OpenGL.VirtGLGL
import VMQemuVGA.OpenGL.BufferData
import VMQemuVGA.Shader.Translation
import VMQemuVGA.UserClient.Probes
import VMQemuVGA.UserClient.ProbeRuns
import VMQemuVGA.CoreAnimation.Animations
import VMQemuVGA.Lib.Crc32
import VMQemuVGA.Lib.Scan
import VMQemuVGA.Lib.Double
import VMQemuVGA.CoreAnimation.Keyframes
import VMQemuVGA.CoreAnimation.Interpolation
import VMQemuVGA.Metal.Creators
import VMQemuVGA.Lib.Ledger
import VMQemuVGA.Lib.Session
import VMQemuVGA.OpenGL.CapabilityCalls
import VMQemuVGA.OpenGL.AcceleratorProbes
import VMQemuVGA.OpenGL.ThreadProbe
import VMQemuVGA.OpenGL.VersionProbes
import VMQemuVGA.Lib.FirstMatch
import VMQemuVGA.Lib.NextFit
import VMQemuVGA.Lib.Layout
import VMQemuVGA.Shader.Compilation
import VMQemuVGA.Shader.UniformParser
import VMQemuVGA.Shader.UniformReading
import VMQemuVGA.Shader.UniformDeclarations
import VMQemuVGA.Shader.Metadata
import VMQemuVGA.Shader.CompileShader
import VMQemuVGA.Shader.Termination
import VMQemuVGA.Shader.Bytecode
import VMQemuVGA.Shader.UniformLayout
import VMQemuVGA.Shader.Interfaces
import VMQemuVGA.Shader.Matching
import VMQemuVGA.Shader.Packing
import VMQemuVGA.Shader.Manager
import VMQemuVGA.Shader.References
import VMQemuVGA.Shader.Linking
import VMQemuVGA.Shader.ProgramLists
import VMQemuVGA.Lib.Counted
import VMQemuVGA.Texture.Creation
import VMQemuVGA.Texture.Levels
import VMQemuVGA.Lib.Rounding
import VMQemuVGA.Texture.Sizes
import VMQemuVGA.UserClient.BackingLedger
import VMQemuVGA.UserClient.Dispatch
import VMQemuVGA.Lib.Probe
import VMQemuVGA.Shader.Accesses
import VMQemuVGA.Shader.Bounds
import VMQemuVGA.Lib.RegProg
import VMQemuVGA.Lib.Virtio
import VMQemuVGA.Virtqueue.BringUp
import VMQemuVGA.Virtqueue.BringUpOrder
import VMQemuVGA.Virtqueue.RemoteCalls
import VMQemuVGA.Virtqueue.RingMemory
import VMQemuVGA.Metal.CommandBufferPools
import VMQemuVGA.Metal.Dependencies
import VMQemuVGA.Metal.DependencyGraph
import VMQemuVGA.Lib.Codec
import VMQemuVGA.Wire.Commands
import VMQemuVGA.Wire.Messages
import VMQemuVGA.Wire.HostCalls
import VMQemuVGA.Wire.LinkCalls
import VMQemuVGA.Lib.BubbleSort
import VMQemuVGA.IOSurface.CacheKeeping
import VMQemuVGA.IOSurface.CacheFreshness
import VMQemuVGA.IOSurface.CacheInvalidation
import VMQemuVGA.IOSurface.CacheOptimizing
import VMQemuVGA.Shader.Attributes
