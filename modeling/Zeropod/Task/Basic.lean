import Mathlib.Data.List.Basic

/-!
# The state the lifecycle wrapper shares with the task service

The zeropod shim wraps the runc task service of containerd (`wrapper` in
`runc/task`, embedding `*service`). The wrapper reads and writes part of the service's
state directly: the exit bookkeeping `running`, `pendingExecs` and `exitSubscribers`, and the
map `containers`. Next to it the wrapper keeps its own map `zeropodContainers` of managed
containers.

Go objects that the code compares by pointer (`*runc.Container` as the key of
`pendingExecs`, the process objects that `SetExited` marks) carry an explicit `ref`. Go maps
become functions; a missing key reads as the zero value, as in Go, so `delete(m, k)` is an
update to the zero value.
-/

namespace Zeropod.Task

/-- A process of the task service (`process.Process`): `id` is `ID()`, `pid` is `Pid()`, and
`init` tells a `*process.Init` from an exec process. -/
structure Process where
  ref : Nat
  id : String
  pid : Nat
  init : Bool
  deriving DecidableEq, Repr

/-- A runc container (`*runc.Container`) with its container id. -/
structure Container where
  ref : Nat
  id : String
  deriving DecidableEq, Repr

/-- `containerProcess`: a process together with the container it belongs to. -/
structure ContainerProcess where
  container : Container
  process : Process
  deriving DecidableEq, Repr

/-- `runcC.Exit`; the timestamp tells apart two exits at one PID. -/
structure Exit where
  timestamp : Nat
  pid : Nat
  status : Nat
  deriving DecidableEq, Repr

/-- The pointwise update `m[k] = v` of a map modelled as a function. -/
def setAt {α β : Type} [DecidableEq α] (m : α → β) (k : α) (v : β) : α → β :=
  fun x => if x = k then v else m x

@[simp] theorem setAt_same {α β : Type} [DecidableEq α] (m : α → β) (k : α) (v : β) :
    setAt m k v k = v := if_pos rfl

theorem setAt_ne {α β : Type} [DecidableEq α] (m : α → β) {k x : α} (v : β) (h : x ≠ k) :
    setAt m k v x = m x := if_neg h

/-- The part of the task service (`service`) the wrapper reads and writes. -/
structure Service where
  /-- `running`: the started (container, process) pairs at each PID. -/
  running : Nat → List ContainerProcess
  /-- `pendingExecs`: execs of a container whose start is not yet published. -/
  pendingExecs : Container → Nat
  /-- `exitSubscribers`: the early-exit buffers of the `preStart` calls still subscribed. -/
  exitSubscribers : List Nat
  /-- The early-exit buffers: each pair is an exit one buffer saw, in the order seen. -/
  subscriberExits : List (Nat × Exit)
  /-- `containers`: the runc container of each container id. -/
  containers : String → Option Container
  /-- The status `SetExited` recorded on each process object. -/
  exitStatus : Nat → Option Nat
  /-- The `TaskExit` events published by `handleProcessExit`, in order. -/
  published : List (Exit × ContainerProcess)

/-- A managed container (`*zeropod.Container`), as far as the wrapper reads and writes it. -/
structure ZeropodContainer where
  /-- `ScaledDown()`. -/
  scaledDown : Bool
  /-- `InitialProcess()`: the process that was checkpointed. -/
  initialProcess : Process
  /-- `Process()`: the current process, the initial one or a restored successor. -/
  process : Process
  /-- The runc container the managed container currently owns. -/
  container : Container
  /-- A scale-down countdown is armed. -/
  scheduled : Bool
  /-- The activator is serving. -/
  activator : Bool
  deriving DecidableEq, Repr

/-- `wrapper`: the embedded service and the managed containers by id. -/
structure Wrapper where
  svc : Service
  zeropodContainers : String → Option ZeropodContainer

/-- `getZeropodContainer(id)`. -/
def Wrapper.getZeropodContainer (w : Wrapper) (id : String) : Option ZeropodContainer :=
  w.zeropodContainers id

/-- The process object `p` gets `p.SetExited(status)`. -/
def Service.setExited (s : Service) (p : Process) (status : Nat) : Service :=
  { s with exitStatus := setAt s.exitStatus p.ref (some status) }

/-- The delegate's `handleProcessExit(e, c, p)`: it publishes the exit of `p` as a
`TaskExit`. -/
def Service.handleProcessExit (s : Service) (e : Exit) (cp : ContainerProcess) : Service :=
  { s with published := s.published ++ [(e, cp)] }

/-- `handleProcessExit` for each pair in order. -/
def Service.handleProcessExits (s : Service) (e : Exit) (cps : List ContainerProcess) : Service :=
  cps.foldl (fun s cp => s.handleProcessExit e cp) s

/-- `handleProcessExit` touches nothing but the published events. -/
theorem Service.handleProcessExits_eq (s : Service) (e : Exit) (cps : List ContainerProcess) :
    s.handleProcessExits e cps = { s with published := s.published ++ cps.map (e, ·) } := by
  induction cps generalizing s with
  | nil => simp [handleProcessExits]
  | cons cp cps ih =>
    simp only [handleProcessExits, List.foldl_cons] at ih ⊢
    rw [ih]
    simp [handleProcessExit]

end Zeropod.Task
