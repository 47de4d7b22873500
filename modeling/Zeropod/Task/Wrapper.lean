import Zeropod.ConfigLoader
import Zeropod.Task.Exits

/-!
# The lifecycle wrapper, one RPC at a time

The newer wrapper (`runc/task`) interposes on `Start`, `Exec`, `Delete` and `Kill`, and runs
`processExits` in the background. This module models the shim those calls act on, `Shim`:
the wrapper's state, the reaper's channel of exits, the processes alive, and the
checkpoint/restore mutex. Each RPC is a function on `Shim`, run here without interruption;
`Zeropod.Task.Interleaving` runs the same steps interleaved.

`Container.Restore` (`zeropod/restore.go`) is cut into the steps the interleaving model needs,
one function each: taking the mutex, `runc.NewContainer`, the `preRestore` hook (`preStart` and
its deferred `cleanup`), `p.Start`, the swap of the managed container's container and process,
the `postRestore` hook (`containers[id]` and `handleStarted`), and `DisableRedirects` with the
release of the mutex.

The parts of `zeropod.Container` that are not in the sources (`New`, `ScheduleScaleDown`,
`CancelScaleDown`, `Stop`, the scale-down itself) and the delegate's `Start` and `Delete` are
modelled from the spec.

## Main results

* `Shim.start_elects_iff` — once the delegate's `Start`, `GetSpec` and `NewConfig` succeed,
  `Start` stores a managed container exactly when the request is not an exec, the container is
  not a sandbox, the container-names annotation selects it, and `zeropod.New` succeeds.
* `run_zeropodContainers_isSome` — in every run, an id is a key of `zeropodContainers` exactly
  when some `Start` elected it; no RPC removes a key.
* `run_execRpcs_scheduled` — over any sequence of `Exec` and `Delete` of execs of a running
  managed container, the countdown is armed exactly when the last RPC was a `Delete`.
-/

namespace Zeropod.Task

open Zeropod.ConfigLoader Zeropod.Strings

/-- `containerTypeSandbox`. -/
def containerTypeSandbox : String := "sandbox"

/-- Ghost marks: the events of a run that statements about their order look at. -/
inductive Mark where
  /-- A scale-down of the managed container completed. -/
  | scaledDown (id : String)
  /-- `Restore` created a container from the checkpoint. -/
  | restored (id : String)
  /-- `Kill` took its scaled-down branch while the current process was `current`. -/
  | killScaledDown (id : String) (current : Process)
  deriving DecidableEq, Repr

/-- The shim as the RPCs and the reaper see it. -/
structure Shim where
  w : Wrapper
  /-- The reaper channel `ec`: exits not yet read by `processExits`. -/
  ec : List Exit
  /-- The processes that have not exited. -/
  live : List Process
  /-- The next fresh object identity, exit timestamp or early-exit buffer. -/
  fresh : Nat
  /-- `checkpointRestore` is held. -/
  crLocked : Bool
  /-- The marks of the run so far. -/
  marks : List Mark

/-- The shim before any RPC. -/
def Shim.init : Shim where
  w := ⟨⟨fun _ => [], fun _ => 0, [], [], fun _ => none, fun _ => none, []⟩, fun _ => none⟩
  ec := []
  live := []
  fresh := 0
  crLocked := false
  marks := []

/-! ## The managed container, from the spec -/

/-- Modelled from the spec: `zeropod.New`, a managed container in `Running` whose initial and
current process are the container's init. -/
def newZeropodContainer (c : Container) (p : Process) : ZeropodContainer :=
  ⟨false, p, p, c, false, false⟩

/-- Modelled from the spec: `ScheduleScaleDown` (re)starts the countdown; it is a no-op outside
`Running`. -/
def ZeropodContainer.scheduleScaleDown (z : ZeropodContainer) : ZeropodContainer :=
  if z.scaledDown then z else { z with scheduled := true }

/-- Modelled from the spec: `CancelScaleDown` cancels a pending countdown. -/
def ZeropodContainer.cancelScaleDown (z : ZeropodContainer) : ZeropodContainer :=
  { z with scheduled := false }

/-- Modelled from the spec: `Stop` closes the activator. -/
def ZeropodContainer.stop (z : ZeropodContainer) : ZeropodContainer :=
  { z with activator := false }

/-- `SetScaledDown(b)`. -/
def ZeropodContainer.setScaledDown (z : ZeropodContainer) (b : Bool) : ZeropodContainer :=
  { z with scaledDown := b }

/-- Apply `f` to the managed container `id`, if there is one. -/
def Shim.modifyZeropod (sh : Shim) (id : String) (f : ZeropodContainer → ZeropodContainer) :
    Shim :=
  { sh with w := { sh.w with
    zeropodContainers := setAt sh.w.zeropodContainers id ((sh.w.zeropodContainers id).map f) } }

/-- Apply `f` to the task service. -/
def Shim.modifySvc (sh : Shim) (f : Service → Service) : Shim :=
  { sh with w := { sh.w with svc := f sh.w.svc } }

/-! ## `Container.Restore`, step by step -/

/-- `checkpointRestore.Lock()`. -/
def Shim.restoreLock (sh : Shim) : Shim := { sh with crLocked := true }

/-- `runc.NewContainer` from the checkpoint: a fresh container object for `id`. -/
def Shim.newContainer (sh : Shim) (id : String) : Shim × Container :=
  ({ sh with fresh := sh.fresh + 1, marks := sh.marks ++ [.restored id] }, ⟨sh.fresh, id⟩)

/-- The `preRestore` hook calls `preStart(nil)`, subscribing a fresh early-exit buffer. -/
def Shim.preRestore (sh : Shim) : Shim × Nat :=
  let sh' := sh.modifySvc (·.preStart sh.fresh)
  ({ sh' with fresh := sh.fresh + 1 }, sh.fresh)

/-- The `defer cleanup()` of `preRestore`, run as the hook returns. -/
def Shim.restoreCleanup (sh : Shim) (h : Nat) : Shim := sh.modifySvc (·.cleanup h)

/-- `container.Process("")` and `p.Start`: the restored init of `id` runs, at `pid`. -/
def Shim.startProcess (sh : Shim) (id : String) (pid : Nat) : Shim × Process :=
  let p : Process := ⟨sh.fresh, id, pid, true⟩
  ({ sh with fresh := sh.fresh + 1, live := p :: sh.live }, p)

/-- `c.Container = container` and `c.process = p`. -/
def Shim.swap (sh : Shim) (id : String) (c : Container) (p : Process) : Shim :=
  sh.modifyZeropod id fun z => { z with container := c, process := p }

/-- The `postRestore` hook: `containers[container.ID] = container`, then `handleStarted`. -/
def Shim.postRestore (sh : Shim) (h : Nat) (c : Container) (p : Process) : Shim :=
  sh.modifySvc fun s => Service.handleStarted { s with containers := setAt s.containers c.id (some c) } h c p

/-- `activator.DisableRedirects()`, and the deferred `checkpointRestore.Unlock()`. -/
def Shim.restoreUnlock (sh : Shim) (id : String) : Shim :=
  let sh' := sh.modifyZeropod id (·.stop)
  { sh' with crLocked := false }

/-- `Container.Restore`, run without interruption; the restored process gets `pid`. -/
def Shim.restore (sh : Shim) (id : String) (pid : Nat) : Shim :=
  let (sh, c) := sh.restoreLock.newContainer id
  let (sh, h) := sh.preRestore
  let (sh, p) := (sh.restoreCleanup h).startProcess id pid
  ((sh.swap id c p).postRestore h c p).restoreUnlock id

/-! ## The RPCs -/

/-- What the delegate and the runtime answer while `wrapper.Start` runs. -/
structure StartReply where
  /-- The container and the process the delegate's `Start` started, or `none` on an error. -/
  started : Option (Container × Process)
  /-- The annotations `GetSpec` reads from the bundle, or `none` on an error. -/
  spec : Option AnnotationMap
  /-- `zeropod.New` succeeds. -/
  newOk : Bool

/-- The delegate's `Start`, as the spec describes it: the process runs, and its PID is recorded
for the exit reconciler. -/
def Shim.serviceStart (sh : Shim) (c : Container) (p : Process) : Shim :=
  let sh' := sh.modifySvc fun s => { s with
    running := setAt s.running p.pid (s.running p.pid ++ [⟨c, p⟩])
    containers := setAt s.containers c.id (some c) }
  { sh' with live := p :: sh.live }

/-- `wrapper.Start(id, execId)` under the configuration `host` of `NewConfig`. -/
def Shim.start (host : Host) (sh : Shim) (id execId : String) (reply : StartReply) : Shim :=
  match reply.started with
  | none => sh
  | some (c, p) =>
    let sh := sh.serviceStart c p
    match reply.spec with
    | none => sh
    | some m =>
      match newConfig host m with
      | .error _ => sh
      | .ok cfg =>
        if cfg.containerType == containerTypeSandbox || execId.length != 0 ||
            !isZeropodContainer cfg then sh
        else if !reply.newOk then sh
        else
          let z := (newZeropodContainer c p).scheduleScaleDown
          { sh with w := { sh.w with zeropodContainers := setAt sh.w.zeropodContainers id (some z) } }

/-- `wrapper.Exec` on the container `id`; a restore starts the process at `pid`. The delegate's
`Exec` changes nothing modelled here. -/
def Shim.exec (sh : Shim) (id : String) (pid : Nat) : Shim :=
  match sh.w.getZeropodContainer id with
  | none => sh
  | some z =>
    let sh := sh.modifyZeropod id (·.cancelScaleDown)
    if z.scaledDown then (sh.restore id pid).modifyZeropod id (·.setScaledDown false) else sh

/-- The delegate's `Delete`: deleting the init removes the container from `containers`. -/
def Shim.serviceDelete (sh : Shim) (id execId : String) : Shim :=
  if execId.length = 0 then sh.modifySvc fun s => { s with containers := setAt s.containers id none }
  else sh

/-- `wrapper.Delete(id, execId)`: deleting an exec re-arms the countdown. -/
def Shim.delete (sh : Shim) (id execId : String) : Shim :=
  match sh.w.getZeropodContainer id with
  | none => sh.serviceDelete id execId
  | some _ =>
    let sh := if execId.length ≠ 0 then sh.modifyZeropod id (·.scheduleScaleDown) else sh
    sh.serviceDelete id execId

/-- `wrapper.Kill(id, execId)` once it holds `checkpointRestore`; `signalOk` is whether
`Process().Kill` succeeds. The delegate's `Kill` changes nothing modelled here. -/
def Shim.killLocked (sh : Shim) (id execId : String) (signalOk : Bool) : Shim :=
  match sh.w.getZeropodContainer id with
  | none => sh
  | some z =>
    if execId.length = 0 ∧ z.scaledDown then
      let sh := (sh.modifySvc fun s => (s.setExited z.process 0).setExited z.initialProcess 0)
        |>.modifyZeropod id (·.stop)
      { sh with marks := sh.marks ++ [.killScaledDown id z.process] }
    else if execId.length = 0 then
      let sh := sh.modifyZeropod id (·.stop)
      if signalOk then sh.modifySvc (·.setExited z.initialProcess 0) else sh
    else sh

/-! ## Scale-down, exits and the reaper -/

/-- Modelled from the spec: the countdown of `id` fires and the scale-down succeeds. Under the
checkpoint/restore mutex the process is checkpointed and exits (its exit reaches the reaper
with `status`), the activator starts, and the container is `ScaledDown`. -/
def Shim.scaleDown (sh : Shim) (id : String) (status : Nat) : Shim :=
  match sh.w.getZeropodContainer id with
  | none => sh
  | some z =>
    if z.scheduled ∧ !z.scaledDown ∧ z.process ∈ sh.live then
      let sh' := sh.modifyZeropod id fun z =>
        { z with scaledDown := true, scheduled := false, activator := true }
      { sh' with
        live := sh.live.erase z.process
        ec := sh.ec ++ [⟨sh.fresh, z.process.pid, status⟩]
        fresh := sh.fresh + 1
        marks := sh.marks ++ [.scaledDown id] }
    else sh

/-- The kernel reaps the live process `p`: its exit enters the reaper channel. -/
def Shim.exit (sh : Shim) (p : Process) (status : Nat) : Shim :=
  if p ∈ sh.live then
    { sh with
      live := sh.live.erase p
      ec := sh.ec ++ [⟨sh.fresh, p.pid, status⟩]
      fresh := sh.fresh + 1 }
  else sh

/-- One iteration of `processExits`, on the oldest exit of the channel. -/
def Shim.reap (sh : Shim) : Shim :=
  match sh.ec with
  | [] => sh
  | e :: rest => { sh with w := sh.w.processExit e, ec := rest }

/-! ## Runs -/

/-- One RPC, or one move of the environment. -/
inductive Action where
  | start (id execId : String) (reply : StartReply)
  | exec (id execId : String) (ok : Bool) (pid : Nat)
  | delete (id execId : String)
  | kill (id execId : String) (signalOk : Bool)
  | scaleDown (id : String) (status : Nat)
  | exit (p : Process) (status : Nat)
  | reap

section Runs

variable (host : Host)

/-- The effect of one action. -/
def Shim.step (sh : Shim) : Action → Shim
  | .start id execId reply => sh.start host id execId reply
  | .exec id _ _ pid => sh.exec id pid
  | .delete id execId => sh.delete id execId
  | .kill id execId signalOk => sh.killLocked id execId signalOk
  | .scaleDown id status => sh.scaleDown id status
  | .exit p status => sh.exit p status
  | .reap => sh.reap

/-- A run: the actions one after the other. -/
def Shim.run (sh : Shim) (tr : List Action) : Shim := tr.foldl (Shim.step host) sh

@[simp] theorem Shim.run_nil (sh : Shim) : sh.run host [] = sh := rfl

@[simp] theorem Shim.run_cons (sh : Shim) (a : Action) (tr : List Action) :
    sh.run host (a :: tr) = (sh.step host a).run host tr := rfl

/-! ## The managed containers of a run -/

/-- `Start(id, execId)` elects its container: the delegate's `Start`, `GetSpec`, `NewConfig`
and `zeropod.New` succeed, and the container is not a sandbox, not an exec, and selected by
its config. -/
def startElects (execId : String) (reply : StartReply) : Bool :=
  match reply.started, reply.spec with
  | some _, some m =>
    match newConfig host m with
    | .ok cfg => !(cfg.containerType == containerTypeSandbox || execId.length != 0 ||
        !isZeropodContainer cfg) && reply.newOk
    | .error _ => false
  | _, _ => false

/-- The action is a `Start` that elects the container `id`. -/
def Action.elects (id : String) : Action → Bool
  | .start id' execId reply => id' == id && startElects host execId reply
  | _ => false

@[simp] theorem Shim.modifyZeropod_isSome (sh : Shim) (id x : String)
    (f : ZeropodContainer → ZeropodContainer) :
    ((sh.modifyZeropod id f).w.zeropodContainers x).isSome = (sh.w.zeropodContainers x).isSome := by
  by_cases hx : x = id
  · subst hx; simp [modifyZeropod]
  · simp [modifyZeropod, setAt_ne _ _ hx]

@[simp] theorem Shim.modifySvc_zeropodContainers (sh : Shim) (f : Service → Service) :
    (sh.modifySvc f).w.zeropodContainers = sh.w.zeropodContainers := rfl

@[simp] theorem Wrapper.processExit_zeropodContainers (w : Wrapper) (e : Exit) :
    (w.processExit e).zeropodContainers = w.zeropodContainers := by
  cases h : (w.svc.running e.pid).any w.scaledDownPair
  · obtain ⟨st, hst⟩ := w.processExit_of_not_scaledDown e h
    rw [hst]
  · obtain ⟨st, hst⟩ := w.processExit_of_scaledDown e h
    rw [hst]

/-- `Start` adds the key `id` exactly when it elects the container. -/
theorem Shim.start_isSome (sh : Shim) (id execId x : String) (reply : StartReply) :
    ((sh.start host id execId reply).w.zeropodContainers x).isSome =
      ((sh.w.zeropodContainers x).isSome || (id == x && startElects host execId reply)) := by
  obtain ⟨started, spec, newOk⟩ := reply
  rcases started with _ | ⟨c, p⟩
  · simp [start, startElects]
  · rcases spec with _ | m
    · simp [start, startElects, serviceStart]
    · simp only [start, startElects]
      cases newConfig host m with
      | error => simp [serviceStart]
      | ok cfg =>
        cases hign : (cfg.containerType == containerTypeSandbox || execId.length != 0 ||
            !isZeropodContainer cfg) <;> cases newOk <;> simp only [hign] <;> try simp [serviceStart]
        by_cases hx : x = id
        · subst hx; simp
        · simp [setAt_ne _ _ hx, Ne.symm hx]

/-- No step but an electing `Start` adds a key, and none removes one. -/
theorem Shim.step_isSome (sh : Shim) (a : Action) (x : String) :
    ((sh.step host a).w.zeropodContainers x).isSome =
      ((sh.w.zeropodContainers x).isSome || a.elects host x) := by
  cases a with
  | start id execId reply => simp [step, Action.elects, start_isSome]
  | exec id execId ok pid =>
    simp only [step, exec, Action.elects, Bool.or_false]
    cases sh.w.getZeropodContainer id with
    | none => rfl
    | some z =>
      simp only
      split <;> simp [restore, restoreLock, newContainer, preRestore, restoreCleanup,
        startProcess, swap, postRestore, restoreUnlock]
  | delete id execId =>
    simp only [step, delete, serviceDelete, Action.elects, Bool.or_false]
    cases sh.w.getZeropodContainer id <;> simp only <;> split_ifs <;> simp
  | kill id execId signalOk =>
    simp only [step, killLocked, Action.elects, Bool.or_false]
    cases sh.w.getZeropodContainer id with
    | none => rfl
    | some z => simp only; split_ifs <;> simp
  | scaleDown id status =>
    simp only [step, scaleDown, Action.elects, Bool.or_false]
    cases sh.w.getZeropodContainer id with
    | none => rfl
    | some z => simp only; split_ifs <;> simp
  | exit p status => simp only [step, exit, Action.elects]; split_ifs <;> simp
  | reap =>
    simp only [step, reap, Action.elects]
    cases sh.ec <;> simp

/-- **Keys of `zeropodContainers`**: after any run, an id is a key exactly when it was one at
the start or some `Start` of the run elected it. -/
theorem Shim.run_zeropodContainers_isSome (sh : Shim) (tr : List Action) (x : String) :
    ((sh.run host tr).w.zeropodContainers x).isSome =
      ((sh.w.zeropodContainers x).isSome || tr.any (·.elects host x)) := by
  induction tr generalizing sh with
  | nil => simp
  | cons a tr ih => simp [ih, step_isSome, Bool.or_assoc]

/-- **`Delete` leaves the managed container**: in a run from the empty shim,
`getZeropodContainer(id)` finds a container exactly when some `Start` of the run elected
`id`; no `Delete`, of the init or of an exec, removes it. -/
theorem Shim.getZeropodContainer_run_init (tr : List Action) (id : String) :
    ((Shim.init.run host tr).w.getZeropodContainer id).isSome = tr.any (·.elects host id) := by
  simpa [Wrapper.getZeropodContainer, Shim.init] using run_zeropodContainers_isSome host Shim.init tr id

/-! ## Which containers `Start` elects -/

/-- A host for the runs below: every duration parses, the namespace is the default. -/
def exampleHost : Host := ⟨fun _ => .ok 0, "amd64", none⟩

/-- `Start` once the delegate's `Start` and `GetSpec` succeeded: what the delegate's `Start`
did, and the new managed container, its countdown armed, stored under `id` when `Start` elects
it. -/
theorem Shim.start_started (sh : Shim) (id execId : String) (c : Container) (p : Process)
    (m : AnnotationMap) (newOk : Bool) :
    sh.start host id execId ⟨some (c, p), some m, newOk⟩ =
      if startElects host execId ⟨some (c, p), some m, newOk⟩ then
        let sh' := sh.serviceStart c p
        { sh' with w := { sh'.w with
          zeropodContainers := setAt sh'.w.zeropodContainers id
            (some (newZeropodContainer c p).scheduleScaleDown) } }
      else sh.serviceStart c p := by
  simp only [start, startElects]
  cases newConfig host m with
  | error => rfl
  | ok cfg =>
    dsimp only
    cases (cfg.containerType == containerTypeSandbox || execId.length != 0 ||
      !isZeropodContainer cfg) <;> cases newOk <;> rfl

/-- `startElects`, once `NewConfig` succeeded, read off the request and the annotations. -/
theorem startElects_iff (execId : String) (cp : Container × Process) (m : AnnotationMap)
    (newOk : Bool) {cfg : Config} (hcfg : newConfig host m = .ok cfg) :
    startElects host execId ⟨some cp, some m, newOk⟩ = true ↔
      execId = "" ∧ (decode m).containerType ≠ "sandbox" ∧
        ((decode m).zeropodContainerNames = "" ∨
          (decode m).containerName ∈
            (split (decode m).zeropodContainerNames.toList ',').map String.mk) ∧
        newOk = true := by
  obtain ⟨-, htype, -⟩ := newConfig_ok hcfg
  have hz := isZeropodContainer_newConfig hcfg
  simp only [startElects, hcfg, htype, Bool.and_eq_true, Bool.not_eq_true', Bool.or_eq_false_iff,
    beq_eq_false_iff_ne, bne_eq_false_iff_eq, Bool.not_eq_false', hz, length_eq_zero_iff,
    containerTypeSandbox, containersDelim, and_assoc]
  exact and_left_comm

/-- **Which containers `Start` elects.** Once the delegate's `Start`, `GetSpec` and `NewConfig`
succeed, `Start` stores a new managed container under `id` exactly when the request is not an
exec, the container is not a sandbox, the container-names annotation is empty or has the
container's name as one whole `,`-separated field, and `zeropod.New` succeeds; otherwise it
leaves what the delegate's `Start` did. Each annotation is the value `mapstructure` finds for
its tag: under a key equal to it, or else under a key equal to it up to case. -/
theorem Shim.start_elects_iff (sh : Shim) (id execId : String) (c : Container) (p : Process)
    (m : AnnotationMap) (newOk : Bool) {cfg : Config} (hcfg : newConfig host m = .ok cfg) :
    sh.start host id execId ⟨some (c, p), some m, newOk⟩ =
      if execId = "" ∧ (decode m).containerType ≠ "sandbox" ∧
          ((decode m).zeropodContainerNames = "" ∨
            (decode m).containerName ∈
              (split (decode m).zeropodContainerNames.toList ',').map String.mk) ∧
          newOk = true then
        let sh' := sh.serviceStart c p
        { sh' with w := { sh'.w with
          zeropodContainers := setAt sh'.w.zeropodContainers id
            (some (newZeropodContainer c p).scheduleScaleDown) } }
      else sh.serviceStart c p := by
  rw [start_started]
  exact if_congr (startElects_iff host execId (c, p) m newOk hcfg) rfl rfl

/-- `Start` of `web` from annotations that list it in `db,web`. -/
theorem start_elects_iff_web :
    let m : AnnotationMap := ⟨[(criContainerNameKey, "web"), (containerNamesAnnotationKey, "db,web")],
      (by decide : [criContainerNameKey, containerNamesAnnotationKey].Nodup)⟩
    let c : Container := ⟨1, "web"⟩
    let p : Process := ⟨1, "web", 100, true⟩
    (∃ cfg, newConfig exampleHost m = .ok cfg) ∧
    Shim.init.start exampleHost "web" "" ⟨some (c, p), some m, true⟩ =
      if "" = "" ∧ (decode m).containerType ≠ "sandbox" ∧
          ((decode m).zeropodContainerNames = "" ∨
            (decode m).containerName ∈
              (split (decode m).zeropodContainerNames.toList ',').map String.mk) ∧
          true = true then
        let sh' := Shim.init.serviceStart c p
        { sh' with w := { sh'.w with
          zeropodContainers := setAt sh'.w.zeropodContainers "web"
            (some (newZeropodContainer c p).scheduleScaleDown) } }
      else Shim.init.serviceStart c p :=
  ⟨⟨_, rfl⟩, Shim.start_elects_iff exampleHost Shim.init "web" "" _ _ _ true rfl⟩

/-- The container-names annotation under a key that differs from its tag only in case still
selects: `web` is not among `db`, and `Start` stores nothing. -/
example : (Shim.init.start exampleHost "web" ""
    ⟨some (⟨1, "web"⟩, ⟨1, "web", 100, true⟩),
      some ⟨[(criContainerNameKey, "web"), ("zeropod.ctrox.dev/Container-Names", "db")],
        (by decide : [criContainerNameKey, "zeropod.ctrox.dev/Container-Names"].Nodup)⟩,
      true⟩).w.getZeropodContainer "web" = none :=
  rfl

/-- `zeropod.New` fails on a `Start` of `web` that meets every other condition: `NewConfig`
succeeds on the spec without annotations, and no managed container is stored. -/
theorem start_new_fails_stores_nothing :
    (∃ cfg, newConfig exampleHost .empty = .ok cfg) ∧
      (Shim.init.start exampleHost "web" ""
        ⟨some (⟨1, "web"⟩, ⟨1, "web", 100, true⟩), some .empty, false⟩).w.getZeropodContainer
        "web" = none :=
  ⟨⟨_, rfl⟩, rfl⟩

/-! ## The countdown over `Exec` and `Delete` -/

@[simp] theorem Shim.getZeropodContainer_modifyZeropod (sh : Shim) (id : String)
    (f : ZeropodContainer → ZeropodContainer) :
    (sh.modifyZeropod id f).w.getZeropodContainer id = (sh.w.getZeropodContainer id).map f := by
  simp [modifyZeropod, Wrapper.getZeropodContainer]

@[simp] theorem Shim.serviceDelete_getZeropodContainer (sh : Shim) (id execId x : String) :
    (sh.serviceDelete id execId).w.getZeropodContainer x = sh.w.getZeropodContainer x := by
  unfold serviceDelete; split_ifs <;> rfl

/-- `Exec` on a running managed container cancels its countdown, and restores nothing. -/
theorem Shim.exec_running (sh : Shim) {id : String} {z : ZeropodContainer}
    (hz : sh.w.getZeropodContainer id = some z) (hrun : z.scaledDown = false) (pid : Nat) :
    (sh.exec id pid).w.getZeropodContainer id = some z.cancelScaleDown := by
  simp [exec, hz, hrun]

/-- `Delete` of an exec of a running managed container arms its countdown. -/
theorem Shim.delete_exec_running (sh : Shim) {id execId : String} {z : ZeropodContainer}
    (hz : sh.w.getZeropodContainer id = some z) (hrun : z.scaledDown = false)
    (hexec : execId.length ≠ 0) :
    (sh.delete id execId).w.getZeropodContainer id = some { z with scheduled := true } := by
  simp [delete, hz, hrun, hexec, ZeropodContainer.scheduleScaleDown]

/-- An `Exec` or a `Delete` naming an exec of the container; `ok` is whether the delegate's
`Exec` succeeds. -/
inductive ExecRpc where
  | exec (execId : String) (ok : Bool)
  | delete (execId : String)

def ExecRpc.execId : ExecRpc → String
  | .exec e _ => e
  | .delete e => e

def ExecRpc.isDelete : ExecRpc → Bool
  | .exec _ _ => false
  | .delete _ => true

/-- The RPC on the container `id`. -/
def ExecRpc.action (id : String) : ExecRpc → Action
  | .exec e ok => .exec id e ok 0
  | .delete e => .delete id e

/-- **The countdown follows the last RPC**: over any sequence of `Exec` and `Delete` naming
execs of a running managed container, whatever execs are alive and whether the delegate's
`Exec` failed, the countdown is armed after the sequence exactly when its last RPC was a
`Delete`. -/
theorem Shim.run_execRpcs_scheduled (sh : Shim) (id : String) (z : ZeropodContainer)
    (hz : sh.w.getZeropodContainer id = some z) (hrun : z.scaledDown = false)
    (rs : List ExecRpc) (hexec : ∀ r ∈ rs, r.execId.length ≠ 0) :
    ∃ z', (sh.run host (rs.map (·.action id))).w.getZeropodContainer id = some z' ∧
      z'.scaledDown = false ∧ z'.scheduled = (rs.getLast?.map ExecRpc.isDelete).getD z.scheduled := by
  induction rs generalizing sh z with
  | nil => exact ⟨z, hz, hrun, rfl⟩
  | cons r rs ih =>
    have hr := hexec r (List.mem_cons_self r rs)
    have hrs := fun r' hr' => hexec r' (List.mem_cons_of_mem r hr')
    cases r with
    | exec e ok =>
      obtain ⟨z', h1, h2, h3⟩ := ih (sh.exec id 0) z.cancelScaleDown (exec_running sh hz hrun 0) hrun hrs
      refine ⟨z', h1, h2, h3.trans ?_⟩
      cases rs <;> simp [List.getLast?_cons, ExecRpc.isDelete, ZeropodContainer.cancelScaleDown]
    | delete e =>
      obtain ⟨z', h1, h2, h3⟩ :=
        ih (sh.delete id e) { z with scheduled := true } (delete_exec_running sh hz hrun hr) hrun hrs
      refine ⟨z', h1, h2, h3.trans ?_⟩
      cases rs <;> simp [List.getLast?_cons, ExecRpc.isDelete]

end Runs

/-! ## Runs on fixed inputs -/

/-- `Start` of the init of `id` (object `ref`, PID `pid`) from a spec without annotations:
every step succeeds and the container is elected. -/
def plainStart (id : String) (ref pid : Nat) : Action :=
  .start id "" ⟨some (⟨ref, id⟩, ⟨ref, id, pid, true⟩), some .empty, true⟩

/-- Two execs of a freshly started `web`, then the `Delete` of the first. -/
theorem run_execRpcs_scheduled_web :
    let sh := Shim.init.run exampleHost [plainStart "web" 1 100]
    let z := (newZeropodContainer ⟨1, "web"⟩ ⟨1, "web", 100, true⟩).scheduleScaleDown
    let rs := [ExecRpc.exec "e1" true, .exec "e2" true, .delete "e1"]
    (sh.w.getZeropodContainer "web" = some z ∧ z.scaledDown = false ∧
      ∀ r ∈ rs, r.execId.length ≠ 0) ∧
    ∃ z', (sh.run exampleHost (rs.map (·.action "web"))).w.getZeropodContainer "web" = some z' ∧
      z'.scaledDown = false ∧ z'.scheduled = (rs.getLast?.map ExecRpc.isDelete).getD z.scheduled :=
  ⟨⟨by decide, by decide, by decide⟩,
    Shim.run_execRpcs_scheduled exampleHost _ "web" _ (by decide) (by decide) _ (by decide)⟩

/-- `a` is scaled down at PID 42, then `b` starts at the reused PID 42 and exits: the reaper
reads that exit and publishes nothing, and `running` keeps the stale pair of `a` and records
`b` as still running. -/
theorem reused_pid_exit_dropped :
    let sh : Shim := Shim.init.run exampleHost [plainStart "a" 1 42, .scaleDown "a" 9, .reap,
      plainStart "b" 2 42, .exit ⟨2, "b", 42, true⟩ 0, .reap]
    sh.ec = [] ∧ sh.live = [] ∧ sh.w.svc.published = [] ∧
      sh.w.svc.running 42 = [⟨⟨1, "a"⟩, ⟨1, "a", 42, true⟩⟩, ⟨⟨2, "b"⟩, ⟨2, "b", 42, true⟩⟩] := by
  decide

/-- `Exec` of `e1` and `e2`, then `Delete` of `e1`: the countdown is armed while `e2` is alive.
A failed `Exec` leaves it cancelled with no exec alive. -/
theorem delete_rearms_while_exec_alive :
    ((Shim.init.run exampleHost [plainStart "web" 1 100, .exec "web" "e1" true 0,
        .exec "web" "e2" true 0, .delete "web" "e1"]).w.getZeropodContainer "web").map
        (·.scheduled) = some true ∧
    ((Shim.init.run exampleHost [plainStart "web" 1 100, .exec "web" "e1" false 0]).w.getZeropodContainer
        "web").map (·.scheduled) = some false := by
  decide

/-- `Start`, then `Delete` of the init of `web`: `getZeropodContainer("web")` still finds it. -/
theorem delete_keeps_zeropodContainer :
    ((Shim.init.run exampleHost [plainStart "web" 1 100, .delete "web" ""]).w.getZeropodContainer
      "web").isSome = true := by
  decide

end Zeropod.Task
