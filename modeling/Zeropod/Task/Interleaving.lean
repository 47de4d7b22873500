import Zeropod.Task.Wrapper

/-!
# `Exec`, `Restore` and `Kill` interleaved

The RPCs of the wrapper run on their own goroutines, next to the reaper loop of
`processExits`. This module gives each `Exec` and `Kill` on a managed container a program
counter, and lets a scheduler pick which one moves: a thread, the countdown of a container
firing, the kernel reaping a process, or one iteration of `processExits`.

An `Exec` thread moves through the steps of `wrapper.Exec` and, when it saw the container
scaled down, through the steps of `Container.Restore` defined in `Zeropod.Task.Wrapper`; its
restore holds `checkpointRestore` from `lock` to `unlock`. A `Kill` thread takes
`checkpointRestore`, then runs its body and releases the mutex.

`Start` and `Delete` take no `checkpointRestore`: `Start` holds only the wrapper's map mutex,
and `Delete` of an exec re-arms the countdown with no lock of the wrapper at all. `Sys.ReachableD`
adds both to the moves above, each as one atomic move.

## Main results

* `Sys.step_thread`, `Sys.step_scaleDown`, `Sys.step_exit`, `Sys.step_reap` — what each move
  does, for the run invariants of `Zeropod.Task.Bookkeeping`.
-/

namespace Zeropod.Task

open Zeropod.ConfigLoader (Host)

/-! ## Threads -/

/-- Where an `Exec` RPC on a managed container is. `lock` to `unlock` are the steps of
`Container.Restore`. -/
inductive ExecPc where
  | begin
  | lock
  | newContainer
  | preRestore
  | cleanup
  | start
  | swap
  | postRestore
  | unlock
  | clear
  | delegate
  | done
  deriving DecidableEq, Repr

/-- An `Exec` of the container `id`, with the locals of its restore: the new container, the
early-exit buffer, and the restored process. -/
structure ExecThread where
  id : String
  pc : ExecPc
  container : Container
  sub : Nat
  process : Process
  deriving DecidableEq, Repr

/-- Where a `Kill` RPC is: waiting for `checkpointRestore`, holding it, or returned. -/
inductive KillPc where
  | lock
  | body
  | done
  deriving DecidableEq, Repr

/-- A `Kill(id, execId)`; `signalOk` is whether `Process().Kill` succeeds. -/
structure KillThread where
  id : String
  execId : String
  signalOk : Bool
  pc : KillPc
  deriving DecidableEq, Repr

inductive Thread where
  | exec (t : ExecThread)
  | kill (t : KillThread)
  deriving DecidableEq, Repr

/-- The thread has returned. -/
def Thread.isDone : Thread → Bool
  | .exec t => t.pc == .done
  | .kill t => t.pc == .done

/-- A fresh `Exec` of `id`. -/
def ExecThread.new (id : String) : ExecThread := ⟨id, .begin, ⟨0, id⟩, 0, ⟨0, id, 0, true⟩⟩

/-- One step of an `Exec` thread; a restored process starts at `pid`. `none` when the thread
waits for the mutex or has returned. -/
def ExecThread.step (t : ExecThread) (sh : Shim) (pid : Nat) : Option (Shim × ExecThread) :=
  match t.pc with
  | .begin =>
    match sh.w.getZeropodContainer t.id with
    | none => some (sh, { t with pc := .done })
    | some z =>
      some (sh.modifyZeropod t.id (·.cancelScaleDown),
        { t with pc := if z.scaledDown then .lock else .delegate })
  | .lock => if sh.crLocked then none else some (sh.restoreLock, { t with pc := .newContainer })
  | .newContainer =>
    some ((sh.newContainer t.id).1, { t with pc := .preRestore, container := (sh.newContainer t.id).2 })
  | .preRestore => some (sh.preRestore.1, { t with pc := .cleanup, sub := sh.preRestore.2 })
  | .cleanup => some (sh.restoreCleanup t.sub, { t with pc := .start })
  | .start =>
    some ((sh.startProcess t.id pid).1, { t with pc := .swap, process := (sh.startProcess t.id pid).2 })
  | .swap => some (sh.swap t.id t.container t.process, { t with pc := .postRestore })
  | .postRestore => some (sh.postRestore t.sub t.container t.process, { t with pc := .unlock })
  | .unlock => some (sh.restoreUnlock t.id, { t with pc := .clear })
  | .clear => some (sh.modifyZeropod t.id (·.setScaledDown false), { t with pc := .delegate })
  | .delegate => some (sh, { t with pc := .done })
  | .done => none

/-- One step of a `Kill` thread. -/
def KillThread.step (t : KillThread) (sh : Shim) : Option (Shim × KillThread) :=
  match t.pc with
  | .lock => if sh.crLocked then none else some ({ sh with crLocked := true }, { t with pc := .body })
  | .body =>
    some ({ sh.killLocked t.id t.execId t.signalOk with crLocked := false }, { t with pc := .done })
  | .done => none

/-- One step of a thread. -/
def Thread.step (th : Thread) (sh : Shim) (pid : Nat) : Option (Shim × Thread) :=
  match th with
  | .exec t => (t.step sh pid).map fun r => (r.1, .exec r.2)
  | .kill t => (t.step sh).map fun r => (r.1, .kill r.2)

/-! ## The system -/

/-- The shim and the RPC threads in flight. -/
structure Sys where
  shim : Shim
  threads : List Thread

/-- A move of the scheduler. -/
inductive Step where
  /-- Thread `i` takes a step; a restored process starts at `pid`. -/
  | thread (i pid : Nat)
  /-- The countdown of `id` fires; the checkpointed process exits with `status`. -/
  | scaleDown (id : String) (status : Nat)
  /-- The kernel reaps `p`. -/
  | exit (p : Process) (status : Nat)
  /-- One iteration of `processExits`. -/
  | reap
  deriving DecidableEq, Repr

/-- The effect of one move, `none` when it is not enabled. The scale-down takes
`checkpointRestore`, so it waits for the mutex. -/
def Sys.step (s : Sys) : Step → Option Sys
  | .thread i pid =>
    match s.threads[i]? with
    | none => none
    | some th => (th.step s.shim pid).map fun r => ⟨r.1, s.threads.set i r.2⟩
  | .scaleDown id status =>
    if s.shim.crLocked then none else some { s with shim := s.shim.scaleDown id status }
  | .exit p status => if p ∈ s.shim.live then some { s with shim := s.shim.exit p status } else none
  | .reap => if s.shim.ec = [] then none else some { s with shim := s.shim.reap }

/-- A schedule, move after move; `none` when a move is not enabled. -/
def Sys.run (s : Sys) : List Step → Option Sys
  | [] => some s
  | st :: rest => (s.step st).bind (·.run rest)

/-- The states reachable from `s₀` by enabled moves. -/
inductive Sys.Reachable (s₀ : Sys) : Sys → Prop where
  | refl : Reachable s₀ s₀
  | step {s s' : Sys} (st : Step) : Reachable s₀ s → s.step st = some s' → Reachable s₀ s'

theorem Sys.run_reachable {s₀ s s' : Sys} {sched : List Step} (hs : s₀.Reachable s)
    (hrun : s.run sched = some s') : s₀.Reachable s' := by
  induction sched generalizing s with
  | nil => cases hrun; exact hs
  | cons st rest ih =>
    obtain ⟨s₁, hst, hrun⟩ := Option.bind_eq_some.mp hrun
    exact ih (hs.step st hst) hrun

/-- A schedule that replays to a state satisfying `P` witnesses a reachable such state. -/
theorem Sys.reach_of_run {s₀ : Sys} (sched : List Step) (P : Sys → Prop) [DecidablePred P]
    (h : (s₀.run sched).map (fun s => decide (P s)) = some true) : ∃ s, s₀.Reachable s ∧ P s := by
  cases hr : s₀.run sched with
  | none => simp [hr] at h
  | some s =>
    simp only [hr, Option.map_some', Option.some.injEq, decide_eq_true_eq] at h
    exact ⟨s, run_reachable .refl hr, h⟩

/-! ## What each move does -/

section Moves

variable {s s' : Sys}

/-- Thread `i` moves: it takes one step over the shim, and only its entry changes. -/
theorem Sys.step_thread {i pid : Nat} (h : s.step (.thread i pid) = some s') :
    ∃ th th', s.threads[i]? = some th ∧ th.step s.shim pid = some (s'.shim, th') ∧
      s'.threads = s.threads.set i th' := by
  simp only [Sys.step] at h
  split at h
  · cases h
  · obtain ⟨⟨sh', th'⟩, ht, rfl⟩ := Option.map_eq_some'.mp h
    exact ⟨_, th', ‹_›, ht, rfl⟩

theorem Sys.step_scaleDown {id : String} {status : Nat} (h : s.step (.scaleDown id status) = some s') :
    s' = { s with shim := s.shim.scaleDown id status } := by
  simp only [Sys.step] at h
  split_ifs at h
  exact (Option.some.inj h).symm

theorem Sys.step_exit {p : Process} {status : Nat} (h : s.step (.exit p status) = some s') :
    s' = { s with shim := s.shim.exit p status } := by
  simp only [Sys.step] at h
  split_ifs at h
  exact (Option.some.inj h).symm

theorem Sys.step_reap (h : s.step .reap = some s') : s' = { s with shim := s.shim.reap } := by
  simp only [Sys.step] at h
  split_ifs at h
  exact (Option.some.inj h).symm

variable {sh sh' : Shim} {th' : Thread} {pid : Nat}

theorem Thread.step_exec {t : ExecThread} (h : (Thread.exec t).step sh pid = some (sh', th')) :
    ∃ t', t.step sh pid = some (sh', t') ∧ th' = .exec t' := by
  obtain ⟨⟨_, t'⟩, ht, hr⟩ := Option.map_eq_some'.mp h
  cases hr
  exact ⟨t', ht, rfl⟩

theorem Thread.step_kill {t : KillThread} (h : (Thread.kill t).step sh pid = some (sh', th')) :
    ∃ t', t.step sh = some (sh', t') ∧ th' = .kill t' := by
  obtain ⟨⟨_, t'⟩, ht, hr⟩ := Option.map_eq_some'.mp h
  cases hr
  exact ⟨t', ht, rfl⟩

end Moves

/-! ## `Start` and `Delete` as moves -/

/-- A move: one of the system above, or a `Start` or a `Delete` RPC run at once. -/
inductive MoveD where
  | step (st : Step)
  | start (id execId : String) (reply : StartReply)
  | delete (id execId : String)

section System

variable (host : Host)

/-- The effect of one move, `none` when it is not enabled. -/
def Sys.stepD (s : Sys) : MoveD → Option Sys
  | .step st => s.step st
  | .start id execId reply => some { s with shim := s.shim.start host id execId reply }
  | .delete id execId => some { s with shim := s.shim.delete id execId }

/-- The states reachable from `s₀` by enabled moves, `Start` and `Delete` included. -/
inductive Sys.ReachableD (s₀ : Sys) : Sys → Prop where
  | refl : ReachableD s₀ s₀
  | step {s s' : Sys} (mv : MoveD) : ReachableD s₀ s → s.stepD host mv = some s' → ReachableD s₀ s'

end System

end Zeropod.Task
