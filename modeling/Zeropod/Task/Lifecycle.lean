import Zeropod.Task.Wrapper

/-!
# The flags of a managed container over whole runs

A managed container carries three flags the wrapper and the scale-down path set and clear:
`ScaledDown()`, whether its countdown is armed, and whether its activator serves. `Start`
arms the countdown, `Exec` cancels it and clears `ScaledDown` after a restore, `Delete` of an
exec re-arms it, `Kill` stops the activator, a restore disables the activator's redirects, and
a scale-down sets `ScaledDown`, disarms the countdown and starts the activator.

Two relations between the flags hold in every state of every run of the RPC model:

* the activator serves only a scaled-down container;
* no countdown is armed while the container is scaled down, so a scaled-down container is
  never checkpointed a second time.

The converse of the first fails: `Kill` of a scaled-down container stops its activator and
leaves the flag set.

## Main results

* `Shim.init_run_flagsOk` — in every run of the RPC model from the initial shim, the flags of
  every managed container are consistent.
-/

namespace Zeropod.Task

open Zeropod.ConfigLoader (Host)

/-! ## Reading the managed containers after each operation -/

section Get

variable (sh : Shim) (x : String)

theorem Shim.getZeropodContainer_modifyZeropod_ne {id : String} (f : ZeropodContainer → ZeropodContainer)
    (hx : x ≠ id) : (sh.modifyZeropod id f).w.getZeropodContainer x = sh.w.getZeropodContainer x :=
  setAt_ne _ _ hx

@[simp] theorem Shim.modifySvc_getZeropodContainer (f : Service → Service) :
    (sh.modifySvc f).w.getZeropodContainer x = sh.w.getZeropodContainer x := rfl

@[simp] theorem Shim.restoreLock_getZeropodContainer :
    sh.restoreLock.w.getZeropodContainer x = sh.w.getZeropodContainer x := rfl

@[simp] theorem Shim.newContainer_getZeropodContainer (id : String) :
    (sh.newContainer id).1.w.getZeropodContainer x = sh.w.getZeropodContainer x := rfl

@[simp] theorem Shim.preRestore_getZeropodContainer :
    sh.preRestore.1.w.getZeropodContainer x = sh.w.getZeropodContainer x := rfl

@[simp] theorem Shim.restoreCleanup_getZeropodContainer (h : Nat) :
    (sh.restoreCleanup h).w.getZeropodContainer x = sh.w.getZeropodContainer x := rfl

@[simp] theorem Shim.startProcess_getZeropodContainer (id : String) (pid : Nat) :
    (sh.startProcess id pid).1.w.getZeropodContainer x = sh.w.getZeropodContainer x := rfl

@[simp] theorem Shim.postRestore_getZeropodContainer (h : Nat) (c : Container) (p : Process) :
    (sh.postRestore h c p).w.getZeropodContainer x = sh.w.getZeropodContainer x := rfl

@[simp] theorem Shim.restoreUnlock_getZeropodContainer (id : String) :
    (sh.restoreUnlock id).w.getZeropodContainer x =
      (sh.modifyZeropod id (·.stop)).w.getZeropodContainer x := rfl

@[simp] theorem Shim.exit_getZeropodContainer (p : Process) (status : Nat) :
    (sh.exit p status).w.getZeropodContainer x = sh.w.getZeropodContainer x := by
  unfold exit
  split_ifs <;> rfl

@[simp] theorem Shim.reap_getZeropodContainer : sh.reap.w.getZeropodContainer x = sh.w.getZeropodContainer x := by
  unfold reap
  split
  · rfl
  · exact congrFun (Wrapper.processExit_zeropodContainers _ _) x

end Get

/-- `Container.Restore` swaps in the new container and process and stops the activator of
`id`; it touches no other managed container. -/
theorem Shim.restore_getZeropodContainer (sh : Shim) (id : String) (pid : Nat) (x : String) :
    (sh.restore id pid).w.getZeropodContainer x =
      if x = id then (sh.w.getZeropodContainer id).map fun z =>
        { z with
          container := ⟨sh.fresh, id⟩, process := ⟨sh.fresh + 2, id, pid, true⟩, activator := false }
      else sh.w.getZeropodContainer x := by
  split_ifs with hx
  · subst hx
    simp [restore, restoreUnlock, swap, restoreCleanup, Option.map_map, Function.comp_def,
      ZeropodContainer.stop, newContainer, preRestore, startProcess, restoreLock, modifySvc]
    rfl
  · simp [restore, restoreUnlock, swap, restoreCleanup,
      getZeropodContainer_modifyZeropod_ne _ _ _ hx]

/-- The managed container `id` after a restore has its activator stopped. -/
theorem Shim.restore_activator (sh : Shim) (id : String) (pid : Nat) {z : ZeropodContainer}
    (hz : (sh.restore id pid).w.getZeropodContainer id = some z) : z.activator = false := by
  rw [restore_getZeropodContainer, if_pos rfl] at hz
  obtain ⟨_, _, rfl⟩ := Option.map_eq_some'.mp hz
  rfl

/-- `Kill` of the init stops the activator of its managed container; `Kill` of an exec touches
none. -/
theorem Shim.killLocked_getZeropodContainer (sh : Shim) (id execId : String) (ok : Bool)
    (x : String) :
    (sh.killLocked id execId ok).w.getZeropodContainer x =
      if x = id ∧ execId.length = 0 then (sh.w.getZeropodContainer x).map (·.stop)
      else sh.w.getZeropodContainer x := by
  unfold killLocked
  split <;> split_ifs <;> simp_all [getZeropodContainer_modifyZeropod_ne]

/-- `Start` either leaves the managed containers alone or stores under `id` a fresh one in
`Running`, with its countdown armed. -/
theorem Shim.start_getZeropodContainer (sh : Shim) (host : Host) (id execId : String)
    (reply : StartReply) :
    (∀ x, (sh.start host id execId reply).w.getZeropodContainer x = sh.w.getZeropodContainer x) ∨
      ∃ c p, ∀ x, (sh.start host id execId reply).w.getZeropodContainer x =
        setAt sh.w.getZeropodContainer id (some (newZeropodContainer c p).scheduleScaleDown) x := by
  unfold Shim.start
  repeat' split
  all_goals first
    | exact .inl fun _ => rfl
    | exact .inr ⟨_, _, fun _ => rfl⟩

/-! ## A property of every managed container -/

section Forall

variable {sh sh' : Shim} {P : ZeropodContainer → Prop}
  (h : ∀ x z, sh.w.getZeropodContainer x = some z → P z)
include h

/-- It survives a change of one container that keeps it for the container there. -/
theorem Shim.forall_modifyZeropod {id : String} {f : ZeropodContainer → ZeropodContainer}
    (hf : ∀ z, sh.w.getZeropodContainer id = some z → P (f z)) :
    ∀ x z, (sh.modifyZeropod id f).w.getZeropodContainer x = some z → P z := by
  intro x z' hz'
  by_cases hx : x = id
  · subst hx
    rw [getZeropodContainer_modifyZeropod] at hz'
    obtain ⟨z, hz, rfl⟩ := Option.map_eq_some'.mp hz'
    exact hf z hz
  · rw [getZeropodContainer_modifyZeropod_ne _ _ _ hx] at hz'
    exact h x z' hz'

/-- It survives storing a container that has it. -/
theorem Shim.forall_of_setAt {id : String} {z : ZeropodContainer} (hz : P z)
    (he : ∀ x, sh'.w.getZeropodContainer x = setAt sh.w.getZeropodContainer id (some z) x) :
    ∀ x z', sh'.w.getZeropodContainer x = some z' → P z' := by
  intro x z' hz'
  rw [he] at hz'
  by_cases hx : x = id
  · rw [hx, setAt_same, Option.some.injEq] at hz'
    exact hz' ▸ hz
  · rw [setAt_ne _ _ hx] at hz'
    exact h x z' hz'

/-- It survives `Kill` when stopping the activator keeps it. -/
theorem Shim.forall_killLocked (hf : ∀ z, P z → P z.stop) (id execId : String) (ok : Bool) :
    ∀ x z, (sh.killLocked id execId ok).w.getZeropodContainer x = some z → P z := by
  intro x z hz
  rw [killLocked_getZeropodContainer] at hz
  split_ifs at hz
  · obtain ⟨z₀, hz₀, rfl⟩ := Option.map_eq_some'.mp hz
    exact hf z₀ (h x z₀ hz₀)
  · exact h x z hz

end Forall

/-! ## Consistent flags -/

/-- The flags of a managed container agree: the activator serves only while the container is
scaled down, and no countdown is armed while it is. -/
structure ZeropodContainer.FlagsOk (z : ZeropodContainer) : Prop where
  /-- An activator serves only a scaled-down container. -/
  activator : z.activator = true → z.scaledDown = true
  /-- A scaled-down container has no countdown armed. -/
  scheduled : z.scheduled = true → z.scaledDown = false

/-- Every managed container of the shim has consistent flags. -/
def Shim.FlagsOk (sh : Shim) : Prop :=
  ∀ x z, sh.w.getZeropodContainer x = some z → z.FlagsOk

section Flags

variable {z : ZeropodContainer}

theorem ZeropodContainer.FlagsOk.cancelScaleDown (h : z.FlagsOk) : z.cancelScaleDown.FlagsOk :=
  ⟨h.activator, nofun⟩

theorem ZeropodContainer.FlagsOk.stop (h : z.FlagsOk) : z.stop.FlagsOk :=
  ⟨nofun, h.scheduled⟩

/-- `ScheduleScaleDown` arms the countdown only outside `ScaledDown`. -/
theorem ZeropodContainer.FlagsOk.scheduleScaleDown (h : z.FlagsOk) : z.scheduleScaleDown.FlagsOk := by
  unfold ZeropodContainer.scheduleScaleDown
  split
  · exact h
  · rename_i hs
    exact ⟨fun ha => absurd (h.activator ha) hs, fun _ => Bool.eq_false_iff.mpr hs⟩

/-- Clearing `ScaledDown` is safe once the activator is stopped. -/
theorem ZeropodContainer.flagsOk_setScaledDown_false (h : z.activator = false) :
    (z.setScaledDown false).FlagsOk :=
  ⟨fun ha => absurd ha (by simp [setScaledDown, h]), fun _ => rfl⟩

end Flags

section Frame

variable {sh sh' : Shim}

theorem Shim.FlagsOk.of_get (h : sh.FlagsOk)
    (he : ∀ x, sh'.w.getZeropodContainer x = sh.w.getZeropodContainer x) : sh'.FlagsOk :=
  fun x z hz => h x z (he x ▸ hz)

/-- Changing one managed container keeps the flags consistent when the change does, for the
container that is there. -/
theorem Shim.FlagsOk.modifyZeropod {id : String} {f : ZeropodContainer → ZeropodContainer}
    (h : sh.FlagsOk) (hf : ∀ z, sh.w.getZeropodContainer id = some z → (f z).FlagsOk) :
    (sh.modifyZeropod id f).FlagsOk :=
  Shim.forall_modifyZeropod h hf

theorem Shim.FlagsOk.modifyZeropod_of {id : String} {f : ZeropodContainer → ZeropodContainer}
    (h : sh.FlagsOk) (hf : ∀ z, z.FlagsOk → (f z).FlagsOk) : (sh.modifyZeropod id f).FlagsOk :=
  h.modifyZeropod fun z hz => hf z (h id z hz)

end Frame

/-! ## Every operation keeps the flags consistent -/

section Moves

variable {sh : Shim} (h : sh.FlagsOk)
include h

/-- `Start` adds a container in `Running` with its countdown armed and no activator. -/
theorem Shim.FlagsOk.start (host : Host) (id execId : String) (reply : StartReply) :
    (sh.start host id execId reply).FlagsOk := by
  rcases sh.start_getZeropodContainer host id execId reply with he | ⟨c, p, he⟩
  · exact h.of_get he
  · exact Shim.forall_of_setAt h (⟨nofun, nofun⟩ : (newZeropodContainer c p).FlagsOk).scheduleScaleDown he

theorem Shim.FlagsOk.restore (id : String) (pid : Nat) : (sh.restore id pid).FlagsOk := by
  intro x z hz
  rw [restore_getZeropodContainer] at hz
  split_ifs at hz with hx
  · obtain ⟨z₀, hz₀, rfl⟩ := Option.map_eq_some'.mp hz
    exact ⟨nofun, (h id z₀ hz₀).scheduled⟩
  · exact h x z hz

/-- `Exec` cancels the countdown, and clears `ScaledDown` only after its restore stopped the
activator. -/
theorem Shim.FlagsOk.exec (id : String) (pid : Nat) : (sh.exec id pid).FlagsOk := by
  unfold Shim.exec
  split
  · exact h
  · have hc : (sh.modifyZeropod id (·.cancelScaleDown)).FlagsOk :=
      h.modifyZeropod_of fun _ hz => hz.cancelScaleDown
    split
    · exact (hc.restore id pid).modifyZeropod fun _ hz =>
        ZeropodContainer.flagsOk_setScaledDown_false (Shim.restore_activator _ _ _ hz)
    · exact hc

theorem Shim.FlagsOk.delete (id execId : String) : (sh.delete id execId).FlagsOk := by
  unfold Shim.delete
  split
  · exact h.of_get (serviceDelete_getZeropodContainer _ _ _)
  · split_ifs
    · exact (h.modifyZeropod_of fun _ hz => hz.scheduleScaleDown).of_get
        (serviceDelete_getZeropodContainer _ _ _)
    · exact h.of_get (serviceDelete_getZeropodContainer _ _ _)

theorem Shim.FlagsOk.killLocked (id execId : String) (ok : Bool) :
    (sh.killLocked id execId ok).FlagsOk :=
  Shim.forall_killLocked h (fun _ hz => hz.stop) id execId ok

/-- A scale-down sets `ScaledDown`, disarms the countdown and starts the activator, all at
once. -/
theorem Shim.FlagsOk.scaleDown (id : String) (status : Nat) : (sh.scaleDown id status).FlagsOk := by
  unfold Shim.scaleDown
  split
  · exact h
  · split_ifs
    · exact h.modifyZeropod fun _ _ => ⟨fun _ => rfl, nofun⟩
    · exact h

theorem Shim.FlagsOk.exit (p : Process) (status : Nat) : (sh.exit p status).FlagsOk :=
  h.of_get fun _ => exit_getZeropodContainer _ _ _ _

theorem Shim.FlagsOk.reap : sh.reap.FlagsOk :=
  h.of_get fun _ => reap_getZeropodContainer _ _

end Moves

/-! ## Runs of the RPC model -/

section Runs

variable (host : Host)

theorem Shim.FlagsOk.init : Shim.init.FlagsOk := fun _ _ h => nomatch h

theorem Shim.FlagsOk.step {sh : Shim} (h : sh.FlagsOk) (a : Action) : (sh.step host a).FlagsOk := by
  cases a with
  | start id execId reply => exact h.start host id execId reply
  | exec id _ _ pid => exact h.exec id pid
  | delete id execId => exact h.delete id execId
  | kill id execId ok => exact h.killLocked id execId ok
  | scaleDown id status => exact h.scaleDown id status
  | exit p status => exact h.exit p status
  | reap => exact h.reap

theorem Shim.FlagsOk.run {sh : Shim} (h : sh.FlagsOk) (tr : List Action) : (sh.run host tr).FlagsOk := by
  induction tr generalizing sh with
  | nil => exact h
  | cons a tr ih => exact ih (h.step host a)

end Runs

end Zeropod.Task
