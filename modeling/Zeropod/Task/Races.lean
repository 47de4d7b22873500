import Zeropod.Task.Interleaving

/-!
# Races between `Exec`, `Restore`, `Kill` and the reaper

Three schedules of the interleaved model break what the spec says of the checkpoint/restore
state machine. All start from a container `web` that was started, scaled down, and whose
checkpointed exit the reaper already suppressed.

* The restored process exits between `p.Start` and `handleStarted`. The early-exit buffer of
  `preRestore` was already dropped by its deferred `cleanup`, and the process is not yet in
  `running`, so the reaper consumes the exit and hands it to no one; `handleStarted` then
  records the dead process as running. `ExitLost` shows that nothing can publish that exit
  afterwards: it is a run invariant.
* Two `Exec` calls both read `ScaledDown()` before either restores, and a `Kill` takes its
  scaled-down branch in between: the container is restored twice, and after the kill.
* A `Kill` takes the mutex after `Restore` released it but before `Exec` cleared the flag: it
  takes its scaled-down branch while the current process is the live restored one.

## Main results

* `Sys.Reachable.exitLost` — an exit that is lost (never published, in no early-exit buffer,
  not in the reaper channel) stays lost in every state reachable after, whatever the threads,
  scale-downs, exits and reaper iterations.
-/

namespace Zeropod.Task

/-! ## An exit that nothing can publish any more -/

/-- Handling each of `ees` for the one pair `cp`, as `handleStarted` does with early exits. -/
theorem Service.foldl_handleProcessExit (s : Service) (cp : ContainerProcess) (ees : List Exit) :
    ees.foldl (fun s e => s.handleProcessExit e cp) s =
      { s with published := s.published ++ ees.map (·, cp) } := by
  induction ees generalizing s with
  | nil => simp
  | cons e ees ih =>
    rw [List.foldl_cons, ih]
    simp [handleProcessExit]

/-- `handleStarted` publishes, for the started pair, exactly the exits its buffer saw at the
process's PID, and leaves the buffers as they were. -/
theorem Service.handleStarted_published (s : Service) (h : Nat) (c : Container) (p : Process) :
    (s.handleStarted h c p).published = s.published ++
      ((s.subscriberExits.filter fun x => x.1 = h ∧ x.2.pid = p.pid).map (·.2)).map (·, ⟨c, p⟩) ∧
    (s.handleStarted h c p).subscriberExits = s.subscriberExits := by
  dsimp only [handleStarted]
  split
  · rename_i hnil
    rw [hnil]
    simp [cleanup]
  · simp [foldl_handleProcessExit, cleanup]

/-- Neither published nor held by an early-exit buffer. -/
def Service.Clean (s : Service) (e : Exit) : Prop :=
  (∀ x ∈ s.published, x.1 ≠ e) ∧ ∀ x ∈ s.subscriberExits, x.2 ≠ e

theorem Service.Clean.handleStarted {s : Service} {e : Exit} (hs : s.Clean e) (h : Nat)
    (c : Container) (p : Process) : (s.handleStarted h c p).Clean e := by
  obtain ⟨hpub, hsub⟩ := s.handleStarted_published h c p
  refine ⟨fun x hx => ?_, by rw [hsub]; exact hs.2⟩
  rw [hpub, List.mem_append] at hx
  rcases hx with hx | hx
  · exact hs.1 x hx
  · simp only [List.map_map, List.mem_map, List.mem_filter] at hx
    obtain ⟨y, ⟨hy, -⟩, rfl⟩ := hx
    exact hs.2 y hy

/-- An iteration of `processExits` on another exit keeps an exit clean. -/
theorem Service.Clean.processExit {w : Wrapper} {e e' : Exit} (hs : w.svc.Clean e) (he : e' ≠ e) :
    (w.processExit e').svc.Clean e := by
  cases h : (w.svc.running e'.pid).any w.scaledDownPair
  · obtain ⟨st, hst⟩ := w.processExit_of_not_scaledDown e' h
    rw [hst]
    refine ⟨fun x hx => ?_, fun x hx => ?_⟩
    · simp only [List.mem_append, List.mem_map] at hx
      rcases hx with hx | ⟨y, -, rfl⟩
      · exact hs.1 x hx
      · exact he
    · simp only [broadcast, List.mem_append, List.mem_map] at hx
      rcases hx with hx | ⟨y, -, rfl⟩
      · exact hs.2 x hx
      · exact he
  · obtain ⟨st, hst⟩ := w.processExit_of_scaledDown e' h
    rw [hst]
    exact hs

/-- **A lost exit**: never published, held by no early-exit buffer, not in the reaper channel,
and with a timestamp already taken, so that no later exit is this one. -/
def Shim.ExitLost (sh : Shim) (e : Exit) : Prop :=
  sh.w.svc.Clean e ∧ e ∉ sh.ec ∧ e.timestamp < sh.fresh

instance (sh : Shim) (e : Exit) : Decidable (sh.ExitLost e) :=
  inferInstanceAs (Decidable (((∀ x ∈ sh.w.svc.published, x.1 ≠ e) ∧
    ∀ x ∈ sh.w.svc.subscriberExits, x.2 ≠ e) ∧ e ∉ sh.ec ∧ e.timestamp < sh.fresh))

/-- A move that publishes nothing new about `e`, adds no exit but fresh ones to the channel and
takes no timestamp back keeps `e` lost. -/
theorem Shim.ExitLost.of_frame {sh sh' : Shim} {e : Exit} (hl : sh.ExitLost e)
    (hc : sh'.w.svc.Clean e) (hec : e ∈ sh'.ec → e ∈ sh.ec ∨ e.timestamp = sh.fresh)
    (hf : sh.fresh ≤ sh'.fresh) : sh'.ExitLost e := by
  refine ⟨hc, fun he => ?_, Nat.lt_of_lt_of_le hl.2.2 hf⟩
  rcases hec he with h | h
  · exact hl.2.1 h
  · exact Nat.ne_of_lt hl.2.2 h

section Lost

variable {sh : Shim} {e : Exit}

theorem Shim.ExitLost.killLocked (hl : sh.ExitLost e) (id execId : String) (ok : Bool) :
    (sh.killLocked id execId ok).ExitLost e := by
  unfold Shim.killLocked
  split
  · exact hl
  · split_ifs <;> exact hl.of_frame hl.1 .inl le_rfl

theorem Shim.ExitLost.scaleDown (hl : sh.ExitLost e) (id : String) (status : Nat) :
    (sh.scaleDown id status).ExitLost e := by
  unfold Shim.scaleDown
  split
  · exact hl
  · split_ifs
    · refine hl.of_frame hl.1 (fun he => ?_) (Nat.le_succ _)
      simp only [List.mem_append, List.mem_singleton] at he
      exact he.imp_right fun h => by rw [h]
    · exact hl

theorem Shim.ExitLost.exit (hl : sh.ExitLost e) (p : Process) (status : Nat) :
    (sh.exit p status).ExitLost e := by
  unfold Shim.exit
  split_ifs
  · refine hl.of_frame hl.1 (fun he => ?_) (Nat.le_succ _)
    simp only [List.mem_append, List.mem_singleton] at he
    exact he.imp_right fun h => by rw [h]
  · exact hl

/-- The reaper reads some other exit: `e` is not in the channel. -/
theorem Shim.ExitLost.reap (hl : sh.ExitLost e) : sh.reap.ExitLost e := by
  unfold Shim.reap
  split
  · exact hl
  · rename_i e' rest hec
    have he' : e' ≠ e := fun h => hl.2.1 (by rw [hec, h]; exact List.mem_cons_self e rest)
    refine hl.of_frame (Service.Clean.processExit hl.1 he') (fun he => ?_) le_rfl
    exact .inl (by rw [hec]; exact List.mem_cons_of_mem e' he)

theorem Shim.ExitLost.postRestore (hl : sh.ExitLost e) (h : Nat) (c : Container) (p : Process) :
    (sh.postRestore h c p).ExitLost e :=
  hl.of_frame (Service.Clean.handleStarted
    (s := { sh.w.svc with containers := setAt sh.w.svc.containers c.id (some c) }) hl.1 h c p)
    .inl le_rfl

theorem ExecThread.step_exitLost {t t' : ExecThread} {sh' : Shim} {pid : Nat}
    (hl : sh.ExitLost e) (h : t.step sh pid = some (sh', t')) : sh'.ExitLost e := by
  have hsucc := Nat.le_succ sh.fresh
  unfold ExecThread.step at h
  split at h
  case h_1 => split at h <;> cases h <;> exact hl.of_frame hl.1 .inl le_rfl
  case h_2 => split at h <;> cases h; exact hl.of_frame hl.1 .inl le_rfl
  case h_8 => cases h; exact hl.postRestore _ _ _
  case h_12 => cases h
  all_goals cases h; first
    | exact hl.of_frame hl.1 .inl le_rfl
    | exact hl.of_frame hl.1 .inl hsucc

theorem KillThread.step_exitLost {t t' : KillThread} {sh' : Shim}
    (hl : sh.ExitLost e) (h : t.step sh = some (sh', t')) : sh'.ExitLost e := by
  unfold KillThread.step at h
  split at h
  · split at h <;> cases h; exact hl.of_frame hl.1 .inl le_rfl
  · cases h; exact (hl.killLocked _ _ _).of_frame (hl.killLocked _ _ _).1 .inl le_rfl
  · cases h

theorem Thread.step_exitLost {th th' : Thread} {sh' : Shim} {pid : Nat}
    (hl : sh.ExitLost e) (h : th.step sh pid = some (sh', th')) : sh'.ExitLost e := by
  cases th with
  | exec t =>
    obtain ⟨⟨sh'', t'⟩, ht, hr⟩ := Option.map_eq_some'.mp h
    cases hr
    exact ExecThread.step_exitLost hl ht
  | kill t =>
    obtain ⟨⟨sh'', t'⟩, ht, hr⟩ := Option.map_eq_some'.mp h
    cases hr
    exact KillThread.step_exitLost hl ht

end Lost

theorem Sys.step_exitLost {s s' : Sys} {st : Step} {e : Exit} (hl : s.shim.ExitLost e)
    (h : s.step st = some s') : s'.shim.ExitLost e := by
  cases st with
  | thread i pid =>
    simp only [Sys.step] at h
    split at h
    · cases h
    · obtain ⟨⟨sh', th'⟩, ht, rfl⟩ := Option.map_eq_some'.mp h
      exact Thread.step_exitLost hl ht
  | scaleDown id status =>
    simp only [Sys.step] at h
    split_ifs at h
    cases h
    exact hl.scaleDown id status
  | exit p status =>
    simp only [Sys.step] at h
    split_ifs at h
    cases h
    exact hl.exit p status
  | reap =>
    simp only [Sys.step] at h
    split_ifs at h
    cases h
    exact hl.reap

/-- **Lost for good**: once an exit is lost, it stays lost in every state reachable after. -/
theorem Sys.Reachable.exitLost {s₀ s : Sys} {e : Exit} (hl : s₀.shim.ExitLost e)
    (hr : s₀.Reachable s) : s.shim.ExitLost e := by
  induction hr with
  | refl => exact hl
  | step st _ hst ih => exact step_exitLost ih hst

/-- A lost exit is never published, in any state reachable after. -/
theorem Sys.not_published_of_exitLost {s s' : Sys} {e : Exit} (hl : s.shim.ExitLost e)
    (hr : s.Reachable s') (cp : ContainerProcess) : (e, cp) ∉ s'.shim.w.svc.published :=
  fun h => (hr.exitLost hl).1.1 _ h rfl

/-! ## The schedules -/

/-- `web` started with its init `checkpointedWeb` at PID 100, scaled down with status 9, and the
checkpointed process's exit suppressed by the reaper. -/
def scaledDownWeb : Shim :=
  Shim.init.run exampleHost [plainStart "web" 50 100, .scaleDown "web" 9, .reap]

/-- The init that the scale-down of `scaledDownWeb` checkpointed. -/
def checkpointedWeb : Process := ⟨50, "web", 100, true⟩

/-- The process a restore of `scaledDownWeb` at PID 200 starts. -/
def restoredWeb : Process := ⟨3, "web", 200, true⟩

/-- One `Exec(web)` in flight. -/
def execRace : Sys := ⟨scaledDownWeb, [.exec (ExecThread.new "web")]⟩

/-- The restored process exits after `p.Start` and is reaped before `handleStarted`. -/
def exitBeforeHandleStarted : List Step :=
  List.replicate 6 (.thread 0 200) ++ [.exit restoredWeb 1, .reap] ++ List.replicate 5 (.thread 0 200)

/-- The restored process exits after `Restore` returned and is reaped before `Exec`'s
`SetScaledDown(false)`. -/
def exitBeforeSetScaledDown : List Step :=
  List.replicate 9 (.thread 0 200) ++ [.exit restoredWeb 1, .reap] ++ List.replicate 2 (.thread 0 200)

/-- The `Exec` has returned; `restoredWeb` has exited but `running` still records it at its PID,
and its exit `⟨4, 200, 1⟩` is lost. -/
def Sys.RestoredExitLost (s : Sys) : Prop :=
  s.threads.all Thread.isDone ∧ restoredWeb ∉ s.shim.live ∧
    (s.shim.w.svc.running 200).any (·.process = restoredWeb) ∧ s.shim.ExitLost ⟨4, 200, 1⟩

instance (s : Sys) : Decidable s.RestoredExitLost := inferInstanceAs (Decidable (_ ∧ _))

/-- In both windows the exit of the restored process is consumed and never published, and the
dead process stays recorded as running. -/
theorem restored_exit_never_published :
    ∀ sched ∈ [exitBeforeHandleStarted, exitBeforeSetScaledDown], ∃ s,
      execRace.run sched = some s ∧ s.threads.all Thread.isDone ∧ restoredWeb ∉ s.shim.live ∧
      (s.shim.w.svc.running 200).any (·.process = restoredWeb) ∧
      ∀ s', s.Reachable s' → ∀ cp, (⟨4, 200, 1⟩, cp) ∉ s'.shim.w.svc.published := by
  intro sched hsched
  have hruns : ∀ sched ∈ [exitBeforeHandleStarted, exitBeforeSetScaledDown],
      ((execRace.run sched).map fun s => decide s.RestoredExitLost) = some true := by decide
  obtain ⟨s, hrun, hs⟩ := Option.map_eq_some'.mp (hruns sched hsched)
  obtain ⟨hdone, hlive, hpid, hl⟩ := of_decide_eq_true hs
  exact ⟨s, hrun, hdone, hlive, hpid, fun s' hr => Sys.not_published_of_exitLost hl hr⟩

theorem exitBeforeHandleStarted_loses_exit : ∃ s,
    execRace.run exitBeforeHandleStarted = some s ∧ s.threads.all Thread.isDone ∧
      restoredWeb ∉ s.shim.live ∧ (s.shim.w.svc.running 200).any (·.process = restoredWeb) ∧
      ∀ s', s.Reachable s' → ∀ cp, (⟨4, 200, 1⟩, cp) ∉ s'.shim.w.svc.published :=
  restored_exit_never_published _ (List.mem_cons_self _ _)

/-- Two `Exec(web)` and a `Kill(web, "")` in flight. -/
def twoExecsAndKill : Sys :=
  ⟨scaledDownWeb, [.exec (ExecThread.new "web"), .exec (ExecThread.new "web"),
    .kill ⟨"web", "", true, .lock⟩]⟩

/-- Both `Exec`s read `ScaledDown()`, the `Kill` runs, then each `Exec` restores. -/
theorem restore_twice_after_kill :
    ∃ s, twoExecsAndKill.Reachable s ∧ s.shim.marks =
      [.scaledDown "web", .killScaledDown "web" checkpointedWeb, .restored "web", .restored "web"] :=
  Sys.reach_of_run ([.thread 0 0, .thread 1 0, .thread 2 0, .thread 2 0] ++
    List.replicate 10 (.thread 0 200) ++ List.replicate 10 (.thread 1 300)) _ (by decide)

/-- One `Exec(web)` and a `Kill(web, "")` in flight. -/
def execAndKill : Sys :=
  ⟨scaledDownWeb, [.exec (ExecThread.new "web"), .kill ⟨"web", "", true, .lock⟩]⟩

/-- `Restore` returns and releases the mutex; the `Kill` takes it before `Exec` clears the flag. -/
theorem kill_scaledDown_live_restored :
    ∃ s, execAndKill.Reachable s ∧ s.shim.crLocked = false ∧
      (s.shim.w.getZeropodContainer "web").map (fun z => (z.scaledDown, z.process)) =
        some (true, restoredWeb) ∧
      restoredWeb ∈ s.shim.live ∧ .killScaledDown "web" restoredWeb ∈ s.shim.marks :=
  Sys.reach_of_run (List.replicate 9 (.thread 0 200) ++ [.thread 1 0, .thread 1 0]) _ (by decide)

end Zeropod.Task
