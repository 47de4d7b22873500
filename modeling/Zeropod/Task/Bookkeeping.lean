import Zeropod.Task.Races

/-!
# The exit bookkeeping over whole runs

The exit reconciler (`processExits`) and the delegate's `Start` and `handleStarted` share two
pieces of state: the map `running` from a PID to the (container, process) pairs started
there, and the stream of `TaskExit` events that `handleProcessExit` publishes. This module
follows both over whole runs, of the RPC model (`Shim.run`) and of the interleaved one
(`Sys.Reachable`, and `Sys.ReachableD` with `Start` and `Delete` as moves).

Two things hold along every run, whatever the RPCs, the scale-downs, the exits and the
reaper do, and however the threads interleave:

* a pair leaves `running` only once an exit at its PID has been published for it, and a
  published exit is never taken back (`Service.Follows`);
* the bookkeeping is keyed right: every pair recorded at a PID is a process with that PID,
  and every published exit is for a process with the exit's PID (`Service.PidsAgree`).

Each operation of the shim is shown to keep both once (`Shim.*_follows`); the run theorems are
then inductions over the run. What goes wrong in the races of `Zeropod.Task.Races` happens
before a pair is recorded: the restored process there exits before `handleStarted` records
it. Once a pair is in `running`, its exit is not lost. Which exit is published for it is another
matter: the exit of a checkpointed init goes through when a restore clears the flag before the
reaper reads it (the example after `Sys.Reachable.follows`).

## Main results

* `Shim.run_follows`, `Sys.Reachable.follows`, `Sys.ReachableD.svc_follows` — every run of the
  RPC model and every interleaving keeps the bookkeeping.
* `Shim.init_run_pidsAgree` — in every run from the initial shim, every published exit is for
  a process with the exit's PID.
-/

namespace Zeropod.Task

open Zeropod.ConfigLoader (Host)

/-! ## Two properties of the bookkeeping -/

/-- The bookkeeping is keyed right: every pair recorded at a PID is a process with that PID,
and every published exit is for a process with the exit's PID. -/
structure Service.PidsAgree (s : Service) : Prop where
  running : ∀ pid, ∀ cp ∈ s.running pid, cp.process.pid = pid
  published : ∀ x ∈ s.published, x.2.process.pid = x.1.pid

/-- `s'` follows `s` along a run: the published exits only grow, every pair recorded in `s` is
still recorded at its PID in `s'` or was published in `s'` at an exit with that PID, and the
PIDs agree in `s'` if they did in `s`. -/
structure Service.Follows (s s' : Service) : Prop where
  published : s.published <+: s'.published
  running : ∀ pid, ∀ cp ∈ s.running pid,
    cp ∈ s'.running pid ∨ ∃ e, e.pid = pid ∧ (e, cp) ∈ s'.published
  pidsAgree : s.PidsAgree → s'.PidsAgree

theorem Service.PidsAgree.init : Shim.init.w.svc.PidsAgree :=
  ⟨fun _ _ h => absurd h (List.not_mem_nil _), fun _ h => absurd h (List.not_mem_nil _)⟩

theorem Service.Follows.refl (s : Service) : s.Follows s :=
  ⟨List.prefix_refl _, fun _ _ h => .inl h, id⟩

theorem Service.Follows.trans {s₁ s₂ s₃ : Service} (h₁ : s₁.Follows s₂) (h₂ : s₂.Follows s₃) :
    s₁.Follows s₃ where
  published := h₁.published.trans h₂.published
  running pid cp hcp := by
    rcases h₁.running pid cp hcp with h | ⟨e, he, hp⟩
    · exact h₂.running pid cp h
    · exact .inr ⟨e, he, h₂.published.subset hp⟩
  pidsAgree := h₂.pidsAgree ∘ h₁.pidsAgree

/-! ## What a move can do to the bookkeeping -/

/-- A move that leaves `running` and the published exits alone: exit marks, subscriptions and
`containers`. -/
theorem Service.Follows.of_frame {s s' : Service} (hr : s'.running = s.running)
    (hp : s'.published = s.published) : s.Follows s' where
  published := hp ▸ List.prefix_refl _
  running _ _ h := .inl (hr ▸ h)
  pidsAgree h := ⟨hr ▸ h.running, hp ▸ h.published⟩

/-- Recording the pair `cp` at its PID. -/
theorem Service.Follows.record {s s' : Service} (cp : ContainerProcess)
    (hr : s'.running = setAt s.running cp.process.pid (s.running cp.process.pid ++ [cp]))
    (hp : s'.published = s.published) : s.Follows s' where
  published := hp ▸ List.prefix_refl _
  running pid cp' h := by
    refine .inl ?_
    rw [hr]
    by_cases hpid : pid = cp.process.pid
    · subst hpid
      rw [setAt_same]
      exact List.mem_append_left _ h
    · rwa [setAt_ne _ _ hpid]
  pidsAgree h := by
    refine ⟨fun pid cp' hcp' => ?_, hp ▸ h.published⟩
    rw [hr] at hcp'
    by_cases hpid : pid = cp.process.pid
    · subst hpid
      rw [setAt_same, List.mem_append, List.mem_singleton] at hcp'
      rcases hcp' with hcp' | rfl
      · exact h.running _ cp' hcp'
      · rfl
    · rw [setAt_ne _ _ hpid] at hcp'
      exact h.running pid cp' hcp'

/-- Publishing exits, each for a process with its PID, and leaving `running` alone. -/
theorem Service.Follows.publish {s s' : Service} (l : List (Exit × ContainerProcess))
    (hr : s'.running = s.running) (hp : s'.published = s.published ++ l)
    (hl : ∀ x ∈ l, x.2.process.pid = x.1.pid) : s.Follows s' where
  published := hp ▸ List.prefix_append _ _
  running _ _ h := .inl (hr ▸ h)
  pidsAgree h := by
    refine ⟨hr ▸ h.running, fun x hx => ?_⟩
    rw [hp, List.mem_append] at hx
    exact hx.elim (h.published x) (hl x)

/-- `handleStarted` records the started pair, or publishes for it the exits its buffer saw at
the process's PID. -/
theorem Service.Follows.handleStarted (s : Service) (h : Nat) (c : Container) (p : Process) :
    s.Follows (s.handleStarted h c p) := by
  dsimp only [Service.handleStarted]
  split
  · exact .record ⟨c, p⟩ rfl rfl
  · rw [foldl_handleProcessExit]
    refine .publish _ rfl rfl fun x hx => ?_
    simp only [List.map_map, List.mem_map, List.mem_filter, Function.comp_apply] at hx
    obtain ⟨y, ⟨-, hy⟩, rfl⟩ := hx
    exact (of_decide_eq_true hy).2.symm

/-- A move that leaves `running` and the published exits alone, then `handleStarted`: the
shape of the `postRestore` hook. -/
theorem Service.Follows.frame_handleStarted {s s' : Service} (hr : s'.running = s.running)
    (hp : s'.published = s.published) (h : Nat) (c : Container) (p : Process) :
    s.Follows (s'.handleStarted h c p) :=
  (of_frame hr hp).trans (handleStarted s' h c p)

/-- **One iteration of `processExits`** keeps the bookkeeping: a suppressed event changes
neither `running` nor the published exits, and any other event publishes every pair at the
PID before it drops any of them. -/
theorem Service.Follows.processExit (w : Wrapper) (e : Exit) :
    w.svc.Follows (w.processExit e).svc := by
  cases h : (w.svc.running e.pid).any w.scaledDownPair
  · obtain ⟨st, hst⟩ := w.processExit_of_not_scaledDown e h
    rw [hst]
    have hall : ∀ cp ∈ w.svc.running e.pid ++
        (w.svc.running e.pid).filter (fun cp => !deferred w.svc.pendingExecs cp),
        cp ∈ w.svc.running e.pid := by
      intro cp hcp
      rw [List.mem_append, List.mem_filter] at hcp
      exact hcp.elim id (·.1)
    refine ⟨List.prefix_append _ _, fun pid cp hcp => ?_, fun hpa => ⟨fun pid cp hcp => ?_, ?_⟩⟩
    · by_cases hpid : pid = e.pid
      · subst hpid
        exact .inr ⟨e, rfl, List.mem_append_right _ (List.mem_map_of_mem _ (List.mem_append_left _ hcp))⟩
      · exact .inl (by simpa only [setAt_ne _ _ hpid] using hcp)
    · by_cases hpid : pid = e.pid
      · subst hpid
        simp only [setAt_same, List.mem_filter] at hcp
        exact hpa.running _ cp hcp.1
      · simp only [setAt_ne _ _ hpid] at hcp
        exact hpa.running pid cp hcp
    · intro x hx
      rw [List.mem_append, List.mem_map] at hx
      rcases hx with hx | ⟨cp, hcp, rfl⟩
      · exact hpa.published x hx
      · exact hpa.running _ cp (hall cp hcp)
  · obtain ⟨st, hst⟩ := w.processExit_of_scaledDown e h
    rw [hst]
    exact .of_frame rfl rfl

/-! ## Every move of the shim -/

section Moves

variable (sh : Shim)

theorem Shim.serviceStart_follows (c : Container) (p : Process) :
    sh.w.svc.Follows (sh.serviceStart c p).w.svc :=
  .record ⟨c, p⟩ rfl rfl

/-- `Start` is the delegate's `Start`, and then writes only `zeropodContainers`. -/
theorem Shim.start_follows (host : Host) (id execId : String) (reply : StartReply) :
    sh.w.svc.Follows (sh.start host id execId reply).w.svc := by
  unfold Shim.start
  split
  · exact .refl _
  · rename_i c p _
    have h := sh.serviceStart_follows c p
    repeat' split
    all_goals exact h

theorem Shim.postRestore_follows (h : Nat) (c : Container) (p : Process) :
    sh.w.svc.Follows (sh.postRestore h c p).w.svc := by
  refine .frame_handleStarted ?_ ?_ h c p <;> rfl

/-- Of the steps of `Container.Restore`, only `postRestore` touches the bookkeeping. -/
theorem Shim.restore_follows (id : String) (pid : Nat) :
    sh.w.svc.Follows (sh.restore id pid).w.svc := by
  refine .frame_handleStarted ?_ ?_ _ _ _ <;> rfl

theorem Shim.exec_follows (id : String) (pid : Nat) :
    sh.w.svc.Follows (sh.exec id pid).w.svc := by
  unfold Shim.exec
  split
  · exact .refl _
  · split
    · exact Shim.restore_follows _ id pid
    · exact .refl _

theorem Shim.delete_follows (id execId : String) :
    sh.w.svc.Follows (sh.delete id execId).w.svc := by
  unfold Shim.delete Shim.serviceDelete
  split <;> split_ifs <;> exact .of_frame rfl rfl

theorem Shim.killLocked_follows (id execId : String) (ok : Bool) :
    sh.w.svc.Follows (sh.killLocked id execId ok).w.svc := by
  unfold Shim.killLocked
  split
  · exact .refl _
  · split_ifs <;> exact .of_frame rfl rfl

theorem Shim.scaleDown_follows (id : String) (status : Nat) :
    sh.w.svc.Follows (sh.scaleDown id status).w.svc := by
  unfold Shim.scaleDown
  split
  · exact .refl _
  · split_ifs <;> exact .refl _

theorem Shim.exit_follows (p : Process) (status : Nat) :
    sh.w.svc.Follows (sh.exit p status).w.svc := by
  unfold Shim.exit
  split_ifs <;> exact .refl _

theorem Shim.reap_follows : sh.w.svc.Follows sh.reap.w.svc := by
  unfold Shim.reap
  split
  · exact .refl _
  · exact .processExit _ _

end Moves

/-! ## Runs of the RPC model -/

section Runs

variable (host : Host)

theorem Shim.step_follows (sh : Shim) (a : Action) : sh.w.svc.Follows (sh.step host a).w.svc := by
  cases a with
  | start id execId reply => exact sh.start_follows host id execId reply
  | exec id _ _ pid => exact sh.exec_follows id pid
  | delete id execId => exact sh.delete_follows id execId
  | kill id execId ok => exact sh.killLocked_follows id execId ok
  | scaleDown id status => exact sh.scaleDown_follows id status
  | exit p status => exact sh.exit_follows p status
  | reap => exact sh.reap_follows

/-- **Every run of the RPC model keeps the bookkeeping.** Whatever the RPCs, scale-downs,
exits and reaper iterations, the published exits only grow, a pair recorded at a PID stays
recorded there until an exit at that PID is published for it, and PIDs that agree keep
agreeing. -/
theorem Shim.run_follows (sh : Shim) (tr : List Action) :
    sh.w.svc.Follows (sh.run host tr).w.svc := by
  induction tr generalizing sh with
  | nil => exact .refl _
  | cons a tr ih => exact (sh.step_follows host a).trans (ih _)

/-- **The bookkeeping is keyed right in every run.** From the initial shim, every pair recorded
at a PID is a process with that PID, and every published exit is for a process with the
exit's PID. -/
theorem Shim.init_run_pidsAgree (tr : List Action) :
    (∀ pid, ∀ cp ∈ (Shim.init.run host tr).w.svc.running pid, cp.process.pid = pid) ∧
      ∀ x ∈ (Shim.init.run host tr).w.svc.published, x.2.process.pid = x.1.pid := by
  have h : ∀ sh : Shim, sh.w.svc.PidsAgree → (sh.run host tr).w.svc.PidsAgree := by
    induction tr with
    | nil => exact fun _ h => h
    | cons a tr ih => exact fun sh h => ih _ ((sh.step_follows host a).pidsAgree h)
  exact ⟨(h _ .init).running, (h _ .init).published⟩

end Runs

/-! ## Runs of the interleaved model -/

theorem ExecThread.step_follows {t t' : ExecThread} {sh sh' : Shim} {pid : Nat}
    (h : t.step sh pid = some (sh', t')) : sh.w.svc.Follows sh'.w.svc := by
  unfold ExecThread.step at h
  split at h
  case h_8 => cases h; exact sh.postRestore_follows _ _ _
  case h_12 => cases h
  all_goals first
    | (cases h; exact .of_frame rfl rfl)
    | (split at h <;> cases h <;> exact .of_frame rfl rfl)

theorem KillThread.step_follows {t t' : KillThread} {sh sh' : Shim}
    (h : t.step sh = some (sh', t')) : sh.w.svc.Follows sh'.w.svc := by
  unfold KillThread.step at h
  split at h
  · split at h <;> cases h; exact .refl _
  · cases h; exact sh.killLocked_follows _ _ _
  · cases h

theorem Sys.step_follows {s s' : Sys} {st : Step} (h : s.step st = some s') :
    s.shim.w.svc.Follows s'.shim.w.svc := by
  cases st with
  | thread i pid =>
    obtain ⟨th, th', -, ht, -⟩ := Sys.step_thread h
    cases th with
    | exec t =>
      obtain ⟨t', ht', -⟩ := Thread.step_exec ht
      exact ExecThread.step_follows ht'
    | kill t =>
      obtain ⟨t', ht', -⟩ := Thread.step_kill ht
      exact KillThread.step_follows ht'
  | scaleDown id status => exact Sys.step_scaleDown h ▸ s.shim.scaleDown_follows id status
  | exit p status => exact Sys.step_exit h ▸ s.shim.exit_follows p status
  | reap => exact Sys.step_reap h ▸ s.shim.reap_follows

/-- **Every interleaving keeps the bookkeeping.** In every state reachable by `Exec` and
`Kill` threads, scale-downs, exits and reaper iterations in any order, the published exits
extend those of the start, every pair recorded at the start is still recorded at its PID or
published at an exit with that PID, and PIDs that agreed still agree. -/
theorem Sys.Reachable.follows {s₀ s : Sys} (hr : s₀.Reachable s) :
    s₀.shim.w.svc.Follows s.shim.w.svc := by
  induction hr with
  | refl => exact .refl _
  | step st _ hst ih => exact ih.trans (Sys.step_follows hst)

/-- A started `web` and an `Exec` on it, after one step of the thread and the exit of `web`'s
process. -/
theorem Sys.Reachable.follows_web :
    let s₀ : Sys := ⟨Shim.init.run exampleHost [plainStart "web" 1 100], [.exec (ExecThread.new "web")]⟩
    ∃ s, s₀.Reachable s ∧ s₀.shim.w.svc.Follows s.shim.w.svc := by
  intro s₀
  obtain ⟨s, hs⟩ : ∃ s, s₀.run [.thread 0 7, .exit ⟨1, "web", 100, true⟩ 0, .reap] = some s :=
    ⟨_, rfl⟩
  have hr := Sys.run_reachable .refl hs
  exact ⟨s, hr, Sys.Reachable.follows hr⟩

/-- `Start` and `Delete` keep the bookkeeping too, as every move of the smaller system does. -/
theorem Sys.stepD_follows {host : Host} {s s' : Sys} {mv : MoveD} (h : s.stepD host mv = some s') :
    s.shim.w.svc.Follows s'.shim.w.svc := by
  cases mv with
  | step st => exact Sys.step_follows h
  | start id execId reply => cases h; exact s.shim.start_follows host id execId reply
  | delete id execId => cases h; exact s.shim.delete_follows id execId

/-- So the bookkeeping holds as well in every state reachable when `Start` and `Delete` RPCs
interleave with the threads, scale-downs, exits and reaper iterations. -/
theorem Sys.ReachableD.svc_follows {host : Host} {s₀ s : Sys} (hr : s₀.ReachableD host s) :
    s₀.shim.w.svc.Follows s.shim.w.svc := by
  induction hr with
  | refl => exact .refl _
  | step _ _ hst ih => exact ih.trans (Sys.stepD_follows hst)

/-- The bookkeeping does not say which exit is published for a pair. When an `Exec` restores
`web` before the reaper reads the exit of its checkpointed process, the flag is already clear
and the reaper publishes that exit for the init, twice, while the restored process runs. -/
example :
    let s₀ : Sys := ⟨Shim.init.run exampleHost [plainStart "web" 1 100, .scaleDown "web" 0],
      [.exec (ExecThread.new "web")]⟩
    (s₀.run (List.replicate 11 (.thread 0 7) ++ [.reap])).map (fun s =>
      (s.shim.w.svc.published.map fun x => (x.1.pid, x.2.process.ref),
        (s.shim.w.getZeropodContainer "web").map fun z => (z.process.pid, z.scaledDown))) =
      some ([(100, 1), (100, 1)], some (7, false)) := by
  decide

end Zeropod.Task
