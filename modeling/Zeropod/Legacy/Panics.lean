import Zeropod.Legacy.Wrapper

/-!
# When the older shim panics

`checkProcesses` compares every process at an exit's PID with `s.originalProcess.ID()`, and
`Kill` of a scaled-down container calls `s.originalProcess.SetExited`. `originalProcess` is nil
until `Start` of an init that is not a sandbox stores it. A method called on it before that
panics the shim.

`wrapper.restore`, which an activation runs, reads `s.originalProcess.Stdio()`; it never finds
it nil, since an activator runs only once `originalProcess` is set. This module says exactly
when the shim does panic in a run from a fresh shim. `Kill` never panics,
because the flag is set only once `originalProcess` is (`Wrapper.OriginalSet`). The reaper
panics on the first exit it reads of a process of the shim's containers while
`originalProcess` is still nil: for instance the exit of a sandbox, or of any process of a pod
whose application containers have not started.

## Main results

* `Wrapper.init_run_originalProcess` — while an activator runs, `originalProcess` is set.
* `Wrapper.run_eq_none_iff` — a run panics at its first action that panics.
* `Wrapper.init_run_eq_none_iff` — a run from a fresh shim panics exactly when the reaper reads
  an exit at the PID of a process of one of its containers before `originalProcess` is set.
-/

namespace Zeropod.Legacy

open Zeropod.Task (Process Exit)

/-! ## A run panics at its first panicking action -/

/-- A run panics exactly when, after a prefix that does not, an action panics. -/
theorem Wrapper.run_eq_none_iff {w : Wrapper} {tr : List Action} :
    w.run tr = none ↔
      ∃ tr₁ a tr₂ w', tr = tr₁ ++ a :: tr₂ ∧ w.run tr₁ = some w' ∧ w'.step a = none := by
  induction tr generalizing w with
  | nil => simp [Wrapper.run]
  | cons a tr ih =>
    cases hs : w.step a with
    | none => exact ⟨fun _ => ⟨[], a, tr, w, rfl, rfl, hs⟩, fun _ => by simp [run, hs]⟩
    | some w₁ =>
      simp only [run, hs, Option.some_bind, ih]
      constructor
      · rintro ⟨tr₁, b, tr₂, w', rfl, hr, hb⟩
        exact ⟨a :: tr₁, b, tr₂, w', rfl, by simp [run, hs, hr], hb⟩
      · rintro ⟨_ | ⟨a', tr₁⟩, b, tr₂, w', htr, hr, hb⟩
        · -- the first action is the one that panics, but it does not
          obtain ⟨rfl, -⟩ := List.cons.inj htr
          cases hr
          rw [hs] at hb
          cases hb
        · obtain ⟨rfl, rfl⟩ := List.cons.inj htr
          simp only [run, hs, Option.some_bind] at hr
          exact ⟨tr₁, b, tr₂, w', rfl, hr, hb⟩

/-! ## Which action panics -/

section Step

variable (w : Wrapper) (e : Exit) (c : RuncContainer)

/-- While the flag is clear, the loop of `checkProcesses` panics exactly when it reaches a
process at the exit's PID with no `originalProcess`. -/
theorem Wrapper.checkAll_eq_error_iff (hsd : w.scaledDown = false) :
    ∀ ps : List Process, (∃ f, w.checkAll c e ps = .error f) ↔
      w.originalProcess = none ∧ ∃ p ∈ ps, p.pid = e.pid
  | [] => by simp [checkAll]
  | p :: ps => by
    unfold checkAll
    by_cases hp : p.pid = e.pid
    · simp only [hp, ne_eq, not_true_eq_false, if_false, hsd, Bool.false_eq_true,
        List.mem_cons, exists_eq_or_imp, true_or, and_true]
      cases w.originalProcess <;> simp
    · simp only [ne_eq, hp, not_false_eq_true, if_true, List.mem_cons, exists_eq_or_imp,
        false_or]
      exact checkAll_eq_error_iff hsd ps

/-- `checkProcesses` panics exactly when the flag is clear, `originalProcess` is nil, and some
container has a process at the exit's PID. -/
theorem Wrapper.checkProcesses_eq_error_iff :
    (∃ f, w.checkProcesses e = .error f) ↔
      w.scaledDown = false ∧ w.originalProcess = none ∧ ∃ c ∈ w.containers, c.hasPid e.pid := by
  unfold checkProcesses
  cases hf : w.containers.find? (·.hasPid e.pid) with
  | none =>
    have hno := List.find?_eq_none.mp hf
    exact ⟨fun ⟨_, h⟩ => (nomatch h),
      fun ⟨_, _, c, hc, hpid⟩ => absurd hpid (by simpa using hno c hc)⟩
  | some c =>
    have hc := List.find?_some hf
    have hmem := List.mem_of_find?_eq_some hf
    cases hsd : w.scaledDown
    · rw [checkAll_eq_error_iff w e c hsd]
      simp only [true_and]
      exact and_congr_right fun _ =>
        ⟨fun _ => ⟨c, hmem, hc⟩, fun _ => by simpa [RuncContainer.hasPid] using hc⟩
    · simp [checkAll_of_scaledDown w e hsd]

variable {w}

/-- Where the flag is set only with an `originalProcess`, only the reaper panics: on an exit at
the PID of a process of the shim, while `originalProcess` is nil. -/
theorem Wrapper.OriginalSet.step_eq_none_iff (h : w.OriginalSet) (a : Action) :
    w.step a = none ↔
      ∃ e, a = .exit e ∧ w.originalProcess = none ∧ ∃ c ∈ w.containers, c.hasPid e.pid := by
  cases a with
  | start id execId env => simp [Wrapper.step]
  | activate id pid => simp [Wrapper.step]
  | scaleDownAgain id env => simp [Wrapper.step]
  | kill id execId =>
    simp only [Wrapper.step, reduceCtorEq, false_and, exists_false, iff_false]
    have hk := h.kill_ne_nilProcess id execId
    split <;> simp_all
  | exit e =>
    have hflag : w.originalProcess = none → w.scaledDown = false := fun hop =>
      Bool.eq_false_iff.mpr fun hsd => by simpa [hop] using h (.inl hsd)
    have hstep : w.step (.exit e) = none ↔ ∃ f, w.checkProcesses e = .error f := by
      simp only [Wrapper.step]
      split <;> simp_all
    rw [hstep, checkProcesses_eq_error_iff]
    simp only [Action.exit.injEq, exists_eq_left']
    exact ⟨fun ⟨_, hop, hc⟩ => ⟨hop, hc⟩, fun ⟨hop, hc⟩ => ⟨hflag hop, hop, hc⟩⟩

end Step

/-! ## Runs from a fresh shim -/

/-- **An activation finds the original process.** In every run from a fresh shim, once an
activator runs, `originalProcess` is set: the restore an activation starts reads the stdio of
`originalProcess`, and it never reads it from nil. -/
theorem Wrapper.init_run_originalProcess (cs : List RuncContainer) {tr : List Action} {w : Wrapper}
    (hr : (Wrapper.init cs).run tr = some w) {id : String} (hid : id ∈ w.activators) :
    w.originalProcess.isSome :=
  ((OriginalSet.init cs).run hr).isSome_of_mem hid

/-- `web` is scaled down at `Start`, which starts its activator. -/
theorem Wrapper.init_run_originalProcess_web :
    ∃ w, (Wrapper.init [webContainer]).run [.start "web" "" scaleDownOk] = some w ∧
      "web" ∈ w.activators ∧ w.originalProcess.isSome := by
  obtain ⟨w, hw⟩ : ∃ w, (Wrapper.init [webContainer]).run [.start "web" "" scaleDownOk] = some w :=
    ⟨_, rfl⟩
  have hid : "web" ∈ w.activators := by
    cases hw
    decide
  exact ⟨w, hw, hid, Wrapper.init_run_originalProcess _ hw hid⟩

/-- **When the older shim panics.** A run from a fresh shim panics exactly when, after a prefix
that does not, the reaper reads an exit at the PID of a process of one of the shim's containers
while `originalProcess` is still nil: `Kill` never panics, and neither does an exit once `Start`
of an init that is not a sandbox has stored `originalProcess`. -/
theorem Wrapper.init_run_eq_none_iff (cs : List RuncContainer) (tr : List Action) :
    (Wrapper.init cs).run tr = none ↔
      ∃ tr₁ e tr₂ w, tr = tr₁ ++ .exit e :: tr₂ ∧ (Wrapper.init cs).run tr₁ = some w ∧
        w.originalProcess = none ∧ ∃ c ∈ w.containers, c.hasPid e.pid := by
  rw [run_eq_none_iff]
  constructor
  · rintro ⟨tr₁, a, tr₂, w, rfl, hr, ha⟩
    obtain ⟨e, rfl, hop, hc⟩ := (((OriginalSet.init cs).run hr).step_eq_none_iff a).mp ha
    exact ⟨tr₁, e, tr₂, w, rfl, hr, hop, hc⟩
  · rintro ⟨tr₁, e, tr₂, w, rfl, hr, hop, hc⟩
    exact ⟨tr₁, .exit e, tr₂, w, rfl, hr,
      (((OriginalSet.init cs).run hr).step_eq_none_iff _).mpr ⟨e, rfl, hop, hc⟩⟩

/-- The pause container of a pod: a sandbox, whose `Start` stores no `originalProcess`. -/
def pauseContainer : RuncContainer :=
  ⟨"pause", true, ⟨3, "pause", 30, true⟩, [⟨3, "pause", 30, true⟩], List.mem_singleton_self _⟩

/-- The sandbox started, then its process exited: the reaper panics. -/
example : ((Wrapper.init [pauseContainer, webContainer]).run
    [.start "pause" "" scaleDownOk, .exit ⟨0, 30, 0⟩]).isNone := by
  decide

end Zeropod.Legacy
