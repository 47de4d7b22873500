import Zeropod.Task.Basic

/-!
# The exit reconciler: `wrapper.processExits`

`processExits` (the newer wrapper in `runc/task`) drains the reaper's exit channel. One
iteration, on an exit `e`:

1. calls `preventExit` on every pair at `e.Pid`, and drops the whole event when one of them
   belongs to a scaled-down managed container;
2. under `lifecycleMu`, appends `e` to every subscribed early-exit buffer, and sorts the pairs
   at `e.Pid` into the inits of containers with pending execs (`skipped`, left in `running`)
   and the rest (appended to `cps`);
3. hands every pair of `cps` to `handleProcessExit`.

Step 1 reads `w.running[e.Pid]` and calls `preventExit` before the loop takes `lifecycleMu`,
so it races with the writers of `running`; one iteration is one atomic step here, which
leaves that race out.

`cps` is not a fresh slice there: it still holds the pairs read at `e.Pid` before the first
loop, and the second loop appends the pairs that are not deferred after them. So every pair
at the PID reaches `handleProcessExit`, a deferred init once and every other pair twice.

The early-exit protocol of the delegate, `preStart` with its `handleStarted` and `cleanup`
closures, is containerd code outside this repository; it is modelled from the spec at the
end of the module.

## Main results

* `preventExits_spec` — the first loop answers whether some pair at the PID is scaled down,
  and writes nothing but exit marks.
* `processExit_of_scaledDown` — such an event is dropped whole: nothing is published, no
  subscriber hears of it, and `running` keeps every pair.
* `processExit_of_not_scaledDown` — any other event reaches every subscriber, leaves exactly
  the deferred inits at the PID, and publishes every pair at the PID and then again every
  pair that is not deferred.
-/

namespace Zeropod.Task

/-! ## `preventExit` -/

/-- The pair belongs to a managed container that is scaled down. -/
def Wrapper.scaledDownPair (w : Wrapper) (cp : ContainerProcess) : Bool :=
  match w.getZeropodContainer cp.container.id with
  | some z => z.scaledDown
  | none => false

/--
`wrapper.preventExit(cp)`: `true` for a pair of a scaled-down managed container. For a managed
container that is not scaled down, an exit of its initial or its current process marks the
initial process exited. (`InitialProcess()` is never `nil`: a managed container holds its
initial process from `zeropod.New` on.)
-/
def Wrapper.preventExit (w : Wrapper) (cp : ContainerProcess) : Bool × Wrapper :=
  match w.getZeropodContainer cp.container.id with
  | none => (false, w)
  | some z =>
    if z.scaledDown then (true, w)
    else if cp.process.id = z.initialProcess.id ∨ cp.process.id = z.process.id then
      (false, { w with svc := w.svc.setExited z.initialProcess 0 })
    else (false, w)

/-- The first loop of an iteration: `preventExit` on every pair, remembering whether any
answered `true`. -/
def Wrapper.preventExits (w : Wrapper) : List ContainerProcess → Bool × Wrapper
  | [] => (false, w)
  | cp :: cps =>
    let r := w.preventExit cp
    let rs := r.2.preventExits cps
    (r.1 || rs.1, rs.2)

@[simp] theorem Wrapper.scaledDownPair_svc (w : Wrapper) (s : Service) :
    ({ w with svc := s } : Wrapper).scaledDownPair = w.scaledDownPair := rfl

/-- `preventExit` answers from the managed containers alone, and writes nothing but exit
marks. -/
theorem Wrapper.preventExit_spec (w : Wrapper) (cp : ContainerProcess) :
    (w.preventExit cp).1 = w.scaledDownPair cp ∧
      ∃ st, (w.preventExit cp).2 = { w with svc := { w.svc with exitStatus := st } } := by
  unfold preventExit scaledDownPair
  rcases w.getZeropodContainer cp.container.id with _ | z
  · exact ⟨rfl, _, rfl⟩
  · by_cases hz : z.scaledDown
    · simp only [hz, if_true]
      exact ⟨trivial, _, rfl⟩
    · by_cases hp : cp.process.id = z.initialProcess.id ∨ cp.process.id = z.process.id
      · simp only [hz, hp, if_true, if_false]
        exact ⟨rfl, _, rfl⟩
      · simp only [hz, hp, if_false]
        exact ⟨rfl, _, rfl⟩

/-- **The first loop** answers whether some pair is scaled down, and writes nothing but exit
marks. -/
theorem Wrapper.preventExits_spec (w : Wrapper) (cps : List ContainerProcess) :
    (w.preventExits cps).1 = cps.any w.scaledDownPair ∧
      ∃ st, (w.preventExits cps).2 = { w with svc := { w.svc with exitStatus := st } } := by
  induction cps generalizing w with
  | nil => exact ⟨rfl, _, rfl⟩
  | cons cp cps ih =>
    obtain ⟨h1, st, hst⟩ := w.preventExit_spec cp
    obtain ⟨h2, st', hst'⟩ := ih (w.preventExit cp).2
    rw [hst] at h2 hst'
    exact ⟨by simp only [preventExits, List.any_cons, h1, hst, h2, scaledDownPair_svc], st',
      by simp only [preventExits, hst, hst']⟩

/-! ## The loop under `lifecycleMu` -/

/-- The exit of the pair is deferred: it is an init whose container has pending execs. -/
def deferred (pendingExecs : Container → Nat) (cp : ContainerProcess) : Bool :=
  cp.process.init && pendingExecs cp.container != 0

/-- The second loop of an iteration: a deferred pair goes to `skipped`, any other pair is
appended to `cps`. -/
def sortExits (pendingExecs : Container → Nat) :
    List ContainerProcess → List ContainerProcess → List ContainerProcess →
      List ContainerProcess × List ContainerProcess
  | [], skipped, cps => (skipped, cps)
  | cp :: rest, skipped, cps =>
    if deferred pendingExecs cp then sortExits pendingExecs rest (skipped ++ [cp]) cps
    else sortExits pendingExecs rest skipped (cps ++ [cp])

theorem sortExits_eq (pendingExecs : Container → Nat) (l skipped cps : List ContainerProcess) :
    sortExits pendingExecs l skipped cps =
      (skipped ++ l.filter (deferred pendingExecs),
        cps ++ l.filter fun cp => !deferred pendingExecs cp) := by
  induction l generalizing skipped cps with
  | nil => simp [sortExits]
  | cons cp rest ih =>
    by_cases h : deferred pendingExecs cp <;> simp [sortExits, h, ih]

/-- The broadcast to `exitSubscribers`: every subscribed buffer records `e`. -/
def Service.broadcast (s : Service) (e : Exit) : Service :=
  { s with subscriberExits := s.subscriberExits ++ s.exitSubscribers.map (·, e) }

/-! ## One iteration -/

/-- One iteration of `wrapper.processExits`, on the exit `e`. -/
def Wrapper.processExit (w : Wrapper) (e : Exit) : Wrapper :=
  let cps := w.svc.running e.pid
  let (prevent, w) := w.preventExits cps
  if prevent then w
  else
    let svc := w.svc.broadcast e
    let (skipped, cps) := sortExits svc.pendingExecs (svc.running e.pid) [] cps
    let svc := if skipped.length > 0 then { svc with running := setAt svc.running e.pid skipped }
      else { svc with running := setAt svc.running e.pid [] }
    { w with svc := svc.handleProcessExits e cps }

/-- **A suppressed event**: when a pair at the PID belongs to a scaled-down managed container,
the iteration publishes nothing, tells no subscriber, and leaves `running` as it was; only
exit marks change. -/
theorem Wrapper.processExit_of_scaledDown (w : Wrapper) (e : Exit)
    (h : (w.svc.running e.pid).any w.scaledDownPair) :
    ∃ st, w.processExit e = { w with svc := { w.svc with exitStatus := st } } := by
  obtain ⟨h1, st, hst⟩ := w.preventExits_spec (w.svc.running e.pid)
  exact ⟨st, by simp only [processExit, h1, h, if_true, hst]⟩

/-- **An event that gets through** reaches every subscribed buffer, leaves exactly the
deferred inits at the PID, and publishes every pair at the PID followed by every pair that is
not deferred. -/
theorem Wrapper.processExit_of_not_scaledDown (w : Wrapper) (e : Exit)
    (h : (w.svc.running e.pid).any w.scaledDownPair = false) :
    ∃ st, w.processExit e = { w with svc := { w.svc.broadcast e with
      exitStatus := st
      running := setAt w.svc.running e.pid
        ((w.svc.running e.pid).filter (deferred w.svc.pendingExecs))
      published := w.svc.published ++ (w.svc.running e.pid ++
        (w.svc.running e.pid).filter fun cp => !deferred w.svc.pendingExecs cp).map (e, ·) } } := by
  obtain ⟨h1, st, hst⟩ := w.preventExits_spec (w.svc.running e.pid)
  refine ⟨st, ?_⟩
  simp only [processExit, h1, h, hst, sortExits_eq, List.nil_append, Bool.false_eq_true, if_false]
  split
  · simp [Service.handleProcessExits_eq, Service.broadcast]
  · rename_i hlen
    have hnone : (w.svc.running e.pid).filter (deferred w.svc.pendingExecs) = [] := by
      simpa [Service.broadcast] using hlen
    simp [Service.handleProcessExits_eq, Service.broadcast, hnone]

/-! ## The delegate's early-exit protocol -/

/-- Modelled from the spec: the delegate's `preStart(nil)`, which subscribes the fresh, empty
early-exit buffer `h` ("subscribers registered by concurrent Start operations that are
waiting to race-resolve newly forked PIDs"); its caller gets `handleStarted` and `cleanup`
closures over `h`. -/
def Service.preStart (s : Service) (h : Nat) : Service :=
  { s with exitSubscribers := h :: s.exitSubscribers }

/-- Modelled from the spec: the `cleanup` closure of `preStart`, which unsubscribes the
buffer `h`. -/
def Service.cleanup (s : Service) (h : Nat) : Service :=
  { s with exitSubscribers := s.exitSubscribers.erase h }

/-- Modelled from the spec: the `handleStarted` closure of `preStart`, called with the
started process ("subscribes the new PID to the exit reconciler"). It unsubscribes `h`; if
the buffer saw exits at the process's PID they are handled at once, otherwise the process is
recorded in `running`, where `processExits` finds its exit. -/
def Service.handleStarted (s : Service) (h : Nat) (c : Container) (p : Process) : Service :=
  let ees := (s.subscriberExits.filter fun x => x.1 = h ∧ x.2.pid = p.pid).map (·.2)
  let s := s.cleanup h
  if ees = [] then { s with running := setAt s.running p.pid (s.running p.pid ++ [⟨c, p⟩]) }
  else ees.foldl (fun s e => s.handleProcessExit e ⟨c, p⟩) s

/-- At PID 42, the init of `a`, whose container has a pending exec, and an exec of `b`: the
deferred init is published at once, and the exec twice. -/
theorem processExit_publishes_deferred_and_twice :
    let a : ContainerProcess := ⟨⟨1, "a"⟩, ⟨1, "a", 42, true⟩⟩
    let b : ContainerProcess := ⟨⟨2, "b"⟩, ⟨2, "exec", 42, false⟩⟩
    let w : Wrapper := ⟨⟨fun pid => if pid = 42 then [a, b] else [],
      fun c => if c.ref = 1 then 1 else 0, [], [], fun _ => none, fun _ => none, []⟩,
      fun _ => none⟩
    (w.processExit ⟨7, 42, 0⟩).svc.published = [(⟨7, 42, 0⟩, a), (⟨7, 42, 0⟩, b), (⟨7, 42, 0⟩, b)] ∧
      (w.processExit ⟨7, 42, 0⟩).svc.running 42 = [a] := by
  decide

end Zeropod.Task
