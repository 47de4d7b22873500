import Zeropod.Strings

/-!
# The older service's restore: `service.restore`

The older shim's `service` restores a scaled-down container from its checkpoint into a new
runc process, once per connection that wakes it. Before it creates the process, `restore`
rewrites the service's own stdio in place: it strips a `file://` prefix and a `-1` suffix from
`Stdout`, and then sets `Stderr`, twice, from the rewritten `Stdout`. The process gets each
stream as `file://` + path + `-1`. The rewrite runs on every restore, each time on what the
previous one left.

The container's new id (a hash of the time) is an input, and so are the answers of
`p.Create` and `p.Start`. The runtime, the bundle and the work directories of the process are
left out: nothing of its stdio depends on them.

## Main results

* `Stdio.rewrite_stderr_eq` — the rewrite sets `Stderr` from `Stdout`, whatever `Stderr` was.
* `Service.restore_stderr_follows_stdout` — what a restore hands its process does not depend on
  the service's `Stderr`, and once the rewrite is stable both streams go to the `Stdout` file.
* `Service.restores_eq` — over any number of restores, the `k`-th process gets the `k`-th
  rewrite of the service's stdio.
* `Service.restore_restore_same_iff` — a second restore hands the process the same stdio as the
  first exactly when the first rewrite left no `file://` prefix and no `-1` suffix on `Stdout`.
-/

namespace Zeropod.Legacy

open Zeropod.Strings

/-! ## State -/

/-- `stdio.Stdio`. -/
@[ext] structure Stdio where
  stdin : String
  stdout : String
  stderr : String
  terminal : Bool
  deriving DecidableEq, Repr

/-- The part of the older `service` that `restore` reads and writes: its stdio, and the
containers of the `TaskResumed` events it sent. -/
structure Service where
  stdio : Stdio
  resumed : List String
  deriving DecidableEq, Repr

/-- What `p.Create` and `p.Start` answer: the text of their error, or `none`. -/
structure RestoreEnv where
  createErr : Option String
  startErr : Option String

/-- Both calls succeed. -/
def restoreOk : RestoreEnv := ⟨none, none⟩

/-! ## `service.restore` -/

/-- The in-place rewrite of `s.stdio` at the head of `restore`, one assignment a line. -/
def Stdio.rewrite (io : Stdio) : Stdio :=
  let io := { io with stdout := trimPrefix io.stdout "file://" }
  let io := { io with stdout := trimSuffix io.stdout "-1" }
  let io := { io with stderr := trimPrefix io.stdout "file://" }
  { io with stderr := trimSuffix io.stdout "-1" }

/-- The `stdio.Stdio` that `process.New` gets: both streams as `file://` files with the suffix
`-1`. -/
def Stdio.forProcess (io : Stdio) : Stdio where
  stdin := ""
  stdout := "file://" ++ io.stdout ++ "-1"
  stderr := "file://" ++ io.stderr ++ "-1"
  terminal := false

/-- `service.restore` of the container that gets the id `id`: the service after it, and the
stdio of the restored process or the error `restore` returns. The rewrite of the service's
stdio stays when `Create` or `Start` fails. -/
def Service.restore (s : Service) (env : RestoreEnv) (id : String) :
    Service × Except String Stdio :=
  let s := { s with stdio := s.stdio.rewrite }
  let io := s.stdio.forProcess
  match env.createErr with
  | some err => (s, .error ("creation failed during restore: " ++ err))
  | none =>
    match env.startErr with
    | some err => (s, .error ("start failed during restore: " ++ err))
    | none => ({ s with resumed := s.resumed ++ [id] }, .ok io)

/-- One successful restore per id, in order (a failed one ends the shim): the service after
them, and what each restore returned. -/
def Service.restores (s : Service) : List String → Service × List (Except String Stdio)
  | [] => (s, [])
  | id :: ids =>
    let r := s.restore restoreOk id
    let rest := r.1.restores ids
    (rest.1, r.2 :: rest.2)

/-! ## The rewrite -/

@[simp] theorem Stdio.rewrite_stdout (io : Stdio) :
    io.rewrite.stdout = trimSuffix (trimPrefix io.stdout "file://") "-1" := rfl

/-- The rewrite sets `Stderr` from the rewritten `Stdout`. -/
theorem Stdio.rewrite_stderr_eq (io : Stdio) : io.rewrite.stderr = trimSuffix io.rewrite.stdout "-1" :=
  rfl

/-- The rewrite never reads `Stderr`. -/
theorem Stdio.rewrite_stderr (io : Stdio) (e : String) :
    { io with stderr := e }.rewrite = io.rewrite := rfl

/-- A second rewrite changes nothing exactly when the first left no `file://` prefix and no
`-1` suffix on `Stdout`. -/
theorem Stdio.rewrite_rewrite_eq_iff (io : Stdio) :
    io.rewrite.rewrite = io.rewrite ↔
      ¬ "file://".data <+: io.rewrite.stdout.data ∧ ¬ "-1".data <:+ io.rewrite.stdout.data := by
  have hpre : "file://".data ≠ [] := by decide
  have hsuf : "-1".data ≠ [] := by decide
  constructor
  · intro h
    have hout := congrArg Stdio.stdout h
    rw [Stdio.rewrite_stdout io.rewrite] at hout
    exact trimSuffix_trimPrefix_eq_self hpre hsuf hout
  · rintro ⟨hp, hs⟩
    have hout : io.rewrite.rewrite.stdout = io.rewrite.stdout := by
      rw [Stdio.rewrite_stdout io.rewrite, (trimPrefix_eq_self_iff _ hpre).mpr hp,
        (trimSuffix_eq_self_iff _ hsuf).mpr hs]
    exact Stdio.ext rfl hout (by rw [Stdio.rewrite_stderr_eq, hout, Stdio.rewrite_stderr_eq]) rfl

/-- The stdio handed to a process names the paths it was built from. -/
theorem Stdio.forProcess_inj {io io' : Stdio} (h : io.forProcess = io'.forProcess) :
    io.stdout = io'.stdout ∧ io.stderr = io'.stderr := by
  have hpath : ∀ a b : String, "file://" ++ a ++ "-1" = "file://" ++ b ++ "-1" → a = b :=
    fun a b hab => String.ext (by simpa [String.ext_iff, String.data_append] using hab)
  exact ⟨hpath _ _ (congrArg Stdio.stdout h), hpath _ _ (congrArg Stdio.stderr h)⟩

/-! ## Restores -/

/-- A successful restore: the rewritten stdio stays with the service, the process gets it, and
`TaskResumed` is sent for the new container. -/
theorem Service.restore_ok (s : Service) (id : String) :
    s.restore restoreOk id =
      (⟨s.stdio.rewrite, s.resumed ++ [id]⟩, .ok s.stdio.rewrite.forProcess) := rfl

/-- **The stdio over any number of restores.** The `k`-th restore hands its process the
`k`-th rewrite of the service's stdio, and leaves that rewrite with the service. -/
theorem Service.restores_eq (s : Service) (ids : List String) :
    (s.restores ids).1 = ⟨Stdio.rewrite^[ids.length] s.stdio, s.resumed ++ ids⟩ ∧
      (s.restores ids).2 =
        (List.range ids.length).map fun k => .ok (Stdio.rewrite^[k + 1] s.stdio).forProcess := by
  induction ids generalizing s with
  | nil => simp [restores]
  | cons id ids ih =>
    obtain ⟨h1, h2⟩ := ih ⟨s.stdio.rewrite, s.resumed ++ [id]⟩
    simp only [restores, restore_ok, h1, h2, List.length_cons, List.range_succ_eq_map,
      List.map_cons, List.map_map, Function.comp_def, Function.iterate_succ_apply,
      Function.iterate_zero_apply, List.append_assoc, List.singleton_append, and_self]

/-- **When the stdio drifts.** A second restore hands its process the same stdio as the first
exactly when the first rewrite left no `file://` prefix and no `-1` suffix on `Stdout`; a
`Stdout` ending in `-1-1` loses one more `-1` on every restore. -/
theorem Service.restore_restore_same_iff (s : Service) (id id' : String) :
    ((s.restore restoreOk id).1.restore restoreOk id').2 = (s.restore restoreOk id).2 ↔
      ¬ "file://".data <+: s.stdio.rewrite.stdout.data ∧
        ¬ "-1".data <:+ s.stdio.rewrite.stdout.data := by
  rw [← Stdio.rewrite_rewrite_eq_iff]
  simp only [Service.restore_ok, Except.ok.injEq]
  constructor
  · intro h
    obtain ⟨hout, herr⟩ := Stdio.forProcess_inj h
    exact Stdio.ext rfl hout herr rfl
  · intro h
    rw [h]

/-- **`Stderr` follows `Stdout`.** What a restore hands its process does not depend on the
service's `Stderr`; and when a second restore hands the same stdio as the first, the first
process's `Stderr` is its `Stdout` file. -/
theorem Service.restore_stderr_follows_stdout (s : Service) (id id' : String) :
    (∀ e, ({ s with stdio := { s.stdio with stderr := e } }.restore restoreOk id).2 =
      (s.restore restoreOk id).2) ∧
    (((s.restore restoreOk id).1.restore restoreOk id').2 = (s.restore restoreOk id).2 →
      ∃ io, (s.restore restoreOk id).2 = .ok io ∧ io.stderr = io.stdout) := by
  refine ⟨fun e => by rw [restore_ok, restore_ok, Stdio.rewrite_stderr], fun h => ?_⟩
  have hs := ((s.restore_restore_same_iff id id').mp h).2
  rw [restore_ok]
  refine ⟨_, rfl, ?_⟩
  simp only [Stdio.forProcess, Stdio.rewrite_stderr_eq, (trimSuffix_eq_self_iff _ (by decide)).mpr hs]

/-- Separate files for the two streams: a second restore hands the same stdio as the first,
and its `Stderr` is the `Stdout` file. -/
theorem restore_stderr_follows_stdout_out :
    let s : Service := ⟨⟨"", "/var/log/pod/out", "/var/log/pod/err", false⟩, []⟩
    ((s.restore restoreOk "a").1.restore restoreOk "b").2 = (s.restore restoreOk "a").2 ∧
      ∃ io, (s.restore restoreOk "a").2 = .ok io ∧ io.stderr = io.stdout :=
  ⟨rfl, (Service.restore_stderr_follows_stdout _ "a" "b").2 rfl⟩

/-- The same stdio: the restored process writes both streams to the `Stdout` file, on the
first restore and on every later one. -/
example :
    (Service.restores ⟨⟨"", "/var/log/pod/out", "/var/log/pod/err", false⟩, []⟩ ["a", "b"]).2 =
      [.ok ⟨"", "file:///var/log/pod/out-1", "file:///var/log/pod/out-1", false⟩,
        .ok ⟨"", "file:///var/log/pod/out-1", "file:///var/log/pod/out-1", false⟩] :=
  rfl

/-- A `Stdout` ending in `-1-1`: the first process gets two different files, and the second
restore moves `Stdout` to the file the first gave `Stderr`. -/
example :
    (Service.restores ⟨⟨"", "/var/log/pod/out-1-1", "/var/log/pod/err", false⟩, []⟩ ["a", "b"]).2 =
      [.ok ⟨"", "file:///var/log/pod/out-1-1", "file:///var/log/pod/out-1", false⟩,
        .ok ⟨"", "file:///var/log/pod/out-1", "file:///var/log/pod/out-1", false⟩] :=
  rfl

end Zeropod.Legacy
