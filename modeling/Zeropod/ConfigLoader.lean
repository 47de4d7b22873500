import Zeropod.Strings

/-!
# The config loader: `NewConfig`

`NewConfig` (`zeropod/config.go`) decodes the annotations of a container spec into a typed
`Config`. The annotation map is decoded by `mapstructure` into `annotationConfig`: each field
takes the value under its tag, or, when that key is absent, the value under a key equal to the
tag up to case (`strings.EqualFold`), and the empty string when there is none. Then the port
map is cut three times, at `;`, `=` and `,`, and the duration and the two booleans are parsed.

What `NewConfig` reads besides the spec is gathered in `Host`: `time.ParseDuration`, which
is a library parser taken as given, `runtime.GOARCH`, and the containerd namespace carried
by the context.

## Main results

* `portsLoop_format` — the port-map loop on a well-formed map collects, in order and with
  multiplicity, the ports of every mapping whose name is the container's.
* `newConfig_ports_of_join` — `NewConfig` succeeds on every well-formed port map, and its
  `Ports` are the numbers written for the container's name.
* `newConfig_portsSpec_error_iff` — which port maps `NewConfig` rejects: a mapping that does not
  split at `=` into two parts, or a port of the container's mapping that is not a 16-bit
  decimal.
* `isZeropodContainer_newConfig` — a decoded config selects its container when the
  container-names annotation is empty or has the container's name as one whole field.
-/

namespace Zeropod.ConfigLoader

open Zeropod.Strings

/-! ## Annotation keys and delimiters -/

def portsAnnotationKey : String := "zeropod.ctrox.dev/ports-map"
def containerNamesAnnotationKey : String := "zeropod.ctrox.dev/container-names"
def scaleDownDurationAnnotationKey : String := "zeropod.ctrox.dev/scaledown-duration"
def disableCheckpoiningAnnotationKey : String := "zeropod.ctrox.dev/disable-checkpointing"
def preDumpAnnotationKey : String := "zeropod.ctrox.dev/pre-dump"
/-- `CRIContainerNameAnnotation`. -/
def criContainerNameKey : String := "io.kubernetes.cri.container-name"
/-- `CRIContainerTypeAnnotation`. -/
def criContainerTypeKey : String := "io.kubernetes.cri.container-type"
def vClusterNameAnnotationKey : String := "vcluster.loft.sh/name"
def vClusterNamespaceAnnotationKey : String := "vcluster.loft.sh/namespace"

/-- `defaultScaleDownDuration`, one minute in nanoseconds (`time.Duration`). -/
def defaultScaleDownDuration : Int := 60 * 1000000000
def containersDelim : Char := ','
def portsDelim : Char := containersDelim
def mappingDelim : Char := ';'
def mapDelim : Char := '='
def defaultContainerdNS : String := "k8s.io"

/-! ## Decoding the annotations -/

/-- The annotations of a spec (`spec.Annotations`, a `map[string]string`): its entries, in the
order a `range` over the map visits them in this run, each key once. -/
structure AnnotationMap where
  entries : List (String × String)
  nodup : (entries.map Prod.fst).Nodup

/-- A spec without annotations. -/
def AnnotationMap.empty : AnnotationMap := ⟨[], List.nodup_nil⟩

/-- What `mapstructure.Decode` stores in the field tagged `tag` (`decodeStructFromMap`): the
value under the key `tag`; when there is none, the value under the first key, in iteration
order, that `strings.EqualFold` matches with `tag`; the empty string when no key matches.

Go draws a fresh iteration order for the search of each field. No key matches two of the tags,
which differ under case folding, so one order for the whole map gives every combination of
choices. -/
def decodeField (m : AnnotationMap) (tag : String) : String :=
  match m.entries.lookup tag with
  | some v => v
  | none => ((m.entries.find? fun kv => equalFold kv.1 tag).map Prod.snd).getD ""

/-- `annotationConfig`: one string per recognised annotation. -/
structure AnnotationConfig where
  portMap : String
  zeropodContainerNames : String
  scaledownDuration : String
  disableCheckpointing : String
  preDump : String
  containerName : String
  containerType : String
  podName : String
  podNamespace : String
  podUID : String
  vClusterPodName : String
  vClusterPodNamespace : String

/-- `mapstructure.Decode(spec.Annotations, cfg)`: every field takes the value its tag finds,
and stays empty when no key matches. -/
def decode (m : AnnotationMap) : AnnotationConfig where
  portMap := decodeField m portsAnnotationKey
  zeropodContainerNames := decodeField m containerNamesAnnotationKey
  scaledownDuration := decodeField m scaleDownDurationAnnotationKey
  disableCheckpointing := decodeField m disableCheckpoiningAnnotationKey
  preDump := decodeField m preDumpAnnotationKey
  containerName := decodeField m criContainerNameKey
  containerType := decodeField m criContainerTypeKey
  podName := decodeField m "io.kubernetes.cri.sandbox-name"
  podNamespace := decodeField m "io.kubernetes.cri.sandbox-namespace"
  podUID := decodeField m "io.kubernetes.cri.sandbox-uid"
  vClusterPodName := decodeField m vClusterNameAnnotationKey
  vClusterPodNamespace := decodeField m vClusterNamespaceAnnotationKey

/-- `Config`, without its pointer back to the spec. -/
structure Config where
  zeropodContainerNames : List String
  ports : List UInt16
  scaleDownDuration : Int
  disableCheckpointing : Bool
  preDump : Bool
  containerName : String
  containerType : String
  podName : String
  podNamespace : String
  podUID : String
  containerdNamespace : String
  vclusterPodName : String
  vclusterPodNamespace : String

/-- The errors `NewConfig` returns: its own `fmt.Errorf`, a `*strconv.NumError`, and the
error text of `time.ParseDuration`. -/
inductive ConfigError where
  | errorf (msg : String)
  | numError (e : NumError)
  | durationError (msg : String)
  deriving DecidableEq, Repr

/-- What `NewConfig` reads besides the spec. -/
structure Host where
  parseDuration : String → Except String Int
  goarch : String
  ctxNamespace : Option String

/-- The text of the malformed-mapping error. -/
def invalidPortMapText : String := "invalid port map, the format needs to be name=port"

/-! ## The port-map loops -/

/-- The inner loop: parse each `,`-separated port and append it as a `uint16`. -/
def portLoop (acc : List UInt16) : List (List Char) → Except ConfigError (List UInt16)
  | [] => .ok acc
  | port :: rest =>
    match parseUint port with
    | .ok p => portLoop (acc ++ [UInt16.ofNat p]) rest
    | .error e => .error (.numError e)

/-- The outer loop over the `;`-separated mappings: a mapping must split at `=` into
exactly two parts, and only a mapping named like the container contributes ports. -/
def portsLoop (containerName : String) (acc : List UInt16) :
    List (List Char) → Except ConfigError (List UInt16)
  | [] => .ok acc
  | mapping :: rest =>
    match split mapping mapDelim with
    | [name, ports] =>
      if String.mk name ≠ containerName then portsLoop containerName acc rest
      else match portLoop acc (split ports portsDelim) with
        | .ok acc' => portsLoop containerName acc' rest
        | .error e => .error e
    | _ => .error (.errorf invalidPortMapText)

/-- `NewConfig(ctx, spec)`. -/
def newConfig (host : Host) (m : AnnotationMap) : Except ConfigError Config := do
  let cfg := decode m
  let containerPorts ← if cfg.portMap.length ≠ 0 then
      portsLoop cfg.containerName [] (split cfg.portMap.toList mappingDelim)
    else pure []
  let dur ← if cfg.scaledownDuration.length ≠ 0 then
      (host.parseDuration cfg.scaledownDuration).mapError .durationError
    else pure defaultScaleDownDuration
  let disableCheckpointing ← if cfg.disableCheckpointing.length ≠ 0 then
      (parseBool cfg.disableCheckpointing).mapError .numError
    else pure false
  let preDump ← if cfg.preDump.length ≠ 0 then do
      let preDump ← (parseBool cfg.preDump).mapError .numError
      pure (if preDump && host.goarch = "arm64" then false else preDump)
    else pure false
  let containerNames := if cfg.zeropodContainerNames.length ≠ 0 then
      (split cfg.zeropodContainerNames.toList containersDelim).map String.mk
    else []
  pure {
    ports := containerPorts
    scaleDownDuration := dur
    disableCheckpointing := disableCheckpointing
    preDump := preDump
    zeropodContainerNames := containerNames
    containerName := cfg.containerName
    containerType := cfg.containerType
    containerdNamespace := host.ctxNamespace.getD defaultContainerdNS
    podName := cfg.podName
    podNamespace := cfg.podNamespace
    podUID := cfg.podUID
    vclusterPodName := cfg.vClusterPodName
    vclusterPodNamespace := cfg.vClusterPodNamespace }

/-- `Config.IsZeropodContainer`: the container is named in the list, or the list is empty. -/
def isZeropodContainer (cfg : Config) : Bool :=
  cfg.zeropodContainerNames.any (· == cfg.containerName) || cfg.zeropodContainerNames.length == 0

/-! ## Well-formed port maps -/

/-- The mapping `name=p1,…,pk`, each port written in decimal. -/
def formatMapping (e : String × List Nat) : List Char :=
  e.1.toList ++ mapDelim :: join (e.2.map (Nat.toDigits 10)) portsDelim

/-- The port map `join(";", [name + "=" + join(",", ports)])`. -/
def formatPortMap (entries : List (String × List Nat)) : String :=
  String.mk (join (entries.map formatMapping) mappingDelim)

/-- A spec whose only annotations are a port map and a container name. -/
def portsSpec (portMap name : String) : AnnotationMap :=
  ⟨[(portsAnnotationKey, portMap), (criContainerNameKey, name)],
    (by decide : [portsAnnotationKey, criContainerNameKey].Nodup)⟩

/-- A list of decimal ports holds no separator of the port map. -/
private theorem not_mem_ports {ps : List Nat} {c : Char} (hc : ¬c.isDigit) (hsep : c ≠ portsDelim) :
    c ∉ join (ps.map (Nat.toDigits 10)) portsDelim :=
  not_mem_join hsep fun e he hce => by
    obtain ⟨p, -, rfl⟩ := List.mem_map.mp he
    exact hc (isDigit_of_mem_toDigits hce)

/-- A mapping whose name holds no `=` splits into its name and its port list. -/
theorem split_formatMapping {e : String × List Nat} (hname : mapDelim ∉ e.1.toList) :
    split (formatMapping e) mapDelim = [e.1.toList, join (e.2.map (Nat.toDigits 10)) portsDelim] := by
  have hfirst := List.splitOnP_first (· == mapDelim) e.1.toList
    (fun x hx hxeq => hname (by rwa [eq_of_beq hxeq] at hx)) mapDelim (by simp)
    (join (e.2.map (Nat.toDigits 10)) portsDelim)
  rw [split, formatMapping, List.splitOn, hfirst]
  exact congrArg _ (split_of_not_mem (not_mem_ports (by decide) (by decide)))

/-- The inner loop reads back every decimal 16-bit port. -/
theorem portLoop_toDigits (acc : List UInt16) (ps : List Nat) (hps : ∀ p ∈ ps, p ≤ 65535) :
    portLoop acc (ps.map (Nat.toDigits 10)) = .ok (acc ++ ps.map UInt16.ofNat) := by
  induction ps generalizing acc with
  | nil => simp [portLoop]
  | cons p ps ih =>
    have hp : parseUint (Nat.toDigits 10 p) = .ok p := parseUint_toDigits (hps p (by simp))
    simp only [List.map_cons, portLoop, hp, ih (acc ++ [UInt16.ofNat p]) fun q hq => hps q (by simp [hq]),
      List.append_assoc, List.singleton_append]

/-- **The port-map loop** on well-formed mappings collects, in order and with multiplicity,
the ports of every mapping named like the container. -/
theorem portsLoop_format (name : String) (acc : List UInt16) (entries : List (String × List Nat))
    (hwf : ∀ e ∈ entries, mapDelim ∉ e.1.toList ∧ e.2 ≠ [] ∧ ∀ p ∈ e.2, p ≤ 65535) :
    portsLoop name acc (entries.map formatMapping) =
      .ok (acc ++ (entries.filter (·.1 = name)).flatMap (·.2.map UInt16.ofNat)) := by
  induction entries generalizing acc with
  | nil => simp [portsLoop]
  | cons e rest ih =>
    obtain ⟨hname, hne, hps⟩ := hwf e (List.mem_cons_self e rest)
    have ih' := fun acc => ih acc fun e' he' => hwf e' (List.mem_cons_of_mem e he')
    simp only [List.map_cons, portsLoop, split_formatMapping hname, String.mk, ne_eq]
    by_cases he : e.1 = name
    · have hsplit : split (join (e.2.map (Nat.toDigits 10)) portsDelim) portsDelim =
          e.2.map (Nat.toDigits 10) :=
        split_join (fun d hd => by
          obtain ⟨p, -, rfl⟩ := List.mem_map.mp hd
          exact fun hm => absurd (isDigit_of_mem_toDigits hm) (by decide)) (by simpa using hne)
      simp [he, hsplit, portLoop_toDigits _ _ hps, ih']
    · simp [he, ih']

/-- A port map of at least one mapping is not empty. -/
private theorem formatPortMap_length {entries : List (String × List Nat)} (hne : entries ≠ []) :
    (formatPortMap entries).length ≠ 0 := by
  obtain ⟨e, rest, rfl⟩ := List.exists_cons_of_ne_nil hne
  cases rest <;> simp [formatPortMap, formatMapping, join, List.intercalate]

/-- The `Config` of a container named `n` with the given ports and every other annotation
absent. -/
def portsConfig (host : Host) (n : String) (ports : List UInt16) : Config where
  zeropodContainerNames := []
  ports := ports
  scaleDownDuration := defaultScaleDownDuration
  disableCheckpointing := false
  preDump := false
  containerName := n
  containerType := ""
  podName := ""
  podNamespace := ""
  podUID := ""
  containerdNamespace := host.ctxNamespace.getD defaultContainerdNS
  vclusterPodName := ""
  vclusterPodNamespace := ""

/-- The annotations a port map and a container name decode to. -/
def portsAnnotationConfig (pm n : String) : AnnotationConfig where
  portMap := pm
  zeropodContainerNames := ""
  scaledownDuration := ""
  disableCheckpointing := ""
  preDump := ""
  containerName := n
  containerType := ""
  podName := ""
  podNamespace := ""
  podUID := ""
  vClusterPodName := ""
  vClusterPodNamespace := ""

/-- No other tag finds either key, not even up to case. -/
theorem decode_portsSpec (pm n : String) : decode (portsSpec pm n) = portsAnnotationConfig pm n :=
  rfl

/-- On a spec annotated only with a non-empty port map and a container name, `NewConfig` is
the port-map loop, every other field taking its default. -/
theorem newConfig_portsSpec (host : Host) (pm n : String) (hpm : pm.length ≠ 0) :
    newConfig host (portsSpec pm n) =
      (portsLoop n [] (split pm.toList mappingDelim)).map (portsConfig host n) := by
  simp [newConfig, decode_portsSpec, portsAnnotationConfig, hpm]
  rfl

/-- **`NewConfig` on a well-formed port map** succeeds, and its `Ports` are the numbers
written for the container's name, in order and with multiplicity. -/
theorem newConfig_ports_of_join (host : Host) (n : String) (entries : List (String × List Nat))
    (hne : entries ≠ [])
    (hname : ∀ e ∈ entries, ';' ∉ e.1.toList ∧ '=' ∉ e.1.toList)
    (hports : ∀ e ∈ entries, e.2 ≠ [] ∧ ∀ p ∈ e.2, p ≤ 65535) :
    ∃ cfg, newConfig host (portsSpec (formatPortMap entries) n) = .ok cfg ∧
      cfg.ports.map UInt16.toNat = (entries.filter (·.1 = n)).flatMap (·.2) := by
  have hsplit : split (formatPortMap entries).toList mappingDelim = entries.map formatMapping :=
    split_join (fun d hd => by
      obtain ⟨e, he, rfl⟩ := List.mem_map.mp hd
      simp only [formatMapping, List.mem_append, List.mem_cons, not_or]
      exact ⟨(hname e he).1, by decide, not_mem_ports (by decide) (by decide)⟩)
      (by simpa using hne)
  have hloop := portsLoop_format n [] entries fun e he =>
    ⟨(hname e he).2, (hports e he).1, (hports e he).2⟩
  refine ⟨_, by rw [newConfig_portsSpec host _ n (formatPortMap_length hne), hsplit, hloop]; rfl, ?_⟩
  have hnat : ∀ e ∈ entries.filter (·.1 = n), (e.2.map UInt16.ofNat).map UInt16.toNat = e.2 :=
    fun e he => by
      have hps := (hports e (List.mem_filter.mp he).1).2
      rw [List.map_map]
      conv_rhs => rw [← List.map_id e.2]
      exact List.map_congr_left fun p hp =>
        UInt16.toNat_ofNat_of_lt (by have := hps p hp; simp only [UInt16.size]; omega)
  simp only [portsConfig, List.nil_append, List.map_flatMap]
  exact List.flatMap_congr hnat

/-- Two mappings for `web` around one for `db`: the ports of `web`, in order. -/
theorem newConfig_ports_of_join_two :
    ∃ cfg, newConfig ⟨fun _ => .ok 0, "amd64", none⟩
        (portsSpec (formatPortMap [("web", [80, 8080]), ("db", [5432]), ("web", [443])]) "web") =
          .ok cfg ∧ cfg.ports.map UInt16.toNat = [80, 8080, 443] :=
  newConfig_ports_of_join _ "web" _ (by simp) (by decide) (by decide)

/-! ## When `NewConfig` rejects a port map -/

/-- An action that returned a value did not fail. -/
theorem not_exists_error_of_ok {ε α : Type} {x : Except ε α} {a : α} (h : x = .ok a) :
    ¬ ∃ e, x = .error e := by
  rintro ⟨e, he⟩
  rw [h] at he
  cases he

/-- The inner loop fails exactly when one of its tokens is not a 16-bit decimal. -/
theorem portLoop_error_iff (acc : List UInt16) (toks : List (List Char)) :
    (∃ e, portLoop acc toks = .error e) ↔ ∃ tok ∈ toks, ¬ Uint16Token tok := by
  induction toks generalizing acc with
  | nil => simp [portLoop]
  | cons tok toks ih =>
    unfold portLoop
    cases hp : parseUint tok with
    | error e =>
      exact iff_of_true ⟨_, rfl⟩ ⟨tok, List.mem_cons_self _ _, (parseUint_error_iff tok).mp ⟨e, hp⟩⟩
    | ok p =>
      have htok : Uint16Token tok :=
        not_not.mp ((parseUint_error_iff tok).not.mp (not_exists_error_of_ok hp))
      simp only [ih, List.mem_cons, exists_eq_or_imp, htok, not_true_eq_false, false_or]

/-- The outer loop fails exactly when some mapping does not split at `=` into two parts, or
names the container and has a port token that is not a 16-bit decimal; mappings for other
containers are checked for their shape only. -/
theorem portsLoop_error_iff (n : String) (acc : List UInt16) (segs : List (List Char)) :
    (∃ e, portsLoop n acc segs = .error e) ↔
      ∃ seg ∈ segs, (split seg mapDelim).length ≠ 2 ∨
        ∃ name ports, split seg mapDelim = [name, ports] ∧ String.mk name = n ∧
          ∃ tok ∈ split ports portsDelim, ¬ Uint16Token tok := by
  induction segs generalizing acc with
  | nil => simp [portsLoop]
  | cons seg segs ih =>
    simp only [List.mem_cons, exists_eq_or_imp]
    unfold portsLoop
    split
    · rename_i name ports hsplit
      -- the mapping splits in two: only the ports of the container's own mapping can fail
      have hseg : ((split seg mapDelim).length ≠ 2 ∨
          ∃ name' ports', split seg mapDelim = [name', ports'] ∧ String.mk name' = n ∧
            ∃ tok ∈ split ports' portsDelim, ¬ Uint16Token tok) ↔
          String.mk name = n ∧ ∃ tok ∈ split ports portsDelim, ¬ Uint16Token tok := by
        simp only [hsplit, List.length_cons, List.length_nil, ne_eq, not_true_eq_false, false_or,
          List.cons.injEq, and_true, and_assoc, exists_and_left, exists_eq_left']
      rw [hseg]
      split_ifs with hname
      · simp only [hname, false_and, false_or, ih]
      · rw [not_not] at hname
        simp only [hname, true_and]
        cases hl : portLoop acc (split ports portsDelim) with
        | error e =>
          exact iff_of_true ⟨_, rfl⟩ (.inl ((portLoop_error_iff acc _).mp ⟨e, hl⟩))
        | ok acc' =>
          have hok := (portLoop_error_iff acc _).not.mp (not_exists_error_of_ok hl)
          simp only [hok, false_or, ih]
    · rename_i hnot
      refine iff_of_true ⟨_, rfl⟩ (.inl (.inl fun h2 => ?_))
      obtain ⟨a, b, hab⟩ := List.length_eq_two.mp h2
      exact hnot a b hab

/-- **Which port maps `NewConfig` rejects.** On a spec annotated only with a non-empty port map
`s` and the container name `n`, `NewConfig` fails exactly when some `;`-separated mapping of
`s` does not split at `=` into two parts, or a mapping named `n` has a `,`-separated port that
is not a non-empty run of ASCII digits of value at most `65535`. -/
theorem newConfig_portsSpec_error_iff (host : Host) (s n : String) (hs : s.length ≠ 0) :
    (∃ e, newConfig host (portsSpec s n) = .error e) ↔
      ∃ seg ∈ split s.toList ';', (split seg '=').length ≠ 2 ∨
        ∃ name ports, split seg '=' = [name, ports] ∧ String.mk name = n ∧
          ∃ tok ∈ split ports ',', ¬ Uint16Token tok := by
  rw [newConfig_portsSpec host s n hs]
  refine Iff.trans ?_ (portsLoop_error_iff n [] (split s.toList mappingDelim))
  cases portsLoop n [] (split s.toList mappingDelim) <;> simp [Except.map]

theorem newConfig_portsSpec_error_iff_web :
    (∃ e, newConfig ⟨fun _ => .ok 0, "amd64", none⟩ (portsSpec "web=80,65536;" "web") = .error e) ↔
      ∃ seg ∈ split "web=80,65536;".toList ';', (split seg '=').length ≠ 2 ∨
        ∃ name ports, split seg '=' = [name, ports] ∧ String.mk name = "web" ∧
          ∃ tok ∈ split ports ',', ¬ Uint16Token tok :=
  newConfig_portsSpec_error_iff _ _ _ (by decide)

/-- A port above `65535` is rejected, not truncated. -/
example : ∃ e, newConfig ⟨fun _ => .ok 0, "amd64", none⟩ (portsSpec "web=65536" "web") = .error e :=
  ⟨_, rfl⟩

/-- The empty mapping after a trailing `;` is rejected, for any container name. -/
example : ∃ e, newConfig ⟨fun _ => .ok 0, "amd64", none⟩ (portsSpec "db=5432;" "web") = .error e :=
  ⟨_, rfl⟩

/-! ## What a successful `NewConfig` copies from the annotations -/

/-- An `Except` bind succeeds only when its first action does. -/
theorem bind_eq_ok {ε α β : Type} {x : Except ε α} {f : α → Except ε β} {b : β}
    (h : x >>= f = .ok b) : ∃ a, x = .ok a ∧ f a = .ok b := by
  cases x with
  | error e => cases h
  | ok a => exact ⟨a, rfl, h⟩

/-- An `if` of two binds succeeds only through the continuation of the branch taken. -/
theorem ite_bind_eq_ok {ε α β : Type} {c : Prop} [Decidable c] {x y : Except ε α}
    {f g : α → Except ε β} {r : β} (h : (if c then x >>= f else y >>= g) = .ok r) :
    (∃ a, f a = .ok r) ∨ ∃ a, g a = .ok r := by
  split at h
  · obtain ⟨a, -, h⟩ := bind_eq_ok h; exact .inl ⟨a, h⟩
  · obtain ⟨a, -, h⟩ := bind_eq_ok h; exact .inr ⟨a, h⟩

/-- The shape the do block gives `let x ← if c then a else pure d; rest`: both branches
continue with the same join point. -/
theorem ite_bind_eq_ok_same {ε α β : Type} {c : Prop} [Decidable c] {x y : Except ε α}
    {f : α → Except ε β} {r : β} (h : (if c then x >>= f else y >>= f) = .ok r) :
    ∃ a, f a = .ok r :=
  (ite_bind_eq_ok h).elim id id

/-- Whatever the port map, the duration and the two booleans parse to, a `Config` that
`NewConfig` returns has the container's name and type from the annotations, and the
container-names annotation cut at `,` (no names when it is empty). -/
theorem newConfig_ok {host : Host} {m : AnnotationMap} {cfg : Config}
    (h : newConfig host m = .ok cfg) :
    cfg.containerName = (decode m).containerName ∧ cfg.containerType = (decode m).containerType ∧
      cfg.zeropodContainerNames = if (decode m).zeropodContainerNames.length ≠ 0 then
        (split (decode m).zeropodContainerNames.toList containersDelim).map String.mk else [] := by
  dsimp only [newConfig] at h
  generalize (if (decode m).zeropodContainerNames.length ≠ 0 then
      (split (decode m).zeropodContainerNames.toList containersDelim).map String.mk else []) =
    names at h ⊢
  -- the port map, the scale-down duration and `disableCheckpointing`
  obtain ⟨_, h⟩ := ite_bind_eq_ok_same h
  obtain ⟨_, h⟩ := ite_bind_eq_ok_same h
  obtain ⟨_, h⟩ := ite_bind_eq_ok_same h
  -- `preDump`, whose parsed value is corrected on arm64 before the join point
  rcases ite_bind_eq_ok h with ⟨_, h⟩ | ⟨_, h⟩
  · obtain ⟨_, -, h⟩ := bind_eq_ok h
    cases h; exact ⟨rfl, rfl, rfl⟩
  · cases h; exact ⟨rfl, rfl, rfl⟩

/-- **`IsZeropodContainer` of a decoded config**: the container-names annotation is empty, or
the container's name is one of its `,`-separated fields, compared whole. -/
theorem isZeropodContainer_newConfig {host : Host} {m : AnnotationMap} {cfg : Config}
    (h : newConfig host m = .ok cfg) :
    isZeropodContainer cfg = true ↔ (decode m).zeropodContainerNames = "" ∨
      (decode m).containerName ∈
        (split (decode m).zeropodContainerNames.toList containersDelim).map String.mk := by
  obtain ⟨hname, -, hnames⟩ := newConfig_ok h
  simp only [isZeropodContainer, hname, hnames, ← length_eq_zero_iff, Bool.or_eq_true,
    List.any_eq_true, beq_iff_eq, exists_eq_right]
  split_ifs with hlen
  · simp [hlen, split_ne_nil]
  · simp [not_not.mp hlen]

/-! ## When `NewConfig` fails, for every annotation map -/

/-- A bind whose continuation fails or not whatever value it gets fails exactly when its first
action fails or the continuation does. -/
theorem bind_error_iff {ε α β : Type} {x : Except ε α} {f : α → Except ε β} {P : Prop}
    (hf : ∀ a, (∃ e, f a = .error e) ↔ P) : (∃ e, x >>= f = .error e) ↔ (∃ e, x = .error e) ∨ P := by
  cases x with
  | error e => exact iff_of_true ⟨e, rfl⟩ (.inl ⟨e, rfl⟩)
  | ok a => exact (hf a).trans ⟨.inr, fun h => h.resolve_left fun ⟨_, h⟩ => nomatch h⟩

theorem ite_bind_error_iff {ε α β : Type} {c : Prop} [Decidable c] {x y : Except ε α}
    {f g : α → Except ε β} {P : Prop} (hf : ∀ a, (∃ e, f a = .error e) ↔ P)
    (hg : ∀ a, (∃ e, g a = .error e) ↔ P) :
    (∃ e, (if c then x >>= f else y >>= g) = .error e) ↔ (∃ e, (if c then x else y) = .error e) ∨ P := by
  split_ifs
  · exact bind_error_iff hf
  · exact bind_error_iff hg

theorem ite_bind_error_iff_same {ε α β : Type} {c : Prop} [Decidable c] {x y : Except ε α}
    {f : α → Except ε β} {P : Prop} (hf : ∀ a, (∃ e, f a = .error e) ↔ P) :
    (∃ e, (if c then x >>= f else y >>= f) = .error e) ↔ (∃ e, (if c then x else y) = .error e) ∨ P :=
  ite_bind_error_iff hf hf

/-- A step that falls back to a default when its annotation is empty fails only on a
non-empty annotation. -/
theorem ite_pure_error_iff {ε α : Type} {c : Prop} [Decidable c] {x : Except ε α} {d : α} :
    (∃ e, (if c then x else pure d) = .error e) ↔ c ∧ ∃ e, x = .error e := by
  split_ifs with hc
  · exact ⟨fun h => ⟨hc, h⟩, fun h => h.2⟩
  · exact ⟨fun ⟨_, h⟩ => (nomatch h), fun h => absurd h.1 hc⟩

theorem mapError_error_iff {ε ε' α : Type} (f : ε → ε') (x : Except ε α) :
    (∃ e, x.mapError f = .error e) ↔ ∃ e, x = .error e := by
  cases x with
  | error e => exact iff_of_true ⟨_, rfl⟩ ⟨e, rfl⟩
  | ok a => exact iff_of_false (fun ⟨_, h⟩ => nomatch h) fun ⟨_, h⟩ => nomatch h

/-- `strconv.ParseBool` fails exactly outside its six spellings of true and six of false. -/
theorem parseBool_error_iff (str : String) :
    (∃ e, parseBool str = .error e) ↔
      str ∉ ["1", "t", "T", "true", "TRUE", "True"] ++ ["0", "f", "F", "false", "FALSE", "False"] := by
  unfold parseBool
  rw [List.mem_append]
  split_ifs with ht hf
  · exact iff_of_false (fun ⟨_, h⟩ => nomatch h) fun h => h (.inl ht)
  · exact iff_of_false (fun ⟨_, h⟩ => nomatch h) fun h => h (.inr hf)
  · exact iff_of_true ⟨_, rfl⟩ fun h => h.elim ht hf

/-- **When `NewConfig` fails.** For every annotation map, `NewConfig` returns an error exactly
when the port map is non-empty and one of its `;`-separated mappings does not split at `=` into
two parts or names the container and has a port that is not a 16-bit decimal, or the
scale-down duration is non-empty and `time.ParseDuration` rejects it, or one of the two boolean
annotations is non-empty and not a spelling `strconv.ParseBool` accepts. Each annotation is
the value `mapstructure` finds for its tag, under a key equal to it or equal up to case. The
container names, the pod fields and the namespace never make it fail. -/
theorem newConfig_error_iff (host : Host) (m : AnnotationMap) :
    (∃ e, newConfig host m = .error e) ↔
      ((decode m).portMap.length ≠ 0 ∧ ∃ seg ∈ split (decode m).portMap.toList ';',
        (split seg '=').length ≠ 2 ∨ ∃ name ports, split seg '=' = [name, ports] ∧
          String.mk name = (decode m).containerName ∧ ∃ tok ∈ split ports ',', ¬ Uint16Token tok) ∨
      ((decode m).scaledownDuration.length ≠ 0 ∧
        ∃ e, host.parseDuration (decode m).scaledownDuration = .error e) ∨
      ((decode m).disableCheckpointing.length ≠ 0 ∧ (decode m).disableCheckpointing ∉
        ["1", "t", "T", "true", "TRUE", "True", "0", "f", "F", "false", "FALSE", "False"]) ∨
      ((decode m).preDump.length ≠ 0 ∧ (decode m).preDump ∉
        ["1", "t", "T", "true", "TRUE", "True", "0", "f", "F", "false", "FALSE", "False"]) := by
  have hpure : ∀ {α : Type} (v : α), (∃ e, (pure v : Except ConfigError α) = .error e) ↔ False :=
    fun _ => ⟨fun ⟨_, h⟩ => (nomatch h), False.elim⟩
  dsimp only [newConfig]
  -- one fallible step at a time: the port map, the duration and `disableCheckpointing` each
  -- continue to the same join point from both branches; `preDump` corrects its value first
  refine Iff.trans (ite_bind_error_iff_same fun _ => ite_bind_error_iff_same fun _ =>
    ite_bind_error_iff_same fun _ => ite_bind_error_iff
      (fun _ => (bind_error_iff fun _ => hpure _).trans
        ⟨fun h => h.elim (hpure _).mp id, False.elim⟩) fun _ => hpure _) ?_
  simp only [ite_pure_error_iff, mapError_error_iff, portsLoop_error_iff, parseBool_error_iff,
    or_false]
  exact Iff.rfl

/-- A port map under a key that differs from its tag only in case is read all the same, and
rejected. -/
example : ∃ e, newConfig ⟨fun _ => .ok 0, "amd64", none⟩
    ⟨[("zeropod.ctrox.dev/Ports-Map", "bogus")], List.nodup_singleton _⟩ = .error e :=
  ⟨_, rfl⟩

end Zeropod.ConfigLoader
