import KubeManifest.Proofs.Fragment.Distinct
import KubeManifest.Proofs.Generation.Workloads
import KubeManifest.Proofs.Manifest.Loaded

/-!
# Resources of a configuration are in order

* `Collection.wellFormed_of_ofPaths` : fragments that are read make resources in order;
* `Project.wellFormed_containers` : so do the containers of a build;
* `Config.wellFormed_of_assemble` : no resource of a configuration holds under another name what a field holds;
* `Config.restores_of_assemble` : so the aggregate of a configuration is read again, whatever its fragments hold.
-/

namespace KubeManifest

open Model

/-! ## Fragments -/

namespace Collection

variable {files : Files} {context : Fragment.Context}

theorem wellFormed_of_readResource {document : Nat} {path : Path} {r : Resource}
    (h : readResource files context document path = .ok r) : r.WellFormed := by
  obtain ⟨fs, hfs, h⟩ := bind_eq_ok.mp h
  exact Resource.wellFormed_of_ofFields (Fragment.distinct_enrichFile hfs) (Failure.lift_eq_ok.mp h)

theorem wellFormed_of_ofPaths {paths : List Path} {c : Collection} (h : ofPaths files context paths = .ok c) :
    ∀ r ∈ c.items, r.WellFormed := by
  obtain ⟨rs, hrs, h⟩ := bind_eq_ok.mp h
  obtain rfl := Except.ok.inj h
  intro r hr
  obtain ⟨e, -, he⟩ := mapM_eq_ok_mem hrs r hr
  exact wellFormed_of_readResource he

theorem wellFormed_of_ofDirectory {directory : Path} {c : Collection}
    (h : ofDirectory files context directory = .ok c) : ∀ r ∈ c.items, r.WellFormed := by
  obtain ⟨paths, -, h⟩ := bind_eq_ok.mp h
  exact wellFormed_of_ofPaths h

end Collection

/-! ## Containers -/

namespace ProbeSettings

variable {text : String}

theorem extra_of_request {request : HttpGet} (h : ProbeSettings.request text = .ok request) : request.extra = [] := by
  unfold ProbeSettings.request at h
  split at h
  · cases h
  · split at h
    · cases h
    · exact Except.ok.inj h ▸ rfl

theorem extra_of_exec {command : Exec} (h : exec text = .ok command) : command.extra = [] := by
  unfold exec at h
  split at h
  · exact Except.ok.inj h ▸ rfl
  · cases h

theorem extra_of_socket {port : TcpSocket} (h : socket text = .ok port) : port.extra = [] := by
  unfold socket at h
  split at h
  · split at h
    · exact Except.ok.inj h ▸ rfl
    · cases h
  · exact Except.ok.inj h ▸ rfl

theorem wellFormed_of_probe? {settings : ProbeSettings} {p : Probe} (h : settings.probe? = .ok (some p)) :
    p.WellFormed := by
  unfold probe? at h
  dsimp only at h
  split at h
  · split at h
    · obtain ⟨request, hrequest, h⟩ := bind_eq_ok.mp h
      obtain rfl := Option.some.inj (Except.ok.inj h)
      exact ⟨nofun, fun x hx => foreign_of_nil (Option.some.inj hx ▸ extra_of_request hrequest), nofun, foreign_nil _⟩
    · cases h
  · split at h
    · split at h
      · obtain ⟨command, hcommand, h⟩ := bind_eq_ok.mp h
        obtain rfl := Option.some.inj (Except.ok.inj h)
        exact ⟨fun x hx => foreign_of_nil (Option.some.inj hx ▸ extra_of_exec hcommand), nofun, nofun, foreign_nil _⟩
      · cases h
    · split at h
      · split at h
        · cases h
        · obtain ⟨port, hport, h⟩ := bind_eq_ok.mp h
          obtain rfl := Option.some.inj (Except.ok.inj h)
          exact ⟨nofun, nofun, fun x hx => foreign_of_nil (Option.some.inj hx ▸ extra_of_socket hport), foreign_nil _⟩
      · cases h

end ProbeSettings

namespace Project

variable {p : Project} {s : Settings} {images : List Image} {containers : List Container}

theorem wellFormed_healthProbe {delay : Int} {probe : Probe} (h : p.healthProbe? delay = some probe) :
    probe.WellFormed := by
  unfold healthProbe? at h
  split at h
  · obtain rfl := Option.some.inj h
    exact ⟨nofun, fun x hx => foreign_of_nil (Option.some.inj hx ▸ rfl), nofun, foreign_nil _⟩
  · cases h

/-- A probe that is set, or else the default one. -/
theorem wellFormed_of_chosen {settings : Option ProbeSettings} {set : Option Probe} {delay : Int} {last : Bool}
    (h : Probe.ofSettings? settings = .ok set) :
    ∀ probe, (if last then set <|> p.healthProbe? delay else set) = some probe → probe.WellFormed := by
  have hset : ∀ probe, set = some probe → probe.WellFormed := by
    rintro probe rfl
    cases settings with
    | none => cases h
    | some settings => exact ProbeSettings.wellFormed_of_probe? h
  intro probe hprobe
  cases last with
  | false => exact hset probe hprobe
  | true =>
    cases set with
    | none => exact wellFormed_healthProbe hprobe
    | some other => exact hset probe hprobe

theorem wellFormed_container {image : Image} {last : Bool} {c : Container} (h : p.container s image last = .ok c) :
    c.WellFormed := by
  obtain ⟨liveness, readiness, name, policy, ports, hliveness, hreadiness, -, hports, rfl⟩ := container_eq_ok h
  refine ⟨fun x hx => ?_, fun x hx => ?_, fun x hx => ?_, wellFormed_of_chosen hliveness,
    wellFormed_of_chosen hreadiness, fun x hx => foreign_of_nil (Option.some.inj hx ▸ rfl), foreign_nil _⟩
  · have hvariable : x ∈ s.variables := by simpa [Container.envList] using hx
    obtain ⟨e, -, rfl⟩ := List.mem_map.mp hvariable
    exact foreign_nil _
  · cases ports with
    | none => cases hx
    | some ports =>
      have hport : x ∈ ports := by simpa [Container.portList] using hx
      obtain ⟨spec, -, hparse⟩ := mapM_eq_ok_mem (ports_of_containerPorts hports) x hport
      obtain ⟨-, -, hextra⟩ := PortSpec.parse_spec hparse
      exact foreign_of_nil hextra
  · have hmount : x ∈ s.volumeMounts := by simpa using hx
    obtain ⟨volume, -, hmount⟩ := List.mem_flatMap.mp hmount
    obtain ⟨path, -, rfl⟩ := List.mem_map.mp hmount
    exact foreign_nil _

theorem wellFormed_containers (h : p.containers s images = .ok containers) : ∀ c ∈ containers, c.WellFormed := by
  intro c hc
  obtain ⟨image, -, last, hcontainer⟩ := exists_container h c hc
  exact wellFormed_container hcontainer

end Project

/-! ## Resources -/

namespace Config

variable {config : Config} {files : Files} {assembly : Assembly}

theorem wellFormed_deployment {r : Resource} (h : config.deployment = .ok r) : r.WellFormed := by
  obtain ⟨version, -, h⟩ := bind_eq_ok.mp h
  obtain rfl := Except.ok.inj h
  exact ⟨rfl, rfl, fun _ => rfl, nofun⟩

theorem mem_of_complete {fragments : Collection} {containers : List Container} {source : Assembly}
    (h : config.complete fragments containers = .ok source) :
    ∀ r ∈ source.collection.items, r ∈ fragments.items ∨ config.deployment = .ok r := by
  unfold complete at h
  split at h
  · exact Except.ok.inj h ▸ fun r hr => .inl hr
  · obtain ⟨found, -, h⟩ := bind_eq_ok.mp h
    split at h
    · exact Except.ok.inj h ▸ fun r hr => .inl hr
    · obtain ⟨d, hd, h⟩ := bind_eq_ok.mp h
      obtain rfl := Except.ok.inj h
      intro r hr
      obtain hr | hr := List.mem_append.mp hr
      · exact .inl hr
      · exact .inr (List.mem_singleton.mp hr ▸ hd)

/-- **Every resource of a configuration is in order**, whatever its fragments hold. -/
theorem wellFormed_of_assemble (h : config.assemble files = .ok assembly) :
    ∀ r ∈ assembly.collection.items, r.WellFormed := by
  obtain ⟨fragments, containers, source, hfragments, hcontainers, hsource, -, hitems⟩ := assemble_eq_ok h
  intro r' hr'
  obtain ⟨r, hr, hfill⟩ := mapM_eq_ok_mem hitems r' hr'
  have hwell : r.WellFormed := by
    obtain hr | hr := mem_of_complete hsource r hr
    · exact Collection.wellFormed_of_ofDirectory hfragments r hr
    · exact wellFormed_deployment hr
  unfold fill at hfill
  split at hfill
  · refine hwell.merge ⟨fun c hc => ?_, foreign_nil _⟩ hfill
    rw [PodSpec.list_ofContainers, List.mem_map] at hc
    obtain ⟨d, hd, heq⟩ := hc
    exact Option.some.inj heq ▸ Project.wellFormed_containers hcontainers d hd
  · exact Except.ok.inj hfill ▸ hwell

/-- The aggregate of a configuration is read again by kind and name, where these are texts. -/
theorem restores_of_assemble {processor : Option Manifest.Processor} {others : Files} {path : Path} {tree : Fields}
    (h : config.assemble files = .ok assembly) (ht : ∀ r ∈ assembly.collection.items, r.Titled)
    (htree : (Exportable.collection assembly.collection).tree = .ok tree) (hfile : Manifest.Holds others path tree) :
    Manifest.Restores processor others path assembly.collection := by
  obtain ⟨rs, hload, hkeys⟩ :=
    Manifest.load_aggregate (fun r hr => ⟨wellFormed_of_assemble h r hr, ht r hr⟩) htree hfile
  exact Manifest.restores_of_load hload hkeys

end Config
end KubeManifest
