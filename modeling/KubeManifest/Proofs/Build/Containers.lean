import KubeManifest.Build.Container
import KubeManifest.Proofs.Results

/-!
# Containers of a build

* `PortSpec.parse_spec` : what is known of the port of an entry, whichever of its parts are missing;
* `Project.container_eq_ok`, `Project.portList_of_container` : what a container is made of, and its ports, which are
  those that the entries of its image describe;
* `Project.exists_container` : every container of a build is that of one of its images.
-/

namespace KubeManifest

/-! ## Ports -/

namespace PortSpec

variable {properties : Fields} {spec : String}

/-- The parts of an entry in which names of properties are replaced: what stands between the colons before the
protocol. -/
def partsOf (text : List Char) : List (List Char) :=
  (((Text.cutLast? '/' text).map Prod.fst).getD text).splitOn ':'

/-- The number that the last part of an entry gives to the port. -/
def number? (properties : Fields) (spec : String) : Option Int := do
  let text ← (expand properties spec).toOption
  let part ← (partsOf text).getLast?
  Number.readInteger (String.ofList part)

theorem splitOn_of_cutProtocol {text rest : List Char} {protocol : Value}
    (h : cutProtocol spec text = .ok (rest, protocol)) : rest.splitOn ':' = partsOf text := by
  unfold cutProtocol at h
  unfold partsOf
  split at h
  · rename_i hcut
    obtain ⟨rfl, -⟩ := Prod.mk.inj (Except.ok.inj h)
    rw [hcut]
    rfl
  · rename_i before name hcut
    split at h
    · obtain ⟨rfl, -⟩ := Prod.mk.inj (Except.ok.inj h)
      rw [hcut]
      rfl
    · cases h

theorem readInteger_of_portNumber {cs : List Char} {n : Int} (h : portNumber spec cs = .ok n) :
    Number.readInteger (String.ofList cs) = some n := by
  unfold portNumber at h
  split at h
  · cases h
  · rename_i m hm
    split at h
    · rw [hm, Except.ok.inj h]
    · cases h

/-- The port of an entry has the number of its last part, no name, and nothing unknown. -/
theorem parse_spec {port : ContainerPort} (h : parse properties spec = .ok port) :
    (∃ n, number? properties spec = some n ∧ port.containerPort = .ofInt n) ∧ port.name = .null ∧ port.extra = [] := by
  obtain ⟨text, htext, h⟩ := bind_eq_ok.mp h
  obtain ⟨⟨rest, protocol⟩, hcut, h⟩ := bind_eq_ok.mp h
  have hnumber : ∀ {part : List Char} {n : Int}, (rest.splitOn ':').getLast? = some part →
      portNumber spec part = .ok n → number? properties spec = some n := by
    intro part n hpart hn
    rw [splitOn_of_cutProtocol hcut] at hpart
    simp [number?, htext, hpart, readInteger_of_portNumber hn]
  dsimp only at h
  split at h
  · rename_i port hparts
    split at h
    · cases h
    · obtain ⟨n, hn, h⟩ := bind_eq_ok.mp h
      obtain rfl := Except.ok.inj h
      exact ⟨⟨n, hnumber (by rw [hparts]; rfl) hn, rfl⟩, rfl, rfl⟩
  · rename_i host port hparts
    split at h
    · cases h
    · obtain ⟨n, hn, h⟩ := bind_eq_ok.mp h
      obtain ⟨m, -, h⟩ := bind_eq_ok.mp h
      obtain rfl := Except.ok.inj h
      exact ⟨⟨n, hnumber (by rw [hparts]; rfl) hn, rfl⟩, rfl, rfl⟩
  · rename_i ip host port hparts
    split at h
    · cases h
    · obtain ⟨n, hn, h⟩ := bind_eq_ok.mp h
      obtain ⟨m, -, h⟩ := bind_eq_ok.mp h
      obtain rfl := Except.ok.inj h
      exact ⟨⟨n, hnumber (by rw [hparts]; rfl) hn, rfl⟩, rfl, rfl⟩
  · cases h

end PortSpec

/-! ## Images -/

/-- The port list of an image. No build section and no list stand for no entries. -/
def Image.portSpecs (image : Image) : List String :=
  (image.build.bind (·.ports)).getD []

namespace Project

variable {p : Project} {s : Settings} {images : List Image} {containers : List Container}

/-- The ports of an image, if it has a port list. -/
theorem containerPorts_eq_ok {image : Image} {ports : Option (List ContainerPort)}
    (h : p.containerPorts image = .ok ports) : (image.build.bind (·.ports) = none ∧ ports = none) ∨
      ∃ specs described, image.build.bind (·.ports) = some specs ∧
        PortSpec.ports p.properties specs = .ok described ∧ ports = some described := by
  unfold containerPorts at h
  split at h
  · rename_i hnone
    exact .inl ⟨hnone, (Except.ok.inj h).symm⟩
  · rename_i specs hspecs
    rw [map_eq_pure_bind, bind_eq_ok] at h
    obtain ⟨described, hdescribed, h⟩ := h
    exact .inr ⟨specs, described, hspecs, hdescribed, (Except.ok.inj h).symm⟩

theorem ports_of_containerPorts {image : Image} {ports : Option (List ContainerPort)}
    (h : p.containerPorts image = .ok ports) :
    PortSpec.ports p.properties image.portSpecs = .ok (ports.getD []) := by
  unfold Image.portSpecs
  rcases containerPorts_eq_ok h with ⟨hnone, rfl⟩ | ⟨specs, described, hspecs, hdescribed, rfl⟩
  · rw [hnone]
    rfl
  · rw [hspecs]
    exact hdescribed

/-- What a container is made of, once all of it is known. -/
theorem container_eq_ok {image : Image} {last : Bool} {c : Container} (h : p.container s image last = .ok c) :
    ∃ liveness readiness name policy ports, Probe.ofSettings? s.liveness = .ok liveness ∧
      Probe.ofSettings? s.readiness = .ok readiness ∧ p.containerName image = .ok name ∧
      p.containerPorts image = .ok ports ∧ c = {
        name
        image := image.name
        imagePullPolicy := policy
        env := some (s.variables.map some)
        securityContext := some { privileged := .ofBool s.privileged }
        ports := ports.map fun ports => ports.map some
        volumeMounts := some (s.volumeMounts.map some)
        livenessProbe := if last then liveness <|> p.livenessProbe? else liveness
        readinessProbe := if last then readiness <|> p.readinessProbe? else readiness } := by
  obtain ⟨liveness, hliveness, h⟩ := bind_eq_ok.mp h
  obtain ⟨readiness, hreadiness, h⟩ := bind_eq_ok.mp h
  obtain ⟨name, hname, h⟩ := bind_eq_ok.mp h
  obtain ⟨policy, -, h⟩ := bind_eq_ok.mp h
  obtain ⟨ports, hports, h⟩ := bind_eq_ok.mp h
  exact ⟨liveness, readiness, name, policy, ports, hliveness, hreadiness, hname, hports, (Except.ok.inj h).symm⟩

/-- The ports of a container are those that the entries of its image describe. -/
theorem portList_of_container {image : Image} {last : Bool} {c : Container} (h : p.container s image last = .ok c) :
    ∃ ports, PortSpec.ports p.properties image.portSpecs = .ok ports ∧ c.ports.getD [] = ports.map some := by
  obtain ⟨liveness, readiness, name, policy, ports, -, -, -, hports, rfl⟩ := container_eq_ok h
  refine ⟨ports.getD [], ports_of_containerPorts hports, ?_⟩
  cases ports <;> rfl

theorem containersOf_cons_eq_ok {image : Image} : p.containersOf s (image :: images) = .ok containers ↔
    ∃ c rest, p.container s image images.isEmpty = .ok c ∧ p.containersOf s images = .ok rest ∧
      containers = c :: rest := by
  rw [containersOf, bind_eq_ok]
  simp only [bind_eq_ok]
  constructor
  · rintro ⟨c, hc, rest, hrest, h⟩
    exact ⟨c, rest, hc, hrest, (Except.ok.inj h).symm⟩
  · rintro ⟨c, rest, hc, hrest, rfl⟩
    exact ⟨c, hc, rest, hrest, rfl⟩

theorem exists_container_of_containersOf (h : p.containersOf s images = .ok containers) :
    ∀ c ∈ containers, ∃ image ∈ images, ∃ last, p.container s image last = .ok c := by
  induction images generalizing containers with
  | nil =>
    obtain rfl := Except.ok.inj h
    simp
  | cons image images ih =>
    obtain ⟨c, rest, hc, hrest, rfl⟩ := containersOf_cons_eq_ok.mp h
    refine List.forall_mem_cons.mpr ⟨⟨image, List.mem_cons_self, _, hc⟩, fun c' hc' => ?_⟩
    obtain ⟨image', himage, hcontainer⟩ := ih hrest c' hc'
    exact ⟨image', List.mem_cons_of_mem _ himage, hcontainer⟩

/-- The images that are built are some of those there are. -/
theorem mem_of_builtImages {built : List Image} (h : builtImages images = .ok built) :
    ∀ image ∈ built, image ∈ images := by
  induction images generalizing built with
  | nil =>
    obtain rfl := Except.ok.inj h
    simp
  | cons image images ih =>
    unfold builtImages at h
    split at h
    · exact fun i hi => List.mem_cons_of_mem _ (ih h i hi)
    · split at h
      · cases h
      · obtain ⟨rest, hrest, h⟩ := bind_eq_ok.mp h
        obtain rfl := Except.ok.inj h
        intro i hi
        rcases List.mem_cons.mp hi with rfl | hi
        · exact List.mem_cons_self
        · exact List.mem_cons_of_mem _ (ih hrest i hi)

theorem exists_container (h : p.containers s images = .ok containers) :
    ∀ c ∈ containers, ∃ image ∈ images, ∃ last, p.container s image last = .ok c := by
  obtain ⟨built, hbuilt, h⟩ := bind_eq_ok.mp h
  intro c hc
  obtain ⟨image, himage, hcontainer⟩ := exists_container_of_containersOf h c hc
  exact ⟨image, mem_of_builtImages hbuilt image himage, hcontainer⟩

end Project

end KubeManifest
