import HostNet.Proofs.ParameterFiles
import HostNet.Proofs.PolicyReset
/-!
The files that policy routing sets. The reverse-path filter of the host's interface is named by a
key that has the interface's name in it, and the dots of a key are the slashes of its path. Main
statement: a pass of either direction sets the filter of the interface exactly where there is no dot
in the interface's name.
-/
namespace HostNet

namespace PolicyOptions

/-! ## The files of the two parameters -/

def filterFile (options : PolicyOptions) (root : String) : String :=
  joinPath root ("net/ipv4/conf/" ++ options.hostDevice ++ "/rp_filter")

/-- The file of the parameter that lets marks take part in reverse-path filtering. -/
def markFile (root : String) : String :=
  joinPath root "net/ipv4/conf/all/src_valid_mark"

/-- From one tree of files to another, the two parameters got the values of the direction, and
every other file reads as before. -/
structure SetsParameters (options : PolicyOptions) (root : String) (enabled : Bool)
    (before after : FileTree) : Prop where
  filter : after.Holds (options.filterFile root) (if enabled then "2" else "1")
  mark : after.Holds (markFile root) (if enabled then "1" else "0")
  others : ∀ other content, FileTree.place other ≠ FileTree.place (options.filterFile root) →
    FileTree.place other ≠ FileTree.place (markFile root) →
    before.read other = .ok content → after.read other = .ok content

variable {options : PolicyOptions} {routes : LocalRoutes} {root : String}

theorem path_looseFilter (options : PolicyOptions) (root : String) :
    Procfs.path root options.looseFilter.key =
      joinPath root ("net/ipv4/conf/" ++ Procfs.keyPath options.hostDevice ++ "/rp_filter") := by
  change joinPath root (Procfs.keyPath ("net.ipv4.conf." ++ options.hostDevice ++ ".rp_filter")) = _
  rw [Procfs.keyPath_append, Procfs.keyPath_append]
  rfl

theorem path_markedFilter (root : String) : Procfs.path root markedFilter.key = markFile root :=
  rfl

/-- Where a file below `net/ipv4/conf` is. -/
theorem place_conf {path middle last : String}
    (hpath : path = "net/ipv4/conf" ++ "/" ++ middle ++ "/" ++ last)
    (hnamed : ∀ name ∈ FileTree.components middle, name ≠ "." ∧ name ≠ "..")
    (hlast : EntryName last) :
    FileTree.place (joinPath root path) =
      FileTree.place root ++ (["net", "ipv4", "conf"] ++ FileTree.components middle ++ [last]) := by
  have hrelative : path.toList.head? ≠ some '/' := by
    rw [hpath]
    simp
  have hcomponents : FileTree.components path =
      ["net", "ipv4", "conf"] ++ FileTree.components middle ++ [last] := by
    rw [hpath, FileTree.components_append_slash, FileTree.components_append_slash,
      FileTree.components_of_entryName hlast]
    rfl
  rw [FileTree.place_joinPath hrelative ?_ root, hcomponents]
  intro name hname
  rw [hcomponents, List.mem_append, List.mem_append, List.mem_singleton] at hname
  obtain (hfixed | hmiddle) | rfl := hname
  · revert name
    decide
  · exact hnamed name hmiddle
  · exact ⟨hlast.here, hlast.above⟩

theorem filterPath_eq (middle : String) :
    "net/ipv4/conf/" ++ middle ++ "/rp_filter" =
      "net/ipv4/conf" ++ "/" ++ middle ++ "/" ++ "rp_filter" := by
  rw [show "net/ipv4/conf/" = "net/ipv4/conf" ++ "/" from rfl,
    show "/rp_filter" = "/" ++ "rp_filter" from rfl, ← String.append_assoc]

theorem place_looseFilter (options : PolicyOptions) (root : String) :
    FileTree.place (Procfs.path root options.looseFilter.key) = FileTree.place root ++
      (["net", "ipv4", "conf"] ++ FileTree.components (Procfs.keyPath options.hostDevice) ++
        ["rp_filter"]) := by
  rw [path_looseFilter]
  refine place_conf (filterPath_eq _) (fun name hname => ?_) (by decide)
  -- a component of a key's path has no dot in it
  have hdotless : '.' ∉ name.toList := fun hdot =>
    Procfs.dot_not_mem_keyPath options.hostDevice (FileTree.mem_of_mem_components hname hdot)
  constructor
  · rintro rfl
    exact hdotless (by decide)
  · rintro rfl
    exact hdotless (by decide)

theorem place_filterFile (hname : EntryName options.hostDevice) :
    FileTree.place (options.filterFile root) =
      FileTree.place root ++
        (["net", "ipv4", "conf"] ++ [options.hostDevice] ++ ["rp_filter"]) := by
  rw [← FileTree.components_of_entryName hname]
  refine place_conf (filterPath_eq _) (fun name hmem => ?_) (by decide)
  rw [FileTree.components_of_entryName hname, List.mem_singleton] at hmem
  exact hmem ▸ ⟨hname.here, hname.above⟩

theorem place_markFile (root : String) :
    FileTree.place (markFile root) =
      FileTree.place root ++ (["net", "ipv4", "conf"] ++ ["all"] ++ ["src_valid_mark"]) := by
  have hpath : "net/ipv4/conf/all/src_valid_mark" =
      "net/ipv4/conf" ++ "/" ++ "all" ++ "/" ++ "src_valid_mark" := by decide
  exact place_conf hpath (by decide) (by decide)

theorem append_concat_ne {base l m : List String} {x y : String} (h : x ≠ y) :
    base ++ (l ++ [x]) ≠ base ++ (m ++ [y]) := fun heq =>
  h (List.singleton_inj.mp (List.append_inj_right' (List.append_cancel_left heq) rfl))

theorem place_markFile_ne (options : PolicyOptions) (root : String) :
    FileTree.place (markFile root) ≠
      FileTree.place (Procfs.path root options.looseFilter.key) := by
  rw [place_markFile, place_looseFilter]
  exact append_concat_ne (by decide)

theorem path_eq_filterFile (h : '.' ∉ options.hostDevice.toList) :
    Procfs.path root options.looseFilter.key = options.filterFile root := by
  rw [path_looseFilter, Procfs.keyPath_of_not_mem h, filterFile]

theorem place_filterFile_ne (hname : EntryName options.hostDevice)
    (h : '.' ∈ options.hostDevice.toList) :
    FileTree.place (options.filterFile root) ≠
      FileTree.place (Procfs.path root options.looseFilter.key) := by
  rw [place_filterFile hname, place_looseFilter]
  intro heq
  have hcomponents :=
    List.append_cancel_left (List.append_cancel_right (List.append_cancel_left heq))
  have hmem : options.hostDevice ∈
      FileTree.components (Procfs.keyPath options.hostDevice) :=
    hcomponents ▸ List.mem_singleton_self _
  exact Procfs.dot_not_mem_keyPath _ (FileTree.mem_of_mem_components hmem h)

theorem place_filterFile_ne_markFile (hname : EntryName options.hostDevice) :
    FileTree.place (options.filterFile root) ≠ FileTree.place (markFile root) := by
  rw [place_filterFile hname, place_markFile]
  exact append_concat_ne (by decide)

theorem map_path_keys_iff (hname : EntryName options.hostDevice) :
    (options.feature routes).keys.map (Procfs.path root) =
        [options.filterFile root, markFile root] ↔
      '.' ∉ options.hostDevice.toList := by
  rw [keys_feature, List.map_cons, List.map_singleton, path_markedFilter, List.cons_eq_cons]
  constructor
  · rintro ⟨hpath, -⟩ hdot
    exact place_filterFile_ne hname hdot (congrArg FileTree.place hpath.symm)
  · exact fun hdotless => ⟨path_eq_filterFile hdotless, rfl⟩

/-! ## A pass of the feature -/

section Passes

variable {κ τ : Type} {peer : Peer κ} {tool : FilterTool τ} {machine : Machine κ τ FileTree}

/-- The values of the reverse-path filter: loose while the feature is enabled, strict again
after. -/
theorem value_looseFilter (options : PolicyOptions) (enabled : Bool) :
    (if enabled then options.looseFilter.on else options.looseFilter.off) =
        (if enabled then "2" else "1") ∧
      Text.trim (if enabled then "2" else "1") = if enabled then "2" else "1" := by
  refine ⟨rfl, ?_⟩
  revert enabled
  decide

theorem value_markedFilter (enabled : Bool) :
    (if enabled then markedFilter.on else markedFilter.off) = (if enabled then "1" else "0") ∧
      Text.trim (if enabled then "1" else "0") = if enabled then "1" else "0" := by
  refine ⟨rfl, ?_⟩
  revert enabled
  decide

/-- The members that set parameters come first. -/
theorem exists_configs (options : PolicyOptions) (routes : LocalRoutes) :
    ∃ rest, (options.feature routes).configs =
        .sysctl options.looseFilter :: .sysctl markedFilter :: rest ∧
      ∀ config ∈ rest, ∀ parameter, config ≠ .sysctl parameter := by
  refine ⟨(options.feature routes).configs.drop 2, by simp [feature], ?_⟩
  rintro config hmem parameter rfl
  simp [feature] at hmem

/-- Once both parameters are set, the files stay as they are to the end of the pass, however it
ends. -/
theorem files_run {ends : Machine.Ends κ τ FileTree} {enabled : Bool} {first second : FileTree}
    (hfirst : (options.looseFilter.ensure enabled).run (Machine.host ends) machine =
      (.ok (), { machine with files := first }))
    (hsecond : (markedFilter.ensure enabled).run (Machine.host ends)
      { machine with files := first } = (.ok (), { machine with files := second })) :
    (((options.feature routes).ensure enabled).run (Machine.host ends) machine).2.files =
      second := by
  obtain ⟨rest, hconfigs, hrest⟩ := exists_configs options routes
  have hensure : (options.feature routes).ensure enabled =
      (options.looseFilter.ensure enabled).andThen ((markedFilter.ensure enabled).andThen
        (Feature.ensure ⟨featureName, options.enabled, rest⟩ enabled)) := by
    rw [Feature.ensure, hconfigs]
    rfl
  rw [hensure, Pass.run_andThen, hfirst]
  dsimp only
  rw [Pass.run_andThen, hsecond]
  exact Machine.files_of_makes ends (Feature.makes_of_no_parameter hrest enabled)
    { machine with files := second }

/-- Where the interface's name has no dot in it, the two parameters get their values. -/
theorem setsParameters_run (hdotless : '.' ∉ options.hostDevice.toList) (enabled : Bool)
    {filter mark : String} (hfilter : machine.files.Holds (options.filterFile root) filter)
    (hmark : machine.files.Holds (markFile root) mark) :
    options.SetsParameters root enabled machine.files
      (((options.feature routes).ensure enabled).run
        (Machine.host ⟨peer, tool, FileTree.files, root⟩) machine).2.files := by
  have hpath : Procfs.path root options.looseFilter.key = options.filterFile root :=
    path_eq_filterFile hdotless
  have hne : FileTree.place (markFile root) ≠ FileTree.place (options.filterFile root) :=
    hpath ▸ place_markFile_ne options root
  rw [← hpath] at hfilter
  obtain ⟨hloose, hlooseTrim⟩ := options.value_looseFilter enabled
  obtain ⟨first, hfirst, hfilterSet, hfirstKept⟩ :=
    SysctlConfig.run_ensure_of_holds hloose hlooseTrim peer tool machine hfilter
  rw [hpath] at hfilterSet hfirstKept
  have hmarkFirst : first.Holds (Procfs.path root markedFilter.key) mark :=
    hmark.mono fun content => hfirstKept _ content hne
  obtain ⟨hmarked, hmarkedTrim⟩ := value_markedFilter enabled
  obtain ⟨second, hsecond, hmarkSet, hsecondKept⟩ := SysctlConfig.run_ensure_of_holds hmarked
    hmarkedTrim peer tool { machine with files := first } hmarkFirst
  rw [path_markedFilter] at hmarkSet hsecondKept
  rw [files_run hfirst hsecond]
  exact ⟨hfilterSet.mono fun content => hsecondKept _ content hne.symm, hmarkSet,
    fun other content hfilterNe hmarkNe hcontent => hsecondKept other content hmarkNe
      (hfirstKept other content hfilterNe hcontent)⟩

/-- Where it has one, the file of the interface is not written, whatever becomes of the pass. -/
theorem read_filterFile_run (hname : EntryName options.hostDevice)
    (hdot : '.' ∈ options.hostDevice.toList) (enabled : Bool) {content : List UInt8}
    (hcontent : machine.files.read (options.filterFile root) = .ok content) :
    (((options.feature routes).ensure enabled).run
        (Machine.host ⟨peer, tool, FileTree.files, root⟩) machine).2.files.read
          (options.filterFile root) = .ok content := by
  refine Machine.read_of_makes ?_ hcontent
  refine ((options.feature routes).makes_ensure enabled).mono fun c hc key value heq => ?_
  obtain ⟨config, hconfig, hmay⟩ := hc
  obtain ⟨parameter, rfl, rfl⟩ := Config.exists_of_mayMake_setSysctl (heq ▸ hmay)
  rcases sysctl_mem_configs_iff.mp hconfig with rfl | rfl
  · exact place_filterFile_ne hname hdot
  · exact place_filterFile_ne_markFile hname

end Passes

/-- The paths of the feature's two parameters are those of the interface's filter and of the marks
exactly where the interface's name has no dot in it. Then a pass of either direction, on a machine
that has the two, sets them and no other file. With a dot in the name the interface's filter stays
as it is. An interface has a directory of its name among the kernel parameters, so the kernel takes
only names of entries for one. -/
theorem parameters_exact (options : PolicyOptions) (routes : LocalRoutes) (root : String)
    (hname : EntryName options.hostDevice) :
    ((options.feature routes).keys.map (Procfs.path root) =
        [joinPath root ("net/ipv4/conf/" ++ options.hostDevice ++ "/rp_filter"),
          joinPath root "net/ipv4/conf/all/src_valid_mark"] ↔
      '.' ∉ options.hostDevice.toList) ∧
    ∀ {κ τ : Type} (peer : Peer κ) (tool : FilterTool τ) (machine : Machine κ τ FileTree)
      (enabled : Bool),
      (∃ text, machine.files.Holds (options.filterFile root) text) →
      (∃ text, machine.files.Holds (markFile root) text) →
      let after := (((options.feature routes).ensure enabled).run
        (Machine.host ⟨peer, tool, FileTree.files, root⟩) machine).2.files
      ('.' ∉ options.hostDevice.toList →
        options.SetsParameters root enabled machine.files after) ∧
      ('.' ∈ options.hostDevice.toList →
        after.read (options.filterFile root) = machine.files.read (options.filterFile root)) := by
  refine ⟨map_path_keys_iff hname, fun peer tool machine enabled hfilter hmark => ?_⟩
  obtain ⟨filter, hfilter⟩ := hfilter
  obtain ⟨mark, hmark⟩ := hmark
  refine ⟨fun hdotless => setsParameters_run hdotless enabled hfilter hmark, fun hdot => ?_⟩
  obtain ⟨content, -, hcontent, -⟩ := hfilter
  rw [hcontent]
  exact read_filterFile_run hname hdot enabled hcontent

/-- A filter at 1 and marks left out, on a host whose interface has a plain name: enabling makes
the filter loose and lets marks take part, and a second interface keeps its filter. -/
theorem parameters_exact_plain :
    let routes : LocalRoutes := ⟨0x0a7c0001#32, [0x0a800018#32]⟩
    let conf := ["proc", "sys", "net", "ipv4", "conf"]
    let tree : FileTree :=
      ⟨[(conf ++ ["eth0", "rp_filter"], .file [0x31, 0x0a]),
        (conf ++ ["eth1", "rp_filter"], .file [0x31, 0x0a]),
        (conf ++ ["all", "src_valid_mark"], .file [0x30, 0x0a])]⟩
    let machine : Machine (List (Option Errno)) (List Iptables.ScriptedAnswer) FileTree :=
      ⟨Connection.fresh 7 [] [("cbr0", 5)] [], ⟨[], []⟩, tree⟩
    EntryName standard.hostDevice ∧
      standard.SetsParameters "/proc/sys" true machine.files
        (((standard.feature routes).ensure true).run (Machine.host
          ⟨Connection.scripted, Iptables.scripted, FileTree.files, "/proc/sys"⟩)
            machine).2.files := by
  intro routes conf tree machine
  have hname : EntryName standard.hostDevice := by decide
  have hfilter : ∃ text, machine.files.Holds (standard.filterFile "/proc/sys") text :=
    ⟨"1", by decide +kernel⟩
  have hmark : ∃ text, machine.files.Holds (markFile "/proc/sys") text :=
    ⟨"0", by decide +kernel⟩
  obtain ⟨-, hpasses⟩ := parameters_exact standard routes "/proc/sys" hname
  obtain ⟨hplain, -⟩ :=
    hpasses Connection.scripted Iptables.scripted machine true hfilter hmark
  exact ⟨hname, hplain (by decide)⟩

/-- The interface of a virtual network: eight bytes without a slash, a colon, a blank or a NUL. Its
filter is looked for in the directory `100` of another interface. -/
theorem not_filterFile_of_dot :
    let options := { standard with hostDevice := "eth0.100" }
    let routes : LocalRoutes := ⟨0x0a7c0001#32, [0x0a800018#32]⟩
    (Text.toBytes options.hostDevice).length = 8 ∧
      (options.hostDevice.toList.all fun c =>
        c != '/' && c != ':' && c != '\x00' && !Text.isBlank c) = true ∧
      (options.feature routes).keys.map (Procfs.path "/proc/sys") =
        ["/proc/sys/net/ipv4/conf/eth0/100/rp_filter",
          "/proc/sys/net/ipv4/conf/all/src_valid_mark"] ∧
      (options.feature routes).keys.map (Procfs.path "/proc/sys") ≠
        ["/proc/sys/net/ipv4/conf/eth0.100/rp_filter",
          "/proc/sys/net/ipv4/conf/all/src_valid_mark"] := by
  decide +kernel

end PolicyOptions

end HostNet
