import HostNet.Host.Machine
import HostNet.Proofs.AttrReading
import HostNet.Proofs.ConfigCalls
import HostNet.Proofs.FileTrees
/-!
Kernel parameters in a tree of files. Main statements: setting a parameter that has a value leaves
it with the new one, and no pass changes a file but those of the parameters it sets.
-/
namespace HostNet

namespace FileTree

/-- The file at the path has the text, up to the blanks around it. -/
def Holds (tree : FileTree) (path text : String) : Prop :=
  ∃ content whole, tree.read path = .ok content ∧ Text.ofBytes? content = some whole ∧
    Text.trim whole = text

theorem holds_iff {tree : FileTree} {path text : String} :
    tree.Holds path text ↔
      ((tree.read path).toOption.bind Text.ofBytes?).map Text.trim = some text := by
  rw [Holds]
  cases tree.read path with
  | error cause => simp [Except.toOption]
  | ok content => simp [Except.toOption]

instance (tree : FileTree) (path text : String) : Decidable (tree.Holds path text) :=
  decidable_of_iff _ holds_iff.symm

theorem Holds.mono {tree after : FileTree} {path text : String} (h : tree.Holds path text)
    (hkept : ∀ content, tree.read path = .ok content → after.read path = .ok content) :
    after.Holds path text := by
  obtain ⟨content, whole, hread, htext⟩ := h
  exact ⟨content, whole, hkept content hread, htext⟩

end FileTree

namespace Procfs

theorem keyPath_append (key rest : String) :
    keyPath (key ++ rest) = keyPath key ++ keyPath rest := by
  apply String.toList_injective
  simp [keyPath]

theorem dot_not_mem_keyPath (key : String) : '.' ∉ (keyPath key).toList := by
  rw [keyPath, String.toList_ofList, List.mem_map]
  rintro ⟨c, -, hc⟩
  split at hc
  · exact absurd hc (by decide)
  · contradiction

theorem keyPath_of_not_mem {key : String} (h : '.' ∉ key.toList) : keyPath key = key := by
  have hsame : (key.toList.map fun c => if c = '.' then '/' else c) = key.toList.map id :=
    List.map_congr_left fun c hc => if_neg fun (hdot : c = '.') => h (hdot ▸ hc)
  rw [keyPath, hsame, List.map_id, String.ofList_toList]

variable {root key value : String} {tree : FileTree}

theorem get_of_holds {text : String} (h : tree.Holds (path root key) text) :
    get FileTree.files root key tree = .ok text := by
  obtain ⟨content, whole, hread, hwhole, rfl⟩ := h
  rw [get, FileTree.files]
  simp only [hread, hwhole]

/-- Setting a parameter that has a value leaves it with the new one. -/
theorem set_of_holds {previous : String} (h : tree.Holds (path root key) previous)
    (hvalue : Text.trim value = value) :
    ∃ after, set FileTree.files root key value tree = (.ok previous, after) ∧
      after.Holds (path root key) value := by
  rw [set, get_of_holds h]
  by_cases hsame : previous = value
  · exact ⟨tree, if_pos hsame, hsame ▸ h⟩
  · obtain ⟨content, -, hread, -⟩ := h
    obtain ⟨after, hwrite⟩ := FileTree.exists_write_of_read hread (Text.toBytes value)
    refine ⟨after, ?_, Text.toBytes value, value, FileTree.read_of_write hwrite,
      Text.ofBytes?_toBytes value, hvalue⟩
    simp only [if_neg hsame, FileTree.files, hwrite]

/-- Setting a parameter leaves the files at other places alone, whatever comes of it. -/
theorem read_of_set (value : String) {other : String} {kept : List UInt8}
    (hne : FileTree.place other ≠ FileTree.place (path root key))
    (hkept : tree.read other = .ok kept) :
    (set FileTree.files root key value tree).2.read other = .ok kept := by
  rw [set]
  split
  · exact hkept
  · split
    · exact hkept
    · split
      · exact hkept
      · rename_i hwrite
        exact FileTree.read_of_write_of_ne hwrite hne hkept

end Procfs

namespace Machine

variable {κ τ : Type} {peer : Peer κ} {tool : FilterTool τ} {root : String}

theorem files_host_setSysctl {φ : Type} (ends : Ends κ τ φ) (key value : String)
    (machine : Machine κ τ φ) :
    (host ends (.setSysctl key value) machine).2.files =
      (Procfs.set ends.files ends.root key value machine.files).2 :=
  rfl

/-- A call that sets no parameter leaves the files alone. -/
theorem files_host_of_ne {φ : Type} (ends : Ends κ τ φ) {c : Call}
    (hc : ∀ key value, c ≠ .setSysctl key value) (machine : Machine κ τ φ) :
    (host ends c machine).2.files = machine.files := by
  cases c with
  | setSysctl key value => exact absurd rfl (hc key value)
  | _ => rfl

/-- A pass that sets no parameter leaves the files alone. -/
theorem files_of_makes {φ : Type} (ends : Ends κ τ φ) {pass : Pass}
    (hmakes : pass.Makes fun c => ∀ key value, c ≠ .setSysctl key value)
    (machine : Machine κ τ φ) : (pass.run (host ends) machine).2.files = machine.files := by
  suffices hstages : ∀ stage ∈ pass.stages (host ends) machine, stage.files = machine.files from
    hstages _ (pass.run_mem_stages machine)
  refine hmakes.forall_stages (fun c stage hc hstage => ?_) rfl
  rw [files_host_of_ne ends hc, hstage]

/-- A file keeps its content in a pass that sets no parameter at its place. -/
theorem read_of_makes {other : String} {pass : Pass}
    (hmakes : pass.Makes fun c => ∀ key value, c = .setSysctl key value →
      FileTree.place other ≠ FileTree.place (Procfs.path root key))
    {machine : Machine κ τ FileTree} {kept : List UInt8}
    (hkept : machine.files.read other = .ok kept) :
    (pass.run (host ⟨peer, tool, FileTree.files, root⟩) machine).2.files.read other =
      .ok kept := by
  suffices hstages : ∀ stage ∈ pass.stages (host ⟨peer, tool, FileTree.files, root⟩) machine,
      stage.files.read other = .ok kept from hstages _ (pass.run_mem_stages machine)
  refine hmakes.forall_stages (fun c stage hc hstage => ?_) hkept
  by_cases hset : ∃ key value, c = .setSysctl key value
  · obtain ⟨key, value, rfl⟩ := hset
    rw [files_host_setSysctl]
    exact Procfs.read_of_set value (hc key value rfl) hstage
  · rwa [files_host_of_ne _ fun key value heq => hset ⟨key, value, heq⟩]

end Machine

namespace SysctlConfig

variable {κ τ : Type} {root : String}

/-- A pass on a parameter that has a value leaves it with the one of the direction, and every file
at another place as it was. -/
theorem run_ensure_of_holds {config : SysctlConfig} {enabled : Bool} {value : String}
    (hvalue : (if enabled then config.on else config.off) = value)
    (htrim : Text.trim value = value) (peer : Peer κ) (tool : FilterTool τ)
    (machine : Machine κ τ FileTree) {previous : String}
    (h : machine.files.Holds (Procfs.path root config.key) previous) :
    ∃ after, (config.ensure enabled).run (Machine.host ⟨peer, tool, FileTree.files, root⟩) machine =
        (.ok (), { machine with files := after }) ∧
      after.Holds (Procfs.path root config.key) value ∧
      ∀ other content, FileTree.place other ≠ FileTree.place (Procfs.path root config.key) →
        machine.files.read other = .ok content → after.read other = .ok content := by
  obtain ⟨after, hset, hafter⟩ := Procfs.set_of_holds h htrim
  refine ⟨after, ?_, hafter, fun other content hne hcontent => ?_⟩
  · have hhost : Machine.host ⟨peer, tool, FileTree.files, root⟩ (.setSysctl config.key value)
        machine = (.ok previous, { machine with files := after }) := by
      rw [Machine.host]
      simp only [hset]
      rfl
    rw [ensure, Pass.run, hvalue]
    simp only [hhost]
    rfl
  · have hread := Procfs.read_of_set value hne hcontent
    rwa [hset] at hread

end SysctlConfig

/-- Only a declared parameter is set. -/
theorem Config.exists_of_mayMake_setSysctl {config : Config} {enabled : Bool} {key value : String}
    (h : config.MayMake enabled (.setSysctl key value)) :
    ∃ parameter, config = .sysctl parameter ∧ key = parameter.key := by
  cases config with
  | sysctl parameter => exact ⟨parameter, rfl, h⟩
  | _ => exact h.elim

theorem Feature.makes_of_no_parameter {feature : Feature}
    (h : ∀ config ∈ feature.configs, ∀ parameter, config ≠ .sysctl parameter) (enabled : Bool) :
    (feature.ensure enabled).Makes fun c => ∀ key value, c ≠ .setSysctl key value := by
  refine (feature.makes_ensure enabled).mono fun c hc key value heq => ?_
  obtain ⟨config, hconfig, hmay⟩ := hc
  obtain ⟨parameter, hparameter, -⟩ := Config.exists_of_mayMake_setSysctl (heq ▸ hmay)
  exact h config hconfig parameter hparameter

end HostNet
