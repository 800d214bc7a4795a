import HostNet.Host.Memory
import HostNet.Proofs.ParameterFiles
/-!
Kernel parameters in files and in memory. Files below a directory that hold one content for each
path answer as the parameters in memory do, although a value that is there already is not written
again. Main statement: after any run of settings, one more is answered alike on both, leaves them
alike, and changes no file but the one of its key.
-/
namespace HostNet

namespace Text

/-- No blank stands at an end of the text. -/
structure Unpadded (text : String) : Prop where
  front : ∀ c, text.toList.head? = some c → isBlank c = false
  back : ∀ c, text.toList.getLast? = some c → isBlank c = false

theorem unpadded_iff {text : String} :
    Unpadded text ↔ (text.toList.head?.all fun c => !isBlank c) = true ∧
      (text.toList.getLast?.all fun c => !isBlank c) = true := by
  simp only [Option.all_eq_true, Bool.not_eq_true']
  exact ⟨fun h => ⟨h.front, h.back⟩, fun ⟨front, back⟩ => ⟨front, back⟩⟩

instance (text : String) : Decidable (Unpadded text) :=
  decidable_of_iff _ unpadded_iff.symm

theorem dropWhile_of_head? {p : Char → Bool} {l : List Char}
    (h : ∀ c, l.head? = some c → p c = false) : l.dropWhile p = l := by
  cases l with
  | nil => rfl
  | cons c l => rw [List.dropWhile_cons_of_neg (by rw [h c rfl]; exact Bool.false_ne_true)]

theorem trim_of_unpadded {text : String} (h : Unpadded text) : trim text = text := by
  have hback : ∀ c, text.toList.reverse.head? = some c → isBlank c = false := by
    intro c hc
    rw [List.head?_reverse] at hc
    exact h.back c hc
  rw [trim, dropWhile_of_head? h.front, dropWhile_of_head? hback, List.reverse_reverse,
    String.ofList_toList]

theorem toBytes_inj {first second : String} (h : toBytes first = toBytes second) :
    first = second := by
  have htext := congrArg ofBytes? h
  rw [ofBytes?_toBytes, ofBytes?_toBytes] at htext
  exact Option.some.inj htext

end Text

/-! ## Paths below a directory -/

/-- The names of directories and a file, joined by slashes. -/
def RelativePath (path : String) : Prop :=
  ∃ names : List String, names ≠ [] ∧ (∀ name ∈ names, EntryName name ∧ '\x00' ∉ name.toList) ∧
    path = "/".intercalate names

theorem RelativePath.head?_ne {path : String} (h : RelativePath path) :
    path.toList.head? ≠ some '/' := by
  obtain ⟨names, hne, hnames, rfl⟩ := h
  cases names with
  | nil => exact absurd rfl hne
  | cons name names =>
      obtain ⟨hname, -⟩ := hnames name List.mem_cons_self
      have hlist : name.toList ≠ [] := fun hnil => hname.nonempty (String.toList_eq_nil_iff.mp hnil)
      have hhead : ("/".intercalate (name :: names)).toList.head? = name.toList.head? := by
        cases names with
        | nil => rw [String.intercalate_singleton]
        | cons next names =>
            rw [String.intercalate_cons_cons, String.toList_append, String.toList_append,
              List.append_assoc, List.head?_append, List.head?_eq_some_head hlist, Option.some_or]
      rw [hhead]
      exact fun hslash => hname.whole (List.mem_of_head? hslash)

theorem joinPath_inj {root first second : String} (hfirst : RelativePath first)
    (hsecond : RelativePath second) (h : joinPath root first = joinPath root second) :
    first = second := by
  rw [joinPath, joinPath, if_neg hfirst.head?_ne, if_neg hsecond.head?_ne] at h
  split at h
  · exact (String.append_right_inj root).mp h
  · exact (String.append_right_inj (root ++ "/")).mp h

namespace Files

variable {φ : Type}

/-- Below a directory the files are a map from relative paths to contents: a path without content
is not found, and writing at a path that has one replaces that and leaves every other. -/
structure MapsBelow (files : Files φ) (root : String) (content : φ → String → Option (List UInt8)) :
    Prop where
  read : ∀ path, RelativePath path → ∀ state,
    files.read (joinPath root path) state =
      match content state path with
      | some bytes => .ok bytes
      | none => .error (.os Errno.noEntry)
  write : ∀ path, RelativePath path → ∀ bytes state, content state path ≠ none →
    ∃ after, files.write (joinPath root path) bytes state = .ok after ∧
      content after path = some bytes ∧
      ∀ other, RelativePath other → other ≠ path → content after other = content state other

/-- Files as a list of contents by path. -/
def listed : Files (List (String × List UInt8)) where
  read path entries :=
    match entries.lookup path with
    | some bytes => .ok bytes
    | none => .error (.os Errno.noEntry)
  write path bytes entries :=
    if (entries.lookup path).isSome then .ok (Memory.replace path bytes entries)
    else .ok (entries ++ [(path, bytes)])

theorem mapsBelow_listed (root : String) :
    listed.MapsBelow root fun entries path => entries.lookup (joinPath root path) := by
  constructor
  · intro path _ entries
    rfl
  · intro path hpath bytes entries hpresent
    refine ⟨Memory.replace (joinPath root path) bytes entries,
      if_pos (Option.isSome_iff_ne_none.mpr hpresent), ?_, fun other hother hne => ?_⟩
    · obtain ⟨old, hold⟩ := Option.ne_none_iff_exists'.mp hpresent
      simp only [Memory.lookup_replace, if_true, hold, Option.map_some]
    · have hapart : joinPath root other ≠ joinPath root path := fun heq =>
        hne (joinPath_inj hother hpath heq)
      simp only [Memory.lookup_replace, if_neg hapart]

end Files

namespace Procfs

/-! ## Keys -/

/-- A name that keys are made of. -/
structure KeyName (name : String) : Prop where
  nonempty : name ≠ ""
  dotless : '.' ∉ name.toList
  slashless : '/' ∉ name.toList
  whole : '\x00' ∉ name.toList

instance (name : String) : Decidable (KeyName name) :=
  decidable_of_iff
    (name ≠ "" ∧ '.' ∉ name.toList ∧ '/' ∉ name.toList ∧ '\x00' ∉ name.toList)
    ⟨fun ⟨nonempty, dotless, slashless, whole⟩ => ⟨nonempty, dotless, slashless, whole⟩,
      fun h => ⟨h.nonempty, h.dotless, h.slashless, h.whole⟩⟩

/-- A key is one name or several with single dots between them. -/
def IsKey (key : String) : Prop :=
  ∃ names : List String, names ≠ [] ∧ (∀ name ∈ names, KeyName name) ∧
    key = ".".intercalate names

theorem keyPath_intercalate {names : List String} (hnames : ∀ name ∈ names, KeyName name) :
    keyPath (".".intercalate names) = "/".intercalate names := by
  induction names with
  | nil => rfl
  | cons name names ih =>
      obtain ⟨hname, hrest⟩ := List.forall_mem_cons.mp hnames
      have hfirst := keyPath_of_not_mem hname.dotless
      cases names with
      | nil => rw [String.intercalate_singleton, String.intercalate_singleton, hfirst]
      | cons next names =>
          rw [String.intercalate_cons_cons, String.intercalate_cons_cons, keyPath_append,
            keyPath_append, hfirst, ih hrest]
          rfl

theorem slash_not_mem_of_isKey {key : String} (h : IsKey key) : '/' ∉ key.toList := by
  obtain ⟨names, -, hnames, rfl⟩ := h
  induction names with
  | nil => exact List.not_mem_nil
  | cons name names ih =>
      obtain ⟨hname, hrest⟩ := List.forall_mem_cons.mp hnames
      cases names with
      | nil =>
          rw [String.intercalate_singleton]
          exact hname.slashless
      | cons next names =>
          have hdot : '/' ∉ ".".toList := by decide
          rw [String.intercalate_cons_cons, String.toList_append, String.toList_append]
          simp only [List.mem_append, not_or]
          exact ⟨⟨hname.slashless, hdot⟩, ih hrest⟩

theorem relativePath_keyPath {key : String} (h : IsKey key) : RelativePath (keyPath key) := by
  obtain ⟨names, hne, hnames, rfl⟩ := h
  refine ⟨names, hne, fun name hmem => ?_, keyPath_intercalate hnames⟩
  have hname := hnames name hmem
  -- the two names of directories that are no entries have dots
  have hentry : EntryName name := {
    nonempty := hname.nonempty
    whole := hname.slashless
    here := fun hhere => hname.dotless (by rw [hhere]; decide)
    above := fun habove => hname.dotless (by rw [habove]; decide) }
  exact ⟨hentry, hname.whole⟩

/-- Keys without slashes lead to different files. -/
theorem keyPath_inj {first second : String} (hfirst : '/' ∉ first.toList)
    (hsecond : '/' ∉ second.toList) (h : keyPath first = keyPath second) : first = second := by
  have hback : ∀ key : String, '/' ∉ key.toList →
      ((keyPath key).toList.map fun c => if c = '/' then '.' else c) = key.toList := by
    intro key hkey
    rw [keyPath, String.toList_ofList, List.map_map]
    refine (List.map_congr_left fun c hc => ?_).trans (List.map_id key.toList)
    have hne : c ≠ '/' := fun hslash => hkey (hslash ▸ hc)
    by_cases hdot : c = '.'
    · simp [hdot]
    · simp [hdot, hne]
  apply String.toList_injective
  rw [← hback first hfirst, ← hback second hsecond, h]

/-! ## One call -/

/-- The files hold the values that memory has, none of which has blanks around it. -/
structure Corresponds (content : String → Option (List UInt8)) (memory : Memory) : Prop where
  same : ∀ key, IsKey key →
    content (keyPath key) = (memory.sysctls.lookup key).map Text.toBytes
  unpadded : ∀ key value, IsKey key → memory.sysctls.lookup key = some value →
    Text.Unpadded value

def listing (root : String) (entries : List (String × String)) : List (String × List UInt8) :=
  entries.map fun entry => (path root entry.1, Text.toBytes entry.2)

theorem lookup_listing (root : String) {entries : List (String × String)} {key : String}
    (hentries : ∀ entry ∈ entries, IsKey entry.1) (hkey : IsKey key) :
    (listing root entries).lookup (path root key) = (entries.lookup key).map Text.toBytes := by
  induction entries with
  | nil => rfl
  | cons entry entries ih =>
      obtain ⟨hentry, hrest⟩ := List.forall_mem_cons.mp hentries
      have hpath : path root key = path root entry.1 ↔ key = entry.1 := by
        constructor
        · intro h
          have hjoined := joinPath_inj (relativePath_keyPath hkey) (relativePath_keyPath hentry) h
          exact keyPath_inj (slash_not_mem_of_isKey hkey) (slash_not_mem_of_isKey hentry) hjoined
        · exact congrArg (path root)
      have htail := ih hrest
      rw [listing] at htail ⊢
      rw [List.map_cons, Memory.lookup_cons_ite, Memory.lookup_cons_ite, htail]
      simp only [hpath, apply_ite (Option.map Text.toBytes), Option.map_some]

/-- Any parameters can be held in files. -/
theorem corresponds_listing (root : String) {memory : Memory}
    (h : ∀ entry ∈ memory.sysctls, IsKey entry.1 ∧ Text.Unpadded entry.2) :
    Corresponds (fun path => (listing root memory.sysctls).lookup (joinPath root path)) memory := by
  refine ⟨fun key hkey => lookup_listing root (fun entry hentry => (h entry hentry).1) hkey,
    fun key value _ hlookup => ?_⟩
  obtain ⟨front, back, hsplit, -⟩ := List.lookup_eq_some_iff.mp hlookup
  exact (h (key, value) (hsplit ▸ List.mem_append_right front List.mem_cons_self)).2

/-- Two hosts answer alike: with the same previous value, or both that there is no such
parameter. -/
inductive Alike (key : String) : Except Fault String → Except Fault String → Prop where
  | value (previous : String) : Alike key (.ok previous) (.ok previous)
  | missing {cause other : IoCause} (hcause : cause.kind = .notFound)
      (hother : other.kind = .notFound) :
      Alike key (.error (.sysctl key cause)) (.error (.sysctl key other))

theorem Alike.eq_ok {key previous : String} {reply : Except Fault String}
    (h : Alike key reply (.ok previous)) : reply = .ok previous := by
  cases h
  rfl

section Call

variable {φ : Type} {files : Files φ} {root : String} {content : φ → String → Option (List UInt8)}
  {state : φ} {memory : Memory} {key value : String}

theorem get_of_lookup_none (hfiles : files.MapsBelow root content)
    (h : Corresponds (content state) memory) (hkey : IsKey key)
    (hlookup : memory.sysctls.lookup key = none) :
    get files root key state = .error (.sysctl key (.os Errno.noEntry)) := by
  have hcontent := h.same key hkey
  rw [hlookup, Option.map_none] at hcontent
  rw [get, path, hfiles.read _ (relativePath_keyPath hkey), hcontent]

theorem get_of_lookup_some (hfiles : files.MapsBelow root content)
    (h : Corresponds (content state) memory) (hkey : IsKey key) {previous : String}
    (hlookup : memory.sysctls.lookup key = some previous) :
    get files root key state = .ok previous := by
  have hcontent := h.same key hkey
  rw [hlookup, Option.map_some] at hcontent
  rw [get, path, hfiles.read _ (relativePath_keyPath hkey), hcontent]
  simp only [Text.ofBytes?_toBytes, Text.trim_of_unpadded (h.unpadded key previous hkey hlookup)]

/-- A missing parameter is reported, and the files are left as they are. -/
theorem set_of_lookup_none (hfiles : files.MapsBelow root content)
    (h : Corresponds (content state) memory) (hkey : IsKey key)
    (hlookup : memory.sysctls.lookup key = none) (value : String) :
    set files root key value state = (.error (.sysctl key (.os Errno.noEntry)), state) := by
  rw [set, get_of_lookup_none hfiles h hkey hlookup]

/-- A parameter that is there gets the value, in its own file alone and only if it has another
one. -/
theorem set_of_lookup_some (hfiles : files.MapsBelow root content)
    (h : Corresponds (content state) memory) (hkey : IsKey key) {previous : String}
    (hlookup : memory.sysctls.lookup key = some previous) (value : String) :
    ∃ after, set files root key value state = (.ok previous, after) ∧
      (previous = value → after = state) ∧
      content after (keyPath key) = some (Text.toBytes value) ∧
      ∀ other, RelativePath other → other ≠ keyPath key →
        content after other = content state other := by
  have hcontent := h.same key hkey
  rw [hlookup, Option.map_some] at hcontent
  rw [set, get_of_lookup_some hfiles h hkey hlookup]
  by_cases hsame : previous = value
  · exact ⟨state, if_pos hsame, fun _ => rfl, hsame ▸ hcontent, fun _ _ _ => rfl⟩
  · have hpresent : content state (keyPath key) ≠ none := by
      rw [hcontent]
      exact Option.some_ne_none _
    obtain ⟨after, hwrite, hown, hothers⟩ :=
      hfiles.write _ (relativePath_keyPath hkey) (Text.toBytes value) state hpresent
    refine ⟨after, ?_, fun heq => absurd heq hsame, hown, hothers⟩
    simp only [if_neg hsame, path, hwrite]

/-- Files and memory that both replace the value of one key still hold the same values. -/
theorem Corresponds.replace {before after : String → Option (List UInt8)}
    (h : Corresponds before memory) (hkey : IsKey key) (hvalue : Text.Unpadded value)
    (hpresent : memory.sysctls.lookup key ≠ none)
    (hown : after (keyPath key) = some (Text.toBytes value))
    (hothers : ∀ other, RelativePath other → other ≠ keyPath key → after other = before other) :
    Corresponds after { memory with sysctls := Memory.replace key value memory.sysctls } := by
  obtain ⟨previous, hprevious⟩ := Option.ne_none_iff_exists'.mp hpresent
  constructor
  · intro other hother
    by_cases heq : other = key
    · simp only [heq, Memory.lookup_replace, if_true, hprevious, hown, Option.map_some]
    · have hapart : keyPath other ≠ keyPath key := fun hpath =>
        heq (keyPath_inj (slash_not_mem_of_isKey hother) (slash_not_mem_of_isKey hkey) hpath)
      simp only [Memory.lookup_replace, if_neg heq]
      rw [hothers _ (relativePath_keyPath hother) hapart, h.same other hother]
  · intro other held hother hheld
    simp only [Memory.lookup_replace] at hheld
    by_cases heq : other = key
    · rw [if_pos heq, hprevious, Option.map_some] at hheld
      exact Option.some.inj hheld ▸ hvalue
    · rw [if_neg heq] at hheld
      exact h.unpadded other held hother hheld

/-- One call is answered alike on both and leaves them alike. -/
theorem set_corresponds (hfiles : files.MapsBelow root content)
    (h : Corresponds (content state) memory) (hkey : IsKey key) (hvalue : Text.Unpadded value) :
    Alike key (set files root key value state).1 (memory.setSysctl key value).1 ∧
      Corresponds (content (set files root key value state).2) (memory.setSysctl key value).2 := by
  rw [Memory.setSysctl]
  cases hlookup : memory.sysctls.lookup key with
  | none =>
      rw [set_of_lookup_none hfiles h hkey hlookup]
      exact ⟨.missing rfl rfl, h⟩
  | some previous =>
      obtain ⟨after, hset, -, hown, hothers⟩ := set_of_lookup_some hfiles h hkey hlookup value
      have hpresent : memory.sysctls.lookup key ≠ none := by
        rw [hlookup]
        exact Option.some_ne_none previous
      rw [hset]
      exact ⟨.value previous, h.replace hkey hvalue hpresent hown hothers⟩

/-- One call makes no file and changes none but the one of its key. It leaves the files entirely as
they are where it fails or the value is there already. -/
theorem set_spares (hfiles : files.MapsBelow root content)
    (h : Corresponds (content state) memory) (hkey : IsKey key) (value : String) :
    let result := set files root key value state
    (∀ path, RelativePath path → path ≠ keyPath key ∨ content state path = none →
        content result.2 path = content state path) ∧
      ((∃ fault, result.1 = .error fault) → result.2 = state) ∧
      (content state (keyPath key) = some (Text.toBytes value) → result.2 = state) := by
  intro result
  have hcontent := h.same key hkey
  cases hlookup : memory.sysctls.lookup key with
  | none =>
      have hset : result = _ := set_of_lookup_none hfiles h hkey hlookup value
      rw [hset]
      exact ⟨fun _ _ _ => rfl, fun _ => rfl, fun _ => rfl⟩
  | some previous =>
      obtain ⟨after, hset, hskip, -, hothers⟩ := set_of_lookup_some hfiles h hkey hlookup value
      change result = _ at hset
      rw [hlookup, Option.map_some] at hcontent
      rw [hset]
      refine ⟨fun path hpath hcase => hothers path hpath fun heq => ?_, fun hfailed => ?_,
        fun hthere => ?_⟩
      · rcases hcase with hne | hnone
        · exact hne heq
        · rw [heq, hcontent] at hnone
          cases hnone
      · obtain ⟨fault, hfault⟩ := hfailed
        cases hfault
      · exact hskip (Text.toBytes_inj (Option.some.inj (hcontent.symm.trans hthere)))

end Call

/-! ## Runs -/

/-- The files after a run of settings, each a key and a value. -/
def setEach {φ : Type} (files : Files φ) (root : String) (calls : List (String × String))
    (state : φ) : φ :=
  calls.foldl (fun state call => (set files root call.1 call.2 state).2) state

end Procfs

/-- The memory after a run of settings. -/
def Memory.setEach (calls : List (String × String)) (memory : Memory) : Memory :=
  calls.foldl (fun memory call => (memory.setSysctl call.1 call.2).2) memory

namespace Procfs

section Run

variable {φ : Type} {files : Files φ} {root : String} {content : φ → String → Option (List UInt8)}
  {state : φ} {memory : Memory} {calls : List (String × String)}

theorem setEach_corresponds (hfiles : files.MapsBelow root content)
    (h : Corresponds (content state) memory)
    (hcalls : ∀ call ∈ calls, IsKey call.1 ∧ Text.Unpadded call.2) :
    Corresponds (content (setEach files root calls state)) (memory.setEach calls) := by
  induction calls generalizing state memory with
  | nil => exact h
  | cons call calls ih =>
      obtain ⟨⟨hkey, hvalue⟩, hrest⟩ := List.forall_mem_cons.mp hcalls
      exact ih (set_corresponds hfiles h hkey hvalue).2 hrest

/-- Start with files that hold the values in memory. After any run of settings the two still
correspond, and one more setting is answered alike on both and leaves them alike. It makes no file
and changes none but the one of its key, and where it fails, or the value is there already, it
leaves the files entirely as they are. -/
theorem set_refines_memory (hfiles : files.MapsBelow root content)
    (hstart : Corresponds (content state) memory)
    (hcalls : ∀ call ∈ calls, IsKey call.1 ∧ Text.Unpadded call.2) {key value : String}
    (hkey : IsKey key) (hvalue : Text.Unpadded value) :
    let before := setEach files root calls state
    let after := (set files root key value before).2
    let reply := (set files root key value before).1
    Corresponds (content before) (memory.setEach calls) ∧
      Alike key reply ((memory.setEach calls).setSysctl key value).1 ∧
      Corresponds (content after) ((memory.setEach calls).setSysctl key value).2 ∧
      (∀ path, RelativePath path → path ≠ keyPath key ∨ content before path = none →
        content after path = content before path) ∧
      ((∃ fault, reply = .error fault) → after = before) ∧
      (content before (keyPath key) = some (Text.toBytes value) → after = before) := by
  intro before after reply
  have hbefore : Corresponds (content before) (memory.setEach calls) :=
    setEach_corresponds hfiles hstart hcalls
  obtain ⟨halike, hafter⟩ := set_corresponds hfiles hbefore hkey hvalue
  exact ⟨hbefore, halike, hafter, set_spares hfiles hbefore hkey value⟩

/-- Forwarding is set twice, and in between a parameter that is not there. The second setting of
the same value writes nothing. -/
theorem set_refines_memory_forwarding :
    let memory := { Memory.empty with
      sysctls := [("net.ipv4.ip_forward", "0"), ("kernel.pid_max", "4194304")] }
    let before := setEach Files.listed "/proc/sys"
      [("net.ipv4.ip_forward", "1"), ("net.ipv4.missing", "1")]
      (listing "/proc/sys" memory.sysctls)
    before.lookup (path "/proc/sys" "net.ipv4.ip_forward") = some (Text.toBytes "1") ∧
      set Files.listed "/proc/sys" "net.ipv4.ip_forward" "1" before = (.ok "1", before) := by
  intro memory before
  have hforward : IsKey "net.ipv4.ip_forward" :=
    ⟨["net", "ipv4", "ip_forward"], by decide, by decide, by decide +kernel⟩
  have hlimit : IsKey "kernel.pid_max" :=
    ⟨["kernel", "pid_max"], by decide, by decide, by decide +kernel⟩
  have hmissing : IsKey "net.ipv4.missing" :=
    ⟨["net", "ipv4", "missing"], by decide, by decide, by decide +kernel⟩
  have hone : Text.Unpadded "1" := by decide +kernel
  have hstart : Corresponds
      (fun path => (listing "/proc/sys" memory.sysctls).lookup (joinPath "/proc/sys" path))
      memory :=
    corresponds_listing "/proc/sys" (List.forall_mem_cons.mpr ⟨⟨hforward, by decide +kernel⟩,
      List.forall_mem_singleton.mpr ⟨hlimit, by decide +kernel⟩⟩)
  have hcalls : ∀ call ∈ [("net.ipv4.ip_forward", "1"), ("net.ipv4.missing", "1")],
      IsKey call.1 ∧ Text.Unpadded call.2 :=
    List.forall_mem_cons.mpr ⟨⟨hforward, hone⟩, List.forall_mem_singleton.mpr ⟨hmissing, hone⟩⟩
  obtain ⟨hbefore, halike, -, -, -, hskip⟩ :=
    set_refines_memory (Files.mapsBelow_listed "/proc/sys") hstart hcalls hforward hone
  have hlookup : (memory.setEach [("net.ipv4.ip_forward", "1"),
      ("net.ipv4.missing", "1")]).sysctls.lookup "net.ipv4.ip_forward" = some "1" := by
    decide +kernel
  have hthere : before.lookup (path "/proc/sys" "net.ipv4.ip_forward") = some (Text.toBytes "1") :=
    (hbefore.same _ hforward).trans (congrArg (Option.map Text.toBytes) hlookup)
  rw [Memory.setSysctl, hlookup] at halike
  exact ⟨hthere, Prod.ext halike.eq_ok (hskip hthere)⟩

end Run

end Procfs

end HostNet
