import HostNet.Host.Files
/-!
Where paths lead in a tree of files, and what a write leaves of the rest. Main statements: the
components of a path below a directory are those of the directory and its own, a written file reads
back what was written, and every file at another place reads as before.
-/
namespace HostNet

/-- A name that an entry of a directory can have. -/
structure EntryName (name : String) : Prop where
  nonempty : name ≠ ""
  whole : '/' ∉ name.toList
  here : name ≠ "."
  above : name ≠ ".."

instance (name : String) : Decidable (EntryName name) :=
  decidable_of_iff (name ≠ "" ∧ '/' ∉ name.toList ∧ name ≠ "." ∧ name ≠ "..")
    ⟨fun ⟨nonempty, whole, here, above⟩ => ⟨nonempty, whole, here, above⟩,
      fun h => ⟨h.nonempty, h.whole, h.here, h.above⟩⟩

namespace FileTree

/-! ## Components -/

theorem splitPath_cons_of_ne {c : Char} (hc : c ≠ '/') {l part : List Char}
    {parts : List (List Char)} (h : splitPath l = part :: parts) :
    splitPath (c :: l) = (c :: part) :: parts := by
  rw [splitPath, h]
  exact hc

theorem splitPath_ne_nil (l : List Char) : splitPath l ≠ [] := by
  induction l with
  | nil => exact List.cons_ne_nil _ _
  | cons c l ih =>
      by_cases hc : c = '/'
      · rw [hc, splitPath]
        exact List.cons_ne_nil _ _
      · obtain ⟨part, parts, hl⟩ := List.exists_cons_of_ne_nil ih
        rw [splitPath_cons_of_ne hc hl]
        exact List.cons_ne_nil _ _

theorem splitPath_append_slash (l m : List Char) :
    splitPath (l ++ '/' :: m) = splitPath l ++ splitPath m := by
  induction l with
  | nil => rfl
  | cons c l ih =>
      by_cases hc : c = '/'
      · rw [hc, List.cons_append, splitPath, splitPath, ih, List.cons_append]
      · obtain ⟨part, parts, hl⟩ := List.exists_cons_of_ne_nil (splitPath_ne_nil l)
        rw [hl, List.cons_append] at ih
        rw [List.cons_append, splitPath_cons_of_ne hc ih, splitPath_cons_of_ne hc hl,
          List.cons_append]

theorem splitPath_of_not_mem {l : List Char} (h : '/' ∉ l) : splitPath l = [l] := by
  induction l with
  | nil => rfl
  | cons c l ih =>
      have hc : c ≠ '/' := fun hslash => h (hslash ▸ List.mem_cons_self)
      exact splitPath_cons_of_ne hc (ih fun hl => h (List.mem_cons_of_mem c hl))

theorem mem_of_mem_splitPath {c : Char} {l part : List Char} (hpart : part ∈ splitPath l)
    (hc : c ∈ part) : c ∈ l := by
  induction l generalizing part with
  | nil =>
      rw [List.mem_singleton.mp hpart] at hc
      exact hc
  | cons d l ih =>
      by_cases hd : d = '/'
      · rw [hd, splitPath] at hpart
        rcases List.mem_cons.mp hpart with rfl | hrest
        · cases hc
        · exact List.mem_cons_of_mem d (ih hrest hc)
      · obtain ⟨first, parts, hl⟩ := List.exists_cons_of_ne_nil (splitPath_ne_nil l)
        rw [splitPath_cons_of_ne hd hl] at hpart
        rw [hl] at ih
        rcases List.mem_cons.mp hpart with rfl | hrest
        · rcases List.mem_cons.mp hc with rfl | hc
          · exact List.mem_cons_self
          · exact List.mem_cons_of_mem d (ih List.mem_cons_self hc)
        · exact List.mem_cons_of_mem d (ih (List.mem_cons_of_mem first hrest) hc)

theorem components_append_slash (directory path : String) :
    components (directory ++ "/" ++ path) = components directory ++ components path := by
  have hlist : (directory ++ "/" ++ path).toList =
      directory.toList ++ '/' :: path.toList := by
    simp [String.toList_append]
  rw [components, hlist, splitPath_append_slash, List.filterMap_append]
  rfl

theorem components_empty : components "" = [] :=
  rfl

/-- A path that is not absolute leads on from the directory. -/
theorem components_joinPath {path : String} (hpath : path.toList.head? ≠ some '/')
    (directory : String) :
    components (joinPath directory path) = components directory ++ components path := by
  rw [joinPath, if_neg hpath]
  by_cases hempty : directory = ""
  · rw [hempty]
    simp [components_empty]
  · by_cases hslash : directory.toList.getLast? = some '/'
    · obtain ⟨init, hinit⟩ := List.getLast?_eq_some_iff.mp hslash
      have hdirectory : directory = String.ofList init ++ "/" ++ "" := by
        apply String.toList_injective
        simp [hinit]
      rw [if_pos (by simp [hslash]), hdirectory, components_append_slash, components_empty,
        String.append_empty, components_append_slash, List.append_nil]
    · rw [if_neg (by simp [hempty, hslash]), components_append_slash]

theorem components_of_entryName {name : String} (h : EntryName name) :
    components name = [name] := by
  have hlist : name.toList ≠ [] := fun hnil => h.nonempty (String.toList_eq_nil_iff.mp hnil)
  rw [components, splitPath_of_not_mem h.whole]
  simp [hlist]

theorem mem_of_mem_components {c : Char} {path name : String} (hname : name ∈ components path)
    (hc : c ∈ name.toList) : c ∈ path.toList := by
  obtain ⟨part, hpart, hnamed⟩ := List.mem_filterMap.mp hname
  cases hempty : part.isEmpty with
  | true => simp [hempty] at hnamed
  | false =>
      simp only [hempty, Bool.false_eq_true, if_false, Option.some.injEq] at hnamed
      rw [← hnamed, String.toList_ofList] at hc
      exact mem_of_mem_splitPath hpart hc

/-! ## Places -/

/-- The place a path leads to, if nothing is in its way. -/
def place (path : String) : List String :=
  (components path).foldl follow []

theorem foldl_follow_of_named {names : List String} (h : ∀ name ∈ names, name ≠ "." ∧ name ≠ "..")
    (done : List String) : names.foldl follow done = done ++ names := by
  induction names generalizing done with
  | nil => rw [List.foldl_nil, List.append_nil]
  | cons name names ih =>
      obtain ⟨⟨hhere, habove⟩, hnames⟩ := List.forall_mem_cons.mp h
      rw [List.foldl_cons, follow, if_neg hhere, if_neg habove, ih hnames, List.append_assoc,
        List.singleton_append]

theorem place_joinPath {path : String} (hpath : path.toList.head? ≠ some '/')
    (h : ∀ name ∈ components path, name ≠ "." ∧ name ≠ "..") (directory : String) :
    place (joinPath directory path) = place directory ++ components path := by
  rw [place, components_joinPath hpath, List.foldl_append, foldl_follow_of_named h, place]

variable {tree after : FileTree} {path : String} {content : List UInt8}

theorem eq_of_walk {done todo found : List String} (h : tree.walk done todo = .ok found) :
    found = todo.foldl follow done := by
  induction todo generalizing done with
  | nil => exact (Except.ok.inj h).symm
  | cons component todo ih =>
      rw [walk] at h
      split at h
      · cases h
      · cases h
      · split at h
        · cases h
        · exact ih h

/-- A path is resolved where it can be one and the walk along its components succeeds. -/
theorem resolve_eq_ok_iff {found : List String} :
    tree.resolve path = .ok found ↔ path.toList.contains '\x00' = false ∧ path.isEmpty = false ∧
      (Text.toBytes path).length ≤ pathLimit ∧ tree.walk [] (components path) = .ok found := by
  rw [resolve]
  cases path.toList.contains '\x00' with
  | true => simp
  | false =>
      cases path.isEmpty with
      | true => simp
      | false =>
          by_cases hlong : pathLimit < (Text.toBytes path).length
          · simp [hlong, Nat.not_le_of_lt hlong]
          · simp [hlong, Nat.le_of_not_lt hlong]

theorem eq_of_resolve {found : List String} (h : tree.resolve path = .ok found) :
    found = place path :=
  eq_of_walk (resolve_eq_ok_iff.mp h).2.2.2

theorem read_eq_ok_iff :
    tree.read path = .ok content ↔ tree.resolve path = .ok (place path) ∧
      tree.entry? (place path) = some (.file content) ∧ wantsDirectory path = false := by
  rw [read]
  cases hresolve : tree.resolve path with
  | error cause =>
      constructor
      · intro h
        cases h
      · rintro ⟨h, -⟩
        cases h
  | ok found =>
      obtain rfl := eq_of_resolve hresolve
      simp only [bind, Except.bind, pure, Except.pure, throw, throwThe, MonadExceptOf.throw]
      cases tree.entry? (place path) with
      | none => simp
      | some entry =>
          cases entry with
          | directory => simp
          | file other => cases wantsDirectory path <;> simp

/-- The tree with a file put at a place. -/
def withFile (tree : FileTree) (found : List String) (content : List UInt8) : FileTree :=
  ⟨put found content tree.entries⟩

theorem write_eq_ok_iff :
    tree.write path content = .ok after ↔ tree.resolve path = .ok (place path) ∧
      tree.entry? (place path) ≠ some .directory ∧ wantsDirectory path = false ∧
      after = tree.withFile (place path) content := by
  rw [write]
  cases hresolve : tree.resolve path with
  | error cause =>
      constructor
      · intro h
        cases h
      · rintro ⟨h, -⟩
        cases h
  | ok found =>
      obtain rfl := eq_of_resolve hresolve
      simp only [bind, Except.bind, pure, Except.pure, throw, throwThe, MonadExceptOf.throw,
        withFile]
      cases tree.entry? (place path) with
      | none => cases wantsDirectory path <;> simp [eq_comm]
      | some entry =>
          cases entry with
          | directory => simp
          | file other => cases wantsDirectory path <;> simp [eq_comm]

/-! ## What a write leaves -/

section Put

variable {found other : List String} {entries : List (List String × Entry)}

theorem lookup_put_self : (put found content entries).lookup found = some (.file content) := by
  induction entries with
  | nil => exact List.lookup_cons_self
  | cons head entries ih =>
      rw [put]
      split
      · rename_i hhead
        rw [hhead]
        exact List.lookup_cons_self
      · rename_i hhead
        rw [List.lookup_cons, beq_false_of_ne (Ne.symm hhead)]
        exact ih

theorem lookup_put_of_ne (hne : other ≠ found) :
    (put found content entries).lookup other = entries.lookup other := by
  induction entries with
  | nil => rw [put, List.lookup_cons, beq_false_of_ne hne]
  | cons head entries ih =>
      rw [put]
      split
      · rename_i hhead
        rw [List.lookup_cons, List.lookup_cons, hhead, beq_false_of_ne hne]
      · rw [List.lookup_cons, List.lookup_cons, ih]

theorem any_put {below : List String → Bool}
    (h : (entries.any fun entry => below entry.1) = true) :
    ((put found content entries).any fun entry => below entry.1) = true := by
  induction entries with
  | nil => cases h
  | cons head entries ih =>
      rw [List.any_cons, Bool.or_eq_true] at h
      rw [put]
      split
      · rw [List.any_cons, Bool.or_eq_true]
        exact h
      · rw [List.any_cons, Bool.or_eq_true]
        exact h.imp_right ih

theorem entry?_withFile_self :
    FileTree.entry? (tree.withFile found content) found = some (.file content) := by
  unfold entry?
  rw [withFile, lookup_put_self]

theorem entry?_withFile_of_ne (hne : other ≠ found) {entry : Entry}
    (h : tree.entry? other = some entry) :
    FileTree.entry? (tree.withFile found content) other = some entry := by
  unfold entry? at h ⊢
  rw [withFile, lookup_put_of_ne hne]
  cases hlookup : tree.entries.lookup other with
  | some entry =>
      rw [hlookup] at h
      exact h
  | none =>
      rw [hlookup] at h
      simp only [Option.ite_none_right_eq_some, Bool.or_eq_true] at h ⊢
      exact ⟨h.1.imp_right any_put, h.2⟩

/-- A file put where no directory is stands in the way of nothing. -/
theorem walk_withFile (hfound : tree.entry? found ≠ some .directory) {done todo last : List String}
    (h : tree.walk done todo = .ok last) :
    (tree.withFile found content).walk done todo = .ok last := by
  induction todo generalizing done with
  | nil => exact h
  | cons component todo ih =>
      rw [walk] at h
      split at h
      · cases h
      · cases h
      · rename_i hdone
        -- the walk is at a directory here, so it is not where the file was put
        have hne : done ≠ found := fun heq => hfound (heq ▸ hdone)
        rw [walk, entry?_withFile_of_ne hne hdone]
        split at h
        · cases h
        · rename_i hshort
          simp only
          rw [if_neg hshort]
          exact ih h

theorem resolve_withFile (hfound : tree.entry? found ≠ some .directory) {last : List String}
    (h : tree.resolve path = .ok last) :
    (tree.withFile found content).resolve path = .ok last := by
  obtain ⟨hnul, hempty, hshort, hwalk⟩ := resolve_eq_ok_iff.mp h
  exact resolve_eq_ok_iff.mpr ⟨hnul, hempty, hshort, walk_withFile hfound hwalk⟩

end Put

/-- A file that can be read can be written. -/
theorem exists_write_of_read {old : List UInt8} (h : tree.read path = .ok old)
    (content : List UInt8) : ∃ after, tree.write path content = .ok after := by
  obtain ⟨hresolve, hentry, hdirectory⟩ := read_eq_ok_iff.mp h
  refine ⟨_, write_eq_ok_iff.mpr ⟨hresolve, ?_, hdirectory, rfl⟩⟩
  rw [hentry]
  exact fun heq => Entry.noConfusion (Option.some.inj heq)

/-- What was written is what is read. -/
theorem read_of_write (h : tree.write path content = .ok after) :
    after.read path = .ok content := by
  obtain ⟨hresolve, hfree, hdirectory, rfl⟩ := write_eq_ok_iff.mp h
  exact read_eq_ok_iff.mpr ⟨resolve_withFile hfree hresolve, entry?_withFile_self, hdirectory⟩

/-- A file at another place reads as before. -/
theorem read_of_write_of_ne (h : tree.write path content = .ok after) {other : String}
    (hne : place other ≠ place path) {kept : List UInt8} (hkept : tree.read other = .ok kept) :
    after.read other = .ok kept := by
  obtain ⟨-, hfree, -, rfl⟩ := write_eq_ok_iff.mp h
  obtain ⟨hresolve, hentry, hdirectory⟩ := read_eq_ok_iff.mp hkept
  exact read_eq_ok_iff.mpr
    ⟨resolve_withFile hfree hresolve, entry?_withFile_of_ne hne hentry, hdirectory⟩

end FileTree

end HostNet
