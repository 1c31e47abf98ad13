import QueryTree.Files.Tree
/-!
# Paths — the names in a path and the place they lead to

A path is split into names, and each name leads on from the place before
it. A place does not depend on what is in a tree, only on the names
(`enter`); whether a tree lets one go there does (`follow_eq_ok_iff`). For
a file in a directory the names are those of the directory with that of
the file after them (`place?_joinPath`), and the directories that are made
for a path are on the way along its names (`wayOf_of_mem_parentPaths`).
-/

namespace QueryTree

/-! ## Names -/

/-- The names that lead on, which are those that are neither empty nor a
point. -/
def stepNames (names : List String) : List String :=
  names.filter fun name => !name.isEmpty && name ≠ "."

/-- **A name of a file in a directory.** -/
structure IsFileName (name : String) : Prop where
  ne_empty : name ≠ ""
  ne_point : name ≠ "."
  ne_up : name ≠ ".."
  no_slash : '/' ∉ name.toList

theorem stepNames_append (first second : List String) :
    stepNames (first ++ second) = stepNames first ++ stepNames second :=
  List.filter_append first second

theorem mem_stepNames {name : String} {names : List String} :
    name ∈ stepNames names ↔ name ∈ names ∧ name ≠ "" ∧ name ≠ "." := by
  simp [stepNames]

namespace pathNames

theorem go_append_slash (first second read : List Char) :
    go (first ++ '/' :: second) read = go first read ++ go second [] := by
  induction first generalizing read with
  | nil => rfl
  | cons c first ih =>
    rw [List.cons_append, go, go]
    split
    · rw [ih, List.cons_append]
    · exact ih _

theorem go_of_no_slash {text : List Char} (h : '/' ∉ text) (read : List Char) :
    go text read = [String.ofList (read.reverse ++ text)] := by
  induction text generalizing read with
  | nil => rw [go, List.append_nil]
  | cons c text ih =>
    rw [List.mem_cons, not_or] at h
    rw [go, if_neg (Ne.symm h.1), ih h.2, List.reverse_cons, List.append_assoc]
    rfl

theorem no_slash_of_mem_go {text read : List Char} {name : String} (hread : '/' ∉ read)
    (h : name ∈ go text read) : '/' ∉ name.toList := by
  induction text generalizing read with
  | nil =>
    rw [go, List.mem_singleton] at h
    simpa [h] using hread
  | cons c text ih =>
    rw [go] at h
    split at h
    · rcases List.mem_cons.mp h with rfl | h
      · simpa using hread
      · exact ih List.not_mem_nil h
    · rename_i hslash
      exact ih (by simp [hread, Ne.symm hslash]) h

end pathNames

/-- A slash ends a name. -/
theorem pathNames_append_slash (first second : String) :
    pathNames (first ++ "/" ++ second) = pathNames first ++ pathNames second := by
  have hsplit : (first ++ "/" ++ second).toList = first.toList ++ '/' :: second.toList := by
    simp
  rw [pathNames, hsplit, pathNames.go_append_slash]
  rfl

theorem pathNames_slash_append (rest : String) :
    pathNames ("/" ++ rest) = "" :: pathNames rest := by
  have hslash : "/" ++ rest = "" ++ "/" ++ rest := by simp
  rw [hslash, pathNames_append_slash]
  rfl

theorem pathNames_of_no_slash {name : String} (h : '/' ∉ name.toList) :
    pathNames name = [name] := by
  rw [pathNames, pathNames.go_of_no_slash h, List.reverse_nil, List.nil_append,
    String.ofList_toList]

theorem no_slash_of_mem_pathNames {path name : String} (h : name ∈ pathNames path) :
    '/' ∉ name.toList :=
  pathNames.no_slash_of_mem_go List.not_mem_nil h

/-- Names with slashes between them are split into these names. -/
theorem pathNames_intercalate {names : List String} (hne : names ≠ [])
    (h : ∀ name ∈ names, '/' ∉ name.toList) : pathNames ("/".intercalate names) = names := by
  induction names with
  | nil => exact absurd rfl hne
  | cons name names ih =>
    obtain ⟨hname, hnames⟩ := List.forall_mem_cons.mp h
    cases names with
    | nil => rw [String.intercalate_singleton, pathNames_of_no_slash hname]
    | cons next names =>
      rw [String.intercalate_cons_cons, pathNames_append_slash, pathNames_of_no_slash hname,
        ih (List.cons_ne_nil next names) hnames]
      rfl

/-! ## Files in a directory -/

theorem endsWith_slash_iff {path : String} :
    path.endsWith "/" = true ↔ ∃ init, path = init ++ "/" := by
  rw [← String.endsWith_toSlice, String.Slice.endsWith_string_iff, String.copy_toSlice]
  constructor
  · rintro ⟨init, hinit⟩
    exact ⟨String.ofList init, String.toList_inj.mp (by simpa using hinit.symm)⟩
  · rintro ⟨init, rfl⟩
    exact ⟨init.toList, by simp⟩

/-- The path of a file in a directory has the names of both. -/
theorem pathNames_joinPath {name : String} (h : '/' ∉ name.toList) (directory : String) :
    ∃ names, pathNames (joinPath directory name) = names ++ [name] ∧
      stepNames names = stepNames (pathNames directory) := by
  unfold joinPath
  by_cases hempty : directory = ""
  · subst hempty
    exact ⟨[], by simpa using pathNames_of_no_slash h, rfl⟩
  by_cases hends : directory.endsWith "/" = true
  · obtain ⟨init, rfl⟩ := endsWith_slash_iff.mp hends
    refine ⟨pathNames init, ?_, ?_⟩
    · rw [if_pos (by simp [hends]), pathNames_append_slash, pathNames_of_no_slash h]
    · -- the slash at the end has an empty name after it
      rw [show init ++ "/" = init ++ "/" ++ "" by simp, pathNames_append_slash, stepNames_append]
      exact (List.append_nil _).symm
  · refine ⟨pathNames directory, ?_, rfl⟩
    rw [if_neg (by simp [hempty, hends]), pathNames_append_slash, pathNames_of_no_slash h]

theorem joinPath_eq_append (directory name : String) :
    ∃ rest, joinPath directory name = directory ++ rest := by
  unfold joinPath
  split
  · exact ⟨name, rfl⟩
  · exact ⟨"/" ++ name, String.append_assoc⟩

namespace FileTree

/-! ## Where a path starts -/

theorem wayOf_eq_ok_iff {path : String} {start : List String} {names : List String} :
    wayOf path = .ok (start, names) ↔
      path.contains (Char.ofNat 0) = false ∧ path.utf8ByteSize ≤ pathLimit ∧ path ≠ "" ∧
        start = (if path.startsWith "/" then ["/"] else []) ∧ names = pathNames path := by
  unfold wayOf
  by_cases hnul : path.contains (Char.ofNat 0) = true
  · simp [hnul]
  by_cases hlong : pathLimit < path.utf8ByteSize
  · rw [if_neg hnul, if_pos hlong]
    grind
  by_cases hempty : path = ""
  · simp [hempty]
  rw [if_neg hnul, if_neg hlong, if_neg (by simpa using hempty)]
  grind

theorem startsWith_slash_iff {path : String} :
    path.startsWith "/" = true ↔ ∃ rest, path = "/" ++ rest := by
  rw [String.startsWith_string_iff]
  constructor
  · rintro ⟨rest, hrest⟩
    exact ⟨String.ofList rest, String.toList_inj.mp (by simpa using hrest.symm)⟩
  · rintro ⟨rest, rfl⟩
    exact ⟨rest.toList, by simp⟩

/-- The way of a path that goes on starts where the path does. -/
theorem wayOf_of_append {path rest : String} {start names : List String} (hne : path ≠ "")
    (h : wayOf (path ++ rest) = .ok (start, names)) : wayOf path = .ok (start, pathNames path) := by
  obtain ⟨hnul, hsize, -, hstart, -⟩ := wayOf_eq_ok_iff.mp h
  obtain ⟨c, init, hpath⟩ : ∃ c init, path.toList = c :: init :=
    List.ne_nil_iff_exists_cons.mp fun hnil => hne (String.toList_eq_nil_iff.mp hnil)
  have hroot : (path ++ rest).startsWith "/" = path.startsWith "/" := by
    rw [Bool.eq_iff_iff, String.startsWith_string_iff, String.startsWith_string_iff,
      String.toList_append, hpath]
    simp
  rw [wayOf_eq_ok_iff]
  refine ⟨?_, ?_, hne, ?_, rfl⟩
  · simp at hnul ⊢
    exact hnul.1
  · rw [String.utf8ByteSize_append] at hsize
    omega
  · rw [hstart, hroot]

/-- A directory that a path is in has the first names of its way. -/
theorem of_mem_parentPaths {path parent : String} (h : parent ∈ parentPaths path) :
    ∃ count, (stepNames (pathNames path)).take count ≠ [] ∧
      parent = (if path.startsWith "/" then "/" else "") ++
        "/".intercalate ((stepNames (pathNames path)).take count) := by
  obtain ⟨before, hmem, rfl⟩ := List.mem_map.mp h
  rw [List.mem_reverse, List.mem_range] at hmem
  have hbefore : before < (stepNames (pathNames path)).length - 1 := hmem
  refine ⟨before + 1, ?_, rfl⟩
  intro hnil
  have hlength := congrArg List.length hnil
  rw [List.length_take, List.length_nil] at hlength
  omega

/-- The way of a directory that a path is in starts where that of the path
does, and has the first names of it. -/
theorem wayOf_of_mem_parentPaths {path parent : String} {start names start' names' : List String}
    (hpath : wayOf path = .ok (start, names)) (hmem : parent ∈ parentPaths path)
    (hparent : wayOf parent = .ok (start', names')) :
    start' = start ∧ ∃ count, stepNames names' = (stepNames names).take count := by
  obtain ⟨-, -, -, rfl, rfl⟩ := wayOf_eq_ok_iff.mp hpath
  obtain ⟨-, -, -, rfl, rfl⟩ := wayOf_eq_ok_iff.mp hparent
  obtain ⟨count, hne, rfl⟩ := of_mem_parentPaths hmem
  have hsteps : ∀ name ∈ (stepNames (pathNames path)).take count,
      name ∈ pathNames path ∧ name ≠ "" ∧ name ≠ "." :=
    fun name hname => mem_stepNames.mp (List.mem_of_mem_take hname)
  have hnames : pathNames ("/".intercalate ((stepNames (pathNames path)).take count)) =
      (stepNames (pathNames path)).take count :=
    pathNames_intercalate hne fun name hname => no_slash_of_mem_pathNames (hsteps name hname).1
  have hself : stepNames ((stepNames (pathNames path)).take count) =
      (stepNames (pathNames path)).take count :=
    List.filter_eq_self.mpr fun name hname => by simpa using (hsteps name hname).2
  by_cases hroot : path.startsWith "/" = true
  · rw [if_pos hroot, if_pos hroot, if_pos (startsWith_slash_iff.mpr ⟨_, rfl⟩)]
    refine ⟨rfl, count, ?_⟩
    rw [pathNames_slash_append, hnames]
    exact hself
  · rw [if_neg hroot, if_neg hroot, String.empty_append, hnames, hself]
    refine ⟨if_neg ?_, count, rfl⟩
    -- the first name is not empty, as it were after a slash
    intro hslash
    obtain ⟨rest, hrest⟩ := startsWith_slash_iff.mp hslash
    rw [hrest, pathNames_slash_append] at hnames
    exact (hsteps "" (hnames ▸ List.mem_cons_self)).2.1 rfl

/-! ## Where names lead -/

/-- **The place that a name leads to,** whatever is there. -/
def enter (place : List String) (name : String) : List String :=
  if name = "" ∨ name = "." then place
  else if name = ".." then parent place
  else place ++ [name]

/-- The place that some names lead to. -/
def enterAll (place names : List String) : List String := names.foldl enter place

/-- Whether a name can be looked up from a place. -/
def CanEnter (tree : FileTree) (place : List String) (name : String) : Prop :=
  tree.get? place = some .directory ∧ name.utf8ByteSize ≤ nameLimit

/-- **Whether each name can be looked up** from the place that those before
it lead to. -/
def CanFollow (tree : FileTree) : List String → List String → Prop
  | _, [] => True
  | place, name :: names => tree.CanEnter place name ∧ tree.CanFollow (enter place name) names

theorem enterAll_append (place first second : List String) :
    enterAll place (first ++ second) = enterAll (enterAll place first) second :=
  List.foldl_append

theorem enter_of_isFileName {name : String} (h : IsFileName name) (place : List String) :
    enter place name = place ++ [name] := by
  simp [enter, h.ne_empty, h.ne_point, h.ne_up]

/-- The names that do not lead on make no difference to the place. -/
theorem enterAll_stepNames (place names : List String) :
    enterAll place (stepNames names) = enterAll place names := by
  unfold enterAll stepNames
  rw [List.foldl_filter]
  congr 1
  funext place name
  by_cases h : name = "" ∨ name = "."
  · rw [enter, if_pos h, if_neg]
    rcases h with rfl | rfl <;> decide
  · rw [not_or] at h
    simp [h.1, h.2]

/-- Names that lead on and not up are put behind one another. -/
theorem enterAll_of_steps {names : List String}
    (h : ∀ name ∈ names, name ≠ "" ∧ name ≠ "." ∧ name ≠ "..") (place : List String) :
    enterAll place names = place ++ names := by
  induction names generalizing place with
  | nil => exact (List.append_nil place).symm
  | cons name names ih =>
    obtain ⟨⟨hempty, hpoint, hup⟩, hnames⟩ := List.forall_mem_cons.mp h
    have henter : enter place name = place ++ [name] := by
      simp [enter, hempty, hpoint, hup]
    rw [enterAll, List.foldl_cons, henter, ← enterAll, ih hnames, List.append_assoc]
    rfl

section CanFollow

variable {tree : FileTree} {place : List String}

theorem canFollow_iff {names : List String} :
    tree.CanFollow place names ↔ ∀ first name rest, names = first ++ name :: rest →
      tree.CanEnter (enterAll place first) name := by
  induction names generalizing place with
  | nil => simp [CanFollow]
  | cons name names ih =>
    rw [CanFollow, ih]
    constructor
    · rintro ⟨henter, hfollow⟩ (_ | ⟨_, first⟩) next rest hsplit
      · cases hsplit
        exact henter
      · cases hsplit
        exact hfollow first next rest rfl
    · intro h
      refine ⟨h [] name names rfl, fun first next rest hsplit => ?_⟩
      exact h (name :: first) next rest (congrArg (name :: ·) hsplit)

/-- A name that does not lead on needs a directory all the same. -/
theorem canEnter_of_point {name : String} (h : name = "" ∨ name = ".") :
    tree.CanEnter place name ↔ tree.get? place = some .directory := by
  refine and_iff_left ?_
  rcases h with rfl | rfl <;> decide

theorem canFollow_append {first second : List String} :
    tree.CanFollow place (first ++ second) ↔
      tree.CanFollow place first ∧ tree.CanFollow (enterAll place first) second := by
  induction first generalizing place with
  | nil => exact (and_iff_right trivial).symm
  | cons name first ih =>
    rw [List.cons_append, CanFollow, ih, CanFollow, and_assoc]
    rfl

theorem follow_cons {name : String} {names last : List String} :
    tree.follow place (name :: names) = .ok last ↔
      tree.CanEnter place name ∧ tree.follow (enter place name) names = .ok last := by
  by_cases hplace : tree.get? place = some .directory
  · simp only [follow, CanEnter, hplace, true_and, enter]
    by_cases hpoint : name = "" ∨ name = "."
    · have hshort : name.utf8ByteSize ≤ nameLimit := by
        rcases hpoint with rfl | rfl <;> decide
      rw [if_pos hpoint, if_pos hpoint, and_iff_right hshort]
    rw [if_neg hpoint, if_neg hpoint]
    by_cases hup : name = ".."
    · have hshort : name.utf8ByteSize ≤ nameLimit := by
        subst hup
        decide
      rw [if_pos hup, if_pos hup, and_iff_right hshort]
    rw [if_neg hup, if_neg hup]
    by_cases hlong : nameLimit < name.utf8ByteSize
    · rw [if_pos hlong]
      exact iff_of_false (fun h => nomatch h) fun h => absurd h.1 (Nat.not_le.mpr hlong)
    · rw [if_neg hlong, and_iff_right (Nat.le_of_not_lt hlong)]
  · have hnot : ¬ tree.CanEnter place name := fun h => hplace h.1
    cases h : tree.get? place with
    | none => simp [follow, h, hnot]
    | some entry =>
      cases entry with
      | file bytes => simp [follow, h, hnot]
      | directory => exact absurd h hplace

/-- **Names are followed where each can be looked up.** -/
theorem follow_eq_ok_iff {names last : List String} :
    tree.follow place names = .ok last ↔
      tree.CanFollow place names ∧ last = enterAll place names := by
  induction names generalizing place with
  | nil => simp [follow, CanFollow, enterAll, eq_comm]
  | cons name names ih =>
    rw [follow_cons, ih, CanFollow, and_assoc]
    rfl

/-- The names that do not lead on are looked up in the directory that the
next one is looked up in. -/
theorem canFollow_stepNames {name : String} (names : List String) :
    tree.CanFollow place (stepNames names ++ [name]) ↔
      tree.CanFollow place (names ++ [name]) := by
  induction names generalizing place with
  | nil => rfl
  | cons next names ih =>
    by_cases hpoint : next = "" ∨ next = "."
    · have hskip : stepNames (next :: names) = stepNames names :=
        List.filter_cons_of_neg (by rcases hpoint with rfl | rfl <;> decide)
      have henter : enter place next = place := if_pos hpoint
      rw [hskip, ih, List.cons_append, CanFollow, henter, canEnter_of_point hpoint]
      refine (and_iff_right_of_imp fun h => ?_).symm
      cases names with
      | nil => exact h.1.1
      | cons later names => exact h.1.1
    · have hkeep : stepNames (next :: names) = next :: stepNames names :=
        List.filter_cons_of_pos (by simpa using hpoint)
      rw [hkeep, List.cons_append, CanFollow, ih, List.cons_append, CanFollow]

end CanFollow

/-! ## What a path leads to -/

/-- **What a path leads to,** which is nothing where it cannot be
followed. -/
def at? (tree : FileTree) (path : String) : Option FileEntry :=
  match tree.place? path with
  | .ok place => tree.get? place
  | .error _ => none

theorem place?_eq_ok_iff {tree : FileTree} {path : String} {place : List String} :
    tree.place? path = .ok place ↔
      ∃ start names, wayOf path = .ok (start, names) ∧ tree.CanFollow start names ∧
        place = enterAll start names := by
  unfold place?
  cases hway : wayOf path with
  | error error => simp
  | ok way =>
    obtain ⟨start, names⟩ := way
    constructor
    · intro h
      exact ⟨start, names, rfl, follow_eq_ok_iff.mp h⟩
    · rintro ⟨_, _, ⟨⟩, h⟩
      exact follow_eq_ok_iff.mpr h

theorem at?_eq_some_iff {tree : FileTree} {path : String} {entry : FileEntry} :
    tree.at? path = some entry ↔
      ∃ place, tree.place? path = .ok place ∧ tree.get? place = some entry := by
  unfold at?
  cases tree.place? path <;> simp

/-- The place of a file in a directory is behind that of the directory. -/
theorem place?_joinPath {tree : FileTree} {directory name : String} {place : List String}
    (hname : IsFileName name) :
    tree.place? (joinPath directory name) = .ok place ↔
      ∃ start names, wayOf (joinPath directory name) = .ok (start, names) ∧
        tree.CanFollow start (stepNames (pathNames directory) ++ [name]) ∧
        place = enterAll start (stepNames (pathNames directory)) ++ [name] := by
  obtain ⟨first, hnames, hsteps⟩ := pathNames_joinPath hname.no_slash directory
  have hplace (start : List String) : enterAll start (first ++ [name]) =
      enterAll start (stepNames (pathNames directory)) ++ [name] := by
    rw [enterAll_append, ← hsteps, enterAll_stepNames]
    exact enter_of_isFileName hname _
  rw [place?_eq_ok_iff]
  constructor
  · rintro ⟨start, names, hway, hfollow, rfl⟩
    obtain ⟨-, -, -, -, rfl⟩ := wayOf_eq_ok_iff.mp hway
    rw [hnames] at hfollow ⊢
    exact ⟨start, _, hway, by rwa [← hsteps, canFollow_stepNames], hplace start⟩
  · rintro ⟨start, names, hway, hfollow, rfl⟩
    obtain ⟨-, -, -, -, rfl⟩ := wayOf_eq_ok_iff.mp hway
    rw [← hsteps, canFollow_stepNames, ← hnames] at hfollow
    exact ⟨start, _, hway, hfollow, by rw [hnames, hplace]⟩

end FileTree

end QueryTree
