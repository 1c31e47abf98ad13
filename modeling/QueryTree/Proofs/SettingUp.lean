import QueryTree.Command
import QueryTree.Proofs.Trees
/-!
# Setting up — what a set-up that fails leaves behind

A file system may fail at any operation. The set-up command asks for
several of them, one after the other, and takes none back. A set-up that
fails leaves both files of a configuration as they were, unless it was the
last step that failed: then the configuration is there and its schema is
not (`Command.entries_of_setUp_error`).
-/

namespace QueryTree

/-! ## File systems that may fail -/

/-- A run of two actions is a run of the first one and then of the second
one. -/
theorem of_run_bind {σ α β : Type} {first : StateM σ α} {next : α → StateM σ β} {b : β}
    {before after : σ} (h : (first >>= next).run before = (b, after)) :
    ∃ a between, first.run before = (a, between) ∧ (next a).run between = (b, after) :=
  ⟨_, _, rfl, h⟩

theorem run_bind_of {σ α β : Type} {first : StateM σ α} {next : α → StateM σ β} {a : α}
    {before between : σ} (h : first.run before = (a, between)) :
    (first >>= next).run before = (next a).run between := by
  rw [StateT.run_bind, h]
  rfl

/-- Whether an operation took effect where it succeeded, and had none where
it failed. -/
def FileTree.TakesEffect (operation : FileTree → Except FileError FileTree) (before : FileTree) :
    Except FileError Unit → FileTree → Prop
  | .ok (), after => operation before = .ok after
  | .error _, after => after = before

/-- **A file system that keeps a tree** in its states, and may fail
anywhere. Each operation either does to the tree what it says or fails and
leaves it alone. -/
structure FileSystem.Keeps {σ : Type} (files : FileSystem (StateM σ)) (tree : σ → FileTree) :
    Prop where
  isPresent : ∀ {path result before after},
    (files.isPresent path).run before = (result, after) →
      tree after = tree before ∧
        ∀ present, result = .ok present → (tree before).isPresent path = .ok present
  makeDirectory : ∀ {path result before after},
    (files.makeDirectory path).run before = (result, after) →
      FileTree.TakesEffect (·.makeDirectory path) (tree before) result (tree after)
  write : ∀ {path text result before after},
    (files.write path text).run before = (result, after) →
      FileTree.TakesEffect (·.write path text.toUTF8.toList) (tree before) result (tree after)

namespace FileTree

theorem takesEffect_change {operation : FileTree → Except FileError FileTree}
    {result : Except FileError Unit} {before after : FileTree}
    (h : (change operation).run before = (result, after)) :
    TakesEffect operation before result after := by
  have hchange : change operation before = (result, after) := h
  unfold change at hchange
  split at hchange
  · cases hchange
    assumption
  · cases hchange
    rfl

/-- The file system of a tree keeps it. -/
theorem keeps_fileSystem : fileSystem.Keeps id where
  isPresent h := by
    cases h
    exact ⟨rfl, fun _ h => h⟩
  makeDirectory h := takesEffect_change h
  write h := takesEffect_change h

theorem TakesEffect.changes {operation : FileTree → Except FileError FileTree}
    {result : Except FileError Unit} {before after : FileTree}
    (h : TakesEffect operation before result after)
    (hchange : operation before = .ok after → Change before after) :
    Relation.ReflTransGen Change before after := by
  cases result with
  | ok _ => exact .single (hchange h)
  | error error =>
    rw [show after = before from h]

end FileTree

/-! ## Making directories -/

open FileTree

variable {σ : Type} {files : FileSystem (StateM σ)} {tree : σ → FileTree} {before after : σ}
  {directory : String}

namespace FileSystem.Keeps

theorem makes_makeDirectory (hfiles : files.Keeps tree) {path : String} {paths : List String}
    (hmem : path ∈ paths) {result : Except FileError Unit}
    (h : (files.makeDirectory path).run before = (result, after)) :
    Relation.ReflTransGen (Makes paths) (tree before) (tree after) := by
  have heffect := hfiles.makeDirectory h
  cases result with
  | ok _ => exact .single ⟨path, hmem, heffect⟩
  | error error => rw [show tree after = tree before from heffect]

/-- By induction on the directories that a path is in: whatever fails, what
happens to the tree is that some of them are made. -/
theorem makes_makeMissing (hfiles : files.Keeps tree) {path : String} {parents : List String}
    {result : Except FileError Unit}
    (h : (files.makeMissing path parents).run before = (result, after)) :
    Relation.ReflTransGen (Makes (path :: parents)) (tree before) (tree after) := by
  induction parents generalizing path before after result with
  | nil => exact hfiles.makes_makeDirectory List.mem_cons_self h
  | cons parent parents ih =>
    obtain ⟨first, between, hfirst, h⟩ := of_run_bind h
    have hmade := hfiles.makes_makeDirectory (@List.mem_cons_self _ path (parent :: parents)) hfirst
    split at h
    · obtain ⟨rest, later, hrest, h⟩ := of_run_bind h
      have hmore := hmade.trans <| Relation.ReflTransGen.mono
        (fun _ _ ⟨directory, hmem, hstep⟩ => ⟨directory, List.mem_cons_of_mem path hmem, hstep⟩)
        _ _ (ih hrest)
      cases rest with
      | ok _ => exact hmore.trans (hfiles.makes_makeDirectory List.mem_cons_self h)
      | error error =>
        cases h
        exact hmore
    · cases h
      exact hmade

theorem makes_makeDirectories (hfiles : files.Keeps tree) {path : String}
    {result : Except FileError Unit}
    (h : (files.makeDirectories path).run before = (result, after)) :
    Relation.ReflTransGen (Makes (path :: parentPaths path)) (tree before) (tree after) := by
  unfold FileSystem.makeDirectories at h
  split at h
  · cases h
    exact .refl
  · exact hfiles.makes_makeMissing h

end FileSystem.Keeps

/-! ## Storing a configuration -/

namespace Configuration

/-- The bytes of the file of a configuration. -/
def bytes (configuration : Configuration) : List UInt8 :=
  (configuration.toJson.pretty ++ "\n").toUTF8.toList

/-- Write the schema of a configuration, which is the last step of storing
one. -/
def storeSchema {m : Type → Type} (files : FileSystem m) (directory : String) :
    m (Except FileError Unit) :=
  files.write (joinPath directory schemaFileName) (schema.pretty ++ "\n")

theorem isFileName_fileName : IsFileName fileName := by
  constructor <;> decide

theorem isFileName_schemaFileName : IsFileName schemaFileName := by
  constructor <;> decide

end Configuration

open QueryTree.Configuration

/-- **What storing a configuration does:** it fails with nothing but
directories made, or it writes the configuration and ends as writing the
schema does. -/
theorem FileSystem.Keeps.of_store (hfiles : files.Keeps tree) {configuration : Configuration}
    {result : Except ConfigurationError Unit}
    (h : (store files directory configuration).run before = (result, after)) :
    (∃ cause, result = .error (.unwritable cause)) ∧
        Relation.ReflTransGen (Makes (directory :: parentPaths directory))
          (tree before) (tree after) ∨
      ∃ made state outcome, Relation.ReflTransGen (Makes (directory :: parentPaths directory))
          (tree before) made ∧
        made.write (joinPath directory fileName) configuration.bytes = .ok (tree state) ∧
        (storeSchema files directory).run state = (outcome, after) ∧
        result = outcome.mapError .unwritable := by
  obtain ⟨result, made, hmake, h⟩ := of_run_bind h
  have hmade := hfiles.makes_makeDirectories hmake
  cases result with
  | error cause =>
    cases h
    exact .inl ⟨⟨cause, rfl⟩, hmade⟩
  | ok _ =>
    obtain ⟨result, written, hwrite, h⟩ := of_run_bind h
    have hwritten := hfiles.write hwrite
    cases result with
    | error cause =>
      cases h
      rw [show tree after = tree made from hwritten]
      exact .inl ⟨⟨cause, rfl⟩, hmade⟩
    | ok _ =>
      obtain ⟨outcome, last, hschema, h⟩ := of_run_bind h
      refine .inr ⟨tree made, written, outcome, hmade, hwritten, ?_⟩
      cases outcome with
      | error cause =>
        cases h
        exact ⟨hschema, rfl⟩
      | ok _ =>
        cases h
        exact ⟨hschema, rfl⟩

/-- Where a configuration cannot be stored, only directories are new, or else
the configuration is written and its schema is what failed. -/
theorem FileSystem.Keeps.of_store_error (hfiles : files.Keeps tree) {configuration : Configuration}
    {error : ConfigurationError}
    (h : (store files directory configuration).run before = (.error error, after)) :
    Grows (IsMadeFor directory) (tree before) (tree after) ∨
      ∃ made state cause, Grows (IsMadeFor directory) (tree before) made ∧
        made.write (joinPath directory fileName) configuration.bytes = .ok (tree after) ∧
        (storeSchema files directory).run state = (.error cause, after) ∧
        error = .unwritable cause := by
  rcases hfiles.of_store h with
    ⟨-, hmade⟩ | ⟨made, state, outcome, hmade, hwritten, hschema, hresult⟩
  · exact .inl (Grows.of_makes hmade)
  · cases outcome with
    | ok _ => cases hresult
    | error cause =>
      cases hresult
      rw [← show tree after = tree state from hfiles.write hschema] at hwritten
      exact .inr ⟨made, state, cause, Grows.of_makes hmade, hwritten, hschema, rfl⟩

/-- Whatever comes of it, storing a configuration only makes directories and
writes files. -/
theorem FileSystem.Keeps.changes_store (hfiles : files.Keeps tree) {configuration : Configuration}
    {result : Except ConfigurationError Unit}
    (h : (store files directory configuration).run before = (result, after)) :
    Relation.ReflTransGen Change (tree before) (tree after) := by
  rcases hfiles.of_store h with ⟨-, hmade⟩ | ⟨made, state, outcome, hmade, hwritten, hschema, -⟩
  · exact changes_of_makes hmade
  · have hbefore := (changes_of_makes hmade).tail (.written hwritten)
    exact hbefore.trans ((hfiles.write hschema).changes .written)

/-- Files with other names have other places. -/
theorem FileTree.place?_joinPath_ne {tree : FileTree} {name other : String}
    (hname : IsFileName name) (hother : IsFileName other) (hne : name ≠ other) :
    ∀ place, tree.place? (joinPath directory name) = .ok place →
      tree.place? (joinPath directory other) ≠ .ok place := by
  intro place hplace hsame
  obtain ⟨_, _, -, -, hplace⟩ := (place?_joinPath hname).mp hplace
  obtain ⟨_, _, -, -, hsame⟩ := (place?_joinPath hother).mp hsame
  exact hne (List.singleton_inj.mp (List.append_inj' (hplace.symm.trans hsame) rfl).2)

/-! ## A directory in the place of the schema -/

namespace FileTree

/-- A relative path starts where such paths do. -/
theorem wayOf_of_relative {path : String}
    (h : Char.ofNat 0 ∉ path.toList ∧ path.utf8ByteSize ≤ pathLimit ∧ path ≠ "" ∧
      path.toList.head? ≠ some '/') : wayOf path = .ok ([], pathNames path) := by
  obtain ⟨hnul, hsize, hne, hroot⟩ := h
  have hrelative : path.startsWith "/" = false := by
    refine Bool.eq_false_iff.mpr fun hstarts => hroot ?_
    obtain ⟨rest, rfl⟩ := startsWith_slash_iff.mp hstarts
    simp
  refine wayOf_eq_ok_iff.mpr ⟨by simpa using hnul, hsize, hne, ?_, rfl⟩
  rw [hrelative]
  rfl

theorem run_change_of_ok {operation : FileTree → Except FileError FileTree}
    {before after : FileTree} (h : operation before = .ok after) :
    (change operation).run before = (.ok (), after) := by
  have hrun : (change operation).run before = change operation before := rfl
  rw [hrun, change, h]

theorem run_change_of_error {operation : FileTree → Except FileError FileTree} {before : FileTree}
    {error : FileError} (h : operation before = .error error) :
    (change operation).run before = (.error error, before) := by
  have hrun : (change operation).run before = change operation before := rfl
  rw [hrun, change, h]

/-- A tree has no loose ends where each of its entries is in something. -/
theorem rooted_of_entries {tree : FileTree}
    (h : ∀ entry ∈ tree.entries, tree.get? entry.1.dropLast ≠ none) : tree.Rooted := by
  intro place name hnone
  unfold get?
  split
  · rename_i houter
    -- then the place is outermost as well
    have hplace : isOutermost place = true := by
      rw [isOutermost, List.all_append, Bool.and_eq_true] at houter
      exact houter.1
    rw [get?, if_pos hplace] at hnone
    cases hnone
  · rw [List.lookup_eq_none_iff]
    intro entry hentry
    have hin := h entry hentry
    simp only [bne_iff_ne, ne_eq]
    intro heq
    rw [← heq, List.dropLast_concat] at hin
    exact hin hnone

/-- A path without `..` goes up from nothing. -/
theorem goesUpWithin_of_notMem {tree : FileTree} {path : String} (h : ".." ∉ pathNames path) :
    tree.GoesUpWithin path := by
  intro start names first rest hway hsplit
  obtain ⟨-, -, -, -, rfl⟩ := wayOf_eq_ok_iff.mp hway
  exact absurd (hsplit ▸ by simp) h

/-- A tree with nothing in it but a directory that has the name of the
schema. -/
def schemaTaken : FileTree := ⟨[(["schema.json"], .directory)]⟩

theorem rooted_schemaTaken : schemaTaken.Rooted := rooted_of_entries (by decide)

/-- A tree with a loose end: the schema's name is taken in a directory that is
not there. -/
def looseEnd : FileTree := ⟨[(["d", "schema.json"], .directory)]⟩

/-- The tree with a configuration beside the directory. -/
def halfSetUp : FileTree :=
  schemaTaken.set ["configuration.json"] (.file Configuration.initial.bytes)

end FileTree

namespace Command

/-- The context of a run on a tree. -/
def treeContext (directory : String) : Context (StateM FileTree) :=
  { files := fileSystem, environment := [], input := pure (.ok []), directory }

/-- Where the schema cannot be written into a tree, the configuration stays
written. -/
theorem run_setUp_of_write_error {made written : FileTree} {tree : FileTree} {cause : FileError}
    (hpresent : tree.isPresent (joinPath directory fileName) = .ok false)
    (hmade : (fileSystem.makeDirectories directory).run tree = (.ok (), made))
    (hwrite : made.write (joinPath directory fileName) Configuration.initial.bytes = .ok written)
    (hschema : ∀ bytes, written.write (joinPath directory schemaFileName) bytes = .error cause) :
    (run (treeContext directory) setUp).run tree =
      (.error (.configuration (.unwritable cause)), written) := by
  have hasked : (fileSystem.isPresent (joinPath directory fileName)).run tree =
      (.ok false, tree) := congrArg (·, tree) hpresent
  have hstore : (store fileSystem directory .initial).run tree =
      (.error (.unwritable cause), written) :=
    (run_bind_of hmade).trans <| (run_bind_of (run_change_of_ok hwrite)).trans <|
      run_bind_of (run_change_of_error (hschema _))
  exact (run_bind_of hasked).trans (run_bind_of hstore)

theorem wayOf_files :
    wayOf (joinPath "." fileName) = .ok ([], [".", "configuration.json"]) ∧
      wayOf (joinPath "." schemaFileName) = .ok ([], [".", "schema.json"]) := by
  have hjoin : joinPath "." fileName = "./configuration.json" ∧
      joinPath "." schemaFileName = "./schema.json" := by decide +kernel
  rw [hjoin.1, hjoin.2]
  exact ⟨wayOf_of_relative (by decide), wayOf_of_relative (by decide)⟩

theorem wayOf_filesUpwards :
    wayOf (joinPath "a/.." fileName) = .ok ([], ["a", "..", "configuration.json"]) ∧
      wayOf (joinPath "a/.." schemaFileName) = .ok ([], ["a", "..", "schema.json"]) := by
  have hjoin : joinPath "a/.." fileName = "a/../configuration.json" ∧
      joinPath "a/.." schemaFileName = "a/../schema.json" := by decide +kernel
  rw [hjoin.1, hjoin.2]
  exact ⟨wayOf_of_relative (by decide), wayOf_of_relative (by decide)⟩

theorem wayOf_filesBelow :
    wayOf (joinPath "d" fileName) = .ok ([], ["d", "configuration.json"]) ∧
      wayOf (joinPath "d" schemaFileName) = .ok ([], ["d", "schema.json"]) := by
  have hjoin : joinPath "d" fileName = "d/configuration.json" ∧
      joinPath "d" schemaFileName = "d/schema.json" := by decide +kernel
  rw [hjoin.1, hjoin.2]
  exact ⟨wayOf_of_relative (by decide), wayOf_of_relative (by decide)⟩

/-- A set-up in the directory where paths start, which is there. -/
theorem run_setUp_schemaTaken :
    (run (treeContext ".") setUp).run schemaTaken =
      (.error (.configuration (.unwritable .isADirectory)), halfSetUp) := by
  obtain ⟨hconfiguration, hschema⟩ := wayOf_files
  have hmade : schemaTaken.makeDirectory "." = .ok schemaTaken := by
    rw [makeDirectory, wayOf_of_relative (by decide)]
    rfl
  refine run_setUp_of_write_error ?_ (run_change_of_ok hmade) ?_ fun bytes => ?_
  · rw [isPresent, place?, hconfiguration]
    rfl
  · rw [write, place?, hconfiguration]
    rfl
  · rw [write, place?, hschema]
    rfl

/-- A set-up in the same directory, by a path that goes up from one that is
missing. -/
theorem run_setUp_upwards :
    (run (treeContext "a/..") setUp).run schemaTaken =
      (.error (.configuration (.unwritable .isADirectory)),
        (schemaTaken.set ["a"] .directory).set ["configuration.json"]
          (.file Configuration.initial.bytes)) := by
  obtain ⟨hconfiguration, hschema⟩ := wayOf_filesUpwards
  have hdirectory : wayOf "a/.." = .ok ([], ["a", ".."]) := wayOf_of_relative (by decide)
  have hmissing : schemaTaken.makeDirectory "a/.." = .error .notFound := by
    rw [makeDirectory, hdirectory]
    rfl
  have hmade : schemaTaken.makeDirectory "a" = .ok (schemaTaken.set ["a"] .directory) := by
    rw [makeDirectory, wayOf_of_relative (by decide)]
    rfl
  have hthere : (schemaTaken.set ["a"] .directory).makeDirectory "a/.." =
      .ok (schemaTaken.set ["a"] .directory) := by
    rw [makeDirectory, hdirectory]
    rfl
  have hparents : parentPaths "a/.." = ["a"] := by decide +kernel
  have hmakeAll : (fileSystem.makeDirectories "a/..").run schemaTaken =
      (.ok (), schemaTaken.set ["a"] .directory) := by
    rw [FileSystem.makeDirectories, hparents]
    exact (run_bind_of (run_change_of_error hmissing)).trans <|
      (run_bind_of (run_change_of_ok hmade)).trans (run_change_of_ok hthere)
  refine run_setUp_of_write_error ?_ hmakeAll ?_ fun bytes => ?_
  · rw [isPresent, place?, hconfiguration]
    rfl
  · rw [write, place?, hconfiguration]
    rfl
  · rw [write, place?, hschema]
    rfl

/-- A set-up in a directory that is not there, but has something in it. -/
theorem run_setUp_looseEnd :
    (run (treeContext "d") setUp).run looseEnd =
      (.error (.configuration (.unwritable .isADirectory)),
        (looseEnd.set ["d"] .directory).set ["d", "configuration.json"]
          (.file Configuration.initial.bytes)) := by
  obtain ⟨hconfiguration, hschema⟩ := wayOf_filesBelow
  have hmade : looseEnd.makeDirectory "d" = .ok (looseEnd.set ["d"] .directory) := by
    rw [makeDirectory, wayOf_of_relative (by decide)]
    rfl
  have hparents : parentPaths "d" = [] := by decide +kernel
  have hmakeAll : (fileSystem.makeDirectories "d").run looseEnd =
      (.ok (), looseEnd.set ["d"] .directory) := by
    rw [FileSystem.makeDirectories, hparents]
    exact run_change_of_ok hmade
  refine run_setUp_of_write_error ?_ hmakeAll ?_ fun bytes => ?_
  · rw [isPresent, place?, hconfiguration]
    rfl
  · rw [write, place?, hconfiguration]
    rfl
  · rw [write, place?, hschema]
    rfl

end Command

/-! ## Set-ups that fail -/

namespace Command

/-- **A set-up leaves no loose end,** whether it fails or not. -/
theorem rooted_of_setUp (hfiles : files.Keeps tree) {environment : Environment}
    {input : StateM σ (Except FileError (List UInt8))} {result : Except CommandError String}
    (hrooted : (tree before).Rooted)
    (h : (run { files, environment, input, directory } setUp).run before = (result, after)) :
    (tree after).Rooted := by
  obtain ⟨present, between, hpresent, h⟩ := of_run_bind h
  have hsame := (hfiles.isPresent hpresent).1
  rw [← hsame] at hrooted
  split at h
  · cases h
    exact hrooted
  · cases h
    exact hrooted
  · obtain ⟨stored, last, hstore, h⟩ := of_run_bind h
    have hlast := hrooted.of_changes (hfiles.changes_store hstore)
    cases stored with
    | ok _ =>
      cases h
      exact hlast
    | error error =>
      cases h
      exact hlast

/-- **A set-up that fails leaves both files as they were,** present or
absent and with the same content, in a directory whose path goes up from
nothing that is missing. There is one exception: where the schema, which is
written last, cannot be written, the configuration was absent and is there
now. -/
theorem entries_of_setUp_error (hfiles : files.Keeps tree) {environment : Environment}
    {input : StateM σ (Except FileError (List UInt8))} {error : CommandError}
    (hrooted : (tree before).Rooted) (hup : (tree before).GoesUpWithin directory)
    (h : (run { files, environment, input, directory } setUp).run before = (.error error, after)) :
    (tree after).at? (joinPath directory schemaFileName) =
        (tree before).at? (joinPath directory schemaFileName) ∧
      ((tree after).at? (joinPath directory fileName) =
          (tree before).at? (joinPath directory fileName) ∨
        (tree before).at? (joinPath directory fileName) = none ∧
        (tree after).at? (joinPath directory fileName) = some (.file Configuration.initial.bytes) ∧
        ∃ state cause, (storeSchema files directory).run state = (.error cause, after) ∧
          error = .configuration (.unwritable cause)) := by
  obtain ⟨present, between, hpresent, h⟩ := of_run_bind h
  obtain ⟨hsame, hanswer⟩ := hfiles.isPresent hpresent
  split at h
  · cases h
    rw [hsame]
    exact ⟨rfl, .inl rfl⟩
  · cases h
    rw [hsame]
    exact ⟨rfl, .inl rfl⟩
  · rw [← hsame] at hrooted hup hanswer ⊢
    have habsent := at?_of_isPresent_eq_false (hanswer false rfl)
    obtain ⟨result, last, hstore, h⟩ := of_run_bind h
    cases result with
    | ok _ => cases h
    | error error =>
      cases h
      rcases hfiles.of_store_error hstore with
        hgrows | ⟨made, state, cause, hgrows, hwrite, hschema, rfl⟩
      · -- nothing was written, and the directories that are new are outside
        exact ⟨at?_joinPath_of_grows isFileName_schemaFileName hrooted hup hgrows,
          .inl (at?_joinPath_of_grows isFileName_fileName hrooted hup hgrows)⟩
      · refine ⟨?_, .inr ⟨habsent, at?_write_self hwrite, state, cause, hschema, rfl⟩⟩
        rw [at?_write_of_ne hwrite
          (place?_joinPath_ne isFileName_fileName isFileName_schemaFileName (by decide))]
        exact at?_joinPath_of_grows isFileName_schemaFileName hrooted hup hgrows

/-- In the directory where paths start, the configuration is there after a
set-up that failed. -/
theorem entries_of_setUp_schemaTaken :
    halfSetUp.at? (joinPath "." schemaFileName) = schemaTaken.at? (joinPath "." schemaFileName) ∧
      schemaTaken.at? (joinPath "." fileName) = none ∧
      halfSetUp.at? (joinPath "." fileName) = some (.file Configuration.initial.bytes) := by
  have hup : schemaTaken.GoesUpWithin "." := goesUpWithin_of_notMem (by decide)
  have habsent : schemaTaken.at? (joinPath "." fileName) = none := by
    rw [at?, place?, wayOf_files.1]
    rfl
  have hwritten : halfSetUp.at? (joinPath "." fileName) ≠ none := by
    rw [at?, place?, wayOf_files.1]
    exact Option.some_ne_none _
  obtain ⟨hschema, hsame | ⟨-, hbytes, -⟩⟩ :=
    entries_of_setUp_error keeps_fileSystem rooted_schemaTaken hup run_setUp_schemaTaken
  · exact absurd (hsame.trans habsent) hwritten
  · exact ⟨hschema, habsent, hbytes⟩

/-- **A set-up is not all or nothing.** It takes no step back: where the
schema cannot be written, the configuration stays. By a path that goes up
from a directory that is missing, and in a tree with a loose end, it even
reaches a schema that was not reached before. -/
theorem setUp_not_all_or_nothing :
    (∃ error after, (run (treeContext ".") setUp).run schemaTaken = (.error error, after) ∧
      schemaTaken.at? (joinPath "." fileName) = none ∧
      after.at? (joinPath "." fileName) = some (.file Configuration.initial.bytes)) ∧
    (∃ error after, (run (treeContext "a/..") setUp).run schemaTaken = (.error error, after) ∧
      schemaTaken.at? (joinPath "a/.." schemaFileName) = none ∧
      after.at? (joinPath "a/.." schemaFileName) = some .directory) ∧
    ∃ error after, (run (treeContext "d") setUp).run looseEnd = (.error error, after) ∧
      looseEnd.at? (joinPath "d" schemaFileName) = none ∧
      after.at? (joinPath "d" schemaFileName) = some .directory := by
  refine ⟨⟨_, _, run_setUp_schemaTaken, ?_, ?_⟩, ⟨_, _, run_setUp_upwards, ?_, ?_⟩,
    _, _, run_setUp_looseEnd, ?_, ?_⟩
  · rw [at?, place?, wayOf_files.1]
    rfl
  · rw [at?, place?, wayOf_files.1]
    rfl
  · rw [at?, place?, wayOf_filesUpwards.2]
    rfl
  · rw [at?, place?, wayOf_filesUpwards.2]
    rfl
  · rw [at?, place?, wayOf_filesBelow.2]
    rfl
  · rw [at?, place?, wayOf_filesBelow.2]
    rfl

end Command

end QueryTree
