import QueryTree.Proofs.Paths
import Mathlib.Data.List.TakeWhile
import Mathlib.Logic.Relation
/-!
# Trees — what operations do to a tree

Where directories are made, a tree grows: what is there stays, and what is
new is a directory on the way of the path (`grows_of_makeDirectory`). A file
that is written changes what its own path leads to and nothing else
(`at?_write_of_ne`). In a tree without loose ends, which no operation gives
it (`Rooted.of_changes`), what a path to a file leads to stays the same where
the directory it is in is made, provided that the path of the directory goes
up from nothing that is missing (`at?_joinPath_of_grows`).
-/

namespace QueryTree

namespace FileTree

/-- **Without loose ends:** under a place with nothing there is nothing. -/
def Rooted (tree : FileTree) : Prop :=
  ∀ place name, tree.get? place = none → tree.get? (place ++ [name]) = none

/-- **Whether a path goes up from what is there only:** it can be followed
up to and with each `..` in it. -/
def GoesUpWithin (tree : FileTree) (path : String) : Prop :=
  ∀ start names first rest, wayOf path = .ok (start, names) → names = first ++ ".." :: rest →
    ∃ place, tree.follow start (first ++ [".."]) = .ok place

/-- **Whether a tree grew** by directories at some places. -/
def Grows (made : List String → Prop) (before after : FileTree) : Prop :=
  ∀ place, after.get? place = before.get? place ∨
    made place ∧ before.get? place = none ∧ after.get? place = some .directory

/-- **An operation** that succeeds and may change a tree. -/
inductive Change : FileTree → FileTree → Prop
  | made {before after : FileTree} {path : String} :
      before.makeDirectory path = .ok after → Change before after
  | written {before after : FileTree} {path : String} {bytes : List UInt8} :
      before.write path bytes = .ok after → Change before after

/-- Whether a directory was made, at one of some paths. -/
def Makes (paths : List String) (before after : FileTree) : Prop :=
  ∃ path ∈ paths, before.makeDirectory path = .ok after

/-- Whether a place is the one that a path is the way to. -/
def IsPlaceOf (path : String) (place : List String) : Prop :=
  ∃ start names, wayOf path = .ok (start, names) ∧ place = enterAll start names

variable {before after : FileTree} {made : List String → Prop}

/-! ## Making directories -/

theorem Grows.refl (made : List String → Prop) (tree : FileTree) : Grows made tree tree :=
  fun _ => .inl rfl

theorem Grows.trans {between : FileTree} (first : Grows made before between)
    (second : Grows made between after) : Grows made before after := by
  intro place
  rcases second place with hsame | ⟨hmade, hnone, hdirectory⟩
  · rw [hsame]
    exact first place
  · rcases first place with hsame | ⟨-, -, hthere⟩
    · exact .inr ⟨hmade, hsame ▸ hnone, hdirectory⟩
    · rw [hthere] at hnone
      cases hnone

theorem Grows.mono {more : List String → Prop} (h : Grows made before after)
    (hmade : ∀ place, made place → more place) : Grows more before after :=
  fun place => (h place).imp_right fun h => ⟨hmade place h.1, h.2⟩

/-- What is there stays. -/
theorem Grows.get?_of_some (h : Grows made before after) {place : List String} {entry : FileEntry}
    (hentry : before.get? place = some entry) : after.get? place = some entry := by
  rcases h place with hsame | ⟨-, hnone, -⟩
  · rw [hsame, hentry]
  · rw [hnone] at hentry
    cases hentry

/-- A directory in the place of nothing. -/
theorem grows_set {place : List String} (h : before.get? place = none) :
    Grows (· = place) before (before.set place .directory) := by
  have hinner : isOutermost place = false := by
    refine Bool.eq_false_iff.mpr fun houter => ?_
    simp [get?, houter] at h
  intro other
  by_cases hother : other = place
  · rw [hother]
    exact .inr ⟨rfl, h, get?_set_self hinner before .directory⟩
  · exact .inl (get?_set_of_ne hother before .directory)

/-- The empty names at the end of a path make no difference. -/
theorem enterAll_dropEmpty (start names : List String) :
    enterAll start (names.reverse.dropWhile String.isEmpty).reverse = enterAll start names := by
  have hempty : stepNames (names.reverse.takeWhile String.isEmpty).reverse = [] := by
    refine List.filter_eq_nil_iff.mpr fun name hname => ?_
    have hname : name.isEmpty = true := by
      simpa using List.mem_takeWhile_imp (List.mem_reverse.mp hname)
    simp [hname]
  have hnames : names = (names.reverse.dropWhile String.isEmpty).reverse ++
      (names.reverse.takeWhile String.isEmpty).reverse := by
    rw [← List.reverse_append, List.takeWhile_append_dropWhile, List.reverse_reverse]
  rw [← enterAll_stepNames start names, hnames, stepNames_append, hempty, List.append_nil,
    enterAll_stepNames]
  simp

theorem ne_empty_of_getLast?_dropEmpty {names : List String} {name : String}
    (h : (names.reverse.dropWhile String.isEmpty).reverse.getLast? = some name) : name ≠ "" := by
  rw [List.getLast?_reverse] at h
  have hhead := List.head?_dropWhile_not String.isEmpty names.reverse
  rw [h] at hhead
  simpa using hhead

/-- **A directory is made where its path leads,** in one that is there,
unless it is there itself. -/
theorem of_makeDirectory {path : String} (h : before.makeDirectory path = .ok after) :
    after = before ∨ ∃ parent name, before.get? parent = some .directory ∧
      before.get? (parent ++ [name]) = none ∧ IsPlaceOf path (parent ++ [name]) ∧
      after = before.set (parent ++ [name]) .directory := by
  unfold makeDirectory at h
  cases hway : wayOf path with
  | error error =>
    rw [hway] at h
    cases h
  | ok way =>
    obtain ⟨start, names⟩ := way
    have hplace := enterAll_dropEmpty start names
    have hlast (name : String) := @ne_empty_of_getLast?_dropEmpty names name
    simp only [hway] at h
    generalize (names.reverse.dropWhile String.isEmpty).reverse = kept at h hplace hlast
    split at h
    · cases h
    rename_i parent hparent
    obtain ⟨hfollow, hstay⟩ := follow_eq_ok_iff.mp hparent
    rcases List.eq_nil_or_concat kept with rfl | ⟨init, name, hkept⟩
    · -- no names are left, so that the path is that of where it starts
      rw [if_pos (.inl rfl)] at h
      cases h
      exact .inl rfl
    rw [List.concat_eq_append] at hkept
    subst hkept
    rw [List.getLast?_concat, Option.getD_some] at h
    rw [List.dropLast_concat] at hfollow hstay
    have hempty := hlast name List.getLast?_concat
    have hthere : parent = enterAll start init := by
      rw [hstay, enterAll_append]
      rfl
    split at h
    · cases h
      exact .inl rfl
    rename_i hpoint
    rw [not_or] at hpoint
    split at h
    · cases h
    split at h
    · rename_i hnone
      cases h
      refine .inr ⟨parent, name, ?_, hnone, ⟨start, names, hway, ?_⟩, rfl⟩
      · rw [hthere]
        exact (canFollow_append.mp hfollow).2.1.1
      · -- the last name leads on from where those before it lead to
        have hstep : enter parent name = parent ++ [name] := by
          simp [enter, hempty, hpoint.1, hpoint.2]
        rw [← hplace, enterAll_append, ← hthere, ← hstep]
        rfl
    · cases h
      exact .inl rfl
    · cases h

theorem grows_of_makeDirectory {path : String} (h : before.makeDirectory path = .ok after) :
    Grows (IsPlaceOf path) before after := by
  rcases of_makeDirectory h with rfl | ⟨parent, name, -, hnone, hplace, rfl⟩
  · exact Grows.refl _ _
  · exact (grows_set hnone).mono fun _ heq => heq ▸ hplace

/-- Whether a place is one of the directories that are made for a path. -/
def IsMadeFor (path : String) (place : List String) : Prop :=
  ∃ directory ∈ path :: parentPaths path, IsPlaceOf directory place

/-- A tree grows by each directory that is made. -/
theorem Grows.of_makes {path : String}
    (h : Relation.ReflTransGen (Makes (path :: parentPaths path)) before after) :
    Grows (IsMadeFor path) before after := by
  induction h with
  | refl => exact Grows.refl _ _
  | tail _ hstep ih =>
    obtain ⟨directory, hmem, hstep⟩ := hstep
    exact ih.trans <| (grows_of_makeDirectory hstep).mono fun _ hplace =>
      ⟨directory, hmem, hplace⟩

theorem changes_of_makes {paths : List String}
    (h : Relation.ReflTransGen (Makes paths) before after) :
    Relation.ReflTransGen Change before after :=
  Relation.ReflTransGen.mono (fun _ _ ⟨_, _, hstep⟩ => .made hstep) _ _ h

/-! ## Writing -/

variable {path : String} {bytes : List UInt8}

/-- A file is written where its path leads, which is no directory. -/
theorem of_write (h : before.write path bytes = .ok after) :
    ∃ place, before.place? path = .ok place ∧ before.get? (parent place) = some .directory ∧
      before.get? place ≠ some .directory ∧ after = before.set place (.file bytes) := by
  cases hplace : before.place? path with
  | error error =>
    rw [write, hplace] at h
    cases h
  | ok place =>
    simp only [write, hplace] at h
    split at h
    · cases h
    · rename_i hparent hnot
      cases h
      exact ⟨place, rfl, hparent, hnot, rfl⟩
    · cases h
    · cases h

theorem isOutermost_eq_false {place : List String} (h : before.get? place ≠ some .directory) :
    isOutermost place = false := by
  refine Bool.eq_false_iff.mpr fun houter => h ?_
  rw [get?, if_pos houter]

/-- The way of any path is the same once a file is written, as what may be
gone through is. -/
theorem place?_of_write (h : before.write path bytes = .ok after) {other : String}
    {place : List String} : after.place? other = .ok place ↔ before.place? other = .ok place := by
  obtain ⟨written, -, -, hnot, rfl⟩ := of_write h
  have hdirectory (there : List String) :
      (before.set written (.file bytes)).get? there = some .directory ↔
        before.get? there = some .directory := by
    by_cases hthere : there = written
    · rw [hthere, get?_set_self (isOutermost_eq_false hnot)]
      exact iff_of_false (fun h => nomatch h) hnot
    · rw [get?_set_of_ne hthere]
  have hfollow (start names : List String) :
      (before.set written (.file bytes)).CanFollow start names ↔ before.CanFollow start names := by
    rw [canFollow_iff, canFollow_iff]
    simp only [CanEnter, hdirectory]
  simp only [place?_eq_ok_iff, hfollow]

theorem at?_write_self (h : before.write path bytes = .ok after) :
    after.at? path = some (.file bytes) := by
  obtain ⟨place, hplace, -, hnot, hafter⟩ := of_write h
  refine at?_eq_some_iff.mpr ⟨place, (place?_of_write h).mpr hplace, ?_⟩
  rw [hafter]
  exact get?_set_self (isOutermost_eq_false hnot) before _

/-- What another path leads to is the same once a file is written. -/
theorem at?_write_of_ne (h : before.write path bytes = .ok after) {other : String}
    (hne : ∀ place, before.place? path = .ok place → before.place? other ≠ .ok place) :
    after.at? other = before.at? other := by
  obtain ⟨written, hwritten, -, -, hafter⟩ := of_write h
  refine Option.ext fun entry => ?_
  simp only [at?_eq_some_iff, place?_of_write h]
  refine exists_congr fun place => and_congr_right fun hplace => ?_
  have hother : place ≠ written := fun heq => hne place (heq ▸ hwritten) hplace
  rw [hafter, get?_set_of_ne hother]

/-- What is not there is nothing that its path leads to. -/
theorem at?_of_isPresent_eq_false (h : before.isPresent path = .ok false) :
    before.at? path = none := by
  unfold isPresent at h
  unfold at?
  cases hplace : before.place? path with
  | error error => rfl
  | ok place =>
    rw [hplace] at h
    simpa using h

/-! ## Trees without loose ends -/

/-- Where something is set that was there, or in something that was, no end
is loose. -/
theorem Rooted.set (h : before.Rooted) {place : List String} (entry : FileEntry)
    (hplace : before.get? place ≠ none ∨
      ∃ parent name, place = parent ++ [name] ∧ before.get? parent ≠ none) :
    (before.set place entry).Rooted := by
  intro under name hnone
  have hother : under ≠ place := by
    rintro rfl
    by_cases houter : isOutermost under = true
    · simp [get?, houter] at hnone
    · rw [get?_set_self (by simpa using houter)] at hnone
      cases hnone
  rw [get?_set_of_ne hother] at hnone
  by_cases hset : under ++ [name] = place
  · rcases hplace with hthere | ⟨parent, last, hlast, hthere⟩
    · exact absurd (h under name hnone) (hset ▸ hthere)
    · obtain ⟨rfl, -⟩ := List.append_inj' (hset.trans hlast) rfl
      exact absurd hnone hthere
  · rw [get?_set_of_ne hset]
    exact h under name hnone

theorem Rooted.of_makeDirectory (h : before.Rooted) {path : String}
    (hmade : before.makeDirectory path = .ok after) : after.Rooted := by
  rcases FileTree.of_makeDirectory hmade with rfl | ⟨parent, name, hparent, -, -, rfl⟩
  · exact h
  · exact h.set _ (.inr ⟨parent, name, rfl, by simp [hparent]⟩)

theorem Rooted.of_write (h : before.Rooted) (hwrite : before.write path bytes = .ok after) :
    after.Rooted := by
  obtain ⟨place, -, hparent, hnot, rfl⟩ := FileTree.of_write hwrite
  refine h.set _ ?_
  rcases List.eq_nil_or_concat place with rfl | ⟨init, last, hlast⟩
  · exact absurd rfl hnot
  rw [List.concat_eq_append] at hlast
  subst hlast
  unfold parent at hparent
  rw [List.getLast?_concat] at hparent
  split at hparent
  · exact absurd hparent hnot
  · -- there is nothing above a place that ends in `..` where there is nothing at it
    refine .inl fun hnone => ?_
    rw [h _ ".." hnone] at hparent
    cases hparent
  · rename_i hlast
    cases hlast
  · rw [List.dropLast_concat] at hparent
    exact .inr ⟨init, last, rfl, by simp [hparent]⟩

/-- **No operation makes a loose end.** -/
theorem Rooted.of_changes (h : before.Rooted)
    (hchanges : Relation.ReflTransGen Change before after) : after.Rooted := by
  induction hchanges with
  | refl => exact h
  | tail _ hchange ih =>
    cases hchange with
    | made hmade => exact ih.of_makeDirectory hmade
    | written hwrite => exact ih.of_write hwrite

theorem Rooted.get?_append (h : before.Rooted) {place : List String}
    (hnone : before.get? place = none) (names : List String) :
    before.get? (place ++ names) = none := by
  induction names generalizing place with
  | nil => rwa [List.append_nil]
  | cons name names ih =>
    rw [← List.singleton_append, ← List.append_assoc]
    exact ih (h place name hnone)

/-! ## Names and the directories on their way -/

theorem CanFollow.of_grows (hgrows : Grows made before after) {start names : List String}
    (h : before.CanFollow start names) : after.CanFollow start names := by
  induction names generalizing start with
  | nil => trivial
  | cons name names ih => exact ⟨⟨hgrows.get?_of_some h.1.1, h.1.2⟩, ih h.2⟩

section

variable {start names : List String}
  (hsteps : ∀ name ∈ names, name ≠ "" ∧ name ≠ ".")
  (hup : ∀ first rest, names = first ++ ".." :: rest → before.CanFollow start (first ++ [".."]))
include hsteps hup

/-- On the way of some names that go up from directories only, there is a
directory, or all names from there on are put behind one another. -/
theorem directory_or_behind {first rest : List String} {next : String}
    (h : names = first ++ next :: rest) :
    before.get? (enterAll start first) = some .directory ∨
      enterAll start names = enterAll start first ++ next :: rest := by
  by_cases hmem : ".." ∈ next :: rest
  · obtain ⟨between, later, hsplit⟩ := List.append_of_mem hmem
    have hfollow : before.CanFollow start (first ++ (between ++ [".."])) := by
      rw [← List.append_assoc]
      exact hup _ later (by rw [h, hsplit, List.append_assoc])
    have hbetween := (canFollow_append.mp hfollow).2
    cases between with
    | nil => exact .inl hbetween.1.1
    | cons name between => exact .inl hbetween.1.1
  · rw [h, enterAll_append]
    refine .inr (enterAll_of_steps (fun name hname => ?_) _)
    obtain ⟨hempty, hpoint⟩ := hsteps name (h ▸ List.mem_append_right first hname)
    exact ⟨hempty, hpoint, fun heq => hmem (heq ▸ hname)⟩

variable (hgrows : Grows
  (fun place => ∃ first next rest, names = first ++ next :: rest ∧ place = enterAll start first)
  before after)
include hgrows

/-- **Where the names lead, nothing is made,** as it is behind all that is
made on the way. -/
theorem get?_enterAll_of_grows :
    after.get? (enterAll start names) = before.get? (enterAll start names) := by
  rcases hgrows (enterAll start names) with hsame | ⟨⟨first, next, rest, hsplit, hplace⟩, hnone, -⟩
  · exact hsame
  · rcases directory_or_behind hsteps hup hsplit with hdirectory | hbehind
    · rw [hplace, hdirectory] at hnone
      cases hnone
    · have hlength := congrArg List.length (hplace.symm.trans hbehind)
      simp at hlength

/-- What is there after some directories were made on the way was there
before, and the way to it too. -/
theorem CanFollow.of_grows_of_some (hrooted : before.Rooted) (h : after.CanFollow start names)
    (hthere : before.get? (enterAll start names) ≠ none) : before.CanFollow start names := by
  rw [canFollow_iff] at h ⊢
  intro first next rest hsplit
  obtain ⟨hdirectory, hshort⟩ := h first next rest hsplit
  refine ⟨?_, hshort⟩
  rcases hgrows (enterAll start first) with hsame | ⟨-, hnone, -⟩
  · rw [← hsame, hdirectory]
  · refine (directory_or_behind hsteps hup hsplit).resolve_right fun hbehind => hthere ?_
    rw [hbehind]
    exact hrooted.get?_append hnone _

end

/-! ## Files in a directory that is made -/

theorem exists_take_of_isMadeFor {directory name : String} {start names place : List String}
    (hway : wayOf (joinPath directory name) = .ok (start, names))
    (h : IsMadeFor directory place) :
    ∃ count, place = enterAll start ((stepNames (pathNames directory)).take count) := by
  obtain ⟨path, hmem, start', names', hpath, rfl⟩ := h
  have hne : directory ≠ "" := by
    rintro rfl
    obtain rfl : path = "" := List.mem_singleton.mp hmem
    exact (wayOf_eq_ok_iff.mp hpath).2.2.1 rfl
  obtain ⟨behind, hjoin⟩ := joinPath_eq_append directory name
  have hdirectory := wayOf_of_append hne (hjoin ▸ hway)
  rcases List.mem_cons.mp hmem with rfl | hparent
  · rw [hdirectory] at hpath
    cases hpath
    exact ⟨_, by rw [List.take_length, enterAll_stepNames]⟩
  · obtain ⟨rfl, count, hsteps⟩ := wayOf_of_mem_parentPaths hdirectory hparent hpath
    exact ⟨count, by rw [← hsteps, enterAll_stepNames]⟩

/-- A name that leads on stands in a path behind names that lead as far as
those before it do. -/
theorem exists_split_of_stepNames {names first rest : List String} {name : String}
    (h : stepNames names = first ++ name :: rest) :
    ∃ before after, names = before ++ name :: after ∧ stepNames before = first := by
  obtain ⟨start, last, rfl, hstart, hlast⟩ := List.filter_eq_append_iff.mp h
  obtain ⟨skipped, after, rfl, hskipped, -, -⟩ := List.filter_eq_cons_iff.mp hlast
  refine ⟨start ++ skipped, after, by rw [List.append_assoc], ?_⟩
  have hnone : stepNames skipped = [] := List.filter_eq_nil_iff.mpr hskipped
  rw [stepNames_append, hnone, List.append_nil]
  exact hstart

theorem GoesUpWithin.canFollow {directory name : String} {start names : List String}
    (h : before.GoesUpWithin directory) (hname : IsFileName name)
    (hway : wayOf (joinPath directory name) = .ok (start, names)) {first rest : List String}
    (hsplit : stepNames (pathNames directory) ++ [name] = first ++ ".." :: rest) :
    before.CanFollow start (first ++ [".."]) := by
  obtain ⟨rest', hsteps⟩ : ∃ rest', stepNames (pathNames directory) = first ++ ".." :: rest' := by
    rcases List.eq_nil_or_concat rest with rfl | ⟨rest', last, hrest⟩
    · have hlast : [name] = [".."] := (List.append_inj' hsplit rfl).2
      exact absurd (List.singleton_inj.mp hlast) hname.ne_up
    · rw [List.concat_eq_append] at hrest
      rw [hrest, ← List.cons_append, ← List.append_assoc] at hsplit
      exact ⟨rest', (List.append_inj' hsplit rfl).1⟩
  have hne : directory ≠ "" := by
    rintro rfl
    simp [pathNames, pathNames.go, stepNames] at hsteps
  obtain ⟨behind, hjoin⟩ := joinPath_eq_append directory name
  obtain ⟨first', last', hnames, rfl⟩ := exists_split_of_stepNames hsteps
  obtain ⟨place, hfollow⟩ := h start _ first' last' (wayOf_of_append hne (hjoin ▸ hway)) hnames
  exact (canFollow_stepNames first').mpr (follow_eq_ok_iff.mp hfollow).1

/-- **Where directories are made for a path, the files behind it stay.** What
a path to a file in that directory leads to is the same as before. -/
theorem at?_joinPath_of_grows {directory name : String} (hname : IsFileName name)
    (hrooted : before.Rooted) (hup : before.GoesUpWithin directory)
    (hgrows : Grows (IsMadeFor directory) before after) :
    after.at? (joinPath directory name) = before.at? (joinPath directory name) := by
  cases hway : wayOf (joinPath directory name) with
  | error error => simp [at?, place?, hway]
  | ok way =>
    obtain ⟨start, names⟩ := way
    let steps := stepNames (pathNames directory) ++ [name]
    have hsteps : ∀ next ∈ steps, next ≠ "" ∧ next ≠ "." := by
      intro next hnext
      rcases List.mem_append.mp hnext with hnext | hnext
      · exact (mem_stepNames.mp hnext).2
      · rw [List.mem_singleton.mp hnext]
        exact ⟨hname.ne_empty, hname.ne_point⟩
    have hupSteps : ∀ first rest, steps = first ++ ".." :: rest →
        before.CanFollow start (first ++ [".."]) := fun first rest => hup.canFollow hname hway
    have hplace : enterAll start (stepNames (pathNames directory)) ++ [name] =
        enterAll start steps := by
      rw [enterAll_append]
      exact (enter_of_isFileName hname _).symm
    have hmade : Grows (fun place => ∃ first next rest,
        steps = first ++ next :: rest ∧ place = enterAll start first) before after := by
      refine hgrows.mono fun place hplace => ?_
      obtain ⟨count, rfl⟩ := exists_take_of_isMadeFor hway hplace
      obtain ⟨next, rest, hrest⟩ := List.exists_cons_of_ne_nil
        (List.append_ne_nil_of_right_ne_nil ((stepNames (pathNames directory)).drop count)
          (List.cons_ne_nil name []))
      refine ⟨_, next, rest, ?_, rfl⟩
      rw [← hrest, ← List.append_assoc, List.take_append_drop]
    have hsame := get?_enterAll_of_grows hsteps hupSteps hmade
    refine Option.ext fun entry => ?_
    simp only [at?_eq_some_iff, place?_joinPath hname]
    constructor
    · rintro ⟨_, ⟨start', names', hway', hfollow, rfl⟩, hentry⟩
      obtain ⟨rfl, rfl⟩ : start = start' ∧ names = names' := by
        rw [hway] at hway'
        cases hway'
        exact ⟨rfl, rfl⟩
      rw [hplace, hsame] at hentry
      have hthere : before.get? (enterAll start steps) ≠ none := by
        rw [hentry]
        exact Option.some_ne_none entry
      have hfollow := hfollow.of_grows_of_some hsteps hupSteps hmade hrooted hthere
      exact ⟨_, ⟨start, names, hway, hfollow, rfl⟩, hplace ▸ hentry⟩
    · rintro ⟨_, ⟨start', names', hway', hfollow, rfl⟩, hentry⟩
      exact ⟨_, ⟨start', names', hway', hfollow.of_grows hgrows, rfl⟩, hgrows.get?_of_some hentry⟩

end FileTree

end QueryTree
