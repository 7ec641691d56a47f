import BoundedStream.Proofs.FileSystem.Paths
import Mathlib.Data.List.TakeWhile

/-!
# Entries and the paths that miss them

A path that leads nowhere may still be the name of something: of a link whose target is
missing.  Otherwise its last name is free in a directory that is there, or a directory on the
way is missing.  A name is made only where it is free, and this changes nothing else.
-/

namespace BoundedStream

namespace FileSystem

variable {files later : FileSystem} {followLast : Bool} {links directory inode : Nat}
  {names rest : List String} {path parent name : String} {result : Except Errno Lookup}

/-! ## How walks fail and go on -/

theorem walk_error {errno : Errno} (walks : Walks files followLast links directory names result)
    (failed : result = .error errno) :
    errno ∈ [Errno.notDirectory, .nameTooLong, .noEntry, .linkLoop] := by
  induction walks with
  | blocked => cases failed; decide
  | tooLong => cases failed; decide
  | lost => cases failed; decide
  | tangled => cases failed; decide
  | stay _ _ _ _ _ _ _ _ hypothesis => exact hypothesis failed
  | ascend _ _ _ _ _ _ _ _ hypothesis => exact hypothesis failed
  | follow _ _ _ _ _ _ _ _ _ _ _ _ _ _ _ _ hypothesis => exact hypothesis failed
  | enter _ _ _ _ _ _ _ _ _ _ _ _ _ _ hypothesis => exact hypothesis failed
  | _ => cases failed

/-- How a walk goes on with more names after the first of them led somewhere. -/
def onward (files : FileSystem) (followLast : Bool) (links : Nat) (rest : List String) :
    Except Errno Lookup → Except Errno Lookup
  | .ok (.found inode) => files.walk followLast links inode rest
  | .ok (.absent _ _) => .error .noEntry
  | .error errno => .error errno

/-- A walk goes on where the walk along its first names ends. -/
theorem walk_append (walks : Walks files true links directory names result)
    (more : rest ≠ []) :
    ∃ left, ∀ followLast, files.walk followLast links directory (names ++ rest) =
      files.onward followLast left rest result := by
  induction walks with
  | done links => exact ⟨links, fun _ => rfl⟩
  | blocked _ _ _ _ outside => exact ⟨0, fun _ => (Walks.blocked _ _ _ _ outside).eq⟩
  | tooLong _ _ _ _ _ _ inside long =>
      exact ⟨0, fun _ => (Walks.tooLong _ _ _ _ _ _ inside long).eq⟩
  | stay _ _ _ _ _ _ inside _ hypothesis =>
      obtain ⟨left, goesOn⟩ := hypothesis
      exact ⟨left, fun _ => (Walks.stay _ _ _ _ _ _ inside (walk_eq_iff.mp (goesOn _))).eq⟩
  | ascend _ _ _ _ _ _ inside _ hypothesis =>
      obtain ⟨left, goesOn⟩ := hypothesis
      exact ⟨left, fun _ => (Walks.ascend _ _ _ _ _ _ inside (walk_eq_iff.mp (goesOn _))).eq⟩
  | absent _ _ _ _ _ inside short proper nowhere =>
      -- The missing name is not the last one any more.
      obtain ⟨next, rest, rfl⟩ := List.exists_cons_of_ne_nil more
      exact ⟨0, fun _ => (Walks.lost _ _ _ _ _ _ _ inside short proper nowhere).eq⟩
  | lost _ _ _ _ _ _ _ inside short proper nowhere =>
      exact ⟨0, fun _ => (Walks.lost _ _ _ _ _ _ _ inside short proper nowhere).eq⟩
  | halt _ _ _ _ _ _ _ _ _ _ _ _ stops => cases stops
  | tangled _ _ _ _ _ _ _ inside short proper leads isLink =>
      exact ⟨0, fun _ => (Walks.tangled _ _ _ _ _ _ _ inside short proper leads isLink
        (.inl (by simp [more]))).eq⟩
  | follow _ _ _ _ _ _ _ _ _ inside short proper leads isLink _ _ hypothesis =>
      obtain ⟨left, goesOn⟩ := hypothesis
      simp only [List.append_assoc] at goesOn
      exact ⟨left, fun _ => (Walks.follow _ _ _ _ _ _ _ _ _ inside short proper leads isLink
        (.inl (by simp [more])) (walk_eq_iff.mp (goesOn _))).eq⟩
  | enter _ _ _ _ _ _ _ _ inside short proper leads noLink _ hypothesis =>
      obtain ⟨left, goesOn⟩ := hypothesis
      exact ⟨left, fun _ => (Walks.enter _ _ _ _ _ _ _ _ inside short proper leads noLink
        (walk_eq_iff.mp (goesOn _))).eq⟩

/-- A walk comes upon nothing, at its end or before. -/
def Lost (result : Except Errno Lookup) : Prop :=
  result = .error .noEntry ∨ ∃ directory name, result = .ok (.absent directory name)

theorem onward_of_lost (lost : Lost result) (files : FileSystem) (followLast : Bool)
    (links : Nat) (rest : List String) :
    files.onward followLast links rest result = .error .noEntry := by
  obtain rfl | ⟨directory, name, rfl⟩ := lost
  · rfl
  · rfl

/-- A slash behind a name asks for a directory. -/
theorem walk_dot (files : FileSystem) (followLast : Bool) (links inode : Nat) :
    files.walk followLast links inode ["."] = .ok (.found inode) ∨
      files.walk followLast links inode ["."] = .error .notDirectory := by
  rw [walk_eq, walkWith]
  split
  · rw [if_neg (by decide), if_pos rfl, walkWith]
    exact .inl rfl
  · exact .inr rfl

theorem lost_of_onward_dot (lost : Lost (files.onward followLast links ["."] result)) :
    Lost result := by
  match result with
  | .error errno => exact lost
  | .ok (.absent directory name) => exact .inr ⟨directory, name, rfl⟩
  | .ok (.found inode) =>
      exfalso
      rw [onward] at lost
      obtain ended | ended := walk_dot files followLast links inode <;>
        rw [ended] at lost <;> simp [Lost] at lost
      exact absurd lost (by decide)

/-! ## The names in a path -/

/-- The names between the slashes of a path. -/
def between (text : List Char) : List String :=
  ((text.splitOn '/').filter (· ≠ [])).map String.ofList

theorem components_eq (path : String) :
    components path = between path.toList ++
      (if path.toList.getLast? = some '/' then ["."] else []) := by
  rw [components]
  split
  · rfl
  · exact (List.append_nil _).symm

theorem between_append (front back : List Char) :
    between (front ++ '/' :: back) = between front ++ between back := by
  rw [between, List.splitOn_append_cons_self, List.filter_append, List.map_append]
  rfl

theorem between_slashes (front : List Char) (count : Nat) :
    between (front ++ List.replicate count '/') = between front := by
  have nothing : ∀ count, between (List.replicate count '/') = [] := by
    intro count
    induction count with
    | zero => rfl
    | succ count hypothesis =>
        have first := between_append [] (List.replicate count '/')
        rw [hypothesis] at first
        exact first
  cases count with
  | zero => rw [List.replicate_zero, List.append_nil]
  | succ count =>
      rw [List.replicate_succ, between_append, nothing, List.append_nil]

theorem between_name (nonempty : name ≠ "") (plain : '/' ∉ name.toList) :
    between name.toList = [name] := by
  rw [between, List.splitOn_eq_singleton plain]
  simp [nonempty]

/-- A path is its shorter form and the slashes behind that. -/
theorem toList_trimSlashes (path : String) :
    ∃ count, path.toList = (trimSlashes path).toList ++ List.replicate count '/' := by
  have slashes : ∀ letter ∈ path.toList.reverse.takeWhile (· == '/'), letter = '/' := by
    intro letter member
    simpa using List.mem_takeWhile_imp member
  refine ⟨(path.toList.reverse.takeWhile (· == '/')).length, ?_⟩
  have whole := List.takeWhile_append_dropWhile (p := (· == '/')) (l := path.toList.reverse)
  rw [List.eq_replicate_of_mem slashes] at whole
  have turned := congrArg List.reverse whole
  simpa [trimSlashes] using turned.symm

theorem getLast?_trimSlashes (path : String) :
    (trimSlashes path).toList.getLast? ≠ some '/' := by
  rw [trimSlashes, String.toList_ofList, List.getLast?_reverse]
  intro slash
  have first := List.head?_dropWhile_not (· == '/') path.toList.reverse
  rw [slash] at first
  simp at first

theorem trimSlashes_eq_iff : trimSlashes path = path ↔ path.toList.getLast? ≠ some '/' := by
  obtain ⟨count, whole⟩ := toList_trimSlashes path
  constructor
  · intro same
    rw [← same]
    exact getLast?_trimSlashes path
  · intro unended
    cases count with
    | zero =>
        rw [List.replicate_zero, List.append_nil] at whole
        exact (String.toList_inj.mp whole).symm
    | succ count =>
        rw [whole, List.replicate_succ'] at unended
        exact absurd (by simp) unended

/-- The slashes behind a name count as one component. -/
theorem components_of_slash (slash : trimSlashes path ≠ path) :
    components path = components (trimSlashes path) ++ ["."] := by
  obtain ⟨count, whole⟩ := toList_trimSlashes path
  have ended : path.toList.getLast? = some '/' :=
    Decidable.not_not.mp (mt trimSlashes_eq_iff.mpr slash)
  rw [components_eq, components_eq, if_pos ended, if_neg (getLast?_trimSlashes path),
    List.append_nil, whole, between_slashes]

theorem trimSlashes_below (parent : String) (nonempty : name ≠ "") (plain : '/' ∉ name.toList) :
    trimSlashes (parent ++ "/" ++ name) = parent ++ "/" ++ name := by
  have text : (parent ++ "/" ++ name).toList = parent.toList ++ '/' :: name.toList := by
    simp
  rw [trimSlashes_eq_iff, text, List.getLast?_append, List.getLast?_cons]
  cases ends : name.toList.getLast? with
  | none => exact absurd (String.toList_eq_nil_iff.mp (List.getLast?_eq_none_iff.mp ends)) nonempty
  | some last =>
      rintro ⟨⟩
      exact plain (List.mem_of_getLast? ends)

/-- The last name of a path stands alone behind the components of what is before it. -/
theorem components_below (nonempty : name ≠ "") (plain : '/' ∉ name.toList) :
    components (parent ++ "/" ++ name) = components (trimSlashes parent) ++ [name] := by
  obtain ⟨count, whole⟩ := toList_trimSlashes parent
  have unended := trimSlashes_eq_iff.mp (trimSlashes_below parent nonempty plain)
  have text : (parent ++ "/" ++ name).toList = parent.toList ++ '/' :: name.toList := by
    simp
  rw [components_eq, if_neg unended, List.append_nil, text, between_append,
    between_name nonempty plain, components_eq, if_neg (getLast?_trimSlashes parent),
    List.append_nil, whole, between_slashes]

/-! ## Paths that lead nowhere -/

theorem lookup_of_sensible (sensible : Sensible path) :
    files.lookup followLast path = (files.along followLast path).mapError .number := by
  obtain ⟨plain, nonempty, short⟩ := sensible
  rw [lookup, plain, if_neg Bool.false_ne_true, if_neg nonempty, if_neg (Nat.not_le.mpr short)]
  rfl

/-- Nothing is found at a path: it or something on the way is missing. -/
def Missing (files : FileSystem) (path : String) : Prop :=
  ∃ error, files.resolve true path = .error error ∧ error.kind = .notFound

/-- A path names a symbolic link, whether or not the link leads anywhere. -/
def NamesLink (files : FileSystem) (path : String) : Prop :=
  ∃ inode target, files.lookup false (trimSlashes path) = .ok (.found inode) ∧
    files.content? inode = some (.link target)

/-- The last name of a path is free in a directory that is there. -/
def Vacant (files : FileSystem) (path : String) : Prop :=
  ∃ directory name, files.lookup false path = .ok (.absent directory name)

/-- A path names something below another path that leads nowhere. -/
structure Orphan (files : FileSystem) (path parent name : String) : Prop where
  below : path = parent ++ "/" ++ name
  given : parent ≠ ""
  named : name ≠ "" ∧ '/' ∉ name.toList
  missing : files.Missing parent
  sensible : Sensible path

/-- A path that cannot be followed is refused for its text. -/
theorem lookup_of_not_sensible (senseless : ¬ Sensible path) (files : FileSystem)
    (followLast : Bool) :
    (path = "" ∧ files.lookup followLast path = .error (.number .noEntry)) ∨
      path ≠ "" ∧ ∃ error, files.lookup followLast path = .error error ∧
        error.kind ≠ .notFound := by
  unfold lookup
  split
  · rename_i withNul
    refine .inr ⟨?_, _, rfl, by decide⟩
    rintro rfl
    exact absurd withNul (by decide)
  · rename_i plain
    split
    · rename_i nothing
      exact .inl ⟨nothing, rfl⟩
    · rename_i nonempty
      split
      · exact .inr ⟨nonempty, _, rfl, by decide⟩
      · rename_i short
        exact absurd ⟨Bool.not_eq_true _ ▸ plain, nonempty, Nat.not_le.mp short⟩ senseless

/-- A lookup that comes upon nothing was given no name, or its walk came upon nothing. -/
theorem lookup_eq_noEntry_iff :
    files.lookup followLast path = .error (.number .noEntry) ↔
      path = "" ∨ Sensible path ∧ files.along followLast path = .error .noEntry := by
  by_cases sensible : Sensible path
  · rw [lookup_of_sensible sensible]
    have nonempty := sensible.2.1
    cases files.along followLast path <;> simp [Except.mapError, sensible, nonempty]
  · obtain ⟨nothing, failed⟩ | ⟨nonempty, error, failed, other⟩ :=
      lookup_of_not_sensible sensible files followLast
    · exact iff_of_true failed (.inl nothing)
    · refine iff_of_false ?_ (by simp [nonempty, sensible])
      rw [failed]
      rintro ⟨⟩
      exact other (by decide)

/-- The one failure of a lookup that says that something is missing. -/
theorem lookup_error_kind {error : SystemError}
    (failed : files.lookup followLast path = .error error) (missing : error.kind = .notFound) :
    error = .number .noEntry := by
  have only : ∀ errno ∈ [Errno.notDirectory, .nameTooLong, .noEntry, .linkLoop],
      errno.kind = .notFound → errno = .noEntry := by decide
  by_cases sensible : Sensible path
  · rw [lookup_of_sensible sensible] at failed
    cases ends : files.along followLast path with
    | ok found =>
        rw [ends] at failed
        cases failed
    | error errno =>
        rw [ends] at failed
        cases failed
        rw [only errno (walk_error (walk_eq_iff.mp ends) rfl) missing]
  · obtain ⟨-, refused⟩ | ⟨-, other, refused, unlike⟩ :=
      lookup_of_not_sensible sensible files followLast
    · rw [refused] at failed
      cases failed
      rfl
    · rw [refused] at failed
      cases failed
      exact absurd missing unlike

/-- A path leads nowhere for want of a name or since its walk comes upon nothing. -/
theorem missing_iff :
    files.Missing path ↔ path = "" ∨ Sensible path ∧ Lost (files.along true path) := by
  have entered : files.Missing path ↔ files.lookup true path = .error (.number .noEntry) ∨
      ∃ directory name, files.lookup true path = .ok (.absent directory name) := by
    rw [Missing, resolve]
    split
    · rename_i error failed
      simp only [failed, Except.error.injEq, reduceCtorEq, exists_false, or_false]
      constructor
      · rintro ⟨_, rfl, missing⟩
        exact lookup_error_kind failed missing
      · rintro rfl
        exact ⟨_, rfl, by decide⟩
    · rename_i directory name absent
      exact iff_of_true ⟨_, rfl, by decide⟩ (.inr ⟨directory, name, absent⟩)
    · rename_i inode found
      simp [found]
  rw [entered, lookup_eq_noEntry_iff, Lost, and_or_left, or_assoc]
  simp only [lookup_eq_ok_iff, exists_and_left]

/-- A path begins where its beginning begins. -/
theorem isAbsolute_of_prefix {front : String} (given : front ≠ "")
    (starts : front.toList <+: path.toList) : isAbsolute path = isAbsolute front := by
  obtain ⟨back, whole⟩ := starts
  obtain ⟨letter, others, first⟩ :=
    List.exists_cons_of_ne_nil (mt String.toList_eq_nil_iff.mp given)
  rw [isAbsolute, isAbsolute, ← whole, first]
  rfl

theorem prefix_trimSlashes (path : String) : (trimSlashes path).toList <+: path.toList := by
  obtain ⟨count, whole⟩ := toList_trimSlashes path
  exact ⟨_, whole.symm⟩

/-- A walk along a path with slashes behind its last name goes to that name and looks whether
it is a directory. -/
theorem along_of_slash (files : FileSystem) (slash : trimSlashes path ≠ path) :
    ∃ left result, (∀ followLast, files.along followLast path =
        files.onward followLast left ["."] result) ∧
      (Lost result → trimSlashes path ≠ "" ∧ result = files.along true (trimSlashes path)) := by
  have whole := components_of_slash slash
  by_cases given : trimSlashes path = ""
  · refine ⟨linkLimit, .ok (.found (if isAbsolute path then 0 else files.current)),
      fun followLast => ?_, by simp [Lost]⟩
    rw [along, whole, given]
    rfl
  · obtain ⟨left, goesOn⟩ := walk_append (walks_walk files true linkLimit
      (if isAbsolute path then 0 else files.current) (components (trimSlashes path)))
      (List.cons_ne_nil "." [])
    refine ⟨left, _, fun followLast => ?_, fun _ => ⟨given, rfl⟩⟩
    rw [along, along, whole, goesOn followLast,
      isAbsolute_of_prefix given (prefix_trimSlashes path)]

/-- The slashes behind a path that leads nowhere are not the reason. -/
theorem lost_trimSlashes (missing : files.Missing path) (given : path ≠ "") :
    trimSlashes path ≠ "" ∧ Lost (files.along true (trimSlashes path)) := by
  obtain nothing | ⟨-, lost⟩ := missing_iff.mp missing
  · exact absurd nothing given
  by_cases slash : trimSlashes path = path
  · rw [slash]
    exact ⟨given, lost⟩
  · obtain ⟨left, result, goesOn, same⟩ := along_of_slash files slash
    rw [goesOn true] at lost
    have lost := lost_of_onward_dot lost
    obtain ⟨given, rfl⟩ := same lost
    exact ⟨given, lost⟩

/-- A path that leads nowhere names a link, or its last name is free, or something before that
is missing. -/
theorem lookup_of_missing (missing : files.Missing path) :
    files.NamesLink path ∨ files.Vacant path ∨
      files.lookup false path = .error (.number .noEntry) := by
  obtain nothing | ⟨sensible, lost⟩ := missing_iff.mp missing
  · exact .inr (.inr (lookup_eq_noEntry_iff.mpr (.inl nothing)))
  · by_cases slash : trimSlashes path = path
    -- Unless the last name is that of a link, it does not matter whether links are followed.
    · obtain ⟨inode, target, found, isLink⟩ | walks := walks_or_isLink (walks_walk files false
        linkLimit (if isAbsolute path then 0 else files.current) (components path))
      · refine .inl ⟨inode, target, ?_, isLink⟩
        rw [slash]
        exact lookup_eq_ok_iff.mpr ⟨sensible, found⟩
      · have same : files.along true path = files.along false path := walks.eq
        rw [same] at lost
        obtain failed | ⟨directory, name, absent⟩ := lost
        · exact .inr (.inr (lookup_eq_noEntry_iff.mpr (.inr ⟨sensible, failed⟩)))
        · exact .inr (.inl ⟨directory, name, lookup_eq_ok_iff.mpr ⟨sensible, absent⟩⟩)
    · obtain ⟨left, result, goesOn, -⟩ := along_of_slash files slash
      rw [goesOn true] at lost
      refine .inr (.inr (lookup_eq_noEntry_iff.mpr (.inr ⟨sensible, ?_⟩)))
      rw [goesOn false, onward_of_lost (lost_of_onward_dot lost)]

/-- Whether a path that leads nowhere names something is whether it names a link. -/
theorem hasEntry_iff_of_missing (missing : files.Missing path) :
    files.hasEntry path = true ↔ files.NamesLink path := by
  rw [hasEntry, NamesLink]
  constructor
  · intro entry
    split at entry
    · rename_i inode found
      obtain ⟨⟨-, given, -⟩, walked⟩ := lookup_eq_ok_iff.mp found
      obtain ⟨other, target, same, isLink⟩ | walks := walks_or_isLink (walk_eq_iff.mp walked)
      · cases same
        exact ⟨inode, target, found, isLink⟩
      · have named : path ≠ "" := by
          rintro rfl
          exact given rfl
        obtain ⟨-, lost⟩ := lost_trimSlashes missing named
        rw [along, walks.eq] at lost
        simp [Lost] at lost
    · cases entry
  · rintro ⟨inode, target, found, isLink⟩
    rw [found]
    obtain rfl | ⟨⟨-, -, short⟩, -⟩ := missing_iff.mp missing
    · cases found
    · exact decide_eq_true short

/-- A name below a path that leads nowhere leads nowhere, and nothing has that name. -/
theorem Orphan.lookup_eq (orphan : files.Orphan path parent name) (followLast : Bool) :
    files.lookup followLast path = .error (.number .noEntry) := by
  obtain ⟨given, lost⟩ := lost_trimSlashes orphan.missing orphan.given
  have starts : (trimSlashes parent).toList <+: path.toList := by
    rw [orphan.below]
    exact (prefix_trimSlashes parent).trans (by simp)
  obtain ⟨left, goesOn⟩ := walk_append (walks_walk files true linkLimit
    (if isAbsolute (trimSlashes parent) then 0 else files.current)
    (components (trimSlashes parent))) (List.cons_ne_nil name [])
  refine lookup_eq_noEntry_iff.mpr (.inr ⟨orphan.sensible, ?_⟩)
  rw [along, isAbsolute_of_prefix given starts, orphan.below,
    components_below orphan.named.1 orphan.named.2, goesOn]
  exact onward_of_lost lost ..

theorem Orphan.not_hasEntry (orphan : files.Orphan path parent name) :
    files.hasEntry path = false := by
  have whole : trimSlashes path = path := by
    rw [orphan.below]
    exact trimSlashes_below _ orphan.named.1 orphan.named.2
  rw [hasEntry, whole, orphan.lookup_eq]

/-! ## Making where nothing is -/

theorem not_vacant_of_namesLink (link : files.NamesLink path) : ¬ files.Vacant path := by
  obtain ⟨inode, target, found, -⟩ := link
  rintro ⟨directory, name, absent⟩
  by_cases slash : trimSlashes path = path
  · rw [slash, absent] at found
    cases found
  · obtain ⟨left, result, goesOn, -⟩ := along_of_slash files slash
    obtain ⟨-, walked⟩ := lookup_eq_ok_iff.mp absent
    have lost : Lost (files.along false path) := .inr ⟨directory, name, walked⟩
    rw [goesOn false] at lost walked
    rw [onward_of_lost (lost_of_onward_dot lost)] at walked
    cases walked

variable {mode : Nat} {content : Nat → Content}

theorem make_of_vacant (vacant : files.Vacant path) (mode : Nat) (content : Nat → Content) :
    ∃ number later, files.make path mode content = .ok (number, later) := by
  obtain ⟨directory, name, absent⟩ := vacant
  refine ⟨files.inodes.length, (files.insert directory name ⟨mode, content directory⟩).2, ?_⟩
  rw [make, absent]
  rfl

theorem make_of_namesLink (missing : files.Missing path) (link : files.NamesLink path) :
    files.make path mode content = .error (.number .alreadyExists) := by
  unfold make
  split
  · rw [if_pos ((hasEntry_iff_of_missing missing).mpr link)]
  · rfl
  · rename_i directory name absent
    exact absurd ⟨directory, name, absent⟩ (not_vacant_of_namesLink link)

theorem make_of_not_vacant (missing : files.Missing path) (unlinked : ¬ files.NamesLink path)
    (taken : ¬ files.Vacant path) :
    files.make path mode content = .error (.number .noEntry) := by
  have failed : files.lookup false path = .error (.number .noEntry) := by
    obtain link | vacant | failed := lookup_of_missing missing
    · exact absurd link unlinked
    · exact absurd vacant taken
    · exact failed
  rw [make, failed]
  simp only [mt (hasEntry_iff_of_missing missing).mp unlinked, Bool.false_eq_true, if_false]

/-- One thing more is in a file system, at a path whose last name was free in a directory.
Nothing else is different, and every path leads where it led. -/
structure Gains (files later : FileSystem) (path : String) (new : Inode) : Prop where
  current : later.current = files.current
  mask : later.mask = files.mask
  one : later.inodes.length = files.inodes.length + 1
  made : later.get? files.inodes.length = some new
  entered : ∃ directory name mode parent entries,
    files.lookup false path = .ok (.absent directory name) ∧
    files.get? directory = some ⟨mode, .directory parent entries⟩ ∧
    later.get? directory =
      some ⟨mode, .directory parent (entries ++ [(name, files.inodes.length)])⟩ ∧
    ∀ inode, inode ≠ directory → inode ≠ files.inodes.length →
      later.get? inode = files.get? inode
  leads : ∀ followLast, later.lookup followLast path = .ok (.found files.inodes.length)
  keeps : ∀ followLast other inode, files.lookup followLast other = .ok (.found inode) →
    later.lookup followLast other = .ok (.found inode)

theorem insert_eq {parent : Nat} {entries : List (String × Nat)}
    (inside : files.content? directory = some (.directory parent entries)) (name : String)
    (new : Inode) :
    (files.insert directory name new).2 =
      { files with
        inodes := (files.inodes ++ [new]).modify directory fun old => { old with
          content := .directory parent (entries ++ [(name, files.inodes.length)]) } } := by
  have kept : ({ files with inodes := files.inodes ++ [new] } : FileSystem).content? directory =
      files.content? directory := by
    rw [content?, get?, List.getElem?_append_left (lt_of_content? inside)]
    rfl
  rw [insert]
  simp only [addEntry, kept, inside]
  rfl

theorem gains_insert {new : Inode}
    (absent : files.lookup false path = .ok (.absent directory name))
    (noLink : ∀ target, new.content ≠ .link target) :
    files.Gains (files.insert directory name new).2 path new := by
  obtain ⟨sensible, walked⟩ := lookup_eq_ok_iff.mp absent
  obtain ⟨parent, entries, inside, nowhere⟩ := directory_of_absent walked
  have adds := adds_insert inside nowhere new
  have whole := insert_eq inside name new
  generalize (files.insert directory name new).2 = later at adds whole ⊢
  obtain ⟨⟨permissions, _⟩, present, rfl⟩ := Option.map_eq_some_iff.mp inside
  have bounded := lt_of_content? inside
  refine {
    current := adds.current
    mask := adds.mask
    one := by simp [whole]
    made := adds.made
    entered := ⟨directory, name, permissions, parent, entries, absent, present, ?_, ?_⟩
    leads := fun followLast => ?_
    keeps := fun followLast other inode found => ?_ }
  · simp only [get?] at present
    simp [whole, get?, List.getElem?_append_left bounded, present]
  · intro inode apart old
    have extended : (files.inodes ++ [new])[inode]? = files.inodes[inode]? := by
      by_cases inside : inode < files.inodes.length
      · exact List.getElem?_append_left inside
      · rw [List.getElem?_eq_none (by simp; omega), List.getElem?_eq_none (by omega)]
    simp [whole, get?, apart.symm, extended]
  · have walks : Walks files followLast linkLimit
        (if isAbsolute path then 0 else files.current) (components path)
        (.ok (.absent directory name)) := by
      cases followLast with
      | false => exact walk_eq_iff.mp walked
      | true => exact walk_eq_iff.mp (walk_of_absent walked)
    refine lookup_eq_ok_iff.mpr ⟨sensible, ?_⟩
    rw [along, adds.current]
    exact (adds.walks noLink walks (.inr ⟨rfl, rfl⟩)).eq
  · obtain ⟨sensible, walked⟩ := lookup_eq_ok_iff.mp found
    refine lookup_eq_ok_iff.mpr ⟨sensible, ?_⟩
    rw [along, adds.current]
    exact (adds.walks noLink (walk_eq_iff.mp walked) (.inl rfl)).eq

/-- To make a thing at a path is to gain that thing there. -/
theorem gains_of_make {number : Nat} (makes : files.make path mode content = .ok (number, later))
    (noLink : ∀ directory target, content directory ≠ .link target) :
    files.Vacant path ∧ ∃ directory, files.Gains later path ⟨mode, content directory⟩ := by
  unfold make at makes
  split at makes
  · cases makes
  · cases makes
  · rename_i directory name absent
    cases makes
    exact ⟨⟨directory, name, absent⟩, directory, gains_insert absent (noLink directory)⟩

end FileSystem

end BoundedStream
