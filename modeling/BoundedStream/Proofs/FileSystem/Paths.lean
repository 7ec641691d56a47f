import BoundedStream.Proofs.FileSystem.Walks
import Mathlib.Tactic.ByContra

/-!
# Paths and what lies at their ends

Where a path leads depends on directories and links alone, so that paths lead where they led
when the bytes of a FIFO come and go.  A thing that is made where a path leads to no entry is
what the path leads to from then on.
-/

namespace BoundedStream

namespace FileSystem

variable {files later : FileSystem} {directory number inode : Nat} {name : String}

/-! ## Contents -/

theorem content?_setContent (files : FileSystem) (inode : Nat) (content : Content)
    (other : Nat) :
    (files.setContent inode content).content? other =
      if inode = other then (files.content? other).map fun _ => content
      else files.content? other := by
  simp only [content?, get?, setContent, List.getElem?_modify]
  split
  · rename_i same
    subst same
    cases files.inodes[inode]? <;> rfl
  · cases files.inodes[other]? <;> rfl

theorem content?_setContent_self {old : Content} (present : files.content? inode = some old)
    (content : Content) : (files.setContent inode content).content? inode = some content := by
  rw [content?_setContent, if_pos rfl, present]
  rfl

theorem content?_setContent_of_ne {other : Nat} (distinct : other ≠ inode)
    (content : Content) :
    (files.setContent inode content).content? other = files.content? other := by
  rw [content?_setContent, if_neg distinct.symm]

theorem lt_of_content? {content : Content} (present : files.content? inode = some content) :
    inode < files.inodes.length := by
  by_contra beyond
  rw [content?, get?, List.getElem?_eq_none (by omega)] at present
  cases present

theorem fifo?_eq_some_iff {fifo : Fifo} :
    files.fifo? inode = some fifo ↔ files.content? inode = some (.fifo fifo) := by
  unfold fifo?
  split <;> simp_all

/-! ## The same directories and links -/

/-- Both file systems have the same directories and the same links. -/
structure SameTree (files later : FileSystem) : Prop where
  current : later.current = files.current
  directory : ∀ inode parent entries,
    later.content? inode = some (.directory parent entries) ↔
      files.content? inode = some (.directory parent entries)
  link : ∀ inode target,
    later.content? inode = some (.link target) ↔ files.content? inode = some (.link target)

namespace SameTree

/-- A FIFO has changed. -/
theorem setContent {old new : Fifo} (present : files.content? inode = some (.fifo old)) :
    SameTree files (files.setContent inode (.fifo new)) where
  current := rfl
  directory other parent entries := by
    rw [content?_setContent]
    split
    · rename_i same
      subst same
      simp [present]
    · rfl
  link other target := by
    rw [content?_setContent]
    split
    · rename_i same
      subst same
      simp [present]
    · rfl

theorem walks (same : SameTree files later) {followLast : Bool} {links start : Nat}
    {names : List String} {result : Except Errno Lookup}
    (walks : Walks files followLast links start names result) :
    Walks later followLast links start names result := by
  induction walks with
  | done => exact .done _ _
  | blocked _ start _ _ outside =>
      exact .blocked _ _ _ _ fun parent entries inside =>
        outside parent entries ((same.directory start parent entries).mp inside)
  | tooLong _ _ _ _ _ _ inside long =>
      exact .tooLong _ _ _ _ _ _ ((same.directory _ _ _).mpr inside) long
  | stay _ _ _ _ _ _ inside _ hypothesis =>
      exact .stay _ _ _ _ _ _ ((same.directory _ _ _).mpr inside) hypothesis
  | ascend _ _ _ _ _ _ inside _ hypothesis =>
      exact .ascend _ _ _ _ _ _ ((same.directory _ _ _).mpr inside) hypothesis
  | absent _ _ _ _ _ inside short proper nowhere =>
      exact .absent _ _ _ _ _ ((same.directory _ _ _).mpr inside) short proper nowhere
  | lost _ _ _ _ _ _ _ inside short proper nowhere =>
      exact .lost _ _ _ _ _ _ _ ((same.directory _ _ _).mpr inside) short proper nowhere
  | halt _ _ _ _ _ _ _ inside short proper leads isLink stops =>
      exact .halt _ _ _ _ _ _ _ ((same.directory _ _ _).mpr inside) short proper leads
        ((same.link _ _).mpr isLink) stops
  | tangled _ _ _ _ _ _ _ inside short proper leads isLink goes =>
      exact .tangled _ _ _ _ _ _ _ ((same.directory _ _ _).mpr inside) short proper leads
        ((same.link _ _).mpr isLink) goes
  | follow _ _ _ _ _ _ _ _ _ inside short proper leads isLink goes _ hypothesis =>
      exact .follow _ _ _ _ _ _ _ _ _ ((same.directory _ _ _).mpr inside) short proper leads
        ((same.link _ _).mpr isLink) goes hypothesis
  | enter _ _ _ inode _ _ _ _ inside short proper leads noLink _ hypothesis =>
      exact .enter _ _ _ _ _ _ _ _ ((same.directory _ _ _).mpr inside) short proper leads
        (fun target isLink => noLink target ((same.link inode target).mp isLink)) hypothesis

theorem walk_eq (same : SameTree files later) (followLast : Bool) (links start : Nat)
    (names : List String) :
    later.walk followLast links start names = files.walk followLast links start names :=
  (same.walks (walks_walk files followLast links start names)).eq

theorem lookup_eq (same : SameTree files later) (followLast : Bool) (path : String) :
    later.lookup followLast path = files.lookup followLast path := by
  simp only [lookup, same.walk_eq, same.current]

theorem resolve_eq (same : SameTree files later) (followLast : Bool) (path : String) :
    later.resolve followLast path = files.resolve followLast path := by
  simp only [resolve, same.lookup_eq]

end SameTree

private theorem mapError_eq_ok {result : Except Errno Lookup} {found : Lookup} :
    result.mapError SystemError.number = .ok found ↔ result = .ok found := by
  cases result <;> simp [Except.mapError]

/-- The text of a path that can be followed. -/
def Sensible (path : String) : Prop :=
  path.toList.contains '\x00' = false ∧ path ≠ "" ∧ path.utf8ByteSize < pathLimit

/-- The walk along a path from where the path begins. -/
def along (files : FileSystem) (followLast : Bool) (path : String) : Except Errno Lookup :=
  files.walk followLast linkLimit (if isAbsolute path then 0 else files.current)
    (components path)

/-- Where a sensible path leads is where its components lead. -/
theorem lookup_eq_ok_iff {followLast : Bool} {path : String} {found : Lookup} :
    files.lookup followLast path = .ok found ↔
      Sensible path ∧ files.along followLast path = .ok found := by
  unfold lookup Sensible
  split
  · simp_all
  · split
    · simp_all
    · split
      · rename_i tooLong
        simp [Nat.not_lt.mpr tooLong]
      · rename_i plain nonempty short
        have sensible : path.toList.contains '\x00' = false ∧ path ≠ "" ∧
            path.utf8ByteSize < pathLimit :=
          ⟨by simpa using plain, nonempty, Nat.not_le.mp short⟩
        exact mapError_eq_ok.trans (and_iff_right sensible).symm

/-! ## A new entry -/

/-- Where a path leads to no entry, there is a directory without that entry. -/
theorem directory_of_absent {followLast : Bool} {links start : Nat} {names : List String}
    (absent : files.walk followLast links start names = .ok (.absent directory name)) :
    ∃ parent entries, files.content? directory = some (.directory parent entries) ∧
      entries.lookup name = none := by
  rw [walk_eq_iff] at absent
  generalize result : Except.ok (Lookup.absent directory name) = found at absent
  induction absent with
  | absent _ _ parent entries _ inside _ _ nowhere =>
      cases result
      exact ⟨parent, entries, inside, nowhere⟩
  | stay _ _ _ _ _ _ _ _ hypothesis => exact hypothesis result
  | ascend _ _ _ _ _ _ _ _ hypothesis => exact hypothesis result
  | follow _ _ _ _ _ _ _ _ _ _ _ _ _ _ _ _ hypothesis => exact hypothesis result
  | enter _ _ _ _ _ _ _ _ _ _ _ _ _ _ hypothesis => exact hypothesis result
  | _ => cases result

/-- Whether a link at the end is followed makes no difference to a walk that does not end at
one. -/
theorem walks_or_isLink {links start : Nat} {names : List String}
    {result : Except Errno Lookup} (walks : Walks files false links start names result) :
    (∃ inode target, result = .ok (.found inode) ∧
        files.content? inode = some (.link target)) ∨
      Walks files true links start names result := by
  induction walks with
  | done => exact .inr (.done _ _)
  | blocked _ _ _ _ outside => exact .inr (.blocked _ _ _ _ outside)
  | tooLong _ _ _ _ _ _ inside long => exact .inr (.tooLong _ _ _ _ _ _ inside long)
  | stay _ _ _ _ _ _ inside _ hypothesis =>
      exact hypothesis.imp_right (.stay _ _ _ _ _ _ inside)
  | ascend _ _ _ _ _ _ inside _ hypothesis =>
      exact hypothesis.imp_right (.ascend _ _ _ _ _ _ inside)
  | absent _ _ _ _ _ inside short proper nowhere =>
      exact .inr (.absent _ _ _ _ _ inside short proper nowhere)
  | lost _ _ _ _ _ _ _ inside short proper nowhere =>
      exact .inr (.lost _ _ _ _ _ _ _ inside short proper nowhere)
  | halt _ _ _ inode _ _ target _ _ _ _ isLink => exact .inl ⟨inode, target, rfl, isLink⟩
  | tangled _ _ _ _ _ _ _ inside short proper leads isLink =>
      exact .inr (.tangled _ _ _ _ _ _ _ inside short proper leads isLink (.inr rfl))
  | follow _ _ _ _ _ _ _ _ _ inside short proper leads isLink _ _ hypothesis =>
      exact hypothesis.imp_right
        (.follow _ _ _ _ _ _ _ _ _ inside short proper leads isLink (.inr rfl))
  | enter _ _ _ _ _ _ _ _ inside short proper leads noLink _ hypothesis =>
      exact hypothesis.imp_right (.enter _ _ _ _ _ _ _ _ inside short proper leads noLink)

/-- A path that leads to no entry leads to none when a link at its end is followed. -/
theorem walk_of_absent {links start : Nat} {names : List String}
    (absent : files.walk false links start names = .ok (.absent directory name)) :
    files.walk true links start names = .ok (.absent directory name) := by
  obtain ⟨_, _, found, -⟩ | walks := walks_or_isLink (walk_eq_iff.mp absent)
  · cases found
  · exact walks.eq

theorem resolve_of_absent {path : String}
    (absent : files.lookup false path = .ok (.absent directory name)) :
    files.resolve true path = .error (.number .noEntry) := by
  obtain ⟨sensible, walked⟩ := lookup_eq_ok_iff.mp absent
  rw [resolve, lookup_eq_ok_iff.mpr ⟨sensible, walk_of_absent walked⟩]

/-- A thing is made in a directory under a name that the directory does not have yet. -/
structure Adds (files later : FileSystem) (directory : Nat) (name : String) (new : Inode) :
    Prop where
  current : later.current = files.current
  mask : later.mask = files.mask
  nowhere : ∃ parent entries, files.content? directory = some (.directory parent entries) ∧
    entries.lookup name = none ∧
    later.content? directory =
      some (.directory parent (entries ++ [(name, files.inodes.length)]))
  made : later.get? files.inodes.length = some new
  others : ∀ inode, inode ≠ directory → inode ≠ files.inodes.length →
    later.content? inode = files.content? inode

theorem adds_insert {parent : Nat} {entries : List (String × Nat)}
    (isDirectory : files.content? directory = some (.directory parent entries))
    (nowhere : entries.lookup name = none) (new : Inode) :
    Adds files (files.insert directory name new).2 directory name new := by
  have inside := lt_of_content? isDirectory
  have extended : ∀ other, other ≠ files.inodes.length →
      ({ files with inodes := files.inodes ++ [new] } : FileSystem).content? other =
        files.content? other := by
    intro other distinct
    simp only [content?, get?, List.getElem?_append]
    split
    · rfl
    · rw [List.getElem?_eq_none (by simp; omega), List.getElem?_eq_none (by omega)]
  have inserted : (files.insert directory name new).2 =
      ({ files with inodes := files.inodes ++ [new] } : FileSystem).setContent directory
        (.directory parent (entries ++ [(name, files.inodes.length)])) := by
    simp only [insert, addEntry, extended directory (by omega), isDirectory]
  rw [inserted]
  exact {
    current := rfl
    mask := rfl
    nowhere := by
      refine ⟨parent, entries, isDirectory, nowhere, ?_⟩
      exact content?_setContent_self ((extended directory (by omega)).trans isDirectory) _
    made := by
      have apart : directory ≠ files.inodes.length := by omega
      simp [get?, setContent, apart]
    others := fun inode distinct old => by
      rw [content?_setContent_of_ne distinct, extended inode old] }

namespace Adds

variable {new : Inode}

theorem content?_made (adds : Adds files later directory name new) :
    later.content? files.inodes.length = some new.content := by
  rw [content?, adds.made]
  rfl

/-- Directories remain directories, with the entries that they had. -/
theorem remains (adds : Adds files later directory name new) {start parent : Nat}
    {entries : List (String × Nat)}
    (isDirectory : files.content? start = some (.directory parent entries)) :
    ∃ entries', later.content? start = some (.directory parent entries') ∧
      ∀ other, entries.lookup other ≠ none → entries'.lookup other = entries.lookup other := by
  obtain ⟨parent', entries', isLast, nowhere, extended⟩ := adds.nowhere
  by_cases same : start = directory
  · subst same
    rw [isLast] at isDirectory
    cases isDirectory
    refine ⟨_, extended, fun other present => ?_⟩
    obtain ⟨inode, leads⟩ := Option.ne_none_iff_exists'.mp present
    rw [List.lookup_append, leads, Option.some_or]
  · have inside := lt_of_content? isDirectory
    refine ⟨entries, ?_, fun _ _ => rfl⟩
    rw [adds.others start same (by omega), isDirectory]

theorem link_iff (adds : Adds files later directory name new)
    (noLink : ∀ target, new.content ≠ .link target) (inode : Nat) (target : String) :
    later.content? inode = some (.link target) ↔ files.content? inode = some (.link target) := by
  obtain ⟨parent, entries, isDirectory, -, extended⟩ := adds.nowhere
  by_cases isNew : inode = files.inodes.length
  · have nothing : files.content? inode ≠ some (.link target) := by
      intro present
      have := lt_of_content? present
      omega
    rw [isNew, adds.content?_made, ← isNew]
    simp [noLink target, nothing]
  · by_cases same : inode = directory
    · rw [same, extended, isDirectory]
      simp
    · rw [adds.others inode same isNew]

/-- Paths lead where they led, and the path that led to no entry leads to the new thing. -/
theorem walks (adds : Adds files later directory name new)
    (noLink : ∀ target, new.content ≠ .link target) {followLast : Bool} {links start : Nat}
    {names : List String} {result : Except Errno Lookup}
    (walks : Walks files followLast links start names result)
    (leads : result = .ok (.found inode) ∨
      result = .ok (.absent directory name) ∧ inode = files.inodes.length) :
    Walks later followLast links start names (.ok (.found inode)) := by
  induction walks with
  | done =>
      obtain same | ⟨other, -⟩ := leads
      · cases same
        exact .done _ _
      · cases other
  | stay _ _ _ _ _ _ inside _ hypothesis =>
      obtain ⟨entries', inside', -⟩ := adds.remains inside
      exact .stay _ _ _ _ _ _ inside' (hypothesis leads)
  | ascend _ _ _ _ _ _ inside _ hypothesis =>
      obtain ⟨entries', inside', -⟩ := adds.remains inside
      exact .ascend _ _ _ _ _ _ inside' (hypothesis leads)
  | absent _ _ parent entries _ inside short proper nowhere =>
      obtain other | ⟨same, rfl⟩ := leads
      · cases other
      cases same
      obtain ⟨parent', entries', isLast, -, extended⟩ := adds.nowhere
      rw [inside] at isLast
      cases isLast
      have entered : List.lookup name (entries ++ [(name, files.inodes.length)]) =
          some files.inodes.length := by
        rw [List.lookup_append, nowhere, Option.none_or, List.lookup_cons_self]
      refine .enter _ _ _ _ _ _ _ _ extended short proper entered (fun target isLink => ?_)
        (.done _ _)
      rw [adds.content?_made] at isLink
      exact noLink target (Option.some.inj isLink)
  | halt _ _ _ _ _ _ _ inside short proper present isLink stops =>
      obtain same | ⟨other, -⟩ := leads
      · cases same
        obtain ⟨entries', inside', keeps⟩ := adds.remains inside
        exact .halt _ _ _ _ _ _ _ inside' short proper ((keeps _ (by simp [present])).trans present)
          ((adds.link_iff noLink _ _).mpr isLink) stops
      · cases other
  | follow _ _ _ _ _ _ _ _ _ inside short proper present isLink goes _ hypothesis =>
      obtain ⟨entries', inside', keeps⟩ := adds.remains inside
      exact .follow _ _ _ _ _ _ _ _ _ inside' short proper
        ((keeps _ (by simp [present])).trans present) ((adds.link_iff noLink _ _).mpr isLink) goes
        (hypothesis leads)
  | enter _ _ _ entered _ _ _ _ inside short proper present notLink _ hypothesis =>
      obtain ⟨entries', inside', keeps⟩ := adds.remains inside
      exact .enter _ _ _ _ _ _ _ _ inside' short proper
        ((keeps _ (by simp [present])).trans present)
        (fun target isLink => notLink target ((adds.link_iff noLink entered target).mp isLink))
        (hypothesis leads)
  | _ =>
      obtain same | ⟨other, -⟩ := leads
      · cases same
      · cases other

theorem resolve_eq (adds : Adds files later directory name new)
    (noLink : ∀ target, new.content ≠ .link target) {path : String}
    (absent : files.lookup false path = .ok (.absent directory name)) :
    later.resolve true path = .ok files.inodes.length := by
  obtain ⟨sensible, walked⟩ := lookup_eq_ok_iff.mp absent
  rw [along, ← adds.current] at walked
  have walks := adds.walks noLink (walk_eq_iff.mp (walk_of_absent walked)) (.inr ⟨rfl, rfl⟩)
  rw [resolve, lookup_eq_ok_iff.mpr ⟨sensible, walks.eq⟩]

end Adds

/-- What is made at a path is one new thing, to which the path leads from then on. -/
theorem adds_of_make {path : String} {mode made : Nat} {content : Nat → Content}
    (done : files.make path mode content = .ok (made, later))
    (noLink : ∀ directory target, content directory ≠ .link target) :
    ∃ directory name, files.lookup false path = .ok (.absent directory name) ∧
      Adds files later directory name ⟨mode, content directory⟩ ∧
      later.resolve true path = .ok files.inodes.length := by
  unfold make at done
  split at done
  · cases done
  · cases done
  · rename_i directory name absent
    cases done
    obtain ⟨-, walked⟩ := lookup_eq_ok_iff.mp absent
    obtain ⟨parent, entries, isDirectory, nowhere⟩ := directory_of_absent walked
    have adds := adds_insert isDirectory nowhere ⟨mode, content directory⟩
    exact ⟨directory, name, absent, adds, adds.resolve_eq (noLink directory) absent⟩

/-- A FIFO that is made at a path is new, and nothing was there. -/
theorem found_of_makeFifo {path : String} {mode made : Nat}
    (makes : files.makeFifo path mode = .ok (made, later)) :
    files.resolve true path = .error (.number .noEntry) ∧
      ∃ inode, later.resolve true path = .ok inode ∧
        later.content? inode = some (.fifo .new) := by
  have noLink : ∀ (directory : Nat) (target : String), Content.fifo .new ≠ .link target :=
    fun _ _ isLink => by cases isLink
  obtain ⟨directory, name, absent, adds, leads⟩ := adds_of_make makes noLink
  exact ⟨resolve_of_absent absent, _, leads, adds.content?_made⟩

end FileSystem

end BoundedStream
