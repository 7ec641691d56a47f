import BoundedStream.FileSystem

/-!
# Walks along paths

The rules by which a path is followed, one for each thing that a component may be.  They say
exactly where a walk ends, so that whatever is kept by each rule is kept by every walk.
-/

namespace BoundedStream

namespace FileSystem

variable {files : FileSystem} {followLast : Bool} {links directory parent inode : Nat}
  {entries : List (String × Nat)} {name target : String} {rest names : List String}
  {result : Except Errno Lookup}

/-- How a walk goes on from a directory, and where it ends. -/
inductive Walks (files : FileSystem) (followLast : Bool) :
    Nat → Nat → List String → Except Errno Lookup → Prop
  | done (links directory : Nat) :
      Walks files followLast links directory [] (.ok (.found directory))
  | blocked (links directory : Nat) (name : String) (rest : List String)
      (outside : ∀ parent entries, files.content? directory ≠ some (.directory parent entries)) :
      Walks files followLast links directory (name :: rest) (.error .notDirectory)
  | tooLong (links directory parent : Nat) (entries : List (String × Nat)) (name : String)
      (rest : List String) (inside : files.content? directory = some (.directory parent entries))
      (long : greatestName < name.utf8ByteSize) :
      Walks files followLast links directory (name :: rest) (.error .nameTooLong)
  | stay (links directory parent : Nat) (entries : List (String × Nat)) (rest : List String)
      (result : Except Errno Lookup)
      (inside : files.content? directory = some (.directory parent entries))
      (goesOn : Walks files followLast links directory rest result) :
      Walks files followLast links directory ("." :: rest) result
  | ascend (links directory parent : Nat) (entries : List (String × Nat)) (rest : List String)
      (result : Except Errno Lookup)
      (inside : files.content? directory = some (.directory parent entries))
      (goesOn : Walks files followLast links parent rest result) :
      Walks files followLast links directory (".." :: rest) result
  | absent (links directory parent : Nat) (entries : List (String × Nat)) (name : String)
      (inside : files.content? directory = some (.directory parent entries))
      (short : name.utf8ByteSize ≤ greatestName) (proper : name ≠ "." ∧ name ≠ "..")
      (nowhere : entries.lookup name = none) :
      Walks files followLast links directory [name] (.ok (.absent directory name))
  | lost (links directory parent : Nat) (entries : List (String × Nat)) (name next : String)
      (rest : List String) (inside : files.content? directory = some (.directory parent entries))
      (short : name.utf8ByteSize ≤ greatestName) (proper : name ≠ "." ∧ name ≠ "..")
      (nowhere : entries.lookup name = none) :
      Walks files followLast links directory (name :: next :: rest) (.error .noEntry)
  | halt (links directory parent inode : Nat) (entries : List (String × Nat))
      (name target : String)
      (inside : files.content? directory = some (.directory parent entries))
      (short : name.utf8ByteSize ≤ greatestName) (proper : name ≠ "." ∧ name ≠ "..")
      (leads : entries.lookup name = some inode)
      (isLink : files.content? inode = some (.link target)) (stops : followLast = false) :
      Walks files followLast links directory [name] (.ok (.found inode))
  | tangled (directory parent inode : Nat) (entries : List (String × Nat))
      (name target : String) (rest : List String)
      (inside : files.content? directory = some (.directory parent entries))
      (short : name.utf8ByteSize ≤ greatestName) (proper : name ≠ "." ∧ name ≠ "..")
      (leads : entries.lookup name = some inode)
      (isLink : files.content? inode = some (.link target))
      (goes : rest ≠ [] ∨ followLast = true) :
      Walks files followLast 0 directory (name :: rest) (.error .linkLoop)
  | follow (links directory parent inode : Nat) (entries : List (String × Nat))
      (name target : String) (rest : List String) (result : Except Errno Lookup)
      (inside : files.content? directory = some (.directory parent entries))
      (short : name.utf8ByteSize ≤ greatestName) (proper : name ≠ "." ∧ name ≠ "..")
      (leads : entries.lookup name = some inode)
      (isLink : files.content? inode = some (.link target))
      (goes : rest ≠ [] ∨ followLast = true)
      (goesOn : Walks files followLast links (if isAbsolute target then 0 else directory)
        (components target ++ rest) result) :
      Walks files followLast (links + 1) directory (name :: rest) result
  | enter (links directory parent inode : Nat) (entries : List (String × Nat)) (name : String)
      (rest : List String) (result : Except Errno Lookup)
      (inside : files.content? directory = some (.directory parent entries))
      (short : name.utf8ByteSize ≤ greatestName) (proper : name ≠ "." ∧ name ≠ "..")
      (leads : entries.lookup name = some inode)
      (noLink : ∀ target, files.content? inode ≠ some (.link target))
      (goesOn : Walks files followLast links inode rest result) :
      Walks files followLast links directory (name :: rest) result

private theorem goes_iff :
    ¬ (rest.isEmpty && !followLast) = true ↔ rest ≠ [] ∨ followLast = true := by
  cases rest <;> simp

/-- Where a walk goes on that may lead through so many more links. -/
def follow (files : FileSystem) (followLast : Bool) :
    (links base : Nat) → List String → Except Errno Lookup
  | 0, _, _ => .error .linkLoop
  | links + 1, base, names => files.walk followLast links base names

theorem walk_eq (files : FileSystem) (followLast : Bool) (links : Nat) :
    files.walk followLast links = files.walkWith followLast (files.follow followLast links) := by
  cases links <;> rfl

/-- Every walk goes by the rules. -/
theorem walks_walk (files : FileSystem) (followLast : Bool) (links directory : Nat)
    (names : List String) :
    Walks files followLast links directory names (files.walk followLast links directory names) := by
  -- The names get fewer up to a link, and behind it the links that may still be followed.
  induction links using Nat.strongRecOn generalizing directory names with
  | ind links shorter =>
      rw [walk_eq]
      fun_induction walkWith files followLast _ directory names with
      | case1 => exact .done _ _
      | case2 _ _ _ _ _ inside long => exact .tooLong _ _ _ _ _ _ inside long
      | case3 _ _ _ _ inside _ goesOn => exact .stay _ _ _ _ _ _ inside goesOn
      | case4 _ _ _ _ inside _ _ goesOn => exact .ascend _ _ _ _ _ _ inside goesOn
      | case5 _ _ _ _ _ inside short notSelf notParent nowhere last =>
          obtain rfl := List.isEmpty_iff.mp last
          exact .absent _ _ _ _ _ inside (Nat.not_lt.mp short) ⟨notSelf, notParent⟩ nowhere
      | case6 _ _ rest _ _ inside short notSelf notParent nowhere more =>
          cases rest with
          | nil => exact absurd rfl more
          | cons next rest =>
              exact .lost _ _ _ _ _ _ _ inside (Nat.not_lt.mp short) ⟨notSelf, notParent⟩ nowhere
      | case7 _ _ _ _ _ inside short notSelf notParent _ leads _ isLink last =>
          obtain ⟨last, stops⟩ := Bool.and_eq_true_iff.mp last
          obtain rfl := List.isEmpty_iff.mp last
          exact .halt _ _ _ _ _ _ _ inside (Nat.not_lt.mp short) ⟨notSelf, notParent⟩ leads
            isLink (by simpa using stops)
      | case8 _ _ _ _ _ inside short notSelf notParent _ leads _ isLink more =>
          have goes := goes_iff.mp more
          cases links with
          | zero =>
              exact .tangled _ _ _ _ _ _ _ inside (Nat.not_lt.mp short) ⟨notSelf, notParent⟩
                leads isLink goes
          | succ links =>
              exact .follow _ _ _ _ _ _ _ _ _ inside (Nat.not_lt.mp short)
                ⟨notSelf, notParent⟩ leads isLink goes (shorter links (Nat.lt_succ_self links) _ _)
      | case9 _ _ _ _ _ inside short notSelf notParent _ leads noLink goesOn =>
          exact .enter _ _ _ _ _ _ _ _ inside (Nat.not_lt.mp short) ⟨notSelf, notParent⟩ leads
            noLink goesOn
      | case10 _ _ _ outside => exact .blocked _ _ _ _ outside

/-- The rules say where a walk ends. -/
theorem Walks.eq (walks : Walks files followLast links directory names result) :
    files.walk followLast links directory names = result := by
  rw [walk_eq]
  induction walks with
  | done => rw [walkWith]
  | blocked links directory name rest outside =>
      rw [walkWith]
      split
      · rename_i parent entries inside
        exact absurd inside (outside parent entries)
      · rfl
  | tooLong links directory parent entries name rest inside long =>
      rw [walkWith, inside]
      exact if_pos long
  | stay links directory parent entries rest result inside goesOn hypothesis =>
      rw [walkWith, inside]
      exact hypothesis
  | ascend links directory parent entries rest result inside goesOn hypothesis =>
      rw [walkWith, inside]
      exact hypothesis
  | absent links directory parent entries name inside short proper nowhere =>
      rw [walkWith, inside]
      simp [Nat.not_lt.mpr short, proper, nowhere]
  | lost links directory parent entries name next rest inside short proper nowhere =>
      rw [walkWith, inside]
      simp [Nat.not_lt.mpr short, proper, nowhere]
  | halt links directory parent inode entries name target inside short proper leads isLink stops =>
      rw [walkWith, inside]
      simp [Nat.not_lt.mpr short, proper, leads, isLink, stops]
  | tangled directory parent inode entries name target rest inside short proper leads isLink goes =>
      rw [walkWith, inside]
      simp only [if_neg (Nat.not_lt.mpr short), if_neg proper.1, if_neg proper.2, leads, isLink]
      exact if_neg (goes_iff.mpr goes)
  | follow links directory parent inode entries name target rest result inside short proper leads
      isLink goes goesOn hypothesis =>
      rw [← walk_eq] at hypothesis
      rw [walkWith, inside]
      simp only [if_neg (Nat.not_lt.mpr short), if_neg proper.1, if_neg proper.2, leads, isLink]
      exact (if_neg (goes_iff.mpr goes)).trans hypothesis
  | enter links directory parent inode entries name rest result inside short proper leads noLink
      goesOn hypothesis =>
      rw [walkWith, inside]
      simp only [if_neg (Nat.not_lt.mpr short), if_neg proper.1, if_neg proper.2, leads]
      exact hypothesis

theorem walk_eq_iff :
    files.walk followLast links directory names = result ↔
      Walks files followLast links directory names result :=
  ⟨fun walked => walked ▸ walks_walk files followLast links directory names, Walks.eq⟩

end FileSystem

end BoundedStream
