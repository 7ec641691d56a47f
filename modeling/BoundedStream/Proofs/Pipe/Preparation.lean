import BoundedStream.Config.Check
import BoundedStream.Host
import BoundedStream.Proofs.FileSystem.Entries

/-!
# Preparing endpoints

An endpoint is prepared where its path leads to a FIFO, and a consumer's also where its path
leads nowhere yet.  The test follows links and the making of a FIFO does not, so that a link
which leads nowhere is where the two disagree: nothing is found there, and nothing is made.
-/

namespace BoundedStream

namespace Pipe

variable {files later : FileSystem} {path : String} {role : Role} {mode : Nat} {flags : Int32}

/-- A path leads to a FIFO, links followed. -/
def LeadsToFifo (files : FileSystem) (path : String) : Prop :=
  ∃ inode fifo, files.resolve true path = .ok inode ∧ files.content? inode = some (.fifo fifo)

/-- How an endpoint comes to be prepared, and the file system after that. -/
inductive Prepares (files : FileSystem) (path : String) (mode : Nat) :
    Role → FileSystem → Prop
  | existing (role : Role) (leads : LeadsToFifo files path) : Prepares files path mode role files
  | awaited (missing : files.Missing path) : Prepares files path mode .consumer files
  | made (number : Nat) (later : FileSystem) (missing : files.Missing path)
      (makes : files.makeFifo path mode = .ok (number, later)) :
      Prepares files path mode .producer later

/-- Why no endpoint is prepared at a path, and the error that says so. -/
inductive Refuses (files : FileSystem) (path : String) : Role → PipeError → Prop
  | other (role : Role) (inode : Nat) (leads : files.resolve true path = .ok inode)
      (unlike : ∀ fifo, files.content? inode ≠ some (.fifo fifo)) :
      Refuses files path role (.notFifo path)
  | dangling (missing : files.Missing path) (link : files.NamesLink path) :
      Refuses files path .producer (.notFifo path)
  | unmakeable (missing : files.Missing path) (unlinked : ¬ files.NamesLink path)
      (nowhere : ¬ files.Vacant path) :
      Refuses files path .producer (.createFailed path (.number .noEntry))
  | unreachable (role : Role) (error : SystemError)
      (failed : files.resolve true path = .error error) (unlike : error.kind ≠ .notFound) :
      Refuses files path role (.openFailed path error)

theorem LeadsToFifo.not_missing (leads : LeadsToFifo files path) : ¬ files.Missing path := by
  obtain ⟨inode, fifo, leads, -⟩ := leads
  rintro ⟨error, failed, -⟩
  rw [leads] at failed
  cases failed

/-! ## The making of a FIFO -/

theorem leadsToFifo_iff : leadsToFifo files path = true ↔ LeadsToFifo files path := by
  rw [leadsToFifo, LeadsToFifo]
  cases files.resolve true path with
  | error error => simp
  | ok inode => simp [Option.isSome_iff_exists, FileSystem.fifo?_eq_some_iff]

/-- What came into existence since the test is taken as it is if it is a FIFO. -/
theorem makeFifo_of_exists (exist : files.makeFifo path mode = .error (.number .alreadyExists)) :
    (LeadsToFifo files path ∧ makeFifo files path mode = .ok files) ∨
      ¬ LeadsToFifo files path ∧ makeFifo files path mode = .error (.notFifo path) := by
  rw [makeFifo, exist, ← leadsToFifo_iff]
  cases leadsToFifo files path with
  | true => exact .inl ⟨rfl, rfl⟩
  | false => exact .inr ⟨Bool.false_ne_true, rfl⟩

theorem makeFifo_of_ok {number : Nat} (makes : files.makeFifo path mode = .ok (number, later)) :
    makeFifo files path mode = .ok later := by
  rw [makeFifo, makes]

theorem makeFifo_of_namesLink (missing : files.Missing path) (link : files.NamesLink path) :
    makeFifo files path mode = .error (.notFifo path) := by
  obtain ⟨leads, -⟩ | ⟨-, refused⟩ :=
    makeFifo_of_exists (FileSystem.make_of_namesLink missing link : files.makeFifo path mode = _)
  · exact absurd missing leads.not_missing
  · exact refused

theorem makeFifo_of_not_vacant (missing : files.Missing path)
    (unlinked : ¬ files.NamesLink path) (nowhere : ¬ files.Vacant path) :
    makeFifo files path mode = .error (.createFailed path (.number .noEntry)) := by
  rw [makeFifo, FileSystem.makeFifo, FileSystem.make_of_not_vacant missing unlinked nowhere]
  exact if_neg (by decide)

/-! ## Whether and how an endpoint is prepared -/

theorem Prepares.prepare_eq (prepares : Prepares files path mode role later) (flags : Int32) :
    prepare files path role mode flags = .ok (closed path role flags, later) := by
  cases prepares with
  | existing role leads =>
      obtain ⟨inode, fifo, leads, present⟩ := leads
      unfold prepare
      simp only [leads, FileSystem.fifo?_eq_some_iff.mpr present, Option.isSome_some, if_true]
  | awaited missing =>
      obtain ⟨error, failed, missing⟩ := missing
      rw [prepare, failed]
      exact if_pos missing
  | made number later missing makes =>
      obtain ⟨error, failed, missing⟩ := missing
      rw [prepare, failed]
      simp only [if_pos missing, makeFifo_of_ok makes]
      rfl

theorem Refuses.prepare_eq {error : PipeError} (refuses : Refuses files path role error)
    (mode : Nat) (flags : Int32) : prepare files path role mode flags = .error error := by
  cases refuses with
  | other role inode leads unlike =>
      have none : files.fifo? inode = none :=
        Option.eq_none_iff_forall_ne_some.mpr fun fifo present =>
          unlike fifo (FileSystem.fifo?_eq_some_iff.mp present)
      unfold prepare
      simp only [leads, none, Option.isSome_none, Bool.false_eq_true, if_false]
  | dangling missing link =>
      obtain ⟨error, failed, unfound⟩ := id missing
      rw [prepare, failed]
      simp only [if_pos unfound, makeFifo_of_namesLink missing link]
      rfl
  | unmakeable missing unlinked nowhere =>
      obtain ⟨error, failed, unfound⟩ := id missing
      rw [prepare, failed]
      simp only [if_pos unfound, makeFifo_of_not_vacant missing unlinked nowhere]
      rfl
  | unreachable role error failed unlike =>
      unfold prepare
      rw [failed]
      exact if_neg unlike

/-- Every endpoint is either prepared or refused. -/
theorem prepares_or_refuses (files : FileSystem) (path : String) (role : Role) (mode : Nat) :
    (∃ later, Prepares files path mode role later) ∨ ∃ error, Refuses files path role error := by
  cases led : files.resolve true path with
  | ok inode =>
      by_cases isFifo : ∃ fifo, files.content? inode = some (.fifo fifo)
      · obtain ⟨fifo, present⟩ := isFifo
        exact .inl ⟨files, .existing role ⟨inode, fifo, led, present⟩⟩
      · exact .inr ⟨_, .other role inode led (not_exists.mp isFifo)⟩
  | error error =>
      by_cases unfound : error.kind = .notFound
      · have missing : files.Missing path := ⟨error, led, unfound⟩
        cases role with
        | consumer => exact .inl ⟨files, .awaited missing⟩
        | producer =>
            by_cases link : files.NamesLink path
            · exact .inr ⟨_, .dangling missing link⟩
            · by_cases vacant : files.Vacant path
              · obtain ⟨number, later, makes⟩ := FileSystem.make_of_vacant vacant
                  (files.masked mode) fun _ => .fifo .new
                exact .inl ⟨later, .made number later missing makes⟩
              · exact .inr ⟨_, .unmakeable missing link vacant⟩
      · exact .inr ⟨_, .unreachable role error led unfound⟩

theorem prepares_of_prepare {pipe : Pipe}
    (prepared : prepare files path role mode flags = .ok (pipe, later)) :
    pipe = closed path role flags ∧ Prepares files path mode role later := by
  obtain ⟨other, prepares⟩ | ⟨error, refuses⟩ := prepares_or_refuses files path role mode
  · rw [prepares.prepare_eq] at prepared
    cases prepared
    exact ⟨rfl, prepares⟩
  · rw [refuses.prepare_eq] at prepared
    cases prepared

theorem Refuses.not_prepares {error : PipeError} (refuses : Refuses files path role error) :
    ¬ Prepares files path mode role later := by
  intro prepares
  have prepared := prepares.prepare_eq 0
  rw [refuses.prepare_eq] at prepared
  cases prepared

theorem Refuses.unique {error other : PipeError} (refuses : Refuses files path role error)
    (again : Refuses files path role other) : other = error := by
  have refused := again.prepare_eq 0 0
  rw [refuses.prepare_eq] at refused
  cases refused
  rfl

theorem prepares_iff :
    (∃ later, Prepares files path mode role later) ↔
      LeadsToFifo files path ∨ files.Missing path ∧ role = .consumer ∨
        files.Missing path ∧ role = .producer ∧ ∃ made, files.makeFifo path mode = .ok made := by
  constructor
  · rintro ⟨later, leads | missing | ⟨number, later, missing, makes⟩⟩
    · exact .inl ‹_›
    · exact .inr (.inl ⟨missing, rfl⟩)
    · exact .inr (.inr ⟨missing, rfl, (number, later), makes⟩)
  · rintro (leads | ⟨missing, rfl⟩ | ⟨missing, rfl, ⟨number, later⟩, makes⟩)
    · exact ⟨files, .existing role leads⟩
    · exact ⟨files, .awaited missing⟩
    · exact ⟨later, .made number later missing makes⟩

theorem Refuses.of_orphan {parent name : String} (orphan : files.Orphan path parent name) :
    Refuses files path .producer (.createFailed path (.number .noEntry)) := by
  have missing : files.Missing path := by
    refine ⟨.number .noEntry, ?_, by decide⟩
    rw [FileSystem.resolve, orphan.lookup_eq]
  refine .unmakeable missing ?_ ?_
  · rw [← FileSystem.hasEntry_iff_of_missing missing, orphan.not_hasEntry]
    exact Bool.false_ne_true
  · rintro ⟨directory, name, absent⟩
    rw [orphan.lookup_eq] at absent
    cases absent

/-! ## What preparing leaves behind -/

/-- The permission bits of a new thing are those asked for less those of the mask. -/
theorem testBit_masked (permissions : mode ≤ Config.greatestMode) (bit : Nat) :
    (files.masked mode).testBit bit = (mode.testBit bit && !files.mask.testBit bit) := by
  have bounded : mode < 0o10000 := by
    rw [Config.greatestMode] at permissions
    omega
  rw [FileSystem.masked, Nat.testBit_and, Nat.testBit_xor, Nat.mod_eq_of_lt bounded]
  by_cases low : bit < 12
  · have every : ∀ bit < 12, Nat.testBit 0o7777 bit = true := by decide
    rw [every bit low, Bool.true_xor]
  · have beyond : mode.testBit bit = false := Nat.testBit_lt_two_pow
      (Nat.lt_of_lt_of_le bounded (Nat.pow_le_pow_right Nat.two_pos (Nat.not_lt.mp low)))
    rw [beyond, Bool.false_and, Bool.false_and]

/-- What a producer makes where nothing was is one empty FIFO, and its path leads there. -/
theorem gains_of_makeFifo {number : Nat}
    (makes : files.makeFifo path mode = .ok (number, later)) :
    files.Gains later path ⟨files.masked mode, .fifo .new⟩ ∧ LeadsToFifo later path := by
  obtain ⟨-, directory, gains⟩ := FileSystem.gains_of_make makes (by simp)
  refine ⟨gains, files.inodes.length, .new, ?_, ?_⟩
  · rw [FileSystem.resolve, gains.leads]
  · rw [FileSystem.content?, gains.made]
    rfl

end Pipe

namespace Host

variable {host later : Host} {path : String} {role : Role} {mode : Nat} {flags : Int32}
  {result : Except PipeError Nat}

/-- What it comes to when an endpoint is to be prepared. -/
structure Preparation (host later : Host) (path : String) (role : Role) (mode : Nat)
    (flags : Int32) (result : Except PipeError Nat) : Prop where
  succeeds : (∃ number, result = .ok number) ↔
    Pipe.LeadsToFifo host.files path ∨
      host.files.Missing path ∧ role = .consumer ∨
      host.files.Missing path ∧ role = .producer ∧
        ∃ made, host.files.makeFifo path mode = .ok made
  fails : ∀ error, result = .error error ↔ Pipe.Refuses host.files path role error
  /-- A producer does not make the directories that its path leads through. -/
  orphaned : role = .producer → ∀ parent name, host.files.Orphan path parent name →
    result = .error (.createFailed path (.number .noEntry))
  /-- A failure leaves nothing behind. -/
  undone : ∀ error, result = .error error → later = host
  /-- What exists already is taken as it is, and a consumer makes nothing. -/
  untouched : role = .consumer ∨ (∃ inode, host.files.resolve true path = .ok inode) →
    later.files = host.files
  /-- The endpoint is the only change apart from the file system; its descriptor is not
  open. -/
  endpoint : ∀ number, result = .ok number →
    number = host.pipes.length ∧
      later = { host.withFiles later.files with
        pipes := host.pipes ++ [Pipe.closed path role flags] }
  /-- Where nothing was, one FIFO is made. -/
  made : (∃ number, result = .ok number) → role = .producer → host.files.Missing path →
    ∃ fifo : Inode, fifo.content = .fifo .new ∧
      (∀ bit, fifo.mode.testBit bit = (mode.testBit bit && !host.files.mask.testBit bit)) ∧
      host.files.Gains later.files path fifo
  /-- Whoever comes next finds a FIFO and adds an endpoint only. -/
  again : (∃ number, result = .ok number) → role = .producer →
    ∀ role mode flags, later.preparePipe path role mode flags =
      (.ok later.pipes.length,
        { later with pipes := later.pipes ++ [Pipe.closed path role flags] })

theorem preparePipe_of_prepares {files : FileSystem}
    (prepares : Pipe.Prepares host.files path mode role files) (flags : Int32) :
    host.preparePipe path role mode flags =
      (.ok host.pipes.length, { host.withFiles files with
        pipes := host.pipes ++ [Pipe.closed path role flags] }) := by
  rw [preparePipe, prepares.prepare_eq]
  rfl

theorem preparePipe_of_refuses {error : PipeError}
    (refuses : Pipe.Refuses host.files path role error) (mode : Nat) (flags : Int32) :
    host.preparePipe path role mode flags = (.error error, host) := by
  rw [preparePipe, refuses.prepare_eq]

theorem preparation_of_prepares (permissions : mode ≤ Config.greatestMode) {files : FileSystem}
    (prepares : Pipe.Prepares host.files path mode role files) (flags : Int32) :
    Preparation host
      { host.withFiles files with pipes := host.pipes ++ [Pipe.closed path role flags] }
      path role mode flags (.ok host.pipes.length) where
  succeeds := iff_of_true ⟨_, rfl⟩ (Pipe.prepares_iff.mp ⟨files, prepares⟩)
  fails := fun error => iff_of_false (by rintro ⟨⟩) fun refuses => refuses.not_prepares prepares
  orphaned := by
    rintro rfl parent name orphan
    exact absurd prepares (Pipe.Refuses.of_orphan orphan).not_prepares
  undone := by rintro error ⟨⟩
  untouched := by
    cases prepares with
    | existing | awaited => exact fun _ => rfl
    | made number files missing makes =>
        rintro (consumes | ⟨inode, leads⟩)
        · cases consumes
        · obtain ⟨error, failed, -⟩ := missing
          rw [leads] at failed
          cases failed
  endpoint := by
    rintro number ⟨⟩
    exact ⟨rfl, rfl⟩
  made := by
    rintro - rfl missing
    cases prepares with
    | existing _ leads => exact absurd missing leads.not_missing
    | made number files _ makes =>
        exact ⟨_, rfl, Pipe.testBit_masked permissions, (Pipe.gains_of_makeFifo makes).1⟩
  again := by
    rintro - rfl role mode flags
    refine preparePipe_of_prepares (.existing role ?_) flags
    cases prepares with
    | existing _ leads => exact leads
    | made number files _ makes => exact (Pipe.gains_of_makeFifo makes).2

theorem preparation_of_refuses {error : PipeError}
    (refuses : Pipe.Refuses host.files path role error) (mode : Nat) (flags : Int32) :
    Preparation host host path role mode flags (.error error) where
  succeeds := by
    refine iff_of_false (by rintro ⟨number, done⟩; cases done) fun possible => ?_
    obtain ⟨files, prepares⟩ := Pipe.prepares_iff.mpr possible
    exact refuses.not_prepares prepares
  fails := fun other => by
    constructor
    · rintro ⟨⟩
      exact refuses
    · intro again
      rw [refuses.unique again]
  orphaned := by
    rintro rfl parent name orphan
    rw [refuses.unique (.of_orphan orphan)]
  undone := fun _ _ => rfl
  untouched := fun _ => rfl
  endpoint := by rintro number ⟨⟩
  made := by
    rintro ⟨number, done⟩
    cases done
  again := by
    rintro ⟨number, done⟩
    cases done

/-- An endpoint is prepared where its path leads to a FIFO, where nothing is found and its role
is to consume, and where nothing is found and a FIFO can be made.  A failure leaves everything
as it was, and success opens no descriptor and adds at most the one FIFO. -/
theorem preparePipe_verdict (permissions : mode ≤ Config.greatestMode)
    (prepared : host.preparePipe path role mode flags = (result, later)) :
    Preparation host later path role mode flags result := by
  obtain ⟨files, prepares⟩ | ⟨error, refuses⟩ :=
    Pipe.prepares_or_refuses host.files path role mode
  · rw [preparePipe_of_prepares prepares] at prepared
    cases prepared
    exact preparation_of_prepares permissions prepares flags
  · rw [preparePipe_of_refuses refuses] at prepared
    cases prepared
    exact preparation_of_refuses refuses mode flags

/-- On a fresh machine a producer makes its FIFO, which others may read but not write. -/
theorem preparation_fresh : 0o666 ≤ Config.greatestMode ∧ ∃ later,
    fresh.preparePipe "data.fifo" .producer 0o666 0 = (.ok 0, later) ∧
      Preparation fresh later "data.fifo" .producer 0o666 0 (.ok 0) := by
  have absent : fresh.files.lookup false "data.fifo" = .ok (.absent 1 "data.fifo") := rfl
  have missing : fresh.files.Missing "data.fifo" :=
    ⟨_, FileSystem.resolve_of_absent absent, by decide⟩
  obtain ⟨number, files, makes⟩ := FileSystem.make_of_vacant ⟨1, "data.fifo", absent⟩
    (fresh.files.masked 0o666) fun _ => .fifo .new
  have prepared := preparePipe_of_prepares (.made number files missing makes) 0
  exact ⟨by decide, _, prepared, preparePipe_verdict (by decide) prepared⟩

end Host

end BoundedStream
