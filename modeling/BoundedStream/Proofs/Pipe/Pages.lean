import BoundedStream.Config
import BoundedStream.FileSystem.OpenFile

/-!
# The bytes of a FIFO

Whatever pages the bytes of a FIFO lie in, a read takes them from the front and a write adds
to the end.  No page is ever left without bytes, so that a FIFO without bytes has all its pages
free.  Neither touches the ends that are open.
-/

namespace BoundedStream

namespace Fifo

/-- The ends that are open on the side of a role. -/
def ends (fifo : Fifo) : Role → Nat
  | .producer => fifo.writers
  | .consumer => fifo.readers

/-- How often an end was opened on the side of a role. -/
def opens (fifo : Fifo) : Role → Nat
  | .producer => fifo.writerOpens
  | .consumer => fifo.readerOpens

/-- No page is without bytes. -/
def Packed (fifo : Fifo) : Prop := ∀ page ∈ fifo.pages, page.bytes ≠ []

/-- A FIFO has the same ends as before, and the given bytes. -/
structure Refilled (fifo later : Fifo) (contents : List UInt8) : Prop where
  ends : ∀ role, later.ends role = fifo.ends role
  opens : ∀ role, later.opens role = fifo.opens role
  packed : later.Packed
  contents_eq : later.contents = contents

section

variable {fifo : Fifo} {pages : List Page} {count : Nat} {data : List UInt8}

theorem pages_eq_nil_iff (packed : fifo.Packed) : fifo.pages = [] ↔ fifo.contents = [] := by
  unfold Packed at packed
  unfold contents
  cases isPages : fifo.pages with
  | nil => simp
  | cons page pages =>
      have some : page.bytes ≠ [] := packed page (by simp [isPages])
      simp [some]

theorem refilled_pages (ends : ∀ page ∈ pages, page.bytes ≠ []) :
    Refilled fifo { fifo with pages } (pages.flatMap Page.bytes) where
  ends role := by cases role <;> rfl
  opens role := by cases role <;> rfl
  packed := ends
  contents_eq := rfl

theorem Refilled.untouched (packed : fifo.Packed) : Refilled fifo fifo (fifo.contents ++ []) := by
  rw [List.append_nil]
  exact refilled_pages packed

theorem Refilled.trans {middle later : Fifo} {contents contents' : List UInt8}
    (first : Refilled fifo middle contents) (second : Refilled middle later contents') :
    Refilled fifo later contents' where
  ends role := (second.ends role).trans (first.ends role)
  opens role := (second.opens role).trans (first.opens role)
  packed := second.packed
  contents_eq := second.contents_eq

/-! ## Reading -/

theorem takeFrom_append (pages : List Page) (count : Nat) :
    (takeFrom pages count).1 ++ (takeFrom pages count).2.flatMap Page.bytes =
      pages.flatMap Page.bytes := by
  induction pages generalizing count with
  | nil => rfl
  | cons page pages hypothesis =>
      simp only [takeFrom, List.flatMap_cons]
      split
      · rename_i all
        have isLast : page.bytes.drop count = [] := List.isEmpty_iff.mp all
        have whole : page.bytes.take count = page.bytes := by
          rw [← List.append_nil (page.bytes.take count), ← isLast, List.take_append_drop]
        rw [List.append_assoc, hypothesis, whole]
      · rw [List.flatMap_cons, ← List.append_assoc, List.take_append_drop]

theorem length_takeFrom_le (pages : List Page) (count : Nat) :
    (takeFrom pages count).1.length ≤ count := by
  induction pages generalizing count with
  | nil => exact Nat.zero_le count
  | cons page pages hypothesis =>
      have short : (page.bytes.take count).length ≤ count := List.length_take_le _ _
      simp only [takeFrom]
      split
      · have rest := hypothesis (count - (page.bytes.take count).length)
        rw [List.length_append]
        omega
      · exact short

theorem takeFrom_ne_nil (positive : count ≠ 0) (packed : ∀ page ∈ pages, page.bytes ≠ [])
    (some : pages ≠ []) : (takeFrom pages count).1 ≠ [] := by
  cases pages with
  | nil => exact absurd rfl some
  | cons page pages =>
      have taken : page.bytes.take count ≠ [] := by
        simp [List.take_eq_nil_iff, positive, packed page (by simp)]
      simp only [takeFrom]
      split
      · exact List.append_ne_nil_of_left_ne_nil taken _
      · exact taken

theorem packed_takeFrom (packed : ∀ page ∈ pages, page.bytes ≠ []) (count : Nat) :
    ∀ page ∈ (takeFrom pages count).2, page.bytes ≠ [] := by
  induction pages generalizing count with
  | nil => exact packed
  | cons page pages hypothesis =>
      have others : ∀ other ∈ pages, other.bytes ≠ [] :=
        fun other member => packed other (List.mem_cons_of_mem page member)
      simp only [takeFrom]
      split
      · exact hypothesis others _
      · rename_i more
        intro other member
        rcases List.mem_cons.mp member with rfl | member
        · simpa using more
        · exact others other member

/-- A read takes bytes from the front, no more than it is to, and some if there are any. -/
theorem read_spec (packed : fifo.Packed) (count : Nat) : ∃ rest,
    fifo.contents = (fifo.read count).1 ++ rest ∧ Refilled fifo (fifo.read count).2 rest ∧
      (fifo.read count).1.length ≤ count ∧
      (count ≠ 0 → fifo.contents ≠ [] → (fifo.read count).1 ≠ []) := by
  refine ⟨_, (takeFrom_append fifo.pages count).symm,
    refilled_pages (packed_takeFrom packed count), length_takeFrom_le _ _,
    fun positive some => ?_⟩
  exact takeFrom_ne_nil positive packed fun none => some ((pages_eq_nil_iff packed).mp none)

/-! ## Writing -/

theorem extendLast_spec {later : List Page} (nonempty : data ≠ [])
    (extended : extendLast pages data = some later)
    (packed : ∀ page ∈ pages, page.bytes ≠ []) :
    later.flatMap Page.bytes = pages.flatMap Page.bytes ++ data ∧
      ∀ page ∈ later, page.bytes ≠ [] := by
  fun_induction extendLast pages data generalizing later with
  | case1 => cases extended
  | case2 page data fits =>
      cases extended
      simp [nonempty]
  | case3 => cases extended
  | case4 page pages data several hypothesis =>
      obtain ⟨rest, isRest, rfl⟩ := Option.map_eq_some_iff.mp extended
      obtain ⟨contents_eq, packed'⟩ := hypothesis nonempty isRest
        fun other member => packed other (List.mem_cons_of_mem page member)
      refine ⟨by simp [contents_eq], fun other member => ?_⟩
      rcases List.mem_cons.mp member with rfl | member
      · exact packed other (by simp)
      · exact packed' other member

theorem beginWrite_spec (packed : fifo.Packed) (data : List UInt8) : ∃ part,
    data = part ++ (fifo.beginWrite data).1 ∧
      Refilled fifo (fifo.beginWrite data).2 (fifo.contents ++ part) := by
  simp only [beginWrite]
  split
  · exact ⟨[], rfl, .untouched packed⟩
  · rename_i odd
    split
    · rename_i pages extended
      have nonempty : data.take (data.length % pageSize) ≠ [] := by
        rw [Ne, List.take_eq_nil_iff]
        rintro (none | rfl)
        · exact odd none
        · exact odd rfl
      obtain ⟨contents_eq, packed'⟩ := extendLast_spec nonempty extended packed
      refine ⟨_, (List.take_append_drop _ data).symm, ?_⟩
      rw [contents, ← contents_eq]
      exact refilled_pages packed'
    · exact ⟨[], rfl, .untouched packed⟩

theorem fillPages_spec (count : Nat) (packed : fifo.Packed) (data : List UInt8) : ∃ part,
    data = part ++ (fillPages count fifo data).1 ∧
      Refilled fifo (fillPages count fifo data).2 (fifo.contents ++ part) ∧
        (count ≠ 0 → data ≠ [] → part ≠ []) := by
  induction count generalizing fifo data with
  | zero => exact ⟨[], rfl, .untouched packed, by simp⟩
  | succ count hypothesis =>
      simp only [fillPages]
      split
      · rename_i none
        refine ⟨[], rfl, .untouched packed, fun _ some => ?_⟩
        exact absurd (List.isEmpty_iff.mp none) some
      · rename_i some
        have nonempty : data.take pageSize ≠ [] := by
          simpa [List.take_eq_nil_iff, pageSize] using some
        have added : Refilled fifo
            { fifo with
              pages := fifo.pages ++ [⟨(data.take pageSize).length, data.take pageSize⟩] }
            (fifo.contents ++ data.take pageSize) := by
          have packed' : ∀ page ∈
              fifo.pages ++ [⟨(data.take pageSize).length, data.take pageSize⟩],
              page.bytes ≠ [] := by
            intro page member
            rcases List.mem_append.mp member with old | new
            · exact packed page old
            · rw [List.mem_singleton.mp new]
              exact nonempty
          simpa [contents] using refilled_pages packed'
        obtain ⟨part, whole, refilled, -⟩ := hypothesis added.packed (data.drop pageSize)
        refine ⟨data.take pageSize ++ part, ?_, ?_, fun _ _ => ?_⟩
        · rw [List.append_assoc, ← whole, List.take_append_drop]
        · rw [← List.append_assoc, ← added.contents_eq]
          exact added.trans refilled
        · exact List.append_ne_nil_of_left_ne_nil nonempty _

end

end Fifo

namespace OpenFile

variable {fifo : Fifo} {progress : WriteProgress}

/-- A write adds a part of its data to the end, and some of it if no other bytes are in the
way. -/
theorem fill_spec (packed : fifo.Packed) (progress : WriteProgress) :
    ∃ part, progress.rest = part ++ (fill fifo progress).1.rest ∧
      (fill fifo progress).1.written = progress.written + part.length ∧
      (fill fifo progress).1.begun = true ∧
      Fifo.Refilled fifo (fill fifo progress).2 (fifo.contents ++ part) ∧
      (fifo.contents = [] → progress.rest ≠ [] → part ≠ []) := by
  obtain ⟨early, whole, begins⟩ : ∃ part,
      progress.rest = part ++
        (if progress.begun then (progress.rest, fifo) else fifo.beginWrite progress.rest).1 ∧
      Fifo.Refilled fifo
        (if progress.begun then (progress.rest, fifo) else fifo.beginWrite progress.rest).2
        (fifo.contents ++ part) := by
    split
    · exact ⟨[], rfl, .untouched packed⟩
    · exact Fifo.beginWrite_spec packed progress.rest
  generalize isBegun :
    (if progress.begun then (progress.rest, fifo) else fifo.beginWrite progress.rest) = begun
    at whole begins
  obtain ⟨behind, middle⟩ := begun
  dsimp only at whole begins
  obtain ⟨late, whole', refilled, some⟩ :=
    Fifo.fillPages_spec (Fifo.pageLimit - middle.pages.length) begins.packed behind
  simp only [fill, isBegun, Fifo.continueWrite]
  refine ⟨early ++ late, ?_, ?_, trivial, ?_, fun empty nonempty => ?_⟩
  · rw [List.append_assoc, ← whole', ← whole]
  · have total := congrArg List.length whole
    have total' := congrArg List.length whole'
    simp only [List.length_append] at total total' ⊢
    omega
  · rw [← List.append_assoc, ← begins.contents_eq]
    exact begins.trans refilled
  · -- Without bytes all pages are free, unless a part was added to the last one before.
    intro none
    obtain ⟨rfl, rfl⟩ := List.append_eq_nil_iff.mp none
    have isFree : middle.pages = [] := by
      rw [Fifo.pages_eq_nil_iff begins.packed, begins.contents_eq, empty, List.nil_append]
    have remains : behind ≠ [] := by simpa [whole] using nonempty
    exact some (by rw [isFree]; decide) remains rfl

section Write

variable {files later : FileSystem} {file : OpenFile}
  (writable : file.writable = true) (isFifo : files.content? file.inode = some (.fifo fifo))

include writable isFifo

theorem write_of_done {count : Option Nat} {made : WriteProgress}
    (done : file.writeFifo files fifo progress = .done (count, made, later)) :
    file.write files progress = .done (count, made, later, file) := by
  simp only [write, writable, isFifo, done, Bool.not_true, Bool.false_eq_true, if_false]

theorem write_of_stuck
    (stuck : file.writeFifo files fifo progress =
      if file.has .nonblock then .failed .tryAgain else .blocked) :
    file.write files progress =
      if file.has .nonblock then .failed .tryAgain else .blocked := by
  simp only [write, writable, isFifo, stuck, Bool.not_true, Bool.false_eq_true, if_false]
  cases file.has .nonblock <;> rfl

end Write

/-- A write that finds a reader adds bytes and ends, adds bytes or at least begins, or cannot go
on.  Only bytes that were not taken yet can be in its way. -/
theorem writeFifo_cases (files : FileSystem) (file : OpenFile) (packed : fifo.Packed)
    (reader : fifo.readers ≠ 0) (remains : progress.rest ≠ [])
    (fresh : progress.begun = false → progress.written = 0)
    (patient : progress.begun = true → file.has .nonblock = false) :
    (∃ later part rest, fifo.Refilled later (fifo.contents ++ part) ∧
      progress.rest = part ++ rest ∧
      (file.writeFifo files fifo progress =
          .done (some (progress.written + part.length),
            ⟨true, progress.written + part.length, rest⟩,
            files.setContent file.inode (.fifo later)) ∧ part ≠ [] ∨
        file.writeFifo files fifo progress =
          .done (none, ⟨true, progress.written + part.length, rest⟩,
            files.setContent file.inode (.fifo later)) ∧
          rest ≠ [] ∧ file.has .nonblock = false ∧ (part = [] → progress.begun = false))) ∨
    fifo.contents ≠ [] ∧ file.writeFifo files fifo progress =
      if file.has .nonblock then .failed .tryAgain else .blocked := by
  obtain ⟨part, whole, written, begun, refilled, some⟩ := fill_spec packed progress
  have more : ¬ progress.rest.isEmpty = true := fun none => remains (List.isEmpty_iff.mp none)
  rw [writeFifo, if_neg more, if_neg reader]
  generalize fill fifo progress = filled at *
  obtain ⟨⟨_, _, rest⟩, later⟩ := filled
  dsimp only at whole written begun refilled ⊢
  subst begun written
  by_cases all : rest = []
  · subst all
    have taken : part ≠ [] := by
      rintro rfl
      exact remains whole
    exact .inl ⟨later, part, [], refilled, whole, .inl ⟨rfl, taken⟩⟩
  · rw [if_neg (by simpa using all)]
    cases hasty : file.has .nonblock with
    | true =>
        -- A write that must not wait ends with its first attempt.
        have notBegun : progress.begun = false := by
          cases isBegun : progress.begun with
          | false => rfl
          | true => exact absurd (hasty.symm.trans (patient isBegun)) (by decide)
        by_cases none : part = []
        · refine .inr ⟨fun empty => some empty remains none, ?_⟩
          simp [none, fresh notBegun]
        · refine .inl ⟨later, part, rest, refilled, whole, .inl ⟨?_, none⟩⟩
          simp [none]
    | false =>
        by_cases stuck : part = [] ∧ progress.begun = true
        · refine .inr ⟨fun empty => some empty remains stuck.1, ?_⟩
          simp [stuck]
        · refine .inl ⟨later, part, rest, refilled, whole, .inr ⟨?_, all, rfl, ?_⟩⟩
          · simp [stuck]
          · intro none
            simpa [none] using stuck

/-- A read takes bytes, finds the end of the stream, or cannot go on. -/
theorem readFifo_cases (files : FileSystem) (file : OpenFile) (packed : fifo.Packed)
    {count : Nat} (positive : count ≠ 0) :
    (∃ later bytes, fifo.Refilled later later.contents ∧
      fifo.contents = bytes ++ later.contents ∧ bytes ≠ [] ∧ bytes.length ≤ count ∧
      file.readFifo files fifo count =
        .done (bytes, files.setContent file.inode (.fifo later), file)) ∨
    fifo.contents = [] ∧ file.readFifo files fifo count =
      if fifo.writers = 0 then .done ([], files, file)
      else if file.has .nonblock then .failed .tryAgain else .blocked := by
  rw [readFifo, if_neg positive]
  by_cases empty : fifo.contents = []
  · have noPages : fifo.pages.isEmpty = true :=
      List.isEmpty_iff.mpr ((Fifo.pages_eq_nil_iff packed).mpr empty)
    rw [if_pos noPages]
    exact .inr ⟨empty, rfl⟩
  · have somePages : ¬ fifo.pages.isEmpty = true := fun none =>
      empty ((Fifo.pages_eq_nil_iff packed).mp (List.isEmpty_iff.mp none))
    rw [if_neg somePages]
    obtain ⟨rest, whole, refilled, short, some⟩ := Fifo.read_spec packed count
    rw [← refilled.contents_eq] at whole refilled
    exact .inl ⟨_, _, refilled, whole, some positive empty, short, rfl⟩

end OpenFile

end BoundedStream
