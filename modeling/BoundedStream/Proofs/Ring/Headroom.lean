import BoundedStream.Proofs.Ring.Words
import BoundedStream.Proofs.Ring.Crowd
import BoundedStream.Proofs.Region.Lifecycle
import Mathlib.Order.Bounds.Defs

/-!
# Headroom of rings

A ring is only made with a capacity that leaves half of all words free.  The size of its
memory is computed without a fault whatever capacity is asked for, and as long as calls take
their steps, in any interleaving, every one of them computes without a fault in words what it
does to the numbers and bytes of the ring.
-/

namespace BoundedStream

namespace GuardedRing

/-! ## Making rings -/

/-- Header and data of a ring, rounded up to the alignment. -/
def footprint (capacity : Nat) : Nat :=
  (headerSize + capacity + (alignment - 1)) / alignment * alignment

theorem footprint_isLeast (capacity : Nat) :
    IsLeast {size | alignment ∣ size ∧ headerSize + capacity ≤ size}
      (footprint capacity) := by
  refine ⟨⟨Nat.dvd_mul_left .., ?_⟩, ?_⟩
  · simp only [footprint, alignment]
    omega
  · rintro size ⟨⟨quotient, rfl⟩, holds⟩
    simp only [footprint, alignment] at *
    omega

theorem greatestSize_lt_footprint_iff (capacity : Nat) :
    greatestSize < footprint capacity ↔
      greatestSize - (alignment - 1) < headerSize + capacity := by
  have greatest : greatestSize = 9223372036854775807 := by decide
  simp only [greatest, footprint, headerSize, alignment]
  omega

theorem allocate_of_fits {capacity : Nat} (positive : 0 < capacity)
    (fits : footprint capacity ≤ greatestSize) :
    allocate capacity = .ok (new capacity false) := by
  have inside := mt (greatestSize_lt_footprint_iff capacity).mpr (Nat.not_lt.mpr fits)
  rw [allocate, if_neg (Nat.ne_of_gt positive), if_neg inside]

theorem allocate_of_not_fits {capacity : Nat}
    (refused : capacity = 0 ∨ greatestSize < footprint capacity) :
    ∃ reason, allocate capacity = .error (.invalidCapacity capacity reason) := by
  unfold allocate
  by_cases empty : capacity = 0
  · exact ⟨_, if_pos empty⟩
  · have beyond := (greatestSize_lt_footprint_iff capacity).mp (refused.resolve_left empty)
    rw [if_neg empty]
    exact ⟨_, if_pos beyond⟩

/-- Exactly the capacity zero and those that do not fit the address space are refused. -/
theorem allocate_eq_error_iff {capacity : Nat} :
    (∃ reason, allocate capacity = .error (.invalidCapacity capacity reason)) ↔
      capacity = 0 ∨ greatestSize < footprint capacity := by
  refine ⟨?_, allocate_of_not_fits⟩
  rintro ⟨reason, refused⟩
  by_contra accepted
  rw [not_or, Nat.not_lt] at accepted
  rw [allocate_of_fits (Nat.pos_of_ne_zero accepted.1) accepted.2] at refused
  cases refused

theorem allocate_eq_ok_iff {capacity : Nat} {guarded : GuardedRing} :
    allocate capacity = .ok guarded ↔
      0 < capacity ∧ footprint capacity ≤ greatestSize ∧ guarded = new capacity false := by
  constructor
  · intro allocated
    by_cases refused : capacity = 0 ∨ greatestSize < footprint capacity
    · obtain ⟨reason, error⟩ := allocate_of_not_fits refused
      rw [error] at allocated
      cases allocated
    · rw [not_or, Nat.not_lt] at refused
      have positive := Nat.pos_of_ne_zero refused.1
      rw [allocate_of_fits positive refused.2] at allocated
      cases allocated
      exact ⟨positive, refused.2, rfl⟩
  · rintro ⟨positive, fits, rfl⟩
    exact allocate_of_fits positive fits

/-- A ring on the heap, with the size of its memory computed in words.  A sum that is no word
is no fault here: it is looked for, and the capacity is then refused. -/
def allocateWords (capacity : UInt64) : Except WordFault (Except RegionError GuardedRing) := do
  if capacity = 0 then
    return .error (.invalidCapacity capacity.toNat "capacity must be greater than zero")
  else
    match Word.sum (.ofNat headerSize) capacity with
    | .error _ =>
      return .error (.invalidCapacity capacity.toNat "capacity overflows the address space")
    | .ok size =>
      let slack ← Word.difference (.ofNat alignment) 1
      let greatest ← Word.difference (.ofNat greatestSize) slack
      if greatest < size then
        return .error (.invalidCapacity capacity.toNat "capacity overflows the address space")
      else return .ok (new capacity.toNat false)

theorem allocateWords_eq (capacity : UInt64) :
    allocateWords capacity = .ok (allocate capacity.toNat) := by
  have slack : Word.difference (.ofNat alignment) 1 = .ok (.ofNat (alignment - 1)) :=
    Word.difference_ofNat (by decide) (by decide)
  have greatest : Word.difference (.ofNat greatestSize) (.ofNat (alignment - 1)) =
      .ok (.ofNat (greatestSize - (alignment - 1))) :=
    Word.difference_ofNat (by decide) (by decide)
  by_cases empty : capacity = 0
  · subst empty
    rfl
  have nonempty : capacity.toNat ≠ 0 := fun none => empty (UInt64.toNat_inj.mp none)
  rw [allocateWords, if_neg empty, allocate, if_neg nonempty]
  by_cases word : headerSize + capacity.toNat < UInt64.size
  · have size : Word.sum (.ofNat headerSize) capacity =
        .ok (.ofNat (headerSize + capacity.toNat)) := by
      rw [Word.sum_eq_ok_iff, UInt64.toNat_ofNat_of_lt' word]
      rfl
    have beyond_iff := UInt64.ofNat_lt_iff_lt (a := greatestSize - (alignment - 1))
      (by decide) word
    simp only [size, slack, greatest, bind, Except.bind, pure, Except.pure]
    by_cases beyond : greatestSize - (alignment - 1) < headerSize + capacity.toNat
    · rw [if_pos (beyond_iff.mpr beyond), if_pos beyond]
    · rw [if_neg (mt beyond_iff.mp beyond), if_neg beyond]
  · have overflow : Word.sum (.ofNat headerSize) capacity = .error .overflow := if_neg word
    have within : greatestSize - (alignment - 1) < UInt64.size := by decide
    rw [overflow, if_pos (by omega)]
    rfl

end GuardedRing

/-- A region that was just created holds an empty ring of a capacity that regions may have. -/
theorem SharedMemory.new_of_create {memory later : SharedMemory} {path : String}
    {capacity mode : Nat} {handle : Segment} {region : Region}
    (created : memory.create path capacity mode = (.ok handle, later))
    (present : later.regions.get? handle.region = some region) :
    0 < capacity ∧ capacity ≤ RegionTable.greatestCapacity ∧
      region.guarded = .new capacity true := by
  cases admitted : RegionTable.capacityRefusal? capacity with
  | some error =>
      simp only [create, admitted] at created
      cases created
  | none =>
      cases derived : memory.deriveKey path with
      | error error =>
          simp only [create, admitted, derived] at created
          cases created
      | ok key =>
          rw [create_eq mode derived admitted] at created
          split at created
          · cases created
          · cases created
            rw [RegionTable.get?_insert_self] at present
            cases present
            have bounded : ¬(capacity = 0 ∨ RegionTable.greatestCapacity < capacity) := by
              intro outside
              rw [RegionTable.capacityRefusal?, if_pos outside] at admitted
              cases admitted
            exact ⟨by omega, by omega, rfl⟩

namespace GuardedRing

/-- A ring on the heap or in a region, as it is before its first use. -/
inductive Made : GuardedRing → Prop
  | heap {capacity : Nat} {guarded : GuardedRing}
      (allocated : allocate capacity = .ok guarded) : Made guarded
  | region {memory later : SharedMemory} {path : String} {capacity mode : Nat}
      {handle : Segment} {region : Region}
      (created : memory.create path capacity mode = (.ok handle, later))
      (present : later.regions.get? handle.region = some region) : Made region.guarded

theorem Made.exists_new {guarded : GuardedRing} (made : guarded.Made) :
    ∃ capacity shared, guarded = new capacity shared ∧ 0 < capacity ∧
      2 * capacity < UInt64.size := by
  cases made with
  | @heap capacity guarded allocated =>
      obtain ⟨positive, fits, rfl⟩ := allocate_eq_ok_iff.mp allocated
      have least := (footprint_isLeast capacity).1.2
      have half : 2 * greatestSize < UInt64.size := by decide
      exact ⟨capacity, false, rfl, positive, by omega⟩
  | region created present =>
      obtain ⟨positive, small, isNew⟩ := SharedMemory.new_of_create created present
      have half : 2 * RegionTable.greatestCapacity < UInt64.size := by decide
      exact ⟨_, true, isNew, positive, by omega⟩

end GuardedRing

/-! ## Calls in words -/

namespace WordRing

variable (words : WordRing) (request : RingRequest)

/-- The bytes, or the places for bytes, that a ring has for a request. -/
def available : Except WordFault UInt64 :=
  match request with
  | .produce .. => words.space
  | _ => .ok words.size

/-- The error of a request that cannot be served and does not wait. -/
def shortage (request : RingRequest) (available : UInt64) : RegionError :=
  match request with
  | .produce .. => .ringFull request.length available.toNat
  | _ => .insufficientData request.length available.toNat

/-- Copy the bytes of a request: the ring afterwards and the result. -/
def copy : Except WordFault (WordRing × RingOutcome) :=
  match request with
  | .produce data _ => do
    let storage ← words.copyIn words.head data
    return ({ words with storage }, .produced data.length)
  | .consume length _ => do
    let bytes ← words.copyOut words.tail (.ofNat length)
    return (words, .consumed bytes)
  | .measure => return (words, .measured words.size.toNat)

def update : Except WordFault WordRing :=
  match request with
  | .produce data _ => words.commit (.ofNat data.length)
  | .consume length _ => words.discard (.ofNat length)
  | .measure => return words

end WordRing

/-- A guarded ring whose numbers are words. -/
structure GuardedWords where
  words : WordRing
  shared : Bool
  monitor : Monitor

/-- A guarded ring with the numbers of its ring written as words. -/
def GuardedRing.toWords (guarded : GuardedRing) : GuardedWords :=
  ⟨guarded.ring.toWords, guarded.shared, guarded.monitor⟩

namespace GuardedWords

variable (guarded : GuardedWords) (call : RingCall)

/-- The guarded ring that the words describe. -/
def toGuarded : GuardedRing := ⟨guarded.words.toRing, guarded.shared, guarded.monitor⟩

/-- Test with the mutex held whether the ring can serve a request. -/
def test : Except WordFault (GuardedWords × RingCall) := do
  let request := call.request
  if request = .measure then
    return (guarded, call.goTo (.unlocking (.measured guarded.words.size.toNat)))
  else
    let available ← guarded.words.available request
    if .ofNat request.length ≤ available then return (guarded, call.goTo .copying)
    else if request.waits then
      return ({ guarded with monitor := guarded.monitor.release },
        call.goTo (.asleep (guarded.monitor.signals request.condition)))
    else
      return (guarded,
        call.goTo (.unlocking (.failed (WordRing.shortage request available))))

/-- One step of a call in words.  A call computes while it tests, copies and moves the cursors;
its other steps compute nothing and leave the ring as it is. -/
def step : Except WordFault (Option (GuardedWords × RingCall)) :=
  match call.phase with
  | .testing => (guarded.test call).map some
  | .copying => do
    let (words, outcome) ← guarded.words.copy call.request
    return some ({ guarded with words }, call.goTo (.updating outcome))
  | .updating outcome => do
    let words ← guarded.words.update call.request
    return some ({ guarded with words }, call.goTo (.notifying outcome))
  | _ => .ok ((call.step guarded.toGuarded).map fun (after, next) => (after.toWords, next))

end GuardedWords

namespace Ring.WellSized

variable {ring : Ring} {request : RingRequest}

theorem available_toWords (sized : ring.WellSized) :
    ring.toWords.available request = .ok (.ofNat (request.available ring)) := by
  cases request with
  | produce data wait => exact sized.space_toWords
  | consume length wait => rfl
  | measure => rfl

theorem available_le (sized : ring.WellSized) : request.available ring ≤ ring.capacity := by
  cases request with
  | produce data wait => exact Nat.sub_le ..
  | consume length wait => exact sized.size_le
  | measure => exact sized.size_le

theorem shortage_toWords (sized : ring.WellSized) :
    WordRing.shortage request (.ofNat (request.available ring)) = request.shortage ring := by
  have available : (UInt64.ofNat (request.available ring)).toNat = request.available ring :=
    sized.toNat_ofNat sized.available_le
  cases request with
  | produce data wait => exact congrArg (RegionError.ringFull data.length) available
  | consume length wait => exact congrArg (RegionError.insufficientData length) available
  | measure => exact congrArg (RegionError.insufficientData 0) available

theorem copy_toWords (sized : ring.WellSized)
    (admitted : request.rejection? ring.capacity = none) :
    ring.toWords.copy request =
      .ok ((request.copy ring).1.toWords, (request.copy ring).2) := by
  have fits := RingRequest.length_le_of_rejection?_eq_none admitted
  cases request with
  | produce data wait =>
      change (ring.toWords.copyIn (.ofNat ring.head) data).bind _ = _
      rw [sized.copyIn_toWords sized.head_lt fits]
      rfl
  | consume length wait =>
      have copied := sized.copyOut_toWords sized.tail_lt fits
      change (ring.toWords.copyOut (.ofNat ring.tail) (.ofNat length)).bind _ = _
      rw [RingRequest.length] at copied
      rw [copied]
      rfl
  | measure =>
      change Except.ok (ring.toWords, RingOutcome.measured ring.toWords.size.toNat) = _
      rw [sized.toNat_size]
      rfl

theorem update_toWords (sized : ring.WellSized)
    (fits : request.length ≤ request.available ring) :
    ring.toWords.update request = .ok (request.update ring).toWords := by
  cases request with
  | produce data wait => exact sized.commit_toWords fits
  | consume length wait => exact sized.discard_toWords fits
  | measure => rfl

end Ring.WellSized

namespace GuardedRing

variable {guarded : GuardedRing} {call : RingCall}

theorem toGuarded_toWords (sized : guarded.ring.WellSized) :
    guarded.toWords.toGuarded = guarded :=
  congrArg (GuardedRing.mk · guarded.shared guarded.monitor) sized.toRing_toWords

theorem test_toWords (sized : guarded.ring.WellSized)
    (admitted : call.request.rejection? guarded.ring.capacity = none) :
    guarded.toWords.test call =
      .ok ((call.test guarded).1.toWords, (call.test guarded).2) := by
  have length_le := RingRequest.length_le_of_rejection?_eq_none admitted
  have available_le : call.request.available guarded.ring ≤ guarded.ring.capacity :=
    sized.available_le
  have fits_iff :=
    UInt64.ofNat_le_iff_le (sized.lt_size length_le) (sized.lt_size available_le)
  have available : guarded.toWords.words.available call.request =
      .ok (.ofNat (call.request.available guarded.ring)) :=
    sized.available_toWords
  unfold GuardedWords.test RingCall.test
  dsimp only
  by_cases measures : call.request = .measure
  · rw [if_pos measures, if_pos measures]
    change Except.ok (_, call.goTo (.unlocking (.measured guarded.ring.toWords.size.toNat))) = _
    rw [sized.toNat_size]
  rw [if_neg measures, if_neg measures, available]
  simp only [bind, Except.bind, pure, Except.pure]
  by_cases fits : call.request.length ≤ call.request.available guarded.ring
  · rw [if_pos (fits_iff.mpr fits), if_pos fits]
  rw [if_neg (mt fits_iff.mp fits), if_neg fits]
  by_cases waits : call.request.waits = true
  · rw [if_pos waits, if_pos waits]
    rfl
  · rw [if_neg waits, if_neg waits, sized.shortage_toWords]

/-- A step of a call is taken in words without a fault, and with the same result. -/
theorem step_toWords (sized : guarded.ring.WellSized)
    (sound : call.request.Sound guarded.ring call.phase) :
    guarded.toWords.step call =
      .ok ((call.step guarded).map fun (after, next) => (after.toWords, next)) := by
  obtain ⟨request, phase⟩ := call
  cases phase with
  | testing =>
      change (guarded.toWords.test ⟨request, .testing⟩).map some = _
      rw [test_toWords sized sound]
      rfl
  | copying =>
      obtain ⟨admitted, -, -⟩ := sound
      change (guarded.ring.toWords.copy request).bind _ = _
      rw [sized.copy_toWords admitted]
      rfl
  | updating outcome =>
      obtain ⟨-, fits, -⟩ := sound
      change (guarded.ring.toWords.update request).bind _ = _
      rw [sized.update_toWords fits]
      rfl
  | _ => simp only [GuardedWords.step, toGuarded_toWords sized]

end GuardedRing

/-! ## Every state of a ring -/

/-- Whatever a transfer of so many bytes computes from the numbers of a ring is a word. -/
structure Ring.Headroom (ring : Ring) (length : Nat) : Prop where
  capacity_ne_zero : ring.capacity ≠ 0
  size_le : ring.size ≤ ring.capacity
  head_lt : ring.head < ring.capacity
  tail_lt : ring.tail < ring.capacity
  head_add_lt : ring.head + length < UInt64.size
  tail_add_lt : ring.tail + length < UInt64.size
  size_add_lt : ring.size + length < UInt64.size

theorem Ring.WellSized.headroom {ring : Ring} {length : Nat} (sized : ring.WellSized)
    (length_le : length ≤ ring.capacity) : ring.Headroom length := by
  obtain ⟨positive, twice_lt, size_le, head_lt, tail_lt⟩ := sized
  exact ⟨Nat.ne_of_gt positive, size_le, head_lt, tail_lt, by omega, by omega, by omega⟩

namespace Crowd

variable {Caller : Type}

/-- A ring on the heap is refused exactly if its capacity is zero or if header and data, rounded
up, do not fit the address space, and in words that is found out without a fault.  However
many callers use a ring that was made, and however their steps interleave, each of their steps
is taken in words without a fault and with the same result: nothing overflows, nothing falls
below zero, no remainder is taken by zero, and no byte outside of the storage is touched. -/
theorem words_suffice [DecidableEq Caller] :
    (∀ capacity : UInt64,
        GuardedRing.allocateWords capacity = .ok (GuardedRing.allocate capacity.toNat) ∧
          ((∃ reason, GuardedRing.allocate capacity.toNat =
              .error (.invalidCapacity capacity.toNat reason)) ↔
            capacity.toNat = 0 ∨
              GuardedRing.greatestSize < GuardedRing.footprint capacity.toNat) ∧
          ∀ guarded, GuardedRing.allocate capacity.toNat = .ok guarded ↔
            0 < capacity.toNat ∧
              GuardedRing.footprint capacity.toNat ≤ GuardedRing.greatestSize ∧
                guarded = .new capacity.toNat false) ∧
      ∀ (guarded : GuardedRing) (crowd : Crowd Caller), guarded.Made →
        Relation.ReflTransGen Step (start guarded) crowd →
          crowd.guarded.toWords.toGuarded = crowd.guarded ∧
            (∀ caller call, crowd.calls caller = some call →
              crowd.guarded.toWords.step call =
                .ok ((call.step crowd.guarded).map fun (after, next) =>
                  (after.toWords, next))) ∧
            ∀ length, 0 < length → length ≤ crowd.guarded.ring.capacity →
              crowd.guarded.ring.Headroom length := by
  refine ⟨fun capacity => ⟨GuardedRing.allocateWords_eq capacity,
    GuardedRing.allocate_eq_error_iff, fun guarded => GuardedRing.allocate_eq_ok_iff⟩, ?_⟩
  intro guarded crowd made reaches
  obtain ⟨capacity, shared, rfl, positive, twice_lt⟩ := made.exists_new
  obtain ⟨settled, queue, sound⟩ :=
    (sound_start (Ring.represents_empty positive) rfl).steps reaches
  have sized : crowd.guarded.ring.WellSized := by
    refine sound.attended.represents.wellSized ?_
    rw [sound.capacity_ring]
    exact twice_lt
  exact ⟨GuardedRing.toGuarded_toWords sized,
    fun caller call running =>
      GuardedRing.step_toWords sized (sound.attended.sound caller call running),
    fun length _ length_le => sized.headroom length_le⟩

/-- The greatest ring that is not refused.  It holds three bytes, and a consumer has copied two
of them and is about to move the tail. -/
theorem exists_greatest : ∃ crowd : Crowd Bool,
    Relation.ReflTransGen Step (start (.new 9223372036854775624 false)) crowd ∧
      crowd.guarded.ring.capacity = 9223372036854775624 ∧
      crowd.guarded.toWords.words.size = 3 ∧
      crowd.calls false = some ⟨.consume 2 false, .updating (.consumed [97, 98])⟩ := by
  have begun : Relation.ReflTransGen Step
      (start (.new 9223372036854775624 false) : Crowd Bool) _ :=
    .single (.begin true (.produce [97, 98, 99] false) (by rintro call ⟨⟩))
  have produced := begun.trans (steps_goOnAll _ (List.replicate 7 true))
  have joined := produced.tail (.begin false (.consume 2 false) (by rintro call ⟨⟩))
  have copied := joined.trans (steps_goOnAll _ (List.replicate 4 false))
  exact ⟨_, copied, rfl, rfl, rfl⟩

theorem words_suffice_of_greatest : ∃ crowd : Crowd Bool,
    GuardedRing.Made (.new 9223372036854775624 false) ∧
      Relation.ReflTransGen Step (start (.new 9223372036854775624 false)) crowd ∧
      (∃ after, crowd.guarded.toWords.step
          ⟨.consume 2 false, .updating (.consumed [97, 98])⟩ = .ok (some after)) ∧
      crowd.guarded.ring.Headroom 9223372036854775624 := by
  obtain ⟨crowd, reaches, capacity_eq, -, running⟩ := exists_greatest
  have made : GuardedRing.Made (.new 9223372036854775624 false) :=
    .heap (GuardedRing.allocate_of_fits (by decide) (by decide))
  obtain ⟨-, sound⟩ := @words_suffice Bool _
  obtain ⟨-, steps, headroom⟩ := sound _ crowd made reaches
  refine ⟨crowd, made, reaches, ⟨_, steps false _ running⟩, headroom _ (by decide) ?_⟩
  exact Nat.le_of_eq capacity_eq.symm

end Crowd

end BoundedStream
