import BoundedStream.Proofs.Ring.Queue

/-!
# Rings in words

A machine keeps the numbers of a ring in words of 64 bits, and its bytes in an area of as
many bytes as the capacity says.  A sum that is no word, a difference below zero, a remainder
by zero and an access outside of the area are faults.  While the cursors lie in the storage
and twice the capacity is a word, what is done to a ring is done in words without a fault,
and with the same result.
-/

namespace BoundedStream

/-- Why a computation in words has no result. -/
inductive WordFault where
  | overflow
  | underflow
  | zeroDivisor
  /-- A byte outside of the area was touched. -/
  | outside
deriving DecidableEq, Repr

/-! ## Words -/

namespace Word

/-- The sum of two words, if it is a word. -/
def sum (first second : UInt64) : Except WordFault UInt64 :=
  if first.toNat + second.toNat < UInt64.size then .ok (first + second)
  else .error .overflow

/-- The difference of two words, if it is not below zero. -/
def difference (first second : UInt64) : Except WordFault UInt64 :=
  if second ≤ first then .ok (first - second) else .error .underflow

def remainder (dividend divisor : UInt64) : Except WordFault UInt64 :=
  if divisor = 0 then .error .zeroDivisor else .ok (dividend % divisor)

variable {first second result : UInt64}

theorem sum_eq_ok_iff :
    sum first second = .ok result ↔ result.toNat = first.toNat + second.toNat := by
  unfold sum
  split
  · rename_i word
    have exact : (first + second).toNat = first.toNat + second.toNat := by
      rw [UInt64.toNat_add, Nat.mod_eq_of_lt word]
    rw [← exact, UInt64.toNat_inj, Except.ok.injEq, eq_comm]
  · rename_i beyond
    have word := result.toNat_lt
    constructor
    · rintro ⟨⟩
    · intro same
      exact absurd (same ▸ word) beyond

theorem difference_eq_ok_iff :
    difference first second = .ok result ↔ result.toNat + second.toNat = first.toNat := by
  unfold difference
  split
  · rename_i le
    have exact := UInt64.toNat_sub_of_le _ _ le
    rw [UInt64.le_iff_toNat_le] at le
    rw [Except.ok.injEq, ← UInt64.toNat_inj, exact]
    omega
  · rename_i beyond
    rw [UInt64.le_iff_toNat_le] at beyond
    constructor
    · rintro ⟨⟩
    · intro same
      omega

theorem remainder_eq_ok_iff {dividend divisor : UInt64} :
    remainder dividend divisor = .ok result ↔
      divisor ≠ 0 ∧ result.toNat = dividend.toNat % divisor.toNat := by
  unfold remainder
  split
  · simp_all
  · rename_i nonzero
    rw [Except.ok.injEq, ← UInt64.toNat_inj, UInt64.toNat_mod, eq_comm]
    exact (and_iff_right nonzero).symm

section Numbers

variable {number other : Nat}

theorem sum_ofNat (word : number + other < UInt64.size) :
    sum (.ofNat number) (.ofNat other) = .ok (.ofNat (number + other)) := by
  rw [sum_eq_ok_iff, UInt64.toNat_ofNat_of_lt' word, UInt64.toNat_ofNat_of_lt' (by omega),
    UInt64.toNat_ofNat_of_lt' (by omega)]

theorem difference_ofNat (word : number < UInt64.size) (le : other ≤ number) :
    difference (.ofNat number) (.ofNat other) = .ok (.ofNat (number - other)) := by
  rw [difference_eq_ok_iff, UInt64.toNat_ofNat_of_lt' word,
    UInt64.toNat_ofNat_of_lt' (by omega), UInt64.toNat_ofNat_of_lt' (by omega)]
  omega

theorem remainder_ofNat (word : number < UInt64.size) (divisor_word : other < UInt64.size)
    (positive : 0 < other) :
    remainder (.ofNat number) (.ofNat other) = .ok (.ofNat (number % other)) := by
  have reduced : number % other < other := Nat.mod_lt _ positive
  rw [remainder_eq_ok_iff, UInt64.toNat_ofNat_of_lt' word,
    UInt64.toNat_ofNat_of_lt' divisor_word, UInt64.toNat_ofNat_of_lt' (by omega)]
  refine ⟨fun zero => ?_, rfl⟩
  have isZero := congrArg UInt64.toNat zero
  rw [UInt64.toNat_ofNat_of_lt' divisor_word] at isZero
  exact absurd isZero (Nat.ne_of_gt positive)

theorem min_ofNat (word : number < UInt64.size) (other_word : other < UInt64.size) :
    min (UInt64.ofNat number) (.ofNat other) = .ofNat (min number other) := by
  have le_iff := UInt64.ofNat_le_iff_le word other_word
  by_cases le : number ≤ other
  · rw [Nat.min_eq_left le]
    exact if_pos (le_iff.mpr le)
  · rw [Nat.min_eq_right (by omega)]
    exact if_neg (mt le_iff.mp le)

end Numbers

end Word

/-! ## Areas of bytes -/

namespace Storage

/-- Write bytes into an area that ends at a bound. -/
def writeWithin (bound : Nat) (storage : Storage) (offset : Nat) :
    List UInt8 → Except WordFault Storage
  | [] => .ok storage
  | byte :: bytes =>
    if offset < bound then (storage.set offset byte).writeWithin bound (offset + 1) bytes
    else .error .outside

/-- Read bytes out of an area that ends at a bound. -/
def readWithin (bound : Nat) (storage : Storage) (offset : Nat) :
    Nat → Except WordFault (List UInt8)
  | 0 => .ok []
  | count + 1 =>
    if offset < bound then
      (storage.readWithin bound (offset + 1) count).map (storage.get offset :: ·)
    else .error .outside

theorem writeWithin_eq_write {bound offset : Nat} {data : List UInt8} (storage : Storage)
    (inside : offset + data.length ≤ bound) :
    storage.writeWithin bound offset data = .ok (storage.write offset data) := by
  induction data generalizing storage offset with
  | nil => rfl
  | cons byte bytes hypothesis =>
      rw [List.length_cons] at inside
      rw [writeWithin, if_pos (by omega), hypothesis _ (by omega), write]

example : Storage.empty.writeWithin 2 1 [97, 98] = .error .outside := rfl

theorem read_succ (storage : Storage) (offset count : Nat) :
    storage.read offset (count + 1) =
      storage.get offset :: storage.read (offset + 1) count := by
  simp only [read, List.range_succ_eq_map, List.map_cons, List.map_map, Nat.add_zero]
  congr 1
  apply List.map_congr_left
  intro index _
  exact congrArg storage.get (by omega)

theorem readWithin_eq_read {bound offset count : Nat} (storage : Storage)
    (inside : offset + count ≤ bound) :
    storage.readWithin bound offset count = .ok (storage.read offset count) := by
  induction count generalizing offset with
  | zero => rfl
  | succ count hypothesis =>
      rw [readWithin, if_pos (by omega), hypothesis (by omega), read_succ]
      rfl

end Storage

/-! ## Rings -/

/-- A ring whose numbers are words. -/
structure WordRing where
  capacity : UInt64
  head : UInt64
  tail : UInt64
  size : UInt64
  storage : Storage

namespace WordRing

variable (words : WordRing)

/-- The number of bytes that can still be taken in. -/
def space : Except WordFault UInt64 := Word.difference words.capacity words.size

/-- How much of a copy comes before the end of the area. -/
def firstPiece (offset count : UInt64) : Except WordFault UInt64 := do
  let room ← Word.difference words.capacity offset
  return min count room

/-- Copy bytes into the area from an offset on, going on at its start. -/
def copyIn (offset : UInt64) (data : List UInt8) : Except WordFault Storage := do
  let length := UInt64.ofNat data.length
  let first ← words.firstPiece offset length
  let filled ← words.storage.writeWithin words.capacity.toNat offset.toNat
    (data.take first.toNat)
  if first < length then
    let rest ← Word.difference length first
    filled.writeWithin words.capacity.toNat 0 ((data.drop first.toNat).take rest.toNat)
  else return filled

/-- Copy bytes out of the area from an offset on, going on at its start. -/
def copyOut (offset count : UInt64) : Except WordFault (List UInt8) := do
  let first ← words.firstPiece offset count
  let front ← words.storage.readWithin words.capacity.toNat offset.toNat first.toNat
  if first < count then
    let rest ← Word.difference count first
    let back ← words.storage.readWithin words.capacity.toNat 0 rest.toNat
    return front ++ back
  else return front

/-- Where a cursor comes to that moves on. -/
def advance (cursor count : UInt64) : Except WordFault UInt64 := do
  let reached ← Word.sum cursor count
  Word.remainder reached words.capacity

/-- Count stored bytes as held and move the head behind them. -/
def commit (count : UInt64) : Except WordFault WordRing := do
  let head ← words.advance words.head count
  let size ← Word.sum words.size count
  return { words with head, size }

/-- Give up the first bytes that are held. -/
def discard (count : UInt64) : Except WordFault WordRing := do
  let tail ← words.advance words.tail count
  let size ← Word.difference words.size count
  return { words with tail, size }

/-- The ring that the words describe. -/
def toRing : Ring where
  capacity := words.capacity.toNat
  head := words.head.toNat
  tail := words.tail.toNat
  size := words.size.toNat
  storage := words.storage

end WordRing

namespace Ring

/-- A ring with its numbers written as words. -/
def toWords (ring : Ring) : WordRing where
  capacity := .ofNat ring.capacity
  head := .ofNat ring.head
  tail := .ofNat ring.tail
  size := .ofNat ring.size
  storage := ring.storage

/-- The numbers of a ring leave room for what is computed from them. -/
structure WellSized (ring : Ring) : Prop where
  positive : 0 < ring.capacity
  twice_lt : 2 * ring.capacity < UInt64.size
  size_le : ring.size ≤ ring.capacity
  head_lt : ring.head < ring.capacity
  tail_lt : ring.tail < ring.capacity

theorem Represents.wellSized {ring : Ring} {queue : List UInt8}
    (represents : ring.Represents queue) (twice_lt : 2 * ring.capacity < UInt64.size) :
    ring.WellSized :=
  ⟨represents.capacity_pos, twice_lt, represents.size_le, represents.head_lt,
    represents.tail_lt⟩

namespace WellSized

variable {ring : Ring} {offset count : Nat} {data : List UInt8}

/-- Numbers up to the capacity are words. -/
theorem lt_size (sized : ring.WellSized) (count_le : count ≤ ring.capacity) :
    count < UInt64.size := by
  have twice_lt := sized.twice_lt
  omega

theorem toNat_ofNat (sized : ring.WellSized) (count_le : count ≤ ring.capacity) :
    (UInt64.ofNat count).toNat = count :=
  UInt64.toNat_ofNat_of_lt' (sized.lt_size count_le)

theorem toNat_capacity (sized : ring.WellSized) :
    ring.toWords.capacity.toNat = ring.capacity :=
  sized.toNat_ofNat (Nat.le_refl _)

theorem toNat_size (sized : ring.WellSized) : ring.toWords.size.toNat = ring.size :=
  sized.toNat_ofNat sized.size_le

theorem toRing_toWords (sized : ring.WellSized) : ring.toWords.toRing = ring := by
  have head_eq : ring.toWords.head.toNat = ring.head :=
    sized.toNat_ofNat (Nat.le_of_lt sized.head_lt)
  have tail_eq : ring.toWords.tail.toNat = ring.tail :=
    sized.toNat_ofNat (Nat.le_of_lt sized.tail_lt)
  rw [WordRing.toRing, sized.toNat_capacity, sized.toNat_size, head_eq, tail_eq]
  rfl

theorem space_toWords (sized : ring.WellSized) :
    ring.toWords.space = .ok (.ofNat ring.space) :=
  Word.difference_ofNat (sized.lt_size (Nat.le_refl _)) sized.size_le

theorem firstPiece_toWords (sized : ring.WellSized) (offset_lt : offset < ring.capacity)
    (count_le : count ≤ ring.capacity) :
    ring.toWords.firstPiece (.ofNat offset) (.ofNat count) =
      .ok (.ofNat (min count (ring.capacity - offset))) := by
  have room : Word.difference ring.toWords.capacity (.ofNat offset) =
      .ok (.ofNat (ring.capacity - offset)) :=
    Word.difference_ofNat (sized.lt_size (Nat.le_refl _)) (Nat.le_of_lt offset_lt)
  rw [WordRing.firstPiece, room,
    ← Word.min_ofNat (sized.lt_size count_le) (sized.lt_size (Nat.sub_le ..))]
  rfl

theorem copyIn_toWords (sized : ring.WellSized) (offset_lt : offset < ring.capacity)
    (fits : data.length ≤ ring.capacity) :
    ring.toWords.copyIn (.ofNat offset) data = .ok (ring.copyIn offset data) := by
  have first_le : min data.length (ring.capacity - offset) ≤ ring.capacity := by omega
  have wraps_iff := UInt64.ofNat_lt_iff_lt (sized.lt_size first_le) (sized.lt_size fits)
  rw [WordRing.copyIn, sized.firstPiece_toWords offset_lt fits, Ring.copyIn]
  simp only [bind, Except.bind, pure, Except.pure]
  rw [sized.toNat_capacity, sized.toNat_ofNat first_le,
    sized.toNat_ofNat (Nat.le_of_lt offset_lt),
    Storage.writeWithin_eq_write _ (by rw [List.length_take]; omega)]
  dsimp only
  by_cases wraps : min data.length (ring.capacity - offset) < data.length
  · rw [if_pos (wraps_iff.mpr wraps), if_pos wraps,
      Word.difference_ofNat (sized.lt_size fits) (Nat.le_of_lt wraps)]
    dsimp only
    rw [sized.toNat_ofNat (by omega), List.take_of_length_le (Nat.le_of_eq List.length_drop),
      Storage.writeWithin_eq_write _ (by rw [List.length_drop]; omega)]
    rfl
  · rw [if_neg (mt wraps_iff.mp wraps), if_neg wraps]
    rfl

theorem copyOut_toWords (sized : ring.WellSized) (offset_lt : offset < ring.capacity)
    (count_le : count ≤ ring.capacity) :
    ring.toWords.copyOut (.ofNat offset) (.ofNat count) =
      .ok (ring.copyOut offset count) := by
  have first_le : min count (ring.capacity - offset) ≤ ring.capacity := by omega
  have wraps_iff := UInt64.ofNat_lt_iff_lt (sized.lt_size first_le) (sized.lt_size count_le)
  rw [WordRing.copyOut, sized.firstPiece_toWords offset_lt count_le, Ring.copyOut]
  simp only [bind, Except.bind, pure, Except.pure]
  rw [sized.toNat_capacity, sized.toNat_ofNat first_le,
    sized.toNat_ofNat (Nat.le_of_lt offset_lt), Storage.readWithin_eq_read _ (by omega)]
  dsimp only
  by_cases wraps : min count (ring.capacity - offset) < count
  · rw [if_pos (wraps_iff.mpr wraps), if_pos wraps,
      Word.difference_ofNat (sized.lt_size count_le) (Nat.le_of_lt wraps)]
    dsimp only
    rw [sized.toNat_ofNat (by omega), Storage.readWithin_eq_read _ (by omega)]
    rfl
  · rw [if_neg (mt wraps_iff.mp wraps), if_neg wraps]
    rfl

/-- A cursor is moved before it is brought back into the storage, which takes up to twice the
capacity. -/
theorem advance_toWords (sized : ring.WellSized) (offset_lt : offset < ring.capacity)
    (count_le : count ≤ ring.capacity) :
    ring.toWords.advance (.ofNat offset) (.ofNat count) =
      .ok (.ofNat ((offset + count) % ring.capacity)) := by
  have twice_lt := sized.twice_lt
  rw [WordRing.advance, Word.sum_ofNat (by omega)]
  exact Word.remainder_ofNat (by omega) (sized.lt_size (Nat.le_refl _)) sized.positive

-- The greatest word as a capacity leaves no room for the sum.
example : (WordRing.mk 0xffffffffffffffff 0 0 0 .empty).advance 0xfffffffffffffffe 2 =
    .error .overflow := rfl

theorem commit_toWords (sized : ring.WellSized) (fits : count ≤ ring.space) :
    ring.toWords.commit (.ofNat count) = .ok (ring.commit count).toWords := by
  have count_le : count ≤ ring.capacity := Nat.le_trans fits (Nat.sub_le ..)
  have held_le : ring.size + count ≤ ring.capacity := Nat.add_le_of_le_sub' sized.size_le fits
  have moved := sized.advance_toWords sized.head_lt count_le
  have grown : Word.sum ring.toWords.size (.ofNat count) = .ok (.ofNat (ring.size + count)) :=
    Word.sum_ofNat (sized.lt_size held_le)
  rw [WordRing.commit, grown]
  change (ring.toWords.advance (.ofNat ring.head) (.ofNat count)).bind _ = _
  rw [moved]
  rfl

theorem discard_toWords (sized : ring.WellSized) (held : count ≤ ring.size) :
    ring.toWords.discard (.ofNat count) = .ok (ring.discard count).toWords := by
  have moved := sized.advance_toWords sized.tail_lt (Nat.le_trans held sized.size_le)
  have shrunk : Word.difference ring.toWords.size (.ofNat count) =
      .ok (.ofNat (ring.size - count)) :=
    Word.difference_ofNat (sized.lt_size sized.size_le) held
  rw [WordRing.discard, shrunk]
  change (ring.toWords.advance (.ofNat ring.tail) (.ofNat count)).bind _ = _
  rw [moved]
  rfl

end WellSized

end Ring

end BoundedStream
