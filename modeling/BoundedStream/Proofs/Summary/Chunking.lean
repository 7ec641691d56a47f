import BoundedStream.Summary

/-!
# Summaries of chunked streams

The check value of a stream is defined on its bits, which enter the register one at a time.
The register shifts linearly, so that eight bits may enter together and be divided by a look
into a table.  A summary that takes a stream chunk by chunk therefore has the length and the
check value of the whole stream, wherever the stream was split.
-/

namespace BoundedStream

namespace Crc32

/-- What comes back into the register when a bit leaves it. -/
def feedback (bit : Bool) : BitVec 32 :=
  if bit then 0xEDB88320#32 else 0#32

/-- One bit enters the register, and the sum of it and the lowest bit leaves. -/
def takeBit (register : BitVec 32) (bit : Bool) : BitVec 32 :=
  (register >>> 1) ^^^ feedback (register.getLsbD 0 ^^ bit)

/-- The low bits of a word, the lowest first. -/
def lowBits (count : Nat) (word : BitVec 32) : List Bool :=
  (List.range count).map word.getLsbD

/-- The bits of an octet, the lowest first. -/
def octetBits (octet : UInt8) : List Bool :=
  (List.range 8).map octet.toBitVec.getLsbD

/-- The check value of a list of bits, before and after which the register is complemented. -/
def ofBits (bits : List Bool) : UInt32 :=
  ⟨bits.foldl takeBit 0xFFFFFFFF#32 ^^^ 0xFFFFFFFF#32⟩

variable {register word : BitVec 32} {octet : UInt8} {data : List UInt8}

/-! ## Linear shifts -/

theorem feedback_xor (first second : Bool) :
    feedback (first ^^ second) = feedback first ^^^ feedback second := by
  cases first <;> cases second <;> decide

/-- What enters a sum of registers may enter its terms. -/
theorem takeBit_xor (first second : BitVec 32) (bit bit' : Bool) :
    takeBit (first ^^^ second) (bit ^^ bit') = takeBit first bit ^^^ takeBit second bit' := by
  have regroup : ((first ^^^ second).getLsbD 0 ^^ (bit ^^ bit')) =
      ((first.getLsbD 0 ^^ bit) ^^ (second.getLsbD 0 ^^ bit')) := by
    simp only [BitVec.getLsbD_xor, Bool.xor_assoc, Bool.xor_left_comm]
  rw [takeBit, regroup, feedback_xor, BitVec.ushiftRight_xor_distrib, takeBit, takeBit]
  ac_rfl

/-- A word whose lowest bit enters itself only moves down. -/
theorem takeBit_self (word : BitVec 32) : takeBit word (word.getLsbD 0) = word >>> 1 := by
  rw [takeBit, Bool.xor_self]
  exact BitVec.xor_zero

theorem takeBit_xor_self (register word : BitVec 32) :
    takeBit (register ^^^ word) false = takeBit register (word.getLsbD 0) ^^^ word >>> 1 := by
  rw [← takeBit_self word, ← takeBit_xor, Bool.xor_self]

theorem and_one_eq_one_iff (register : UInt32) :
    register &&& 1 = 1 ↔ register.toBitVec.getLsbD 0 = true := by
  have low : (register &&& 1).toBitVec =
      (BitVec.ofBool (register.toBitVec.getLsbD 0)).setWidth 32 := by
    rw [UInt32.toBitVec_and]
    exact BitVec.and_one_eq_setWidth_ofBool_getLsbD
  rw [← UInt32.toBitVec_inj, low]
  cases register.toBitVec.getLsbD 0 <;> decide

theorem toBitVec_shift (register : UInt32) :
    (shift register).toBitVec = takeBit register.toBitVec false := by
  rw [shift, takeBit, Bool.xor_false]
  by_cases odd : register &&& 1 = 1
  · rw [if_pos odd, (and_one_eq_one_iff register).mp odd]
    rfl
  · have even : register.toBitVec.getLsbD 0 = false :=
      Bool.eq_false_iff.mpr fun low => odd ((and_one_eq_one_iff register).mpr low)
    rw [if_neg odd, even]
    exact BitVec.xor_zero.symm

theorem lowBits_succ (count : Nat) (word : BitVec 32) :
    lowBits (count + 1) word = word.getLsbD 0 :: lowBits count (word >>> 1) := by
  simp [lowBits, List.range_succ_eq_map, Function.comp_def, Nat.add_comm]

/-- Shifting a sum takes the low bits of the second term into the first one and moves the rest
of it down. -/
theorem toBitVec_shiftBy (count : Nat) (sum : UInt32)
    (isSum : sum.toBitVec = register ^^^ word) :
    (shiftBy count sum).toBitVec =
      (lowBits count word).foldl takeBit register ^^^ word >>> count := by
  induction count generalizing sum register word with
  | zero => simpa [shiftBy, lowBits] using isSum
  | succ count ih =>
      have shifted : (shift sum).toBitVec =
          takeBit register (word.getLsbD 0) ^^^ word >>> 1 := by
        rw [toBitVec_shift, isSum, takeBit_xor_self]
      rw [shiftBy, ih (shift sum) shifted, lowBits_succ, List.foldl_cons,
        ← BitVec.shiftRight_add, Nat.add_comm 1 count]

/-! ## Octets -/

theorem lowBits_octet (octet : UInt8) :
    lowBits 8 octet.toUInt32.toBitVec = octetBits octet := by
  apply List.map_congr_left
  intro position member
  have inside : position < 8 := List.mem_range.mp member
  rw [UInt8.toBitVec_toUInt32, BitVec.getLsbD_setWidth, decide_eq_true (by omega), Bool.true_and]

theorem octet_shiftRight (octet : UInt8) : octet.toUInt32.toBitVec >>> 8 = 0#32 := by
  apply BitVec.eq_of_getLsbD_eq
  intro position _
  rw [UInt8.toBitVec_toUInt32, BitVec.getLsbD_ushiftRight, BitVec.getLsbD_setWidth,
    BitVec.getLsbD_of_ge octet.toBitVec _ (by omega), Bool.and_false, BitVec.getLsbD_zero]

/-- The register after an octet, without the table. -/
def bitStep (register : UInt32) (octet : UInt8) : UInt32 :=
  shiftBy 8 (register ^^^ octet.toUInt32)

/-- Eight shifts take the bits of an octet into the register. -/
theorem toBitVec_bitStep (register : UInt32) (octet : UInt8) :
    (bitStep register octet).toBitVec =
      (octetBits octet).foldl takeBit register.toBitVec := by
  rw [bitStep, toBitVec_shiftBy 8 _ (UInt32.toBitVec_xor ..), lowBits_octet, octet_shiftRight]
  exact BitVec.xor_zero

theorem getLsbD_lowOctet (word : BitVec 32) (position : Nat) :
    (word &&& 0xFF#32).getLsbD position = (word.getLsbD position && decide (position < 8)) := by
  have mask : (0xFF#32).getLsbD position = decide (position < 8) := by
    rw [BitVec.getLsbD_ofNat, show 0xFF = 2 ^ 8 - 1 by rfl, Nat.testBit_two_pow_sub_one]
    by_cases inside : position < 8
    · simp [inside]
      omega
    · simp [inside]
  rw [BitVec.getLsbD_and, mask]

theorem lowBits_lowOctet (word : BitVec 32) : lowBits 8 (word &&& 0xFF#32) = lowBits 8 word := by
  apply List.map_congr_left
  intro position member
  have inside : position < 8 := List.mem_range.mp member
  rw [getLsbD_lowOctet, decide_eq_true inside, Bool.and_true]

theorem lowOctet_shiftRight (word : BitVec 32) : (word &&& 0xFF#32) >>> 8 = 0#32 := by
  apply BitVec.eq_of_getLsbD_eq
  intro position _
  rw [BitVec.getLsbD_ushiftRight, getLsbD_lowOctet, decide_eq_false (by omega), Bool.and_false,
    BitVec.getLsbD_zero]

/-- Eight shifts of a word are those of its lowest octet and the rest of it moved down. -/
theorem shiftBy_eight (word : UInt32) :
    shiftBy 8 word = shiftBy 8 (word &&& 0xFF) ^^^ (word >>> 8) := by
  apply UInt32.toBitVec_inj.mp
  have low : (word &&& 0xFF).toBitVec = 0#32 ^^^ (word.toBitVec &&& 0xFF#32) := by
    rw [BitVec.zero_xor]
    rfl
  rw [UInt32.toBitVec_xor, toBitVec_shiftBy 8 _ low, lowBits_lowOctet, lowOctet_shiftRight,
    toBitVec_shiftBy 8 word (BitVec.zero_xor).symm, BitVec.xor_zero]
  rfl

/-- The table has the register after eight shifts for every octet. -/
theorem getD_table (word : UInt32) :
    table.getD (word &&& 0xFF).toNat 0 = shiftBy 8 (word &&& 0xFF) := by
  have inside : (word &&& 0xFF).toNat < 256 := by
    rw [UInt32.toNat_and]
    exact Nat.and_lt_two_pow word.toNat (n := 8) (by decide)
  have entry : (word &&& 0xFF).toNat.toUInt32 = word &&& 0xFF := UInt32.ofNat_toNat
  rw [table, Array.getD_eq_getD_getElem?, Array.getElem?_ofFn, dif_pos inside]
  exact congrArg (shiftBy 8) entry

theorem step_eq_bitStep (register : UInt32) (octet : UInt8) :
    step register octet = bitStep register octet := by
  have moved : (register ^^^ octet.toUInt32) >>> 8 = register >>> 8 := by
    apply UInt32.toBitVec_inj.mp
    change (register.toBitVec ^^^ octet.toUInt32.toBitVec) >>> 8 = register.toBitVec >>> 8
    rw [BitVec.ushiftRight_xor_distrib, octet_shiftRight, BitVec.xor_zero]
  rw [step, getD_table, bitStep, shiftBy_eight (register ^^^ octet.toUInt32), moved]

/-- The register takes octets as it takes their bits. -/
theorem toBitVec_steps (register : UInt32) (data : List UInt8) :
    (steps register data).toBitVec =
      (data.flatMap octetBits).foldl takeBit register.toBitVec := by
  induction data generalizing register with
  | nil => rfl
  | cons octet data ih =>
      rw [List.flatMap_cons, List.foldl_append, ← toBitVec_bitStep, ← step_eq_bitStep, ← ih]
      rfl

theorem checksum_eq_ofBits (data : List UInt8) :
    checksum data = ofBits (data.flatMap octetBits) := by
  apply UInt32.toBitVec_inj.mp
  rw [checksum, finish, UInt32.toBitVec_xor, toBitVec_steps]
  rfl

/-- The check value of the nine digits in order. -/
example : ofBits ("123456789".toUTF8.toList.flatMap octetBits) = 0xCBF43926 := by
  decide +kernel

end Crc32

namespace Summary

/-- The summary of a stream that comes in chunks. -/
def ofChunks (chunks : List (List UInt8)) : Summary := chunks.foldl update empty

/-- Chunks are taken as the stream is that they make up. -/
theorem ofChunks_eq (chunks : List (List UInt8)) :
    ofChunks chunks = empty.update chunks.flatten := by
  have general : ∀ summary : Summary,
      chunks.foldl update summary = summary.update chunks.flatten := by
    induction chunks with
    | nil =>
        intro summary
        rfl
    | cons chunk chunks ih =>
        intro summary
        rw [List.foldl_cons, ih, List.flatten_cons, update_append]
  exact general empty

theorem bytes_ofChunks (chunks : List (List UInt8)) :
    (ofChunks chunks).bytes = chunks.flatten.length := by
  rw [ofChunks_eq, bytes_update]
  exact Nat.zero_add _

theorem checksum_ofChunks (chunks : List (List UInt8)) :
    (ofChunks chunks).checksum = Crc32.ofBits (chunks.flatten.flatMap Crc32.octetBits) := by
  rw [ofChunks_eq, ← Crc32.checksum_eq_ofBits]
  rfl

/-- After each chunk the summary has the length of the stream so far.  At the end it has the
length of the whole stream and the check value of its bits, and every other way to split the
stream into chunks has the same summary. -/
theorem ofChunks_verdict (chunks : List (List UInt8)) :
    (∀ taken, (ofChunks (chunks.take taken)).bytes = (chunks.take taken).flatten.length) ∧
      (ofChunks chunks).bytes = chunks.flatten.length ∧
      (ofChunks chunks).checksum = Crc32.ofBits (chunks.flatten.flatMap Crc32.octetBits) ∧
      ∀ others : List (List UInt8), others.flatten = chunks.flatten →
        ofChunks others = ofChunks chunks := by
  refine ⟨fun taken => bytes_ofChunks _, bytes_ofChunks chunks, checksum_ofChunks chunks, ?_⟩
  intro others same
  rw [ofChunks_eq, ofChunks_eq, same]

end Summary

end BoundedStream
