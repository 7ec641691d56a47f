import BoundedStream.Config.Check
import Mathlib.Data.List.Basic

/-!
# Flags by name

A list of flag names is combined to the flags that have some bit of one of them.  Neither the
order of the names nor how often they are given matters, and no name stands for no flag.  If a
name is not known, the first such name is the fault.
-/

namespace BoundedStream

namespace DescriptorFlag

/-- The name of a flag is read back. -/
theorem ofName?_eq_some_iff {name : String} {flag : DescriptorFlag} :
    ofName? name = some flag ↔ flag.name = name := by
  constructor
  · intro found
    simpa using List.find?_some found
  · rintro rfl
    cases flag <;> rfl

/-- A name is known if some flag has it. -/
def Known (name : String) : Prop := ∃ flag : DescriptorFlag, flag.name = name

end DescriptorFlag

namespace Config

open DescriptorFlag (Known)

/-- The refusal of a name that no flag has. -/
def unknownFlag (name : String) : ValidationError :=
  .invalidField "flags" name "expected one of: nonblock, append, sync, dsync, async"

variable {name : String} {names : List String} {flags : Int32}

theorem parseFlag_eq_ok_iff {flag : DescriptorFlag} :
    parseFlag name = .ok flag ↔ flag.name = name := by
  rw [← DescriptorFlag.ofName?_eq_some_iff, parseFlag]
  cases DescriptorFlag.ofName? name <;> simp

theorem parseFlag_of_unknown (unknown : ¬ Known name) :
    parseFlag name = .error (unknownFlag name) := by
  have none : DescriptorFlag.ofName? name = none := by
    cases found : DescriptorFlag.ofName? name with
    | none => rfl
    | some flag => exact absurd ⟨flag, DescriptorFlag.ofName?_eq_some_iff.mp found⟩ unknown
  rw [parseFlag, none]
  rfl

/-- The flags have the bits that some named flag has, and no others. -/
def Unites (names : List String) (flags : Int32) : Prop :=
  ∀ position, flags.toBitVec.getLsbD position = true ↔
    ∃ flag : DescriptorFlag, flag.name ∈ names ∧
      flag.value.toBitVec.getLsbD position = true

theorem unites_nil : Unites [] 0 := by
  intro position
  simp

theorem Unites.cons (unites : Unites names flags) (flag : DescriptorFlag) :
    Unites (flag.name :: names) (flag.value ||| flags) := by
  intro position
  rw [Int32.toBitVec_or, BitVec.getLsbD_or, Bool.or_eq_true, unites position]
  constructor
  · rintro (bit | ⟨other, member, bit⟩)
    · exact ⟨flag, List.mem_cons_self, bit⟩
    · exact ⟨other, List.mem_cons_of_mem _ member, bit⟩
  · rintro ⟨other, member, bit⟩
    rcases List.mem_cons.mp member with same | member
    · have isFlag : other = flag := by
        have found := DescriptorFlag.ofName?_eq_some_iff.mpr same
        rw [DescriptorFlag.ofName?_eq_some_iff.mpr rfl] at found
        exact (Option.some.inj found).symm
      exact .inl (isFlag ▸ bit)
    · exact .inr ⟨other, member, bit⟩

/-- The bits of the flags are all that the names tell. -/
theorem Unites.eq {names' : List String} {flags' : Int32} (unites : Unites names flags)
    (unites' : Unites names' flags') (same : ∀ name, name ∈ names ↔ name ∈ names') :
    flags = flags' := by
  refine Int32.toBitVec_inj.mp (BitVec.eq_of_getLsbD_eq fun position _ => ?_)
  rw [Bool.eq_iff_iff, unites position, unites' position]
  simp only [same]

/-- Every flag has a bit, so that only no names at all unite to no flags. -/
theorem Unites.eq_zero_iff (unites : Unites names flags) (known : ∀ name ∈ names, Known name) :
    flags = 0 ↔ names = [] := by
  constructor
  · rintro rfl
    cases names with
    | nil => rfl
    | cons name names =>
        obtain ⟨flag, rfl⟩ := known name List.mem_cons_self
        obtain ⟨position, bit⟩ : ∃ position, flag.value.toBitVec.getLsbD position = true := by
          cases flag with
          | nonblock => exact ⟨11, rfl⟩
          | append => exact ⟨10, rfl⟩
          | sync => exact ⟨20, rfl⟩
          | dsync => exact ⟨12, rfl⟩
          | async => exact ⟨13, rfl⟩
        have nothing := (unites position).mpr ⟨flag, List.mem_cons_self, bit⟩
        simp at nothing
  · rintro rfl
    exact unites.eq unites_nil fun _ => Iff.rfl

theorem combineFlags_cons (flag : DescriptorFlag) (names : List String) :
    combineFlags (flag.name :: names) = (combineFlags names).map (flag.value ||| ·) := by
  rw [combineFlags, parseFlag_eq_ok_iff.mpr rfl]
  cases combineFlags names <;> rfl

/-- Names that are known are combined, whatever their order. -/
theorem combineFlags_of_known (known : ∀ name ∈ names, Known name) :
    ∃ flags, combineFlags names = .ok flags ∧ Unites names flags := by
  induction names with
  | nil => exact ⟨0, rfl, unites_nil⟩
  | cons name names ih =>
      obtain ⟨flag, rfl⟩ := known name List.mem_cons_self
      obtain ⟨flags, combined, unites⟩ := ih fun other member =>
        known other (List.mem_cons_of_mem _ member)
      exact ⟨_, by rw [combineFlags_cons, combined]; rfl, unites.cons flag⟩

/-- The first name that is not known is the fault. -/
theorem combineFlags_of_unknown {front rest : List String}
    (known : ∀ name ∈ front, Known name) (unknown : ¬ Known name) :
    combineFlags (front ++ name :: rest) = .error (unknownFlag name) := by
  induction front with
  | nil =>
      rw [List.nil_append, combineFlags, parseFlag_of_unknown unknown]
      rfl
  | cons first front ih =>
      obtain ⟨flag, rfl⟩ := known first List.mem_cons_self
      rw [List.cons_append, combineFlags_cons, ih fun other member =>
        known other (List.mem_cons_of_mem _ member)]
      rfl

/-- Either all names are known or there is a first one that is not. -/
theorem known_or_first_unknown (names : List String) :
    (∀ name ∈ names, Known name) ∨
      ∃ front name rest, names = front ++ name :: rest ∧ (∀ other ∈ front, Known other) ∧
        ¬ Known name := by
  induction names with
  | nil => exact .inl (by simp)
  | cons first names ih =>
      by_cases isKnown : Known first
      · rcases ih with known | ⟨front, name, rest, rfl, known, unknown⟩
        · exact .inl (List.forall_mem_cons.mpr ⟨isKnown, known⟩)
        · exact .inr ⟨first :: front, name, rest, rfl,
            List.forall_mem_cons.mpr ⟨isKnown, known⟩, unknown⟩
      · exact .inr ⟨[], first, names, rfl, by simp, isKnown⟩

end Config

end BoundedStream
