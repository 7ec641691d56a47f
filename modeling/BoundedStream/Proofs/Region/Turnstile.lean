import BoundedStream.Proofs.Region.Handles
import Mathlib.Data.List.Basic
import Mathlib.Logic.Relation

/-!
# Coming and going

Any number of parties join and leave one region at once, and every step on the number of its
handles is a step of its own.  A party that joins first counts itself and then looks whether
it was the first to do so; in that case the region is being torn down, and it takes its count
back.  Until it does, it is counted without having a handle.  Another party that joins
meanwhile takes it for one and enters a region that is torn down.  As long as no party is
misled in this way, every handle is one of a region that is intact, and no region is torn down
twice.
-/

namespace BoundedStream

/-- How far a party has come that makes, joins or leaves a region. -/
inductive Visit where
  /-- It has made and mapped the region. -/
  | founding
  /-- It has counted itself and is about to put the ring in place. -/
  | publishing
  | outside
  /-- It has found the region under its key. -/
  | seeking
  /-- It has mapped the region, has seen a ring in it, and is about to count itself. -/
  | arriving
  /-- It was the first to count itself and is about to take that back. -/
  | refused
  /-- It has taken its count back. -/
  | withdrawing
  /-- It has a handle. -/
  | inside
  /-- It has given its handle up, with so many remaining. -/
  | leaving (remaining : Int32)
  /-- It has destroyed the ring. -/
  | closing
  /-- It has unmapped the region and is about to mark it for removal. -/
  | removing
deriving DecidableEq

/-- The memory of a region that was made and is mapped by its maker. -/
def Region.blank (key capacity mode : Nat) : Region :=
  { Region.new key capacity mode with references := 0, guarded := .zeroed 0 }

namespace Visit

/-- One atomic step of a party. -/
def step (path : String) (region : Region) : Visit → Option (Region × Visit)
  | founding => some (region.addReference.2, publishing)
  | publishing =>
    some ({ region with guarded := .new (region.size - Region.headerSize) true }, inside)
  | outside => if region.removed then none else some (region, seeking)
  | seeking =>
    -- A removed region lives on as long as somebody maps it.
    if region.removed ∧ region.mappings = 0 then some (region, outside)
    else
      match region.refusal? path with
      | some (.error _) => some (region, outside)
      -- A crash leaves the mapping to the process.
      | some (.crash _) => some (region.map, outside)
      | none => some (region.map, arriving)
  | arriving =>
    let (before, counted) := region.addReference
    some (counted, if before = 0 then refused else inside)
  | refused => some (region.dropReference.2, withdrawing)
  | withdrawing => some (region.unmap, outside)
  | inside =>
    let (before, counted) := region.dropReference
    some (counted, leaving (before - 1))
  | leaving remaining =>
    if remaining = 0 then some (region.destroy, closing) else some (region.unmap, outside)
  | closing => some (region.unmap, removing)
  | removing => some (region.remove, outside)

/-! ## Parties that nobody disturbs -/

/-- A step of a party that is alone with a region. -/
def Alone (path : String) (before after : Region × Visit) : Prop :=
  before.2.step path before.1 = some after

theorem alone_join {path : String} {region : Region}
    (present : ¬ (region.removed ∧ region.mappings = 0)) :
    Relation.ReflTransGen (Alone path) (region, seeking)
      ((region.join path).2,
        match (region.join path).1 with
        | .ok () => inside
        | .error _ => outside) := by
  rw [Region.join_eq]
  cases refused : region.refusal? path with
  | some failure =>
      cases failure with
      | error error => exact .single (by simp [Alone, step, present, refused])
      | crash text => exact .single (by simp [Alone, step, present, refused])
  | none =>
      have mapped : Alone path (region, seeking) (region.map, arriving) := by
        simp [Alone, step, present, refused]
      by_cases empty : region.references = 0
      · have counted : Alone path (region.map, arriving)
            (region.map.addReference.2, .refused) := by
          simp [Alone, step, Region.map, Region.addReference, empty]
        have restored : region.map.addReference.2.dropReference.2.unmap = region := by
          simp [Region.map, Region.addReference, Region.dropReference, Region.unmap]
        rw [if_pos empty]
        refine .head mapped (.head counted (.head rfl (.single ?_)))
        exact congrArg (fun region => some (region, outside)) restored
      · rw [if_neg empty]
        refine .head mapped (.single ?_)
        simp [Alone, step, Region.map, Region.addReference, Region.joined, empty]

theorem alone_leave (path : String) (region : Region) :
    Relation.ReflTransGen (Alone path) (region, inside) (region.leave.2, outside) := by
  have uncounted : Alone path (region, inside)
      (region.dropReference.2, leaving (region.references - 1)) := rfl
  rw [Region.leave_eq]
  by_cases last : region.references - 1 = 0
  · have destroyed : Alone path (region.dropReference.2, leaving (region.references - 1))
        (region.dropReference.2.destroy, closing) := by simp [Alone, step, last]
    have unmapped : Alone path (region.dropReference.2.destroy, closing)
        (region.dropReference.2.destroy.unmap, removing) := rfl
    rw [if_pos last]
    exact .head uncounted (.head destroyed (.head unmapped (.single rfl)))
  · rw [if_neg last]
    refine .head uncounted (.single ?_)
    simp only [Alone, step, if_neg last]
    rfl

theorem alone_new (path : String) (key capacity mode : Nat) :
    Relation.ReflTransGen (Alone path) (Region.blank key capacity mode, founding)
      (Region.new key capacity mode, inside) := by
  refine .head rfl (.single ?_)
  simp [Alone, step, Region.blank, Region.new, Region.addReference]

/-! ## What a phase says -/

/-- Whether the number of handles counts a party. -/
def isCounted : Visit → Bool
  | publishing | refused | inside => true
  | _ => false

/-- Whether a party is about to destroy the ring. -/
def isDestroying : Visit → Bool
  | leaving remaining => remaining = 0
  | _ => false

/-- The phases of other parties while the region is being made. -/
def Early : Visit → Prop
  | outside | seeking => True
  | _ => False

/-- The phases of parties while the region has handles and is not being torn down. -/
def Calm : Visit → Prop
  | outside | seeking | arriving | inside => True
  | leaving remaining => remaining ≠ 0
  | _ => False

/-- The phases of parties once the region is being torn down. -/
def Late : Visit → Prop
  | founding | publishing | inside => False
  | _ => True

theorem Early.calm {visit : Visit} (early : visit.Early) : visit.Calm := by
  cases visit <;> trivial

theorem Calm.late {visit : Visit} (calm : visit.Calm) (uncounted : visit.isCounted = false) :
    visit.Late := by
  cases visit <;> trivial

theorem Calm.not_destroying {visit : Visit} (calm : visit.Calm) :
    visit.isDestroying = false := by
  cases visit with
  | leaving remaining => exact decide_eq_false calm
  | _ => rfl

theorem Calm.eq_inside {visit : Visit} (calm : visit.Calm) (counted : visit.isCounted = true) :
    visit = inside := by
  cases visit <;> trivial

/-- Everything that one step of a party can do. -/
inductive Step (path : String) (region : Region) : Visit → Region → Visit → Prop
  | count : Step path region founding region.addReference.2 publishing
  | publish : Step path region publishing
      { region with guarded := .new (region.size - Region.headerSize) true } inside
  | find (present : region.removed = false) : Step path region outside region seeking
  | lose (gone : region.removed ∧ region.mappings = 0) :
      Step path region seeking region outside
  | refuse (error : RegionError) (refused : region.refusal? path = some (.error error)) :
      Step path region seeking region outside
  | crash (text : String) (overflows : region.refusal? path = some (.crash text)) :
      Step path region seeking region.map outside
  | map (admitted : region.refusal? path = none) :
      Step path region seeking region.map arriving
  | hesitate (empty : region.references = 0) :
      Step path region arriving region.addReference.2 refused
  | enter (held : region.references ≠ 0) :
      Step path region arriving region.addReference.2 inside
  | takeBack : Step path region refused region.dropReference.2 withdrawing
  | withdraw : Step path region withdrawing region.unmap outside
  | leave : Step path region inside region.dropReference.2 (leaving (region.references - 1))
  | destroy : Step path region (leaving 0) region.destroy closing
  | depart (remaining : Int32) (more : remaining ≠ 0) :
      Step path region (leaving remaining) region.unmap outside
  | unmap : Step path region closing region.unmap removing
  | remove : Step path region removing region.remove outside

variable {path : String} {region region' : Region} {visit visit' : Visit}

theorem step_arriving (path : String) (region : Region) :
    arriving.step path region =
      some (region.addReference.2, if region.references = 0 then refused else inside) := rfl

theorem step_inside (path : String) (region : Region) :
    inside.step path region =
      some (region.dropReference.2, leaving (region.references - 1)) := rfl

theorem step_leaving_zero (path : String) (region : Region) :
    (leaving 0).step path region = some (region.destroy, closing) := by
  rw [step, if_pos rfl]

theorem step_cases (stepped : visit.step path region = some (region', visit')) :
    Step path region visit region' visit' := by
  cases visit with
  | founding => cases stepped; exact .count
  | publishing => cases stepped; exact .publish
  | outside =>
      simp only [step] at stepped
      split at stepped
      · cases stepped
      · rename_i present
        cases stepped
        exact .find (by simpa using present)
  | seeking =>
      simp only [step] at stepped
      split at stepped
      · rename_i gone
        cases stepped
        exact .lose gone
      · split at stepped
        · rename_i error refused
          cases stepped
          exact .refuse error refused
        · rename_i text overflows
          cases stepped
          exact .crash text overflows
        · rename_i admitted
          cases stepped
          exact .map admitted
  | arriving =>
      rw [step_arriving] at stepped
      cases stepped
      by_cases empty : region.references = 0
      · rw [if_pos empty]
        exact .hesitate empty
      · rw [if_neg empty]
        exact .enter empty
  | refused => cases stepped; exact .takeBack
  | withdrawing => cases stepped; exact .withdraw
  | inside => cases stepped; exact .leave
  | leaving remaining =>
      simp only [step] at stepped
      split at stepped
      · rename_i last
        subst last
        cases stepped
        exact .destroy
      · rename_i more
        cases stepped
        exact .depart remaining more
  | closing => cases stepped; exact .unmap
  | removing => cases stepped; exact .remove

namespace Step

/-- A step changes the number of handles as it changes what is counted of its party. -/
theorem references_eq (step : Step path region visit region' visit') :
    region'.references = region.references + Int32.ofNat visit'.isCounted.toNat -
      Int32.ofNat visit.isCounted.toNat := by
  cases step <;>
    simp [isCounted, Region.addReference, Region.dropReference, Region.map, Region.unmap,
      Region.destroy, Region.remove]

/-- Only a party that is about to destroy the ring destroys it. -/
theorem destructions_eq (step : Step path region visit region' visit') :
    region'.destructions = region.destructions + visit.isDestroying.toNat := by
  cases step with
  | depart remaining more => simp [isDestroying, more, Region.unmap]
  | _ =>
      simp [isDestroying, Region.addReference, Region.dropReference, Region.map, Region.unmap,
        Region.destroy, Region.remove]

/-- A party stays outside as long as there is no ring in the region. -/
theorem early (step : Step path region visit region' visit') (before : visit.Early)
    (blank : region.capacity = 0) : visit'.Early ∧ region' = region := by
  cases step with
  | find present => exact ⟨trivial, rfl⟩
  | lose gone => exact ⟨trivial, rfl⟩
  | refuse error refused => exact ⟨trivial, rfl⟩
  | crash text overflows =>
      simp only [Region.refusal?, blank] at overflows
      split at overflows <;> simp at overflows
  | map admitted =>
      simp only [Region.refusal?, blank] at admitted
      split at admitted <;> simp at admitted
  | _ => exact before.elim

/-- While a region has handles, a party that does not give its own up finds nothing amiss. -/
theorem calm (step : Step path region visit region' visit') (before : visit.Calm)
    (held : region.references ≠ 0) (stays : visit ≠ inside) : visit'.Calm := by
  cases step with
  | hesitate empty => exact absurd empty held
  | leave => exact absurd rfl stays
  | destroy => exact absurd rfl before
  | count => exact before.elim
  | takeBack => exact before.elim
  | withdraw => exact before.elim
  | unmap => exact before.elim
  | _ => trivial

/-- Once a region is being torn down, no party takes it on itself to destroy the ring, and
only one enters that finds others counted. -/
theorem late (step : Step path region visit region' visit') (before : visit.Late) :
    visit'.isDestroying = false ∧
      (visit'.Late ∨ visit = arriving ∧ visit' = inside ∧ region.references ≠ 0) := by
  cases step with
  | enter held => exact ⟨rfl, .inr ⟨rfl, rfl, held⟩⟩
  | count => exact before.elim
  | publish => exact before.elim
  | leave => exact before.elim
  | _ => exact ⟨rfl, .inl trivial⟩

end Step

end Visit

/-- A region with the parties that come and go. -/
structure Turnstile where
  region : Region
  parties : List Visit

namespace Turnstile

/-- A region that is being made, and parties that have not heard of it. -/
def start (key capacity mode others : Nat) : Turnstile :=
  ⟨.blank key capacity mode, .founding :: List.replicate others .outside⟩

/-- A party takes a step. -/
inductive Step (number : Nat) : Turnstile → Turnstile → Prop
  | move {scene : Turnstile} (path : String) (visit visit' : Visit) (region : Region)
      (present : scene.parties[number]? = some visit)
      (stepped : visit.step path scene.region = some (region, visit')) :
      Step number scene ⟨region, scene.parties.set number visit'⟩

/-- Some party takes a step. -/
def Moves (scene later : Turnstile) : Prop := ∃ number, Step number scene later

/-- A party is about to enter although nobody is inside: it takes for handles what parties
have counted that are about to take it back. -/
def Misled (scene : Turnstile) (number : Nat) : Prop :=
  scene.parties[number]? = some .arriving ∧ scene.region.references ≠ 0 ∧
    .inside ∉ scene.parties

/-- Some party takes a step and is not misled. -/
def Proceeds (scene later : Turnstile) : Prop :=
  ∃ number, Step number scene later ∧ ¬ scene.Misled number

/-- The ring was not destroyed, and nobody is about to destroy it. -/
def Intact (scene : Turnstile) : Prop :=
  scene.region.destructions = 0 ∧ scene.parties.countP Visit.isDestroying = 0

/-! ## The number of handles -/

variable {scene later : Turnstile} {number : Nat} {visit visit' : Visit}

theorem countP_set (p : Visit → Bool) (visit' : Visit)
    (present : scene.parties[number]? = some visit) :
    (scene.parties.set number visit').countP p + (p visit).toNat =
      scene.parties.countP p + (p visit').toNat :=
  Region.countP_set_add present visit' p

/-- The region counts the parties that have counted themselves. -/
structure Counted (scene : Turnstile) : Prop where
  references_eq : scene.region.references =
    Int32.ofNat (scene.parties.countP Visit.isCounted)
  few : scene.parties.length < 1 <<< 32

theorem Counted.references_eq_zero_iff (counted : scene.Counted) :
    scene.region.references = 0 ↔ scene.parties.countP Visit.isCounted = 0 := by
  rw [counted.references_eq]
  exact Region.ofNat_eq_zero_iff
    (Nat.lt_of_le_of_lt List.countP_le_length counted.few)

theorem Counted.step (counted : scene.Counted) (step : Step number scene later) :
    later.Counted := by
  obtain ⟨path, visit, visit', region, present, stepped⟩ := step
  have balance := countP_set Visit.isCounted visit' present
  refine ⟨?_, by simpa using counted.few⟩
  calc region.references
      = scene.region.references + Int32.ofNat visit'.isCounted.toNat -
          Int32.ofNat visit.isCounted.toNat := (Visit.step_cases stepped).references_eq
    _ = Int32.ofNat ((scene.parties.set number visit').countP Visit.isCounted +
          visit.isCounted.toNat) - Int32.ofNat visit.isCounted.toNat := by
        rw [counted.references_eq, ← Int32.ofNat_add, balance]
    _ = Int32.ofNat ((scene.parties.set number visit').countP Visit.isCounted) := by
        rw [Int32.ofNat_add, Int32.add_sub_cancel]

/-! ## From the making of a region to its end -/

/-- A region is being made, then it has handles, and then it is torn down. -/
inductive Stage (scene : Turnstile) : Prop
  | making (founder : Nat)
      (founds : scene.parties[founder]? = some .founding ∨
        scene.parties[founder]? = some .publishing)
      (others : ∀ other visit, other ≠ founder → scene.parties[other]? = some visit →
        visit.Early)
      (blank : scene.region.capacity = 0) (whole : scene.region.destructions = 0)
  | held (holder : Nat) (holds : scene.parties[holder]? = some .inside)
      (calm : ∀ visit ∈ scene.parties, visit.Calm) (whole : scene.region.destructions = 0)
  | ending (late : ∀ visit ∈ scene.parties, visit.Late)
      (once : scene.region.destructions + scene.parties.countP Visit.isDestroying = 1)

theorem forall_mem_set {P : Visit → Prop} (before : ∀ visit ∈ scene.parties, P visit)
    (after : P visit') : ∀ visit ∈ scene.parties.set number visit', P visit := by
  intro visit member
  rcases List.mem_or_eq_of_mem_set member with old | rfl
  · exact before visit old
  · exact after

theorem getElem?_set_of_ne {other : Nat} (distinct : other ≠ number) :
    (scene.parties.set number visit')[other]? = scene.parties[other]? :=
  List.getElem?_set_ne (Ne.symm distinct)

theorem getElem?_set_self (present : scene.parties[number]? = some visit) :
    (scene.parties.set number visit')[number]? = some visit' := by
  obtain ⟨inside, -⟩ := List.getElem?_eq_some_iff.mp present
  exact List.getElem?_set_self inside

/-- The last handle that is given up begins the end of the region. -/
theorem stage_of_leaving (present : scene.parties[number]? = some .inside)
    (counted : scene.Counted) (calm : ∀ visit ∈ scene.parties, visit.Calm)
    (whole : scene.region.destructions = 0) :
    Stage ⟨scene.region.dropReference.2,
      scene.parties.set number (.leaving (scene.region.references - 1))⟩ := by
  have countedAfter := counted.step (.move "" _ _ _ present rfl)
  have remaining_eq := countedAfter.references_eq_zero_iff
  by_cases last : scene.region.references - 1 = 0
  · -- Nobody is counted any more, so that nobody else has a handle or is making the region.
    have uncounted := List.countP_eq_zero.mp (remaining_eq.mp last)
    have undestroying : scene.parties.countP Visit.isDestroying = 0 := by
      rw [List.countP_eq_zero]
      intro visit member
      rw [(calm visit member).not_destroying]
      simp
    have balance := countP_set Visit.isDestroying
      (.leaving (scene.region.references - 1)) present
    refine .ending ?_ ?_
    · intro visit member
      rcases List.mem_or_eq_of_mem_set member with old | rfl
      · exact (calm visit old).late (by simpa using uncounted visit member)
      · trivial
    · have isDestroying : (Visit.leaving (scene.region.references - 1)).isDestroying = true :=
        decide_eq_true last
      rw [isDestroying, undestroying] at balance
      change scene.region.destructions + (scene.parties.set number _).countP _ = 1
      rw [whole, Nat.zero_add]
      exact balance
  · -- Whoever is still counted has a handle, as nobody hesitates in a region with handles.
    have stillCalm : (Visit.leaving (scene.region.references - 1)).Calm := last
    have calmAfter : ∀ visit ∈ scene.parties.set number
        (.leaving (scene.region.references - 1)), visit.Calm := forall_mem_set calm stillCalm
    have somebody := mt remaining_eq.mpr last
    obtain ⟨visit, member, isCounted⟩ :=
      List.countP_pos_iff.mp (Nat.pos_of_ne_zero somebody)
    obtain ⟨holder, holds⟩ := List.mem_iff_getElem?.mp member
    cases (calmAfter visit member).eq_inside isCounted
    exact .held holder holds calmAfter whole

section

variable {path : String} {region : Region} (present : scene.parties[number]? = some visit)
  (step : Visit.Step path scene.region visit region visit')

include present step

theorem stage_of_making {founder : Nat}
    (founds : scene.parties[founder]? = some .founding ∨
      scene.parties[founder]? = some .publishing)
    (others : ∀ other visit, other ≠ founder → scene.parties[other]? = some visit →
      visit.Early)
    (blank : scene.region.capacity = 0) (whole : scene.region.destructions = 0) :
    Stage ⟨region, scene.parties.set number visit'⟩ := by
  by_cases isFounder : number = founder
  · subst isFounder
    have othersAfter : ∀ other visit, other ≠ number →
        (scene.parties.set number visit')[other]? = some visit → visit.Early := by
      intro other visit distinct found
      rw [getElem?_set_of_ne distinct] at found
      exact others other visit distinct found
    rw [present, Option.some.injEq, Option.some.injEq] at founds
    rcases founds with rfl | rfl
    · cases step with
      | count =>
          exact .making number (.inr (getElem?_set_self present)) othersAfter blank whole
    · cases step with
      | publish =>
          refine .held number (getElem?_set_self present) ?_ whole
          intro visit member
          obtain ⟨other, found⟩ := List.mem_iff_getElem?.mp member
          by_cases same : other = number
          · rw [same, getElem?_set_self present] at found
            cases found
            trivial
          · exact (othersAfter other visit same found).calm
  · have early := others number visit isFounder present
    obtain ⟨earlyAfter, rfl⟩ := step.early early blank
    have founder_ne : founder ≠ number := Ne.symm isFounder
    refine .making founder ?_ ?_ blank whole
    · rwa [getElem?_set_of_ne founder_ne]
    · intro other visit distinct found
      by_cases same : other = number
      · rw [same, getElem?_set_self present] at found
        cases found
        exact earlyAfter
      · rw [getElem?_set_of_ne same] at found
        exact others other visit distinct found

theorem stage_of_held (counted : scene.Counted) {holder : Nat}
    (holds : scene.parties[holder]? = some .inside)
    (calm : ∀ visit ∈ scene.parties, visit.Calm) (whole : scene.region.destructions = 0) :
    Stage ⟨region, scene.parties.set number visit'⟩ := by
  have isCalm := calm visit (List.mem_of_getElem? present)
  have wholeAfter : region.destructions = 0 := by
    rw [step.destructions_eq, isCalm.not_destroying, whole]
    rfl
  have referenced : scene.region.references ≠ 0 := by
    rw [Ne, counted.references_eq_zero_iff, List.countP_eq_zero]
    intro nobody
    exact nobody .inside (List.mem_of_getElem? holds) rfl
  by_cases stays : visit ≠ .inside
  · have holder_ne : holder ≠ number := by
      rintro rfl
      rw [present] at holds
      cases holds
      exact stays rfl
    refine .held holder ?_ (forall_mem_set calm (step.calm isCalm referenced stays)) wholeAfter
    rwa [getElem?_set_of_ne holder_ne]
  · cases not_not.mp stays
    cases step with
    | leave => exact stage_of_leaving present counted calm whole

theorem stage_of_ending (late : ∀ visit ∈ scene.parties, visit.Late)
    (once : scene.region.destructions + scene.parties.countP Visit.isDestroying = 1)
    (led : ¬ scene.Misled number) : Stage ⟨region, scene.parties.set number visit'⟩ := by
  have isLate := late visit (List.mem_of_getElem? present)
  obtain ⟨settled, stays⟩ := step.late isLate
  have balance := countP_set Visit.isDestroying visit' present
  refine .ending (forall_mem_set late ?_) ?_
  · rcases stays with lateAfter | ⟨rfl, rfl, referenced⟩
    · exact lateAfter
    · -- A party that enters now takes one that hesitates for a handle.
      exact absurd ⟨present, referenced, fun member => late _ member⟩ led
  · rw [settled] at balance
    change region.destructions + (scene.parties.set number visit').countP _ = 1
    rw [step.destructions_eq, Nat.add_assoc, Nat.add_comm visit.isDestroying.toNat, balance]
    exact once

end

theorem Stage.step (stage : scene.Stage) (counted : scene.Counted)
    (step : Step number scene later) (led : ¬ scene.Misled number) : later.Stage := by
  obtain ⟨path, visit, visit', region, present, stepped⟩ := step
  have step := Visit.step_cases stepped
  cases stage with
  | making founder founds others blank whole =>
      exact stage_of_making present step founds others blank whole
  | held holder holds calm whole => exact stage_of_held present step counted holds calm whole
  | ending late once => exact stage_of_ending present step late once led

theorem counted_start {key capacity mode others : Nat} (few : others + 1 < 1 <<< 32) :
    (start key capacity mode others).Counted where
  references_eq := by
    simp [start, Region.blank, Visit.isCounted, List.countP_replicate]
  few := by simpa [start] using few

theorem stage_start (key capacity mode others : Nat) :
    (start key capacity mode others).Stage := by
  refine .making 0 (.inl rfl) ?_ rfl rfl
  intro other visit distinct found
  obtain ⟨before, rfl⟩ := Nat.exists_eq_succ_of_ne_zero distinct
  rw [start, List.getElem?_cons_succ] at found
  cases List.eq_of_mem_replicate (List.mem_of_getElem? found)
  trivial

/-- As long as nobody is misled, a region goes through its stages. -/
theorem stage_of_reaches {key capacity mode others : Nat} (few : others + 1 < 1 <<< 32)
    (reaches : Relation.ReflTransGen Proceeds (start key capacity mode others) scene) :
    scene.Counted ∧ scene.Stage := by
  induction reaches with
  | refl => exact ⟨counted_start few, stage_start key capacity mode others⟩
  | tail _ proceeds hypothesis =>
      obtain ⟨counted, stage⟩ := hypothesis
      obtain ⟨number, step, led⟩ := proceeds
      exact ⟨counted.step step, stage.step counted step led⟩

theorem Stage.destructions_le (stage : scene.Stage) : scene.region.destructions ≤ 1 := by
  cases stage with
  | making _ _ _ _ whole => omega
  | held _ _ _ whole => omega
  | ending _ once => omega

theorem Stage.intact (stage : scene.Stage) (held : .inside ∈ scene.parties) :
    scene.Intact := by
  cases stage with
  | making founder founds others blank whole =>
      obtain ⟨holder, holds⟩ := List.mem_iff_getElem?.mp held
      by_cases isFounder : holder = founder
      · rw [isFounder] at holds
        rw [holds] at founds
        rcases founds with founds | founds <;> cases founds
      · exact (others holder _ isFounder holds).elim
  | held holder holds calm whole =>
      refine ⟨whole, List.countP_eq_zero.mpr fun visit member => ?_⟩
      rw [(calm visit member).not_destroying]
      simp
  | ending late once => exact (late _ held).elim

/-- A party is misled only by a region that is being torn down. -/
theorem Stage.not_intact (stage : scene.Stage) (misled : scene.Misled number) :
    ¬ scene.Intact := by
  obtain ⟨arrives, -, nobody⟩ := misled
  cases stage with
  | making founder founds others blank whole =>
      by_cases isFounder : number = founder
      · rw [← isFounder, arrives] at founds
        rcases founds with founds | founds <;> cases founds
      · exact (others number _ isFounder arrives).elim
  | held holder holds calm whole => exact absurd (List.mem_of_getElem? holds) nobody
  | ending late once =>
      rintro ⟨whole, undestroyed⟩
      rw [whole, undestroyed] at once
      cases once

/-- Nothing is destroyed in the step in which a party enters. -/
theorem intact_iff_of_enter (arrives : scene.parties[number]? = some .arriving)
    (step : Step number scene later) : later.Intact ↔ scene.Intact := by
  obtain ⟨path, visit, visit', region, present, stepped⟩ := step
  cases present.symm.trans arrives
  have balance := countP_set Visit.isDestroying visit' present
  have step := Visit.step_cases stepped
  have unchanged : region.destructions = scene.region.destructions := step.destructions_eq
  have settled := (step.late trivial).1
  rw [settled] at balance
  have same : (scene.parties.set number visit').countP Visit.isDestroying =
      scene.parties.countP Visit.isDestroying := balance
  rw [Intact, Intact, unchanged, same]

/-! ## How a party is misled -/

theorem exists_step {path : String} {region : Region}
    (present : scene.parties[number]? = some visit)
    (stepped : visit.step path scene.region = some (region, visit')) :
    ∃ later, Moves scene later ∧ later.region = region ∧
      later.parties[number]? = some visit' ∧
        ∀ other, other ≠ number → later.parties[other]? = scene.parties[other]? :=
  ⟨_, ⟨number, .move path visit visit' region present stepped⟩, rfl,
    getElem?_set_self present, fun _ distinct => getElem?_set_of_ne distinct⟩

/-- The last handle of a region is given up while two parties are about to count themselves:
the second takes the first for a handle, and the region is torn down under it and then once
more by it. -/
theorem exists_misled {holder first second : Nat} (apart : first ≠ second)
    (holds : scene.parties[holder]? = some .inside)
    (firstArrives : scene.parties[first]? = some .arriving)
    (secondArrives : scene.parties[second]? = some .arriving)
    (single : scene.region.references = 1) (whole : scene.region.destructions = 0) :
    ∃ later last, Relation.ReflTransGen Moves scene later ∧
      later.parties[second]? = some .inside ∧ later.region.destructions = 1 ∧
      Relation.ReflTransGen Moves later last ∧ last.region.destructions = 2 := by
  have first_ne : first ≠ holder := by
    rintro rfl
    cases holds.symm.trans firstArrives
  have second_ne : second ≠ holder := by
    rintro rfl
    cases holds.symm.trans secondArrives
  -- The holder gives the last handle up.
  obtain ⟨left, leaves, leftRegion, leftHolder, leftOthers⟩ :=
    exists_step holds (Visit.step_inside "" scene.region)
  have leftReferences : left.region.references = 0 := by
    rw [leftRegion, Region.dropReference, single]
    rfl
  rw [single] at leftHolder
  -- The first party counts itself and finds that it is the first.
  have firstWaits := (leftOthers first first_ne).trans firstArrives
  obtain ⟨tried, tries, triedRegion, triedFirst, triedOthers⟩ :=
    exists_step firstWaits (Visit.step_arriving "" left.region)
  rw [if_pos leftReferences] at triedFirst
  have triedReferences : tried.region.references = 1 := by
    rw [triedRegion, Region.addReference, leftReferences]
    rfl
  -- The second party counts itself and takes the first for a handle.
  have secondWaits : tried.parties[second]? = some .arriving := by
    rw [triedOthers second apart.symm, leftOthers second second_ne, secondArrives]
  obtain ⟨entered, enters, enteredRegion, enteredSecond, enteredOthers⟩ :=
    exists_step secondWaits (Visit.step_arriving "" tried.region)
  rw [if_neg (by rw [triedReferences]; decide)] at enteredSecond
  -- The first party takes its count back, and the holder destroys the ring.
  have firstRefused := (enteredOthers first apart).trans triedFirst
  have takesBack : Visit.refused.step "" entered.region =
      some (entered.region.dropReference.2, .withdrawing) := rfl
  obtain ⟨restored, restores, restoredRegion, -, restoredOthers⟩ :=
    exists_step firstRefused takesBack
  have holderLeaves : restored.parties[holder]? = some (.leaving 0) := by
    rw [restoredOthers holder first_ne.symm, enteredOthers holder second_ne.symm,
      triedOthers holder first_ne.symm, leftHolder]
    rfl
  obtain ⟨torn, tears, tornRegion, tornHolder, tornOthers⟩ :=
    exists_step holderLeaves (Visit.step_leaving_zero "" restored.region)
  have secondInside : torn.parties[second]? = some .inside := by
    rw [tornOthers second second_ne, restoredOthers second apart.symm, enteredSecond]
  have tornReferences : torn.region.references = 1 := by
    rw [tornRegion, restoredRegion, enteredRegion]
    simp [Region.destroy, Region.dropReference, Region.addReference, triedReferences]
  have tornOnce : torn.region.destructions = 1 := by
    rw [tornRegion, restoredRegion, enteredRegion, triedRegion, leftRegion]
    simp [Region.destroy, Region.dropReference, Region.addReference, whole]
  -- The second party gives its handle up, which is the last one again.
  obtain ⟨gone, goes, goneRegion, goneSecond, -⟩ :=
    exists_step secondInside (Visit.step_inside "" torn.region)
  rw [tornReferences] at goneSecond
  obtain ⟨last, ends, lastRegion, -, -⟩ :=
    exists_step goneSecond (Visit.step_leaving_zero "" gone.region)
  refine ⟨torn, last, ?_, secondInside, tornOnce, .head goes (.single ends), ?_⟩
  · exact .head leaves (.head tries (.head enters (.head restores (.single tears))))
  · rw [lastRegion, goneRegion]
    simp [Region.destroy, Region.dropReference, tornOnce]

/-! ## Handles of intact regions -/

/-- A party enters a region that is torn down exactly if it is misled, which takes another
party between its two steps on the count after the last handle was given up.  As long as
nobody is misled, whoever is inside has an intact region, and a region is destroyed at most
once.  Whenever the last handle is given up while two parties are about to count themselves,
the second can be misled, and then the region is destroyed twice. -/
theorem intact_iff_not_misled {key capacity mode others : Nat}
    (few : others + 1 < 1 <<< 32)
    (reaches : Relation.ReflTransGen Proceeds (start key capacity mode others) scene) :
    (.inside ∈ scene.parties → scene.Intact) ∧ scene.region.destructions ≤ 1 ∧
      (∀ number later, Step number scene later → scene.parties[number]? = some Visit.arriving →
        later.parties[number]? = some Visit.inside → (later.Intact ↔ ¬ scene.Misled number)) ∧
      ∀ holder first second : Nat, first ≠ second →
        scene.parties[holder]? = some Visit.inside → scene.parties[first]? = some Visit.arriving →
        scene.parties[second]? = some Visit.arriving → scene.region.references = 1 →
          ∃ later last, Relation.ReflTransGen Moves scene later ∧
            later.parties[second]? = some Visit.inside ∧ later.region.destructions = 1 ∧
            Relation.ReflTransGen Moves later last ∧ last.region.destructions = 2 := by
  obtain ⟨counted, stage⟩ := stage_of_reaches few reaches
  refine ⟨stage.intact, stage.destructions_le, ?_, ?_⟩
  · intro number later step arrives enters
    constructor
    · intro intact misled
      exact stage.not_intact misled ((intact_iff_of_enter arrives step).mp intact)
    · intro led
      exact (stage.step counted step led).intact (List.mem_of_getElem? enters)
  · intro holder first second apart holds firstArrives secondArrives single
    have intact := stage.intact (List.mem_of_getElem? holds)
    exact exists_misled apart holds firstArrives secondArrives single intact.1

instance (scene : Turnstile) (number : Nat) : Decidable (scene.Misled number) :=
  inferInstanceAs (Decidable (_ ∧ _ ∧ _))

/-- A party takes a step if it can and is not misled. -/
def proceed (path : String) (scene : Turnstile) (number : Nat) : Turnstile :=
  if scene.Misled number then scene
  else
    match scene.parties[number]? with
    | none => scene
    | some visit =>
      match visit.step path scene.region with
      | none => scene
      | some (region, visit') => ⟨region, scene.parties.set number visit'⟩

theorem proceeds_proceed (path : String) (scene : Turnstile) (number : Nat) :
    Relation.ReflTransGen Proceeds scene (scene.proceed path number) := by
  unfold proceed
  split
  · exact .refl
  · rename_i led
    split
    · exact .refl
    · rename_i visit present
      split
      · exact .refl
      · rename_i region visit' stepped
        exact .single ⟨number, .move path visit visit' region present stepped, led⟩

theorem proceeds_foldl (path : String) (scene : Turnstile) (numbers : List Nat) :
    Relation.ReflTransGen Proceeds scene (numbers.foldl (proceed path) scene) := by
  induction numbers generalizing scene with
  | nil => exact .refl
  | cons number numbers hypothesis =>
      exact (scene.proceeds_proceed path number).trans (hypothesis (scene.proceed path number))

theorem moves_of_proceeds (proceeds : Relation.ReflTransGen Proceeds scene later) :
    Relation.ReflTransGen Moves scene later :=
  proceeds.lift id fun _ _ ⟨number, step, _⟩ => ⟨number, step⟩

/-- A region of four bytes with one handle, and two parties that are about to count
themselves. -/
def threshold : Turnstile :=
  [0, 0, 1, 1, 2, 2].foldl (proceed "k") (start 2 4 0o600 2)

theorem reaches_threshold :
    Relation.ReflTransGen Proceeds (start 2 4 0o600 2) threshold :=
  proceeds_foldl "k" (start 2 4 0o600 2) [0, 0, 1, 1, 2, 2]

theorem intact_iff_not_misled_of_three_parties :
    Relation.ReflTransGen Proceeds (start 2 4 0o600 2) threshold ∧
      threshold.Intact ∧
      ∃ later last, Relation.ReflTransGen Moves threshold later ∧
        later.parties[2]? = some Visit.inside ∧ later.region.destructions = 1 ∧
        Relation.ReflTransGen Moves later last ∧ last.region.destructions = 2 := by
  obtain ⟨intact, -, -, losing⟩ :=
    intact_iff_not_misled (by decide) reaches_threshold
  exact ⟨reaches_threshold, intact (by decide),
    losing 0 1 2 (by decide) rfl rfl rfl rfl⟩

/-- It is not true that whoever is inside has a ring that was not destroyed, nor that a ring is
destroyed at most once. -/
theorem not_always_intact :
    (¬ ∀ key capacity mode others scene,
        Relation.ReflTransGen Moves (start key capacity mode others) scene →
          .inside ∈ scene.parties → scene.region.destructions = 0) ∧
      ¬ ∀ key capacity mode others scene,
        Relation.ReflTransGen Moves (start key capacity mode others) scene →
          scene.region.destructions ≤ 1 := by
  have holds : threshold.parties[0]? = some Visit.inside := rfl
  obtain ⟨later, last, loses, entered, once, goesOn, twice⟩ :=
    exists_misled (by decide : 1 ≠ 2) holds rfl rfl rfl rfl
  have reaches := (moves_of_proceeds reaches_threshold).trans loses
  constructor
  · intro always
    have whole := always 2 4 0o600 2 later reaches (List.mem_of_getElem? entered)
    rw [once] at whole
    cases whole
  · intro always
    have few := always 2 4 0o600 2 last (reaches.trans goesOn)
    rw [twice] at few
    omega

end Turnstile

end BoundedStream
