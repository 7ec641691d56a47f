import BoundedStream.Region.Table
import Mathlib.Tactic.ByContra

/-!
# Numbers and keys of regions

A region keeps its number for good, and a key leads to a region that has the key and was
not removed.  Where all other regions of a key were removed, the key leads to the one
region that is left or nowhere.
-/

namespace BoundedStream

namespace RegionTable

variable {table : RegionTable} {key number other : Nat} {region : Region}

theorem get?_update (change : Region → Region) :
    (table.update number change).get? other =
      if number = other then (table.get? other).map change else table.get? other := by
  unfold update get?
  rw [List.getElem?_modify]
  split <;> simp

@[simp]
theorem get?_update_self (change : Region → Region) :
    (table.update number change).get? number = (table.get? number).map change := by
  rw [get?_update, if_pos rfl]

theorem get?_update_of_ne (change : Region → Region) (distinct : other ≠ number) :
    (table.update number change).get? other = table.get? other := by
  rw [get?_update, if_neg (Ne.symm distinct)]

/-- What is made of a region may be put in its place. -/
theorem update_of_present (change : Region → Region)
    (found : table.get? number = some region) :
    (table.update number fun _ => change region) = table.update number change := by
  refine congrArg RegionTable.mk (List.ext_getElem? fun other => ?_)
  change (table.update number fun _ => change region).get? other =
    (table.update number change).get? other
  by_cases same : other = number
  · rw [same, get?_update_self, get?_update_self, found]
    rfl
  · rw [get?_update_of_ne _ same, get?_update_of_ne _ same]

/-- A region may be put in its own place. -/
theorem update_of_get?_eq_some (found : table.get? number = some region) :
    (table.update number fun _ => region) = table := by
  refine (update_of_present id found).trans ?_
  rw [update, List.modify_id]

@[simp]
theorem length_update (change : Region → Region) :
    (table.update number change).regions.length = table.regions.length := by
  simp [update]

theorem lt_of_get?_eq_some (found : table.get? number = some region) :
    number < table.regions.length := by
  by_contra beyond
  rw [get?, List.getElem?_eq_none (by omega)] at found
  cases found

@[simp]
theorem get?_insert_self :
    (table.insert region).get? table.regions.length = some region := by
  simp [insert, get?]

theorem get?_insert_of_ne (distinct : other ≠ table.regions.length) :
    (table.insert region).get? other = table.get? other := by
  simp only [insert, get?, List.getElem?_append]
  split
  · rfl
  · rw [List.getElem?_eq_none (by simp; omega), List.getElem?_eq_none (by omega)]

theorem get?_insert_of_get?_eq_some {old : Region} (found : table.get? other = some old) :
    (table.insert region).get? other = some old := by
  have inside := lt_of_get?_eq_some found
  rw [get?_insert_of_ne (by omega), found]

theorem get?_of_find?_eq_some (leads : table.find? key = some number) :
    ∃ region, table.get? number = some region ∧ region.key = key ∧
      region.removed = false := by
  obtain ⟨inside, matched, _⟩ := List.findIdx?_eq_some_iff_getElem.mp leads
  refine ⟨table.regions[number], List.getElem?_eq_getElem inside, ?_⟩
  simpa using matched

theorem find?_eq_none_iff :
    table.find? key = none ↔ ∀ number region, table.get? number = some region →
      region.key = key → region.removed = true := by
  rw [find?, List.findIdx?_eq_none_iff]
  constructor
  · intro unmatched number region found sameKey
    have := unmatched region (List.mem_of_getElem? found)
    simpa [sameKey] using this
  · intro removed region member
    obtain ⟨number, inside, rfl⟩ := List.mem_iff_getElem.mp member
    have := removed number _ (List.getElem?_eq_getElem inside)
    by_cases sameKey : table.regions[number].key = key
    · simp [this sameKey]
    · simp [sameKey]

/-- Every other region of the key was removed. -/
def Sole (table : RegionTable) (key number : Nat) : Prop :=
  ∀ other region, other ≠ number → table.get? other = some region →
    region.key = key → region.removed = true

theorem Sole.find?_eq (sole : table.Sole key number)
    (found : table.get? number = some region) (sameKey : region.key = key) :
    table.find? key = if region.removed then none else some number := by
  cases removed : region.removed with
  | true =>
      rw [if_pos rfl, find?_eq_none_iff]
      intro other otherRegion otherFound otherKey
      by_cases same : other = number
      · subst same
        rw [found] at otherFound
        cases otherFound
        exact removed
      · exact sole other otherRegion same otherFound otherKey
  | false =>
      rw [if_neg (by simp)]
      cases leads : table.find? key with
      | none =>
          have gone := find?_eq_none_iff.mp leads number region found sameKey
          rw [removed] at gone
          cases gone
      | some leader =>
          obtain ⟨leading, leadingFound, leadingKey, present⟩ :=
            get?_of_find?_eq_some leads
          by_cases same : leader = number
          · rw [same]
          · have gone := sole leader leading same leadingFound leadingKey
            rw [present] at gone
            cases gone

theorem sole_insert (nowhere : table.find? key = none) :
    (table.insert region).Sole key table.regions.length := by
  intro other old distinct found
  rw [get?_insert_of_ne distinct] at found
  exact find?_eq_none_iff.mp nowhere other old found

/-- At most one region of each key was not removed. -/
def Distinct (table : RegionTable) : Prop :=
  ∀ number region, table.get? number = some region → region.removed = false →
    table.Sole region.key number

theorem distinct_empty : empty.Distinct := by
  intro number region found
  simp [empty, get?] at found

/-- A key leads exactly to the region of that key that was not removed. -/
theorem Distinct.find?_eq_some_iff (distinct : table.Distinct) :
    table.find? key = some number ↔ ∃ region, table.get? number = some region ∧
      region.key = key ∧ region.removed = false := by
  constructor
  · exact get?_of_find?_eq_some
  · rintro ⟨region, found, rfl, present⟩
    rw [(distinct number region found present).find?_eq found rfl, present]
    rfl

theorem Distinct.insert (distinct : table.Distinct)
    (nowhere : table.find? region.key = none) : (table.insert region).Distinct := by
  intro number old found present
  by_cases isNew : number = table.regions.length
  · subst isNew
    rw [get?_insert_self] at found
    cases found
    exact sole_insert nowhere
  · rw [get?_insert_of_ne isNew] at found
    intro other otherRegion distinctNumber otherFound sameKey
    by_cases otherNew : other = table.regions.length
    · subst otherNew
      rw [get?_insert_self] at otherFound
      cases otherFound
      rw [find?_eq_none_iff.mp nowhere number old found sameKey.symm] at present
      cases present
    · rw [get?_insert_of_ne otherNew] at otherFound
      exact distinct number old found present other otherRegion distinctNumber otherFound
        sameKey

/-- A region may change as long as it keeps its key and does not come back. -/
theorem Distinct.update (distinct : table.Distinct) (change : Region → Region)
    (found : table.get? number = some region) (sameKey : (change region).key = region.key)
    (remains : (change region).removed = false → region.removed = false) :
    (table.update number change).Distinct := by
  have before : ∀ other otherRegion,
      (table.update number change).get? other = some otherRegion →
        ∃ old, table.get? other = some old ∧ otherRegion.key = old.key ∧
          (otherRegion.removed = false → old.removed = false) := by
    intro other otherRegion otherFound
    by_cases same : other = number
    · subst same
      rw [get?_update_self, found] at otherFound
      cases otherFound
      exact ⟨region, found, sameKey, remains⟩
    · rw [get?_update_of_ne _ same] at otherFound
      exact ⟨otherRegion, otherFound, rfl, id⟩
  intro first firstRegion firstFound firstPresent second secondRegion distinctNumber
    secondFound key
  obtain ⟨old, oldFound, oldKey, oldPresent⟩ := before first firstRegion firstFound
  obtain ⟨other, otherFound, otherKey, otherPresent⟩ :=
    before second secondRegion secondFound
  by_contra stays
  have gone := distinct first old oldFound (oldPresent firstPresent) second other
    distinctNumber otherFound (by rw [← otherKey, key, oldKey])
  rw [otherPresent (by simpa using stays)] at gone
  cases gone

end RegionTable

end BoundedStream
