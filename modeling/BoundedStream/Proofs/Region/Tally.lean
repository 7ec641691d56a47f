import BoundedStream.Proofs.Region.Handles
import BoundedStream.Segment

/-!
# Counting handles

A table of regions is in order with respect to the handles that are around when every region
counts its own and those without any were removed.  Making, joining, leaving and removing a
region keep it in order; what happens in the rings does not matter.
-/

namespace BoundedStream

namespace Region

/-- What a region says about itself to those who look for it and hold it. -/
def ledger (region : Region) : Nat × Int32 × Bool :=
  (region.key, region.references, region.removed)

end Region

namespace RegionTable

variable {table later : RegionTable} {holders holders' : Nat → Nat} {number : Nat}
  {region : Region}

/-- Both tables have the same regions, but for their rings. -/
def Agrees (table later : RegionTable) : Prop :=
  later.regions.map Region.ledger = table.regions.map Region.ledger

theorem Agrees.length_eq (agrees : table.Agrees later) :
    later.regions.length = table.regions.length := by
  simpa using congrArg List.length agrees

theorem Agrees.get? (agrees : table.Agrees later) (present : later.get? number = some region) :
    ∃ old, table.get? number = some old ∧ old.ledger = region.ledger := by
  have same : later.regions[number]?.map Region.ledger =
      table.regions[number]?.map Region.ledger := by
    rw [← List.getElem?_map, ← List.getElem?_map, agrees]
  rw [RegionTable.get?] at present
  rw [present, Option.map_some] at same
  obtain ⟨old, found, isOld⟩ := Option.map_eq_some_iff.mp same.symm
  exact ⟨old, found, isOld⟩

theorem agrees_of_eq (same : later = table) : table.Agrees later := by
  rw [same]
  rfl

theorem agrees_update (number : Nat) {change : Region → Region}
    (same : ∀ region, (change region).ledger = region.ledger) :
    table.Agrees (table.update number change) := by
  apply List.ext_getElem?
  intro other
  have found : (table.update number change).get? other =
      if number = other then (table.get? other).map change else table.get? other :=
    get?_update change
  rw [RegionTable.get?, RegionTable.get?] at found
  rw [List.getElem?_map, List.getElem?_map, found]
  split
  · cases table.regions[other]? with
    | none => rfl
    | some region => exact congrArg some (same region)
  · rfl

/-- Each region counts so many handles, and those that nobody holds were removed. -/
structure Tally (table : RegionTable) (holders : Nat → Nat) : Prop where
  counted : ∀ number region, table.get? number = some region →
    region.references = Int32.ofNat (holders number)
  gone : ∀ number region, table.get? number = some region → holders number = 0 →
    region.removed = true
  present : ∀ number, holders number ≠ 0 → number < table.regions.length

namespace Tally

theorem of_agrees (tally : table.Tally holders) (agrees : table.Agrees later) :
    later.Tally holders where
  counted number region found := by
    obtain ⟨old, oldFound, same⟩ := agrees.get? found
    rw [← tally.counted number old oldFound]
    exact congrArg (fun entry => entry.2.1) same.symm
  gone number region found unheld := by
    obtain ⟨old, oldFound, same⟩ := agrees.get? found
    rw [← tally.gone number old oldFound unheld]
    exact congrArg (fun entry => entry.2.2) same.symm
  present number held := by
    rw [agrees.length_eq]
    exact tally.present number held

/-- A new region has the one handle of its founder. -/
theorem insert (tally : table.Tally holders) (one : region.references = 1)
    (more : ∀ other, holders' other =
      holders other + if other = table.regions.length then 1 else 0) :
    (table.insert region).Tally holders' where
  counted number found present := by
    rw [more]
    by_cases isNew : number = table.regions.length
    · subst isNew
      have unheld : holders table.regions.length = 0 := by
        by_contra held
        exact Nat.lt_irrefl _ (tally.present _ held)
      rw [get?_insert_self] at present
      cases present
      rw [one, unheld, if_pos rfl]
      rfl
    · rw [get?_insert_of_ne isNew] at present
      rw [if_neg isNew, Nat.add_zero]
      exact tally.counted number found present
  gone number found present unheld := by
    rw [more] at unheld
    by_cases isNew : number = table.regions.length
    · rw [if_pos isNew] at unheld
      omega
    · rw [get?_insert_of_ne isNew] at present
      exact tally.gone number found present (by omega)
  present number held := by
    have longer : (table.insert region).regions.length = table.regions.length + 1 := by
      simp [RegionTable.insert]
    rw [more] at held
    rw [longer]
    split at held
    · omega
    · have := tally.present number (by omega)
      omega

/-- A region changes along with the number of its handles. -/
theorem update (tally : table.Tally holders) {changed : Region}
    (found : table.get? number = some region)
    (counted : changed.references = Int32.ofNat (holders' number))
    (gone : holders' number = 0 → changed.removed = true)
    (others : ∀ other, other ≠ number → holders' other = holders other) :
    (table.update number fun _ => changed).Tally holders' where
  counted other otherRegion otherFound := by
    by_cases same : other = number
    · subst same
      rw [get?_update_self, found] at otherFound
      cases otherFound
      exact counted
    · rw [get?_update_of_ne _ same] at otherFound
      rw [others other same]
      exact tally.counted other otherRegion otherFound
  gone other otherRegion otherFound unheld := by
    by_cases same : other = number
    · subst same
      rw [get?_update_self, found] at otherFound
      cases otherFound
      exact gone unheld
    · rw [get?_update_of_ne _ same] at otherFound
      rw [others other same] at unheld
      exact tally.gone other otherRegion otherFound unheld
  present other held := by
    rw [length_update]
    by_cases same : other = number
    · subst same
      exact lt_of_get?_eq_some found
    · rw [others other same] at held
      exact tally.present other held

/-- One more handle. -/
theorem join (tally : table.Tally holders) {changed : Region}
    (found : table.get? number = some region)
    (counted : changed.references = region.references + 1)
    (more : ∀ other, holders' other = holders other + if other = number then 1 else 0) :
    (table.update number fun _ => changed).Tally holders' := by
  have one := more number
  rw [if_pos rfl] at one
  refine tally.update found ?_ (by omega) ?_
  · rw [counted, tally.counted number region found, one, Int32.ofNat_add]
    rfl
  · intro other distinct
    rw [more, if_neg distinct, Nat.add_zero]

/-- One handle less, and the last one takes the region with it. -/
theorem release (tally : table.Tally holders) (few : holders number < 1 <<< 32)
    (less : ∀ other, holders other = holders' other + if other = number then 1 else 0) :
    (table.release number).2.Tally holders' := by
  have one := less number
  rw [if_pos rfl] at one
  obtain ⟨region, found⟩ : ∃ region, table.get? number = some region :=
    ⟨_, List.getElem?_eq_getElem (tally.present number (by omega))⟩
  have counted : region.references - 1 = Int32.ofNat (holders' number) := by
    rw [tally.counted number region found, one, Region.ofNat_succ_sub_one]
  have ends : Int32.ofNat (holders' number) = 0 ↔ holders' number = 0 :=
    Region.ofNat_eq_zero_iff (by omega)
  have others : ∀ other, other ≠ number → holders' other = holders other := by
    intro other distinct
    have := less other
    rw [if_neg distinct] at this
    omega
  simp only [RegionTable.release, found, Region.leave_eq]
  rw [counted]
  split
  · exact tally.update found counted (fun _ => rfl) others
  · rename_i remain
    exact tally.update found counted (fun unheld => absurd (ends.mpr unheld) remain) others

/-- Whoever holds a region, it may be removed at any time. -/
theorem remove (tally : table.Tally holders) (number : Nat) :
    (table.update number Region.remove).Tally holders where
  counted other region found := by
    rw [get?_update] at found
    split at found
    · obtain ⟨old, oldFound, rfl⟩ := Option.map_eq_some_iff.mp found
      exact tally.counted other old oldFound
    · exact tally.counted other region found
  gone other region found unheld := by
    rw [get?_update] at found
    split at found
    · obtain ⟨old, oldFound, rfl⟩ := Option.map_eq_some_iff.mp found
      rfl
    · exact tally.gone other region found unheld
  present other held := by
    rw [length_update]
    exact tally.present other held

/-- A key is free when nobody holds what it leads to. -/
theorem find?_eq_none (tally : table.Tally holders) {key : Nat}
    (unheld : ∀ number region, table.get? number = some region → region.key = key →
      region.removed = false → holders number = 0) :
    table.find? key = none := by
  rw [find?_eq_none_iff]
  intro number region found sameKey
  by_contra stands
  have present : region.removed = false := by simpa using stands
  have gone := tally.gone number region found (unheld number region found sameKey present)
  exact stands gone

end Tally

end RegionTable

end BoundedStream
