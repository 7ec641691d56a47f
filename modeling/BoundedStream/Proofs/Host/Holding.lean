import BoundedStream.Proofs.Host.Rings

/-!
# Transports that hold a region

A transport over a region makes all of its calls on the ring of that region, and giving it
up leaves the region once.
-/

namespace BoundedStream

/-- A transport holds the region of a number. -/
def Transport.Holds (transport : Transport) (number : Nat) : Prop :=
  ∃ handle, transport.backend = .segment handle ∧ handle.region = number ∧
    handle.attached = true

namespace Transport.Holds

variable {transport : Transport} {number : Nat}

theorem produceCall?_eq (holds : transport.Holds number) {data : List UInt8}
    (nonempty : data ≠ []) :
    transport.produceCall? data =
      some (.ring (.region number) (.start (.produce data true))) := by
  obtain ⟨handle, backend, rfl, -⟩ := holds
  simp [produceCall?, nonempty, backend]

theorem consumeCall?_eq (holds : transport.Holds number) {length : Nat}
    (positive : length ≠ 0) :
    transport.consumeCall? length =
      some (.ring (.region number) (.start (.consume length true))) := by
  obtain ⟨handle, backend, rfl, -⟩ := holds
  simp [consumeCall?, positive, backend]

theorem pendingCall?_eq (holds : transport.Holds number) :
    transport.pendingCall? = some (.ring (.region number) (.start .measure)) := by
  obtain ⟨handle, backend, rfl, -⟩ := holds
  simp [pendingCall?, backend]

theorem references?_eq (holds : transport.Holds number) {host : Host} {region : Region}
    (found : host.region? number = some region) :
    transport.references? host = some region.references := by
  obtain ⟨handle, backend, rfl, -⟩ := holds
  simp [references?, backend, Host.references, found]

theorem capacity?_eq (holds : transport.Holds number) {host : Host} {region : Region}
    (found : host.region? number = some region) :
    transport.capacity? host = some region.capacity := by
  obtain ⟨handle, backend, rfl, -⟩ := holds
  simp [capacity?, backend, found]

/-- Giving the transport up leaves its region and nothing else. -/
theorem close_eq (holds : transport.Holds number) {host : Host} {region : Region}
    (found : host.region? number = some region) :
    transport.close host = host.updateRegion number fun _ => region.leave.2 := by
  obtain ⟨handle, backend, rfl, attached⟩ := holds
  have present : host.memory.regions.get? handle.region = some region := found
  simp only [close, backend, SharedMemory.drop, SharedMemory.release, attached,
    RegionTable.release, present]
  rfl

end Transport.Holds

namespace Host

variable {host : Host} {number : Nat} {region : Region}

theorem region?_setGuarded_self (found : host.region? number = some region)
    (guarded : GuardedRing) :
    (host.setGuarded (.region number) guarded).region? number =
      some { region with guarded } := by
  rw [region?_setGuarded, if_pos rfl, found]
  rfl

theorem region?_updateRegion_self (found : host.region? number = some region)
    (changed : Region) :
    (host.updateRegion number fun _ => changed).region? number = some changed := by
  simp only [region?, updateRegion, RegionTable.get?_update_self]
  rw [region?] at found
  rw [found]
  rfl

theorem guarded?_region (found : host.region? number = some region) :
    host.guarded? (.region number) = some region.guarded := by
  simp [guarded?, found]

end Host

end BoundedStream
