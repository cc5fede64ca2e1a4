/-!
# The slot for the current user

One slot in the process names the user of a request that is being served. Requests overwrite each
other's entry, so it is good for log lines and never for a decision. Entering a request writes the
slot and leaves a guard; dropping the guard empties the slot, whoever wrote it last.
-/

namespace FleetDashboard

/-- The slot and the guards that are live. -/
structure UserSlot where
  /-- The user in the slot. -/
  value : Option String
  /-- The live guards by number, the most recently entered first. -/
  live : List Nat
deriving DecidableEq

/-- What happens to the slot. -/
inductive SlotEvent where
  /-- A request enters under a guard of that number, with its username if there is one. -/
  | enter (guard : Nat) (user : Option String)
  /-- A guard is dropped. -/
  | drop (guard : Nat)
deriving DecidableEq

namespace UserSlot

/-- The slot at the start. -/
def empty : UserSlot :=
  { value := none, live := [] }

/-- Writes the slot. -/
def set (slot : UserSlot) (user : Option String) : UserSlot :=
  { slot with value := user }

/-- Empties the slot. -/
def clear (slot : UserSlot) : UserSlot :=
  { slot with value := none }

/-- Writes the slot under a guard. -/
def enter (slot : UserSlot) (guard : Nat) (user : Option String) : UserSlot :=
  { value := user, live := guard :: slot.live }

/-- Drops a guard, which empties the slot. -/
def drop (slot : UserSlot) (guard : Nat) : UserSlot :=
  { value := none, live := slot.live.erase guard }

/-- One event. -/
def step (slot : UserSlot) : SlotEvent → UserSlot
  | .enter guard user => slot.enter guard user
  | .drop guard => slot.drop guard

/-- A history of events, the earliest first. -/
def run (slot : UserSlot) (events : List SlotEvent) : UserSlot :=
  events.foldl step slot

end UserSlot

end FleetDashboard
