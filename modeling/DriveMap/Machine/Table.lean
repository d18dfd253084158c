import DriveMap.Partition.Walker
/-!
# Partition tables held in memory

The tables of a machine, one list of entries for a drive.  Reading a table may be told to fail at a line, also at one
past its end.  The first table of a drive is the one that counts.  A cursor counts lines in 32 bits, and what is behind
those is not reached.
-/
namespace DriveMap
namespace Machine

structure Table where
  drive : UInt32
  entries : List PartitionEntry
  /-- The line at which reading fails. -/
  failAt : Option Nat
  /-- What it fails with; success lets it go on. -/
  status : Status

namespace Table

/-- The line after a cursor. -/
def slotAfter (c : Cursor) : Nat := c.entry.elim 0 (· + 1)

/-- The entry after a cursor, as it stands in the table. -/
def entryAfter? (t : Table) (c : Cursor) : Option (PartitionEntry × Cursor) :=
  if h : slotAfter c < UInt32.size then
    t.entries[slotAfter c]?.map fun e =>
      (e, { c with partition := e.index, line := some (UInt32.ofNatLT (slotAfter c) h) })
  else none

/-- The entry after a cursor. -/
def next (t : Table) (c : Cursor) : Outcome (Option (PartitionEntry × Cursor)) :=
  if t.failAt = some (slotAfter c) then t.status.toOutcome (t.entryAfter? c) else .ok (t.entryAfter? c)

theorem slotAfter_of_next {t : Table} {c c' : Cursor} {e : PartitionEntry} (h : t.next c = .ok (some (e, c'))) :
    slotAfter c < t.entries.length ∧ slotAfter c' = slotAfter c + 1 := by
  have hentry : t.entryAfter? c = some (e, c') := by
    unfold next at h
    split at h
    · exact Status.eq_of_toOutcome h
    · exact Except.ok.inj h
  unfold entryAfter? at hentry
  split at hentry
  · obtain ⟨e', he, hc⟩ := Option.map_eq_some_iff.1 hentry
    cases hc
    exact ⟨(List.getElem?_eq_some_iff.1 he).1, congrArg Nat.succ (UInt32.toNat_ofNatLT ..)⟩
  · cases hentry

/-- The table that counts for a drive. -/
def ofDrive? (tables : List Table) (drive : UInt32) : Option Table := tables.find? fun t => t.drive == drive

/-- Walks the tables.  A drive without one has no partitions. -/
def walker (tables : List Table) : Walker where
  next drive c := (ofDrive? tables drive).elim (.ok none) fun t => t.next c
  left drive c := (ofDrive? tables drive).elim 0 fun t => t.entries.length - slotAfter c
  next_left {drive c e c'} h := by
    cases ht : ofDrive? tables drive with
    | none => rw [ht] at h; cases h
    | some t =>
      rw [ht] at h
      obtain ⟨hlt, hs⟩ := slotAfter_of_next h
      simp only [Option.elim_some, hs]
      omega

end Table
end Machine
end DriveMap
