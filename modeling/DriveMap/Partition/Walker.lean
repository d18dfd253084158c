import DriveMap.Partition.Entry
import DriveMap.Status
/-!
# Walking partition tables

A walker hands out the entries of a drive's partition tables one at a time, each with a cursor for the next call.  A
fresh cursor starts before the first entry.

A walker may be more than its tables: it reads sectors, keeps what it has read, counts how often it is asked.  A
`LiveWalker` is changed by each call, and nothing says that its tables end.  A `Walker` is never changed, and its tables
are finite: it says how far a cursor still is from the end at most, and every entry brings it closer.
`Walker.listing` is what a drive's tables hold.
-/
namespace DriveMap

/-- Where a walker stands in a drive's tables. -/
structure Cursor where
  /-- The number of the last partition handed out. -/
  partition : UInt32
  /-- The sector of the table that holds it. -/
  tableOffset : UInt64
  /-- Its line in that table. -/
  line : Option UInt32
  /-- The sector of the first extended table. -/
  extendedOffset : UInt64
deriving DecidableEq

/-- The cursor before the first partition. -/
def Cursor.fresh : Cursor := ⟨wholeDisk, 0, none, 0⟩

/-- The number of the line in its table. -/
def Cursor.entry (c : Cursor) : Option Nat := c.line.map UInt32.toNat

/-! ## Walkers that change -/

structure LiveWalker (σ : Type) where
  /-- The next entry of a drive after a cursor, or nothing past the last one; then the cursor and the walker as the call
  leaves them. -/
  next : UInt32 → Cursor → σ → Outcome (Option PartitionEntry) × Cursor × σ

namespace LiveWalker

variable {σ : Type}

/-- The walker, with a count of its calls. -/
def counting (v : LiveWalker σ) : LiveWalker (σ × Nat) where
  next
    | drive, c, (s, calls) =>
      let (o, c', s') := v.next drive c s
      (o, c', s', calls + 1)

theorem counting_next {v : LiveWalker σ} {drive : UInt32} {c c' : Cursor} {s s' : σ}
    {o : Outcome (Option PartitionEntry)} (h : v.next drive c s = (o, c', s')) (calls : Nat) :
    v.counting.next drive c (s, calls) = (o, c', s', calls + 1) := by
  simp only [counting, h]

end LiveWalker

/-! ## Walkers that do not change -/

structure Walker where
  /-- The next entry of a drive after a cursor, with the cursor moved onto it; nothing past the last one. -/
  next : UInt32 → Cursor → Outcome (Option (PartitionEntry × Cursor))
  /-- A bound on the entries after a cursor. -/
  left : UInt32 → Cursor → Nat
  next_left : ∀ {drive c e c'}, next drive c = .ok (some (e, c')) → left drive c' < left drive c

/-- The entries that a drive's tables hold, and how reading them ends. -/
structure Listing where
  entries : List PartitionEntry
  ending : Outcome Unit

namespace Walker

/-- All that follows a cursor. -/
def listingFrom (w : Walker) (drive : UInt32) (c : Cursor) : Listing :=
  match step : w.next drive c with
  | .error f => ⟨[], .error f⟩
  | .ok none => ⟨[], .ok ()⟩
  | .ok (some (e, c')) =>
    have : w.left drive c' < w.left drive c := w.next_left step
    let rest := listingFrom w drive c'
    ⟨e :: rest.entries, rest.ending⟩
termination_by w.left drive c

/-- All that a drive's tables hold. -/
def listing (w : Walker) (drive : UInt32) : Listing := w.listingFrom drive .fresh

/-- The walker among those that change. -/
def live (w : Walker) : LiveWalker Unit where
  next drive c s :=
    match w.next drive c with
    | .error f => (.error f, c, s)
    | .ok none => (.ok none, c, s)
    | .ok (some (e, c')) => (.ok (some e), c', s)

variable {w : Walker} {drive : UInt32} {c : Cursor}

theorem live_next_of_error {f : Failure Unit} (h : w.next drive c = .error f) (s : Unit) :
    w.live.next drive c s = (.error f, c, s) := by
  simp only [live, h]

theorem live_next_of_none (h : w.next drive c = .ok none) (s : Unit) :
    w.live.next drive c s = (.ok none, c, s) := by
  simp only [live, h]

theorem live_next_of_some {c' : Cursor} {e : PartitionEntry} (h : w.next drive c = .ok (some (e, c'))) (s : Unit) :
    w.live.next drive c s = (.ok (some e), c', s) := by
  simp only [live, h]

end Walker
end DriveMap
