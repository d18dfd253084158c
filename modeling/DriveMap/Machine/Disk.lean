import DriveMap.Context.Transfer
/-!
# Memory disks

A disk that is a string of bytes.  It counts every transfer; then it fails if it is told to, if another medium is meant
than the one in it, or if the transfer goes past its end.  What fails moves nothing.
-/
namespace DriveMap
namespace Machine

structure Disk where
  mediaId : UInt32
  bytes : Bytes
  /-- What every transfer answers; success lets it go on. -/
  failure : Status
  reads : Nat
  writes : Nat

namespace Disk

/-- A fresh disk of a size.  The byte at `i` is `i` modulo 251, so that no two sectors near each other are alike. -/
def ofSize (mediaId : UInt32) (failure : Status) (size : Nat) : Disk :=
  ⟨mediaId, (List.range size).map fun i => UInt8.ofNat (i % 251), failure, 0, 0⟩

/-- Whether a transfer may go on. -/
def check (d : Disk) (mediaId : UInt32) (offset : UInt64) (length : Nat) : Outcome Unit := do
  d.failure.toOutcome ()
  if mediaId ≠ d.mediaId then .error .mediaChanged
  else if d.bytes.length < offset.toNat + length then .error .invalidParameter
  else .ok ()

/-- A transfer that goes on stays inside the disk. -/
theorem le_length_of_check {d : Disk} {mediaId : UInt32} {offset : UInt64} {length : Nat}
    (h : d.check mediaId offset length = .ok ()) : offset.toNat + length ≤ d.bytes.length := by
  unfold check at h
  cases hf : d.failure.toOutcome () with
  | error f => rw [hf] at h; cases h
  | ok u =>
    rw [hf] at h
    simp only [bind, Except.bind] at h
    split at h
    · cases h
    · split at h
      · cases h
      · omega

/-- The bytes of a run. -/
def slice (d : Disk) (offset length : Nat) : Bytes := (d.bytes.drop offset).take length

def read (d : Disk) (mediaId : UInt32) (offset : UInt64) (length : Nat) : Outcome Bytes × Disk :=
  ((d.check mediaId offset length).map fun _ => d.slice offset.toNat length, { d with reads := d.reads + 1 })

def write (d : Disk) (mediaId : UInt32) (offset : UInt64) (data : Bytes) : Outcome Unit × Disk :=
  let counted := { d with writes := d.writes + 1 }
  match d.check mediaId offset data.length with
  | .error f => (.error f, counted)
  | .ok () =>
    (.ok (), { counted with bytes := d.bytes.take offset.toNat ++ data ++ d.bytes.drop (offset.toNat + data.length) })

theorem length_of_read {d d' : Disk} {mediaId : UInt32} {offset : UInt64} {length : Nat} {bs : Bytes}
    (h : d.read mediaId offset length = (.ok bs, d')) : bs.length = length := by
  obtain ⟨hr, -⟩ := Prod.mk.inj h
  cases hc : d.check mediaId offset length with
  | error f => rw [hc] at hr; cases hr
  | ok u =>
    have hle := le_length_of_check hc
    rw [hc] at hr
    cases hr
    rw [slice, List.length_take, List.length_drop]
    omega

end Disk

/-- Disks, named by their places. -/
abbrev Bank := List Disk

namespace Bank

/-- Hands a transfer to the disk at a place.  Where there is no disk, nothing is found. -/
def transfer {β : Type} (b : Bank) (i : Nat) (f : Disk → Outcome β × Disk) : Outcome β × Bank :=
  match b[i]? with
  | none => (.error .notFound, b)
  | some d => ((f d).1, b.set i (f d).2)

/-- Transfers to and from the disks of a bank. -/
def io : DiskIo Nat Bank where
  read i mediaId offset length b := b.transfer i fun d => d.read mediaId offset length
  write i mediaId offset data b := b.transfer i fun d => d.write mediaId offset data
  read_length {i mediaId offset length b bs b'} h := by
    rw [transfer] at h
    split at h
    · cases h
    · rename_i d _
      exact Disk.length_of_read (Prod.ext (Prod.mk.inj h).1 rfl)

end Bank
end Machine
end DriveMap
