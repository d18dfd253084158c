import DriveMap.Machine.Step
import DriveMap.Proofs.DiskCalls
/-!
# The bytes of the disks

The disks of a machine, told byte by byte.  A transfer either fails, and then no byte of a disk or of the buffer is
another, or it moves the bytes that it names and none besides (`Machine.Moves`).  So what a disk holds after a run is
what it held before, overlaid with the writes that were answered with success (`Machine.run_bytes`).

Drives may share a disk, with blocks of different sizes: a byte is told by its place on the disk, not by the drive that
it was reached through.  Between two transfers anything else may be done to the machine.
-/
namespace DriveMap
namespace Machine

/-- The byte of a disk at an offset, if there is one. -/
def Bank.byteAt? (b : Bank) (i j : Nat) : Option UInt8 := b[i]?.bind fun d => d.bytes[j]?

/-- A buffer filled from its start. -/
theorem getElem?_filled {bs buffer : Bytes} {length : Nat} (h : bs.length = length) (k : Nat) :
    (bs ++ buffer.drop length)[k]? = if k < length then bs[k]? else buffer[k]? := by
  split
  · rename_i hlt
    rw [List.getElem?_append_left (by omega)]
  · rename_i hge
    rw [List.getElem?_append_right (by omega), List.getElem?_drop, h, Nat.add_sub_cancel' (Nat.not_lt.1 hge)]

/-! ## One disk -/

namespace Disk

variable {d : Disk} {mediaId : UInt32} {offset : UInt64} {length : Nat}

structure Admits (d : Disk) (mediaId : UInt32) (offset length : Nat) : Prop where
  works : d.failure = .success
  medium : mediaId = d.mediaId
  inside : offset + length ≤ d.bytes.length

theorem check_of_admits (h : d.Admits mediaId offset.toNat length) : d.check mediaId offset length = .ok () := by
  unfold check Status.toOutcome
  rw [dif_pos h.works]
  simp only [bind, Except.bind, if_neg (not_not_intro h.medium), if_neg (Nat.not_lt.2 h.inside)]

theorem admits_of_check (h : d.check mediaId offset length = .ok ()) : d.Admits mediaId offset.toNat length := by
  have hinside := le_length_of_check h
  unfold check Status.toOutcome at h
  split at h
  · rename_i hworks
    simp only [bind, Except.bind] at h
    split at h
    · cases h
    · rename_i hmedium
      exact ⟨hworks, Decidable.not_not.1 hmedium, hinside⟩
  · cases h

theorem check_of_not_admits (h : ¬d.Admits mediaId offset.toNat length) :
    ∃ f, d.check mediaId offset length = .error f := by
  cases hc : d.check mediaId offset length with
  | error f => exact ⟨f, rfl⟩
  | ok _ => exact absurd (admits_of_check hc) h

theorem getElem?_slice (d : Disk) (offset length k : Nat) :
    (d.slice offset length)[k]? = if k < length then d.bytes[offset + k]? else none := by
  rw [slice, List.getElem?_take, List.getElem?_drop]

theorem getElem?_replaced {bytes data : Bytes} {offset : Nat} (h : offset + data.length ≤ bytes.length) (j : Nat) :
    (bytes.take offset ++ data ++ bytes.drop (offset + data.length))[j]? =
      if offset ≤ j ∧ j < offset + data.length then data[j - offset]? else bytes[j]? := by
  have hhead : (bytes.take offset).length = offset := List.length_take_of_le (by omega)
  rcases Nat.lt_or_ge j offset with hj | hj
  · rw [if_neg (by omega), List.append_assoc, List.getElem?_append_left (by omega), List.getElem?_take_of_lt hj]
  rcases Nat.lt_or_ge j (offset + data.length) with hj' | hj'
  · rw [if_pos ⟨hj, hj'⟩, List.append_assoc, List.getElem?_append_right (by omega), hhead,
      List.getElem?_append_left (by omega)]
  · rw [if_neg (by omega), List.getElem?_append_right (by rw [List.length_append]; omega), List.length_append, hhead,
      List.getElem?_drop]
    congr 1
    omega

end Disk

/-! ## A bank of disks -/

namespace Bank

variable {b : Bank} {i : Nat} {d : Disk} {mediaId : UInt32} {offset : UInt64} {length : Nat} {data : Bytes}

theorem byteAt?_set (h : b[i]? = some d) (d' : Disk) (i' j : Nat) :
    Bank.byteAt? (b.set i d') i' j = if i' = i then d'.bytes[j]? else b.byteAt? i' j := by
  obtain ⟨hlt, -⟩ := List.getElem?_eq_some_iff.1 h
  unfold byteAt?
  by_cases hi : i' = i
  · rw [if_pos hi, hi, List.getElem?_set_self hlt, Option.bind_some]
  · rw [if_neg hi, List.getElem?_set_ne (Ne.symm hi)]

def Admits (b : Bank) (i : Nat) (mediaId : UInt32) (offset length : Nat) : Prop :=
  ∃ d, b[i]? = some d ∧ d.Admits mediaId offset length

theorem transfer_of_some {β : Type} {f : Disk → Outcome β × Disk} (h : b[i]? = some d) :
    b.transfer i f = ((f d).1, b.set i (f d).2) := by
  rw [transfer, h]

/-- **A transfer that leaves the bytes of its disk leaves every byte.** -/
theorem byteAt?_transfer {β : Type} {f : Disk → Outcome β × Disk}
    (h : ∀ d, b[i]? = some d → (f d).2.bytes = d.bytes) : (b.transfer i f).2.byteAt? = b.byteAt? := by
  funext i' j
  unfold transfer
  split
  · rfl
  · rename_i d hd
    by_cases hi : i' = i
    · rw [byteAt?_set hd, if_pos hi, h d hd, hi, byteAt?, hd, Option.bind_some]
    · rw [byteAt?_set hd, if_neg hi]

theorem exists_error_transfer {β : Type} {f : Disk → Outcome β × Disk}
    (h : ∀ d, b[i]? = some d → ∃ e, (f d).1 = .error e) : ∃ e, (b.transfer i f).1 = .error e := by
  unfold transfer
  split
  · exact ⟨_, rfl⟩
  · rename_i d hd
    exact h d hd

theorem byteAt?_read (b : Bank) (i : Nat) (mediaId : UInt32) (offset : UInt64) (length : Nat) :
    (io.read i mediaId offset length b).2.byteAt? = b.byteAt? :=
  -- only the count of reads is another
  byteAt?_transfer fun _ _ => rfl

theorem read_of_admits (h : b.Admits i mediaId offset.toNat length) :
    ∃ bs, (io.read i mediaId offset length b).1 = .ok bs ∧
      ∀ k, bs[k]? = if k < length then b.byteAt? i (offset.toNat + k) else none := by
  obtain ⟨d, hd, hadmits⟩ := h
  refine ⟨d.slice offset.toNat length, ?_, fun k => ?_⟩
  · show (b.transfer i _).1 = _
    rw [transfer_of_some hd]
    simp only [Disk.read, Disk.check_of_admits hadmits, Except.map]
  · rw [Disk.getElem?_slice, byteAt?, hd, Option.bind_some]

theorem read_of_not_admits (h : ¬b.Admits i mediaId offset.toNat length) :
    ∃ f, (io.read i mediaId offset length b).1 = .error f := by
  refine exists_error_transfer fun d hd => ?_
  obtain ⟨f, hf⟩ := Disk.check_of_not_admits fun hadmits => h ⟨d, hd, hadmits⟩
  refine ⟨f, ?_⟩
  rw [Disk.read, hf]
  rfl

theorem write_of_admits (h : b.Admits i mediaId offset.toNat data.length) :
    (io.write i mediaId offset data b).1 = .ok () ∧
      ∀ i' j, (io.write i mediaId offset data b).2.byteAt? i' j =
        if i' = i ∧ offset.toNat ≤ j ∧ j < offset.toNat + data.length then data[j - offset.toNat]?
        else b.byteAt? i' j := by
  obtain ⟨d, hd, hadmits⟩ := h
  have hwrite : io.write i mediaId offset data b = ((d.write mediaId offset data).1, b.set i _) := transfer_of_some hd
  have hgo := Disk.check_of_admits hadmits
  rw [hwrite]
  refine ⟨?_, fun i' j => ?_⟩
  · rw [Disk.write, hgo]
  · rw [byteAt?_set hd, Disk.write, hgo]
    by_cases hi : i' = i
    · rw [if_pos hi, Disk.getElem?_replaced hadmits.inside]
      simp only [hi, true_and, byteAt?, hd, Option.bind_some]
    · rw [if_neg hi, if_neg fun h => hi h.1]

theorem write_of_not_admits (h : ¬b.Admits i mediaId offset.toNat data.length) :
    (∃ f, (io.write i mediaId offset data b).1 = .error f) ∧
      (io.write i mediaId offset data b).2.byteAt? = b.byteAt? := by
  have hfails : ∀ d, b[i]? = some d → ∃ f, d.check mediaId offset data.length = .error f := by
    intro d hd
    exact Disk.check_of_not_admits fun hadmits => h ⟨d, hd, hadmits⟩
  refine ⟨exists_error_transfer fun d hd => ?_, byteAt?_transfer fun d hd => ?_⟩
  · obtain ⟨f, hf⟩ := hfails d hd
    refine ⟨f, ?_⟩
    rw [Disk.write, hf]
  · obtain ⟨f, hf⟩ := hfails d hd
    rw [Disk.write, hf]

end Bank

/-! ## One request -/

def Request.transfer? : Request → Option SectorRequest
  | .read drive sector count buffer => some ⟨.read, drive, sector, count, buffer⟩
  | .write drive sector count buffer => some ⟨.write, drive, sector, count, buffer⟩
  | .dispatch code drive sector count buffer => some ⟨code, drive, sector, count, buffer⟩
  | _ => none

/-- A request gets as far as the bytes that it names. -/
structure Reaches (m : Machine) (t : SectorRequest) (d : Device Nat) : Prop where
  known : t.IsKnown
  device : m.context.device? t.drive = some d
  near : t.start d.medium < UInt64.size
  room : t.length d.medium ≤ t.buffer.length
  admitted : m.bank.Admits d.io d.medium.mediaId (t.start d.medium) (t.length d.medium)

/-- What a request may come to: its outcome, and the buffer and the disks afterwards. -/
inductive Moves (m : Machine) (t : SectorRequest) : Outcome Unit → Bytes → Bank → Prop
  | read (d : Device Nat) (buffer : Bytes) (bank : Bank) : t.code = .read → m.Reaches t d →
      buffer.length = t.buffer.length →
      (∀ k, buffer[k]? =
        if k < t.length d.medium then m.bank.byteAt? d.io (t.start d.medium + k) else t.buffer[k]?) →
      bank.byteAt? = m.bank.byteAt? → Moves m t (.ok ()) buffer bank
  | wrote (d : Device Nat) (bank : Bank) : t.code = .write → m.Reaches t d →
      (∀ i j, bank.byteAt? i j =
        if i = d.io ∧ t.start d.medium ≤ j ∧ j < t.stop d.medium then t.buffer[j - t.start d.medium]?
        else m.bank.byteAt? i j) → Moves m t (.ok ()) t.buffer bank
  | failed (f : Failure Unit) (bank : Bank) : (∀ d, ¬m.Reaches t d) → bank.byteAt? = m.bank.byteAt? →
      Moves m t (.error f) t.buffer bank

variable {m : Machine} {t : SectorRequest} {r : Request} {d : Device Nat}

theorem step_of_transfer (h : r.transfer? = some t) :
    m.step r = m.afterTransfer (m.context.serve Bank.io t m.bank) := by
  cases r with
  | read => cases h; rfl
  | write => cases h; rfl
  | dispatch => cases h; rfl
  | _ => cases h

theorem byteAt?_step_of_no_transfer (h : r.transfer? = none) (i j : Nat) :
    (m.step r).machine.bank.byteAt? i j = m.bank.byteAt? i j := by
  cases r with
  | read => cases h
  | write => cases h
  | dispatch => cases h
  | setDisk place failure mediaId =>
    show Bank.byteAt? (m.bank.modify place (changeDisk failure mediaId)) i j = _
    rw [Bank.byteAt?, Bank.byteAt?, List.getElem?_modify]
    split
    · cases m.bank[i]? <;> rfl
    · cases m.bank[i]? <;> rfl
  | _ => rfl

theorem Reaches.eq (h : m.Reaches t d) {d' : Device Nat} (hd : m.context.device? t.drive = some d') : d = d' :=
  Option.some.inj (h.device.symm.trans hd)

theorem carryOut_read_moves {offset : UInt64} (hcode : t.code = .read) (hd : m.context.device? t.drive = some d)
    (ho : offset.toNat = t.start d.medium) (hroom : t.length d.medium ≤ t.buffer.length) :
    let s := Context.carryOut Bank.io t m.bank (.read d.io d.medium.mediaId offset (t.length d.medium))
    m.Moves t s.outcome s.buffer s.world := by
  have hbytes := Bank.byteAt?_read m.bank d.io d.medium.mediaId offset (t.length d.medium)
  by_cases hgo : m.bank.Admits d.io d.medium.mediaId offset.toNat (t.length d.medium)
  · obtain ⟨bs, hbs, hk⟩ := Bank.read_of_admits hgo
    have hlen : bs.length = t.length d.medium := Bank.io.read_length (Prod.ext hbs rfl)
    rw [Context.carryOut_read_ok hbs]
    refine .read d _ _ hcode ⟨.inl hcode, hd, ho ▸ offset.toNat_lt_size, hroom, ho ▸ hgo⟩ ?_ (fun k => ?_) hbytes
    · rw [List.length_append, List.length_drop, hlen]
      omega
    · rw [getElem?_filled hlen, hk, ho]
      split <;> rfl
  · obtain ⟨f, hf⟩ := Bank.read_of_not_admits hgo
    rw [Context.carryOut_read_error hf]
    refine .failed f _ (fun d' h => ?_) hbytes
    obtain rfl := h.eq hd
    exact hgo (ho ▸ h.admitted)

theorem carryOut_write_moves {offset : UInt64} {data rest : Bytes} (hcode : t.code = .write)
    (hd : m.context.device? t.drive = some d) (ho : offset.toNat = t.start d.medium)
    (hbuffer : t.buffer = data ++ rest) (hlen : data.length = t.length d.medium) :
    let s := Context.carryOut Bank.io t m.bank (.write d.io d.medium.mediaId offset data)
    m.Moves t s.outcome s.buffer s.world := by
  have hroom := SectorRequest.length_le_of_split hbuffer hlen
  have hstop := t.start_add_length d.medium
  intro s
  by_cases hgo : m.bank.Admits d.io d.medium.mediaId offset.toNat data.length
  · obtain ⟨hok, hbytes⟩ := Bank.write_of_admits hgo
    have houtcome : s.outcome = .ok () := hok
    rw [houtcome]
    rw [ho, hlen] at hgo
    refine .wrote d _ hcode ⟨.inr hcode, hd, ho ▸ offset.toNat_lt_size, hroom, hgo⟩ fun i j => ?_
    refine (hbytes i j).trans ?_
    rw [ho, hlen, hstop]
    split
    · rename_i hin
      rw [hbuffer, List.getElem?_append_left (by omega)]
    · rfl
  · obtain ⟨⟨f, hf⟩, hbytes⟩ := Bank.write_of_not_admits hgo
    have houtcome : s.outcome = .error f := hf
    rw [houtcome]
    refine .failed f _ (fun d' h => ?_) hbytes
    obtain rfl := h.eq hd
    exact hgo (by rw [ho, hlen]; exact h.admitted)

/-- **Serving a request moves what it names, or nothing.** -/
theorem serve_moves (m : Machine) (t : SectorRequest) :
    let s := m.context.serve Bank.io t m.bank
    m.Moves t s.outcome s.buffer s.world := by
  obtain ⟨verdict, h⟩ := Context.exists_judges m.context t
  have hjudge := h.eq_judge.symm
  cases h with
  | unknownCode hcode =>
    rw [Context.serve_of_refused hjudge]
    exact .failed _ _ (fun d h => hcode h.known) rfl
  | noDrive _ hd =>
    rw [Context.serve_of_refused hjudge]
    exact .failed _ _ (fun d h => by cases hd.symm.trans h.device) rfl
  | farStart d _ hd hfar =>
    rw [Context.serve_of_refused hjudge]
    refine .failed _ _ (fun d' h => ?_) rfl
    obtain rfl := h.eq hd
    exact absurd h.near (Nat.not_lt.2 hfar)
  | shortBuffer d _ hd _ hshort =>
    rw [Context.serve_of_refused hjudge]
    refine .failed _ _ (fun d' h => ?_) rfl
    obtain rfl := h.eq hd
    exact absurd h.room (Nat.not_le.2 hshort)
  | read d offset hcode hd ho hroom =>
    rw [Context.serve_of_accepted hjudge]
    exact carryOut_read_moves hcode hd ho hroom
  | write d offset data rest hcode hd ho hbuffer hlen =>
    rw [Context.serve_of_accepted hjudge]
    exact carryOut_write_moves hcode hd ho hbuffer hlen

theorem step_moves (h : r.transfer? = some t) :
    ∃ outcome buffer, (m.step r).answer = .transfer outcome buffer (m.step r).machine.bank ∧
      m.Moves t outcome buffer (m.step r).machine.bank := by
  rw [step_of_transfer h]
  exact ⟨_, _, rfl, serve_moves m t⟩

/-! ## A run -/

/-- Bytes put on a disk from an offset on. -/
structure Patch where
  disk : Nat
  offset : Nat
  data : Bytes

def Patch.byteAt? (p : Patch) (i j : Nat) : Option UInt8 :=
  if i = p.disk ∧ p.offset ≤ j then p.data[j - p.offset]? else none

/-- A byte with patches laid over it, one after another. -/
def overlay (ps : List Patch) (i j : Nat) (byte : Option UInt8) : Option UInt8 :=
  ps.foldl (fun byte p => (p.byteAt? i j).or byte) byte

/-- What a request writes: the start of its buffer, if it is a write that is answered with success. -/
def patch? (m : Machine) (r : Request) : Option Patch :=
  match r.transfer?, (m.step r).answer with
  | some t, .transfer (.ok ()) _ _ =>
    if t.code = .write then
      (m.context.device? t.drive).map fun d => ⟨d.io, t.start d.medium, t.buffer.take (t.length d.medium)⟩
    else none
  | _, _ => none

def run (m : Machine) (rs : List Request) : Machine := rs.foldl (fun m r => (m.step r).machine) m

def patches (m : Machine) : List Request → List Patch
  | [] => []
  | r :: rs => (m.patch? r).toList ++ (m.step r).machine.patches rs

theorem overlay_append (ps qs : List Patch) (i j : Nat) (byte : Option UInt8) :
    overlay (ps ++ qs) i j byte = overlay qs i j (overlay ps i j byte) := List.foldl_append

theorem Reaches.byteAt?_patch (h : m.Reaches t d) (i j : Nat) (byte : Option UInt8) :
    (Patch.byteAt? ⟨d.io, t.start d.medium, t.buffer.take (t.length d.medium)⟩ i j).or byte =
      if i = d.io ∧ t.start d.medium ≤ j ∧ j < t.stop d.medium then t.buffer[j - t.start d.medium]? else byte := by
  have hroom := h.room
  have hstop := t.start_add_length d.medium
  simp only [Patch.byteAt?]
  by_cases hin : i = d.io ∧ t.start d.medium ≤ j
  · rw [if_pos hin, List.getElem?_take]
    by_cases hj : j < t.stop d.medium
    · rw [if_pos (by omega), if_pos ⟨hin.1, hin.2, hj⟩, List.getElem?_eq_getElem (by omega), Option.some_or]
    · rw [if_neg (by omega), if_neg fun h => hj h.2.2, Option.none_or]
  · rw [if_neg hin, if_neg fun h => hin ⟨h.1, h.2.1⟩, Option.none_or]

theorem byteAt?_step (m : Machine) (r : Request) (i j : Nat) :
    (m.step r).machine.bank.byteAt? i j = overlay (m.patch? r).toList i j (m.bank.byteAt? i j) := by
  cases ht : r.transfer? with
  | none =>
    rw [byteAt?_step_of_no_transfer ht, patch?, ht]
    rfl
  | some t =>
    obtain ⟨outcome, buffer, hanswer, hmoves⟩ := step_moves (m := m) ht
    rw [patch?, ht, hanswer]
    generalize (m.step r).machine.bank = bank at hmoves
    cases hmoves with
    | read d buffer bank hcode _ _ _ hbytes =>
      simp only [hcode]
      rw [hbytes]
      rfl
    | wrote d bank hcode hreach hbytes =>
      simp only [hcode, hreach.device, if_pos, Option.map_some, Option.toList_some]
      rw [hbytes]
      exact (hreach.byteAt?_patch i j _).symm
    | failed f bank _ hbytes =>
      simp only
      rw [hbytes]
      rfl

theorem byteAt?_run (i j : Nat) : ∀ (rs : List Request) (m : Machine),
    (m.run rs).bank.byteAt? i j = overlay (m.patches rs) i j (m.bank.byteAt? i j)
  | [], _ => rfl
  | r :: rs, m => by
    rw [patches, overlay_append, ← byteAt?_step]
    exact byteAt?_run i j rs (m.step r).machine

/-- **The disks are arrays of bytes.**  After any run they hold what they held, overlaid with what was written; a
transfer that is asked for then moves what it names or nothing, and if it is a read that succeeds, it gives the overlaid
bytes. -/
theorem run_bytes (m : Machine) (rs : List Request) :
    (∀ i j, (m.run rs).bank.byteAt? i j = overlay (m.patches rs) i j (m.bank.byteAt? i j)) ∧
    (∀ r t, r.transfer? = some t → ∃ outcome buffer,
      ((m.run rs).step r).answer = .transfer outcome buffer ((m.run rs).step r).machine.bank ∧
      (m.run rs).Moves t outcome buffer ((m.run rs).step r).machine.bank) ∧
    ∀ r t d buffer bank, r.transfer? = some t → t.code = .read → (m.run rs).context.device? t.drive = some d →
      ((m.run rs).step r).answer = .transfer (.ok ()) buffer bank → ∀ k, k < t.length d.medium →
      buffer[k]? = overlay (m.patches rs) d.io (t.start d.medium + k) (m.bank.byteAt? d.io (t.start d.medium + k)) := by
  refine ⟨fun i j => byteAt?_run i j rs m, fun r t ht => step_moves ht, ?_⟩
  intro r t d buffer bank ht hcode hd hanswer k hk
  obtain ⟨outcome, buffer', hanswer', hmoves⟩ := step_moves (m := m.run rs) ht
  rw [hanswer] at hanswer'
  cases hanswer'
  cases hmoves with
  | read d' _ _ _ hreach _ hbuffer _ =>
    obtain rfl := hreach.eq hd
    rw [hbuffer, if_pos hk, byteAt?_run]
  | wrote d' _ hcode' _ _ => cases hcode.symm.trans hcode'

end Machine
end DriveMap
