import DriveMap.Partition.Walker
/-!
# Looking for an entry

What looks for an entry asks turn after turn, until an entry passes its test, the walker fails, or there are no more
entries.  The test may keep a state, and the turns are the same for every walker; with one whose tables are finite they
end, so a search needs no bound of its own.

`Walker.search` tells which entry it found, which entries it saw and how often it called the walker.
-/
namespace DriveMap

variable {ι : Type}

/-- The test, with a record of what it is offered. -/
def recording {τ : Type} (test : ι → StateM τ Bool) (a : ι) : StateM (τ × List ι) Bool := fun (t, offered) =>
  let (passed, t') := test a t
  (passed, (t', offered ++ [a]))

/-- A test that keeps no state. -/
def stateless (test : ι → Bool) (a : ι) : StateM Unit Bool := fun u => (test a, u)

theorem recording_apply {τ : Type} {test : ι → StateM τ Bool} {t t' : τ} {a : ι} {passed : Bool}
    (h : test a t = (passed, t')) (offered : List ι) :
    recording test a (t, offered) = (passed, (t', offered ++ [a])) := by
  simp only [recording, h]

theorem stateless_apply {test : ι → Bool} {a : ι} {passed : Bool} (h : test a = passed) :
    stateless test a () = (passed, ()) := by
  rw [stateless, h]

/-! ## Turns -/

namespace LiveWalker

variable {σ τ : Type}

/-- One turn of a lookup: its answer, or what the next turn starts from. -/
def turn (v : LiveWalker σ) (drive : UInt32) (test : PartitionEntry → StateM τ Bool) :
    Cursor × σ × τ → (Outcome (Option PartitionEntry) × σ × τ) ⊕ (Cursor × σ × τ)
  | (c, s, t) =>
    match v.next drive c s with
    | (.error f, _, s') => .inl (.error f, s', t)
    | (.ok none, _, s') => .inl (.ok none, s', t)
    | (.ok (some e), c', s') =>
      match test e t with
      | (true, t') => .inl (.ok (some e), s', t')
      | (false, t') => .inr (c', s', t')

variable {v : LiveWalker σ} {drive : UInt32} {test : PartitionEntry → StateM τ Bool} {c c' : Cursor} {s s' : σ}
  {t t' : τ} {e : PartitionEntry}

theorem turn_of_error {f : Failure Unit} (h : v.next drive c s = (.error f, c', s')) (t : τ) :
    v.turn drive test (c, s, t) = .inl (.error f, s', t) := by
  simp only [turn, h]

theorem turn_of_none (h : v.next drive c s = (.ok none, c', s')) (t : τ) :
    v.turn drive test (c, s, t) = .inl (.ok none, s', t) := by
  simp only [turn, h]

theorem turn_of_passes (h : v.next drive c s = (.ok (some e), c', s')) (he : test e t = (true, t')) :
    v.turn drive test (c, s, t) = .inl (.ok (some e), s', t') := by
  simp only [turn, h, he]

theorem turn_of_turned_down (h : v.next drive c s = (.ok (some e), c', s')) (he : test e t = (false, t')) :
    v.turn drive test (c, s, t) = .inr (c', s', t') := by
  simp only [turn, h, he]

theorem exists_next_of_turn {x x' : Cursor × σ × τ} (h : v.turn drive test x = .inr x') :
    ∃ e, v.next drive x.1 x.2.1 = (.ok (some e), x'.1, x'.2.1) := by
  obtain ⟨c, s, t⟩ := x
  rcases hnext : v.next drive c s with ⟨f | ⟨_ | e⟩, c', s'⟩
  · cases (turn_of_error hnext t).symm.trans h
  · cases (turn_of_none hnext t).symm.trans h
  · rcases htest : test e t with ⟨_ | _, t'⟩
    · cases (turn_of_turned_down hnext htest).symm.trans h
      exact ⟨e, rfl⟩
    · cases (turn_of_passes hnext htest).symm.trans h

end LiveWalker

/-- Takes turns until one of them answers.  Any other leaves less to do. -/
def takeTurns {α β : Type} (turn : α → β ⊕ α) (left : α → Nat)
    (left_lt : ∀ {a a' : α}, turn a = .inr a' → left a' < left a) (a : α) : β :=
  match taken : turn a with
  | .inl b => b
  | .inr a' =>
    have : left a' < left a := left_lt taken
    takeTurns turn left left_lt a'
termination_by left a

section

variable {α β : Type} {turn : α → β ⊕ α} {left : α → Nat}
  {left_lt : ∀ {a a' : α}, turn a = .inr a' → left a' < left a} {a a' : α} {b : β}

theorem takeTurns_of_inl (h : turn a = .inl b) : takeTurns turn left left_lt a = b := by
  rw [takeTurns]
  split <;> simp_all

theorem takeTurns_of_inr (h : turn a = .inr a') :
    takeTurns turn left left_lt a = takeTurns turn left left_lt a' := by
  rw [takeTurns]
  split <;> simp_all

end

/-! ## Searches -/

/-- What a search for an entry found, which entries it was offered, and how often it called the walker. -/
structure Search where
  found : Outcome (Option PartitionEntry)
  offered : List PartitionEntry
  calls : Nat

namespace Walker

theorem left_lt_of_turn {w : Walker} {drive : UInt32} {τ : Type} {test : PartitionEntry → StateM τ Bool}
    {x x' : Cursor × (Unit × Nat) × τ} (h : w.live.counting.turn drive test x = .inr x') :
    w.left drive x'.1 < w.left drive x.1 := by
  obtain ⟨e, hnext⟩ := LiveWalker.exists_next_of_turn h
  rcases hw : w.next drive x.1 with f | ⟨_ | ⟨e', c'⟩⟩
  · cases (LiveWalker.counting_next (live_next_of_error hw ()) x.2.1.2).symm.trans hnext
  · cases (LiveWalker.counting_next (live_next_of_none hw ()) x.2.1.2).symm.trans hnext
  · have hsame := (LiveWalker.counting_next (live_next_of_some hw ()) x.2.1.2).symm.trans hnext
    have hc : c' = x'.1 := congrArg (fun r => r.2.1) hsame
    rw [← hc]
    exact w.next_left hw

/-- The first entry of a drive that a test holds for. -/
def search (w : Walker) (drive : UInt32) (test : PartitionEntry → Bool) : Search :=
  let (found, (_, calls), (_, offered)) :=
    takeTurns (w.live.counting.turn drive (recording (stateless test))) (fun x => w.left drive x.1) left_lt_of_turn
      (.fresh, ((), 0), ((), []))
  ⟨found, offered, calls⟩

/-- The first used entry with a number. -/
def byIndex (w : Walker) (drive index : UInt32) : Search := w.search drive fun e => e.hasIndex index

/-- The first used entry with an extent. -/
def byExtent (w : Walker) (drive : UInt32) (x : Extent) : Search := w.search drive fun e => e.describes x

end Walker
end DriveMap
