import DriveMap.Context.Lookup
import Mathlib.Data.PFun
/-!
# Lookups with a walker that changes

Nothing says that the tables of a walker that changes end, or that a drive is walked the same way twice.  A lookup is
the plain loop over its turns, and it has an answer only if the loop ends; a request has one only if its lookups have.
-/
namespace DriveMap

/-- A loop that ends of itself is the plain loop. -/
theorem fix_eq_takeTurns {α β : Type} {turn : α → β ⊕ α} {left : α → Nat}
    (left_lt : ∀ {a a' : α}, turn a = .inr a' → left a' < left a) (a : α) :
    PFun.fix (fun x => .some (turn x)) a = .some (takeTurns turn left left_lt a) := by
  fun_induction takeTurns turn left left_lt a with
  | case1 a b taken =>
    refine Part.eq_some_iff.2 (PFun.fix_stop ?_)
    rw [taken]
    exact Part.mem_some _
  | case2 a a' taken hlt ih =>
    rw [← ih]
    refine PFun.fix_fwd_eq ?_
    rw [taken]
    exact Part.mem_some _

namespace LiveWalker

variable {σ τ α : Type}

/-- Looks for an entry after a cursor, turn after turn. -/
def lookupFrom (v : LiveWalker σ) (drive : UInt32) (test : PartitionEntry → StateM τ Bool) (c : Cursor) (s : σ)
    (t : τ) : Part (Outcome (Option PartitionEntry) × σ × τ) :=
  PFun.fix (fun x => .some (v.turn drive test x)) (c, s, t)

/-- The first entry of a drive that a test holds for. -/
def lookup (v : LiveWalker σ) (drive : UInt32) (test : PartitionEntry → StateM τ Bool) (s : σ) (t : τ) :
    Part (Outcome (Option PartitionEntry) × σ × τ) := v.lookupFrom drive test .fresh s t

/-- The first entry of a drive that a test holds for which keeps no state. -/
def search (v : LiveWalker σ) (drive : UInt32) (test : PartitionEntry → Bool) (s : σ) :
    Part (Outcome (Option PartitionEntry) × σ) :=
  (v.lookup drive (stateless test) s ()).map fun (o, s', _) => (o, s')

/-- The first used entry with a number. -/
def byIndex (v : LiveWalker σ) (drive index : UInt32) (s : σ) : Part (Outcome (Option PartitionEntry) × σ) :=
  v.search drive (fun e => e.hasIndex index) s

/-- The first used entry with an extent. -/
def byExtent (v : LiveWalker σ) (drive : UInt32) (x : Extent) (s : σ) : Part (Outcome (Option PartitionEntry) × σ) :=
  v.search drive (fun e => e.describes x) s

/-- The answer to an inquiry and the lines of the log, and what becomes of the walker. -/
def answer (v : LiveWalker σ) : Inquiry α → σ → Part ((Outcome α × List Event) × σ)
  | .ends o, s => .some ((o, []), s)
  | .logs e rest, s => (v.answer rest s).map fun ((o, log), s') => ((o, e :: log), s')
  | .asks drive test rest, s => (v.search drive test s).bind fun (found, s') =>
    match found with
    | .error f => .some ((.error f, []), s')
    | .ok none => .some ((.error .notFound, []), s')
    | .ok (some e) => v.answer (rest e) s'

/-- The answers to inquiries that are made one after another. -/
def answerAll (v : LiveWalker σ) : List (Inquiry α) → σ → Part (List (Outcome α × List Event) × σ)
  | [], s => .some ([], s)
  | q :: rest, s => (v.answer q s).bind fun (a, s') => (v.answerAll rest s').map fun (more, s'') => (a :: more, s'')

end LiveWalker
end DriveMap
