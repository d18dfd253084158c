import DriveMap.Proofs.Anomalies
import DriveMap.Proofs.FirstMatch
import DriveMap.Proofs.Parents
/-!
# Searching the children of a device

A search for a child stops at the first that passes its test.  The test may keep a state, and it is offered the children
up to that one, each once and in the order of the list, and no other device (`Device.findChildM?_picks`).  So the
devices that are no children of the parent might as well not be there.
-/
namespace DriveMap
namespace Device

variable {α β τ : Type}

/-- The candidate's path has the nodes of the parent's, and exactly one more. -/
def Extends (c : Device β) (p : Device α) : Prop := ∃ n, c.path.nodes = p.path.nodes ++ [n]

theorem extends_iff_dropLast {c : Device β} {p : Device α} : c.Extends p ↔ c.path.nodes.dropLast = p.path.nodes :=
  isChildOf_iff_concat.symm.trans isChildOf_iff_dropLast

instance (c : Device β) (p : Device α) : Decidable (c.Extends p) := decidable_of_iff' _ extends_iff_dropLast

/-- The devices that have the parent's path and one node more, in the order of the list. -/
def extensions (p : Device α) (devices : List (Device β)) : List (Device β) :=
  devices.filter fun d => decide (d.Extends p)

theorem isChildOf_eq_decide (c : Device β) (p : Device α) : c.isChildOf p = decide (c.Extends p) := by
  rw [Bool.eq_iff_iff, decide_eq_true_iff]
  exact isChildOf_iff_concat

theorem children_eq_extensions (p : Device α) (devices : List (Device β)) : p.children devices = p.extensions devices :=
  List.filter_congr fun d _ => d.isChildOf_eq_decide p

theorem extensions_of_interspersed {p : Device α} {devices devices' : List (Device β)}
    (h : Interspersed (fun d => ¬ d.Extends p) devices devices') : p.extensions devices' = p.extensions devices := by
  induction h with
  | nil => rfl
  | keep d _ ih =>
    unfold extensions at ih ⊢
    rw [List.filter_cons, List.filter_cons, ih]
  | put d hd _ ih =>
    unfold extensions at ih ⊢
    rw [List.filter_cons_of_neg (by simpa using hd), ih]

/-- **A search for a child is a search of the children alone.**  It comes to the first of them that passes, having
offered to the test the children up to that one, or to none, having offered all.  Other devices, put in anywhere or
taken away, change nothing about it. -/
theorem findChildM?_picks (p : Device α) (devices : List (Device β)) :
    (∀ {τ : Type} (test : Device β → StateM τ Bool) (t t' : τ) (found : Option (Device β)),
      p.findChildM? devices test t = (found, t') ↔ ∃ offered, Picks test t (p.extensions devices) found offered t') ∧
    (∀ {τ : Type} (test : Device β → StateM τ Bool) (t t' : τ) (found : Option (Device β)) (offered : List (Device β)),
      p.findChildM? devices (recording test) (t, []) = (found, (t', offered)) ↔
        Picks test t (p.extensions devices) found offered t') ∧
    (∀ (test : Device β → Bool) (found : Option (Device β)), p.findChild? devices test = found ↔
      ∃ offered, Picks (stateless test) () (p.extensions devices) found offered ()) ∧
    ∀ devices', Interspersed (fun d => ¬ d.Extends p) devices devices' →
      (∀ {m : Type → Type} [Monad m] (test : Device β → m Bool),
        p.findChildM? devices' test = p.findChildM? devices test) ∧
      ∀ test : Device β → Bool, p.findChild? devices' test = p.findChild? devices test := by
  have hchildren := p.children_eq_extensions devices
  refine ⟨fun test t t' found => ?_, fun test t t' found offered => ?_, fun test found => ?_, fun devices' h => ?_⟩
  · rw [findChildM?, hchildren]
    exact findM?_eq_iff
  · rw [findChildM?, hchildren]
    exact findM?_recording_eq_iff
  · rw [findChild?, hchildren, ← findM?_eq_iff, findM?_stateless, Prod.mk.injEq, and_iff_left rfl]
  · have hsame : p.children devices' = p.children devices := by
      rw [hchildren, children_eq_extensions, extensions_of_interspersed h]
    refine ⟨fun test => ?_, fun test => ?_⟩
    · rw [findChildM?, findChildM?, hsame]
    · rw [findChild?, findChild?, hsame]

end Device
end DriveMap
