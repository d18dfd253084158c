import DriveMap.Context.Resolution
/-!
# Answering step by step

What the first step of a resolution comes to decides what is left of it: the laws of `Resolution` say which, one step
after another.  An inquiry is answered by the same steps (`Inquiry.answer_bind`), so what a request comes to is read off
what its steps are answered with.
-/
namespace DriveMap
namespace Resolution

variable {α β γ : Type}

theorem pure_bind (a : α) (f : α → Resolution β) : (pure a >>= f) = f a := by
  change (⟨(f a).outcome, 0 + (f a).calls, [] ++ (f a).log⟩ : Resolution β) = f a
  rw [Nat.zero_add, List.nil_append]

theorem bind_pure (x : Resolution α) : (x >>= pure) = x := by
  obtain ⟨_ | a, calls, log⟩ := x
  · rfl
  · show (⟨.ok a, calls + 0, log ++ []⟩ : Resolution α) = _
    rw [Nat.add_zero, List.append_nil]

theorem bind_assoc (x : Resolution α) (f : α → Resolution β) (g : β → Resolution γ) :
    (x >>= f >>= g) = (x >>= fun a => f a >>= g) := by
  obtain ⟨_ | a, calls, log⟩ := x
  · rfl
  · cases h : (f a).outcome with
    | error e => simp only [bind, h]
    | ok b => simp only [bind, h, Nat.add_assoc, List.append_assoc]

theorem bind_eq_ok {x : Resolution α} {f : α → Resolution β} {b : β} :
    (x >>= f).outcome = .ok b ↔ ∃ a, x.outcome = .ok a ∧ (f a).outcome = .ok b := by
  rw [outcome_bind]
  cases x.outcome <;> simp [bind, Except.bind]

theorem outcome_require (o : Option α) : (require o).outcome = o.elim (.error .notFound) .ok := by
  cases o <;> rfl

theorem require_eq_ok {o : Option α} {a : α} : (require o).outcome = .ok a ↔ o = some a := by
  unfold require ofOutcome
  cases o <;> simp

theorem require_some_bind (a : α) (f : α → Resolution β) : (require (some a) >>= f) = f a := pure_bind a f

theorem require_none_bind (f : α → Resolution β) : (require none >>= f) = ⟨.error .notFound, 0, []⟩ := rfl

theorem outcome_entryOf (s : Search) :
    (entryOf s).outcome = s.found >>= fun found => found.elim (.error .notFound) .ok := by
  unfold entryOf
  split <;> simp_all [bind, Except.bind]

theorem entryOf_eq_ok {s : Search} {e : PartitionEntry} : (entryOf s).outcome = .ok e ↔ s.found = .ok (some e) := by
  unfold entryOf
  split <;> simp_all

theorem entryOf_bind_of_error {s : Search} {f : Failure Unit} (h : s.found = .error f)
    (next : PartitionEntry → Resolution β) : (entryOf s >>= next) = ⟨.error f, s.calls, []⟩ := by
  unfold entryOf
  rw [h]
  rfl

theorem entryOf_bind_of_none {s : Search} (h : s.found = .ok none) (next : PartitionEntry → Resolution β) :
    (entryOf s >>= next) = ⟨.error .notFound, s.calls, []⟩ := by
  unfold entryOf
  rw [h]
  rfl

theorem entryOf_bind_of_some {s : Search} {e : PartitionEntry} (h : s.found = .ok (some e))
    (next : PartitionEntry → Resolution β) :
    (entryOf s >>= next) = ⟨(next e).outcome, s.calls + (next e).calls, (next e).log⟩ := by
  unfold entryOf
  rw [h]
  rfl

theorem outcome_devicesOf (s : Outcome (Survey α)) : (devicesOf s).outcome = s.map Survey.devices := by
  cases s <;> rfl

theorem devicesOf_eq_ok {s : Outcome (Survey α)} {ds : List (Device α)} :
    (devicesOf s).outcome = .ok ds ↔ ∃ survey, s = .ok survey ∧ survey.devices = ds := by
  unfold devicesOf ofOutcome
  cases s <;> simp

theorem devicesOf_ok_bind (survey : Survey α) (f : List (Device α) → Resolution β) :
    (devicesOf (.ok survey) >>= f) =
      ⟨(f survey.devices).outcome, (f survey.devices).calls, survey.log ++ (f survey.devices).log⟩ := by
  change (⟨_, 0 + (f survey.devices).calls, _⟩ : Resolution β) = _
  rw [Nat.zero_add]
  rfl

theorem say_bind (e : Event) (x : Resolution α) :
    (say e >>= fun _ => x) = ⟨x.outcome, x.calls, e :: x.log⟩ := by
  show (⟨x.outcome, 0 + x.calls, [e] ++ x.log⟩ : Resolution α) = _
  rw [Nat.zero_add, List.singleton_append]

end Resolution

namespace Inquiry

variable {α β : Type}

/-- **Two requests one after the other are answered one after the other.** -/
theorem answer_bind (w : Walker) (q : Inquiry α) (next : α → Inquiry β) :
    (q >>= next).answer w = q.answer w >>= fun a => (next a).answer w := by
  show (q.andThen next).answer w = _
  induction q with
  | ends o =>
    cases o with
    | error f => rfl
    | ok a => exact (Resolution.pure_bind a fun a => (next a).answer w).symm
  | logs e rest ih => rw [andThen, answer, answer, ih, Resolution.bind_assoc]
  | asks drive test rest ih =>
    rw [andThen, answer, answer, Resolution.bind_assoc]
    exact congrArg (Resolution.entryOf (w.search drive test) >>= ·) (funext ih)

@[simp] theorem answer_pure (w : Walker) (a : α) : (pure a : Inquiry α).answer w = pure a := rfl

@[simp] theorem answer_ends (w : Walker) (o : Outcome α) : (ends o).answer w = .ofOutcome o := rfl

@[simp] theorem answer_require (w : Walker) (o : Option α) : (require o).answer w = .require o := by
  cases o <;> rfl

@[simp] theorem answer_entry (w : Walker) (drive : UInt32) (test : PartitionEntry → Bool) :
    (entry drive test).answer w = .entryOf (w.search drive test) := Resolution.bind_pure _

@[simp] theorem answer_say (w : Walker) (e : Event) : (say e).answer w = .say e := rfl

theorem answer_foldr_logs (w : Walker) (o : Outcome α) : ∀ log : List Event,
    (log.foldr logs (ends o)).answer w = ⟨o, 0, log⟩
  | [] => rfl
  | e :: log => by rw [List.foldr_cons, answer, Resolution.say_bind, answer_foldr_logs w o log]

@[simp] theorem answer_devicesOf (w : Walker) (s : Outcome (Survey α)) : (devicesOf s).answer w = .devicesOf s := by
  rw [devicesOf, answer_foldr_logs]
  cases s <;> rfl

end Inquiry
end DriveMap
