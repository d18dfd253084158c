import DriveMap.Partition.Search
import DriveMap.Survey
/-!
# Inquiries and resolutions

An inquiry is a request that may look up partitions and survey the firmware on its way; which walker it asks is left
open.  A resolution is what answering it comes to: its outcome, how often it called the walker, and what it logged.  A
step that fails ends the request; what was counted and logged up to there stays.
-/
namespace DriveMap

structure Resolution (α : Type) where
  outcome : Outcome α
  calls : Nat
  log : List Event

namespace Resolution

variable {α β : Type}

instance : Monad Resolution where
  pure a := ⟨.ok a, 0, []⟩
  bind x f :=
    match x.outcome with
    | .error e => ⟨.error e, x.calls, x.log⟩
    | .ok a => ⟨(f a).outcome, x.calls + (f a).calls, x.log ++ (f a).log⟩

/-- An outcome that took neither a call nor a line of the log. -/
def ofOutcome (o : Outcome α) : Resolution α := ⟨o, 0, []⟩

/-- The value, or the failure that there is none. -/
def require (o : Option α) : Resolution α :=
  ofOutcome (match o with
    | none => .error .notFound
    | some a => .ok a)

/-- The entry that a search finds, which has to find one. -/
def entryOf (s : Search) : Resolution PartitionEntry :=
  match s.found with
  | .error f => ⟨.error f, s.calls, []⟩
  | .ok none => ⟨.error .notFound, s.calls, []⟩
  | .ok (some e) => ⟨.ok e, s.calls, []⟩

/-- The devices that a survey finds. -/
def devicesOf (s : Outcome (Survey α)) : Resolution (List (Device α)) :=
  match s with
  | .error f => ofOutcome (.error f)
  | .ok survey => ⟨.ok survey.devices, 0, survey.log⟩

/-- One line of the log. -/
def say (e : Event) : Resolution Unit := ⟨.ok (), 0, [e]⟩

theorem outcome_bind (x : Resolution α) (f : α → Resolution β) :
    (x >>= f).outcome = x.outcome >>= fun a => (f a).outcome := by
  cases h : x.outcome <;> simp [bind, Except.bind, h]

end Resolution

/-- A request that is not answered yet. -/
inductive Inquiry (α : Type) where
  | ends (outcome : Outcome α)
  /-- A line of the log, and the rest. -/
  | logs (event : Event) (rest : Inquiry α)
  /-- The first entry of a drive that a test holds for is asked for.  There has to be one, and the rest hangs on it. -/
  | asks (drive : UInt32) (test : PartitionEntry → Bool) (rest : PartitionEntry → Inquiry α)

namespace Inquiry

variable {α β : Type}

def andThen : Inquiry α → (α → Inquiry β) → Inquiry β
  | ends (.error f), _ => ends (.error f)
  | ends (.ok a), next => next a
  | logs event rest, next => logs event (rest.andThen next)
  | asks drive test rest, next => asks drive test fun e => (rest e).andThen next

instance : Monad Inquiry where
  pure a := ends (.ok a)
  bind := andThen

def require (o : Option α) : Inquiry α := ends (Resolution.require o).outcome

def entry (drive : UInt32) (test : PartitionEntry → Bool) : Inquiry PartitionEntry := asks drive test pure

def say (e : Event) : Inquiry Unit := logs e (pure ())

def devicesOf (s : Outcome (Survey α)) : Inquiry (List (Device α)) :=
  (Resolution.devicesOf s).log.foldr logs (ends (Resolution.devicesOf s).outcome)

/-- The answer with a walker that does not change. -/
def answer (w : Walker) : Inquiry α → Resolution α
  | ends o => .ofOutcome o
  | logs e rest => do
    .say e
    rest.answer w
  | asks drive test rest => do
    let e ← .entryOf (w.search drive test)
    (rest e).answer w

end Inquiry
end DriveMap
