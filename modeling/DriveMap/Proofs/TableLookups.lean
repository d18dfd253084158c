import DriveMap.Machine.Table
import DriveMap.Context.LiveLookup
import DriveMap.Proofs.FirstMatch
import DriveMap.Proofs.TableSearch
/-!
# Lookups, one after another

A walker that changes still has tables, if every walk of a drive from its start comes upon the same steps
(`LiveWalker.Reports`).  What a lookup comes to is then read off the steps: it stops at the first that fails or passes
the test (`LiveWalker.Stops`).  Since each lookup starts with a fresh cursor, it does not matter which lookups were made
before (`LiveWalker.lookup_of_reports`).
-/
namespace DriveMap
namespace LiveWalker

variable {σ τ : Type}

/-! ## Walks -/

/-- What a walk from a cursor comes upon, call after call: entries and failures.  It ends past the last of them, or at a
failure, and what would be behind a failure is not seen. -/
inductive Shows (v : LiveWalker σ) (drive : UInt32) : Cursor → σ → List (Outcome PartitionEntry) → Prop
  | ended {c c' : Cursor} {s s' : σ} : v.next drive c s = (.ok none, c', s') → Shows v drive c s []
  | failed {c c' : Cursor} {s s' : σ} {f : Failure Unit} (unseen : List (Outcome PartitionEntry)) :
      v.next drive c s = (.error f, c', s') → Shows v drive c s (.error f :: unseen)
  | entry {c c' : Cursor} {s s' : σ} {e : PartitionEntry} {rest : List (Outcome PartitionEntry)} :
      v.next drive c s = (.ok (some e), c', s') → Shows v drive c' s' rest → Shows v drive c s (.ok e :: rest)

/-- So many calls from a cursor, of which each but the last handed out an entry, leave the walker in the second
state. -/
inductive Walks (v : LiveWalker σ) (drive : UInt32) : Cursor → σ → Nat → σ → Prop
  | last {c c' : Cursor} {s s' : σ} {o : Outcome (Option PartitionEntry)} : v.next drive c s = (o, c', s') →
      Walks v drive c s 1 s'
  | more {c c' : Cursor} {s s' s'' : σ} {e : PartitionEntry} {n : Nat} : v.next drive c s = (.ok (some e), c', s') →
      Walks v drive c' s' n s'' → Walks v drive c s (n + 1) s''

/-- What walks make of a walker: walks of any drives from the start, each broken off after any call. -/
inductive Reaches (v : LiveWalker σ) (s : σ) : σ → Prop
  | start : Reaches v s s
  | walk {s' s'' : σ} {drive : UInt32} {n : Nat} : Reaches v s s' → Walks v drive .fresh s' n s'' → Reaches v s s''

/-- The walker has these tables: whatever walks were made before, a walk of a drive from its start comes upon the same
finite list of steps. -/
def Reports (v : LiveWalker σ) (s : σ) (tables : UInt32 → List (Outcome PartitionEntry)) : Prop :=
  ∀ s', v.Reaches s s' → ∀ drive, v.Shows drive .fresh s' (tables drive)

/-- What lookups make of a walker, each with a test of its own. -/
inductive AfterLookups (v : LiveWalker σ) (s : σ) : σ → Prop
  | none : AfterLookups v s s
  | lookup {τ : Type} {s' s'' : σ} {drive : UInt32} {test : PartitionEntry → StateM τ Bool} {t t' : τ}
      {o : Outcome (Option PartitionEntry)} : AfterLookups v s s' → v.lookup drive test s' t = .some (o, s'', t') →
      AfterLookups v s s''

/-! ## Stops -/

/-- Where a lookup stops in a list of steps: at the first that is a failure or an entry that passes, or past the last.
The test is offered the entries before that and, if it is an entry, itself; there is one call for each step, and one for
the end. -/
inductive Stops (test : PartitionEntry → StateM τ Bool) (t : τ) (steps : List (Outcome PartitionEntry)) :
    Search → τ → Prop
  | found {before : List PartitionEntry} {e : PartitionEntry} {after : List (Outcome PartitionEntry)} {t' t'' : τ} :
      steps = before.map .ok ++ .ok e :: after → TurnsDown test t before t' → test e t' = (true, t'') →
      Stops test t steps ⟨.ok (some e), before ++ [e], before.length + 1⟩ t''
  | failed {before : List PartitionEntry} {f : Failure Unit} {after : List (Outcome PartitionEntry)} {t' : τ} :
      steps = before.map .ok ++ .error f :: after → TurnsDown test t before t' →
      Stops test t steps ⟨.error f, before, before.length + 1⟩ t'
  | absent {entries : List PartitionEntry} {t' : τ} : steps = entries.map .ok → TurnsDown test t entries t' →
      Stops test t steps ⟨.ok none, entries, entries.length + 1⟩ t'

variable {v : LiveWalker σ} {drive : UInt32} {c c' : Cursor} {s s' s₀ : σ} {test : PartitionEntry → StateM τ Bool}
  {t t' : τ} {steps : List (Outcome PartitionEntry)} {r : Search} {tables : UInt32 → List (Outcome PartitionEntry)}

theorem Stops.recording (h : Stops test t steps r t') :
    Stops (recording test) (t, []) steps r (t', r.offered) := by
  cases h with
  | found hsteps hbefore he => exact .found hsteps (hbefore.recording []) (recording_apply he _)
  | failed hsteps hbefore => exact .failed hsteps (hbefore.recording [])
  | absent hsteps hentries => exact .absent hsteps (hentries.recording [])

theorem exists_entries : ∀ steps : List (Outcome PartitionEntry), ∃ entries : List PartitionEntry,
    steps = entries.map .ok ∨ ∃ f after, steps = entries.map .ok ++ .error f :: after
  | [] => ⟨[], .inl rfl⟩
  | .error f :: after => ⟨[], .inr ⟨f, after, rfl⟩⟩
  | .ok e :: rest => by
    obtain ⟨entries, rfl | ⟨f, after, rfl⟩⟩ := exists_entries rest
    · exact ⟨e :: entries, .inl rfl⟩
    · exact ⟨e :: entries, .inr ⟨f, after, rfl⟩⟩

theorem exists_stops (test : PartitionEntry → StateM τ Bool) (t : τ) (steps : List (Outcome PartitionEntry)) :
    ∃ r t', Stops test t steps r t' := by
  obtain ⟨entries, hsteps⟩ := exists_entries steps
  rcases turnsDown_or test t entries with ⟨t', hentries⟩ | ⟨before, e, after, t₁, t₂, rfl, hbefore, he⟩
  · rcases hsteps with rfl | ⟨f, after, rfl⟩
    · exact ⟨_, t', .absent rfl hentries⟩
    · exact ⟨_, t', .failed rfl hentries⟩
  · -- an entry that passes stands before any failure
    have hsplit : (before ++ e :: after).map (Except.ok : PartitionEntry → Outcome PartitionEntry) =
        before.map .ok ++ .ok e :: after.map .ok := by rw [List.map_append, List.map_cons]
    rcases hsteps with rfl | ⟨f, behind, rfl⟩
    · exact ⟨_, t₂, .found hsplit hbefore he⟩
    · have hbehind : (before ++ e :: after).map (Except.ok : PartitionEntry → Outcome PartitionEntry) ++
          .error f :: behind = before.map .ok ++ .ok e :: (after.map .ok ++ .error f :: behind) := by
        rw [hsplit, List.append_assoc, List.cons_append]
      exact ⟨_, t₂, .found hbehind hbefore he⟩

/-! ## Counting -/

theorem Shows.counting (h : v.Shows drive c s steps) : ∀ calls, v.counting.Shows drive c (s, calls) steps := by
  induction h with
  | ended hnext => exact fun calls => .ended (counting_next hnext calls)
  | failed unseen hnext => exact fun calls => .failed unseen (counting_next hnext calls)
  | entry hnext _ ih => exact fun calls => .entry (counting_next hnext calls) (ih (calls + 1))

theorem Walks.counting {n : Nat} (h : v.Walks drive c s n s') :
    ∀ calls, v.counting.Walks drive c (s, calls) n (s', calls + n) := by
  induction h with
  | last hnext => exact fun calls => .last (counting_next hnext calls)
  | @more _ _ _ _ _ _ n hnext _ ih =>
    intro calls
    have hrest := ih (calls + 1)
    rw [Nat.add_assoc, Nat.add_comm 1] at hrest
    exact .more (counting_next hnext calls) hrest

theorem Walks.unique {n : Nat} {s₁ s₂ : σ} (h₁ : v.Walks drive c s n s₁) (h₂ : v.Walks drive c s n s₂) : s₁ = s₂ := by
  induction h₁ with
  | last hnext =>
    cases h₂ with
    | last hnext' =>
      cases hnext.symm.trans hnext'
      rfl
    | more _ hrest => cases hrest
  | more hnext hwalks ih =>
    cases h₂ with
    | last _ => cases hwalks
    | more hnext' hrest =>
      cases hnext.symm.trans hnext'
      exact ih hrest

/-! ## Lookups -/

theorem lookupFrom_of_inl {x : Outcome (Option PartitionEntry) × σ × τ} (h : v.turn drive test (c, s, t) = .inl x) :
    v.lookupFrom drive test c s t = .some x := by
  refine Part.eq_some_iff.2 (PFun.fix_stop ?_)
  rw [h]
  exact Part.mem_some _

theorem lookupFrom_of_inr (h : v.turn drive test (c, s, t) = .inr (c', s', t')) :
    v.lookupFrom drive test c s t = v.lookupFrom drive test c' s' t' := by
  refine PFun.fix_fwd_eq ?_
  rw [h]
  exact Part.mem_some _

/-- **Entries that are turned down are walked past**, one call for each. -/
theorem lookupFrom_past {before : List PartitionEntry} (hbefore : TurnsDown test t before t') :
    ∀ {c : Cursor} {s : σ}, v.Shows drive c s (before.map .ok ++ steps) → ∃ c₁ s₁, v.Shows drive c₁ s₁ steps ∧
      v.lookupFrom drive test c s t = v.lookupFrom drive test c₁ s₁ t' ∧
      ∀ n s', v.Walks drive c₁ s₁ n s' → v.Walks drive c s (before.length + n) s' := by
  induction hbefore with
  | nil =>
    intro c s hshows
    exact ⟨c, s, hshows, rfl, fun n s' hwalks => by rwa [List.length_nil, Nat.zero_add]⟩
  | cons he _ ih =>
    intro c s hshows
    rw [List.map_cons, List.cons_append] at hshows
    cases hshows with
    | entry hnext hrest =>
      obtain ⟨c₁, s₁, hshows₁, hlookup, hwalks⟩ := ih hrest
      refine ⟨c₁, s₁, hshows₁, (lookupFrom_of_inr (turn_of_turned_down hnext he)).trans hlookup, fun n s' h => ?_⟩
      rw [List.length_cons, Nat.add_right_comm]
      exact .more hnext (hwalks n s' h)

/-- **A lookup ends where it stops in what the walk comes upon.** -/
theorem Stops.lookupFrom (h : Stops test t steps r t') (hshows : v.Shows drive c s steps) :
    ∃ s', v.lookupFrom drive test c s t = .some (r.found, s', t') ∧ v.Walks drive c s r.calls s' := by
  cases h with
  | found hsteps hbefore he =>
    rw [hsteps] at hshows
    obtain ⟨c₁, s₁, hshows₁, hlookup, hwalks⟩ := lookupFrom_past hbefore hshows
    cases hshows₁ with
    | entry hnext _ => exact ⟨_, hlookup.trans (lookupFrom_of_inl (turn_of_passes hnext he)), hwalks _ _ (.last hnext)⟩
  | failed hsteps hbefore =>
    rw [hsteps] at hshows
    obtain ⟨c₁, s₁, hshows₁, hlookup, hwalks⟩ := lookupFrom_past hbefore hshows
    cases hshows₁ with
    | failed _ hnext => exact ⟨_, hlookup.trans (lookupFrom_of_inl (turn_of_error hnext _)), hwalks _ _ (.last hnext)⟩
  | absent hsteps hentries =>
    rw [hsteps, ← List.append_nil (List.map _ _)] at hshows
    obtain ⟨c₁, s₁, hshows₁, hlookup, hwalks⟩ := lookupFrom_past hentries hshows
    cases hshows₁ with
    | ended hnext => exact ⟨_, hlookup.trans (lookupFrom_of_inl (turn_of_none hnext _)), hwalks _ _ (.last hnext)⟩

theorem Stops.counting_lookupFrom (h : Stops test t steps r t') (hshows : v.Shows drive c s steps)
    (hwalks : v.Walks drive c s r.calls s') (calls : Nat) :
    v.counting.lookupFrom drive test c (s, calls) t = .some (r.found, (s', calls + r.calls), t') := by
  obtain ⟨x, hcounted, hcounts⟩ := h.lookupFrom (hshows.counting calls)
  rw [hcounted, hcounts.unique (hwalks.counting calls)]

/-- **So many calls does a lookup make, and those entries it offers.** -/
theorem Stops.lookupFrom_counting (h : Stops test t steps r t') (hshows : v.Shows drive c s steps) :
    ∃ s', v.lookupFrom drive test c s t = .some (r.found, s', t') ∧ ∀ calls,
      v.counting.lookupFrom drive (DriveMap.recording test) c (s, calls) (t, []) =
        .some (r.found, (s', calls + r.calls), (t', r.offered)) := by
  obtain ⟨s', hlookup, hwalks⟩ := h.lookupFrom hshows
  exact ⟨s', hlookup, h.recording.counting_lookupFrom hshows hwalks⟩

theorem passes_of_turn {x : Cursor × σ × τ} {e : PartitionEntry}
    (h : v.turn drive test x = .inl (.ok (some e), s', t')) : ∃ t₁, test e t₁ = (true, t') := by
  obtain ⟨c, s, t⟩ := x
  simp only [turn] at h
  split at h
  · cases h
  · cases h
  · split at h
    · rename_i htest
      cases h
      exact ⟨_, htest⟩
    · cases h

theorem passes_of_lookupFrom {e : PartitionEntry}
    (h : v.lookupFrom drive test c s t = .some (.ok (some e), s', t')) : ∃ t₁, test e t₁ = (true, t') := by
  refine PFun.fixInduction' (Part.eq_some_iff.1 h) (fun x hx => ?_) fun x y _ _ ih => ih
  exact passes_of_turn (Part.mem_some_iff.1 hx).symm

theorem AfterLookups.reaches (hv : v.Reports s₀ tables) (h : v.AfterLookups s₀ s) : v.Reaches s₀ s := by
  induction h with
  | none => exact .start
  | @lookup _ s' s'' drive test t _ _ _ hlookup ih =>
    obtain ⟨r, t', hstops⟩ := exists_stops test t (tables drive)
    obtain ⟨s₁, hlookup₁, hwalks⟩ := hstops.lookupFrom (hv s' ih drive)
    cases Part.some_inj.1 (hlookup₁.symm.trans hlookup)
    exact ih.walk hwalks

theorem kind_ne_zero_of_search {test : PartitionEntry → Bool} (ht : ∀ e, test e = true → e.isUsed = true)
    {e : PartitionEntry} (h : v.search drive test s = .some (.ok (some e), s')) : e.kind ≠ 0 := by
  obtain ⟨⟨o, s₁, u⟩, hlookup, heq⟩ := (Part.mem_map_iff _).1 (Part.eq_some_iff.1 h)
  cases heq
  obtain ⟨_, hpass⟩ := passes_of_lookupFrom (Part.eq_some_iff.2 hlookup)
  exact bne_iff_ne.1 (ht e (congrArg Prod.fst hpass))

end LiveWalker

/-! ## Walkers that do not change -/

/-- A listing as the steps that reading it comes upon. -/
def Listing.steps (l : Listing) : List (Outcome PartitionEntry) :=
  l.entries.map .ok ++ match l.ending with
    | .error f => [.error f]
    | .ok () => []

namespace Walker

open LiveWalker

variable {w : Walker} {drive : UInt32} {c : Cursor} {test : PartitionEntry → Bool}

theorem live_shows (w : Walker) (drive : UInt32) (c : Cursor) (u : Unit) :
    w.live.Shows drive c u (w.listingFrom drive c).steps := by
  fun_induction listingFrom w drive c with
  | case1 c f h => exact .failed [] (live_next_of_error h u)
  | case2 c h => exact .ended (live_next_of_none h u)
  | case3 c e c' h hlt rest ih => exact .entry (live_next_of_some h u) ih

theorem live_reports (w : Walker) : w.live.Reports () fun drive => (w.listing drive).steps :=
  fun u _ drive => w.live_shows drive .fresh u

theorem lookup_eq_takeTurns (w : Walker) (drive : UInt32) (test : PartitionEntry → Bool) (calls : Nat) :
    w.live.counting.lookup drive (recording (stateless test)) ((), calls) ((), []) =
      .some (takeTurns (w.live.counting.turn drive (recording (stateless test))) (fun x => w.left drive x.1)
        left_lt_of_turn (.fresh, ((), calls), ((), []))) := fix_eq_takeTurns left_lt_of_turn _

/-- **A search stops where the listing gives it cause to.** -/
theorem stops_search (w : Walker) (drive : UInt32) (test : PartitionEntry → Bool) :
    Stops (stateless test) () (w.listing drive).steps (w.search drive test) () := by
  obtain ⟨r, _, hstops⟩ := exists_stops (stateless test) () (w.listing drive).steps
  obtain ⟨_, -, hcounted⟩ := hstops.lookupFrom_counting (w.live_shows drive .fresh ())
  have hturns := Part.some_inj.1 ((w.lookup_eq_takeTurns drive test 0).symm.trans (hcounted 0))
  have hsearch : w.search drive test = r := by
    simp only [search, hturns, Nat.zero_add]
  rw [hsearch]
  exact hstops

/-- **A search is a lookup with the walker**: the entries that it says it offered and the calls that it says it made are
those that the lookup does. -/
theorem lookup_live (w : Walker) (drive : UInt32) (test : PartitionEntry → Bool) (calls : Nat) :
    w.live.counting.lookup drive (recording (stateless test)) ((), calls) ((), []) =
      .some ((w.search drive test).found, ((), calls + (w.search drive test).calls),
        ((), (w.search drive test).offered)) := by
  obtain ⟨_, -, hcounted⟩ := (w.stops_search drive test).lookupFrom_counting (w.live_shows drive .fresh ())
  exact hcounted calls

end Walker

namespace LiveWalker

variable {σ : Type} {v : LiveWalker σ} {s₀ : σ} {tables : UInt32 → List (Outcome PartitionEntry)}

/-- **A lookup stops at the first step that gives it cause to**, and nowhere else, whatever lookups were made before: it
ends, with that step, after a call for each step up to it, and its test was offered the entries up to it.  An entry
looked up by its number or its extent is in use.  The searches of a walker that does not change are such lookups. -/
theorem lookup_of_reports (hv : v.Reports s₀ tables) (drive : UInt32) :
    (∀ {τ : Type} (test : PartitionEntry → StateM τ Bool) (t : τ), (∃ r t', Stops test t (tables drive) r t') ∧
      ∀ r t', Stops test t (tables drive) r t' → ∀ s, v.AfterLookups s₀ s → ∃ s',
        v.lookup drive test s t = .some (r.found, s', t') ∧ ∀ calls,
        v.counting.lookup drive (recording test) (s, calls) (t, []) =
          .some (r.found, (s', calls + r.calls), (t', r.offered))) ∧
    (∀ index s e s', v.byIndex drive index s = .some (.ok (some e), s') → e.kind ≠ 0) ∧
    (∀ x s e s', v.byExtent drive x s = .some (.ok (some e), s') → e.kind ≠ 0) ∧
    ∀ w : Walker, (w.live.Reports () fun drive => (w.listing drive).steps) ∧
      (∀ index e, (w.byIndex drive index).found = .ok (some e) → e.kind ≠ 0) ∧
      (∀ x e, (w.byExtent drive x).found = .ok (some e) → e.kind ≠ 0) ∧
      ∀ test : PartitionEntry → Bool,
        Stops (stateless test) () (w.listing drive).steps (w.search drive test) () ∧
        ∀ calls, w.live.counting.lookup drive (recording (stateless test)) ((), calls) ((), []) =
          .some ((w.search drive test).found, ((), calls + (w.search drive test).calls),
            ((), (w.search drive test).offered)) := by
  refine ⟨fun test t => ⟨exists_stops test t _, fun r t' hstops s hs => ?_⟩, fun index s e s' h => ?_,
    fun x s e s' h => ?_, fun w => ⟨w.live_reports, fun index e h => ?_, fun x e h => ?_, fun test => ⟨?_, ?_⟩⟩⟩
  · exact hstops.lookupFrom_counting (hv s (hs.reaches hv) drive)
  · exact kind_ne_zero_of_search (fun e he => (Bool.and_eq_true_iff.1 he).1) h
  · exact kind_ne_zero_of_search (fun e he => (Bool.and_eq_true_iff.1 he).1) h
  · exact bne_iff_ne.1 (Walker.of_found_byIndex h).2.1
  · exact bne_iff_ne.1 (Walker.of_found_byExtent h).2.1
  · exact w.stops_search drive test
  · exact w.lookup_live drive test

/-- A line that is not in use, two that have one number, and a line that cannot be read, with a walker that counts its
calls.  A number that is in none of them fails there, and the next lookup starts again. -/
theorem lookup_of_reports_after_failure :
    let entry (kind : UInt32) : PartitionEntry := ⟨1, kind, ⟨2048, 100⟩⟩
    let w := Machine.Table.walker [⟨0x80, [entry 0, entry 7, entry 0x83], some 3, .mediaChanged⟩]
    let v := w.live.counting
    let steps : List (Outcome PartitionEntry) := [.ok (entry 0), .ok (entry 7), .ok (entry 0x83), .error .mediaChanged]
    v.Reports ((), 0) (fun drive => (w.listing drive).steps) ∧ (w.listing 0x80).steps = steps ∧
    (∃ s', v.lookup 0x80 (stateless fun e => e.hasIndex 9) ((), 0) () = .some (.error .mediaChanged, s', ()) ∧
      v.AfterLookups ((), 0) s') ∧
    ∀ s, v.AfterLookups ((), 0) s → ∃ s',
      v.counting.lookup 0x80 (recording (stateless fun e => e.hasIndex 1)) (s, 0) ((), []) =
        .some (.ok (some (entry 7)), (s', 2), ((), [entry 0, entry 7])) := by
  intro entry w v steps
  have hv : v.Reports ((), 0) fun drive => (w.listing drive).steps :=
    fun s _ drive => (w.live_shows drive .fresh s.1).counting s.2
  have hsteps : (w.listing 0x80).steps = steps := by cbv
  obtain ⟨hlookup, -⟩ := lookup_of_reports hv 0x80
  have hfails : Stops (stateless fun e => e.hasIndex 9) () (w.listing 0x80).steps
      ⟨.error .mediaChanged, [entry 0, entry 7, entry 0x83], 4⟩ () := by
    rw [hsteps]
    exact .failed (by rfl) (turnsDown_stateless (by decide))
  have hfinds : Stops (stateless fun e => e.hasIndex 1) () (w.listing 0x80).steps
      ⟨.ok (some (entry 7)), [entry 0, entry 7], 2⟩ () := by
    have hspare : TurnsDown (stateless fun e => e.hasIndex 1) () [entry 0] () := turnsDown_stateless (by decide)
    rw [hsteps]
    exact .found (by rfl) hspare rfl
  obtain ⟨s', hfailed, -⟩ := (hlookup _ ()).2 _ _ hfails ((), 0) .none
  refine ⟨hv, hsteps, ⟨s', hfailed, .lookup .none hfailed⟩, fun s hs => ?_⟩
  obtain ⟨s'', -, hfound⟩ := (hlookup _ ()).2 _ _ hfinds s hs
  exact ⟨s'', hfound 0⟩

end LiveWalker
end DriveMap
