import DriveMap.Context.Lookup
import DriveMap.Proofs.Inquiries
import DriveMap.Proofs.TableLookups
import Mathlib.Algebra.GroupWithZero.Nat
/-!
# Requests to a walker that changes

A walker that changes and has the tables of one that does not answers every request as that one does, whatever was
looked up before: with the same outcome and log, after as many calls (`LiveWalker.answer_of_reports`), and so one
request after another (`LiveWalker.answerAll_of_reports`).  What is known of resolutions is then known of it too
(`Context.resolutions_of_reports`).
-/
namespace DriveMap
namespace LiveWalker

variable {σ α : Type} {v : LiveWalker σ} {w : Walker} {s s₀ : σ}

theorem search_of_reports (hv : v.Reports s₀ fun drive => (w.listing drive).steps) (hs : v.AfterLookups s₀ s)
    (drive : UInt32) (test : PartitionEntry → Bool) : ∃ s', v.AfterLookups s₀ s' ∧
      v.search drive test s = .some ((w.search drive test).found, s') ∧ ∀ calls,
      v.counting.search drive test (s, calls) =
        .some ((w.search drive test).found, (s', calls + (w.search drive test).calls)) := by
  have hshows : v.Shows drive .fresh s (w.listing drive).steps := hv s (hs.reaches hv) drive
  have hstops := w.stops_search drive test
  obtain ⟨s', hlookup, hwalks⟩ := hstops.lookupFrom hshows
  refine ⟨s', hs.lookup hlookup, ?_, fun calls => ?_⟩
  · rw [search, lookup, hlookup, Part.map_some]
  · rw [search, lookup, hstops.counting_lookupFrom hshows hwalks, Part.map_some]

/-- **A request is answered by a walker that has the tables as it is by the tables.** -/
theorem answer_of_reports (hv : v.Reports s₀ fun drive => (w.listing drive).steps) (q : Inquiry α) :
    ∀ {s : σ}, v.AfterLookups s₀ s → ∃ s', v.AfterLookups s₀ s' ∧
      v.answer q s = .some (((q.answer w).outcome, (q.answer w).log), s') ∧ ∀ calls,
      v.counting.answer q (s, calls) =
        .some (((q.answer w).outcome, (q.answer w).log), (s', calls + (q.answer w).calls)) := by
  induction q with
  | ends o => exact fun hs => ⟨_, hs, rfl, fun _ => rfl⟩
  | logs e rest ih =>
    intro s hs
    obtain ⟨s', hs', hanswer, hcounted⟩ := ih hs
    rw [Inquiry.answer, Resolution.say_bind]
    refine ⟨s', hs', ?_, fun calls => ?_⟩
    · rw [answer, hanswer, Part.map_some]
    · rw [answer, hcounted, Part.map_some]
  | asks drive test rest ih =>
    intro s hs
    obtain ⟨s₁, hs₁, hsearch, hcounted⟩ := search_of_reports hv hs drive test
    simp only [answer, hsearch, hcounted, Part.bind_some, Inquiry.answer]
    rcases hfound : (w.search drive test).found with f | _ | e
    · rw [Resolution.entryOf_bind_of_error hfound]
      exact ⟨s₁, hs₁, rfl, fun _ => rfl⟩
    · rw [Resolution.entryOf_bind_of_none hfound]
      exact ⟨s₁, hs₁, rfl, fun _ => rfl⟩
    · rw [Resolution.entryOf_bind_of_some hfound]
      obtain ⟨s', hs', hanswer, hrest⟩ := ih e hs₁
      refine ⟨s', hs', hanswer, fun calls => ?_⟩
      rw [← Nat.add_assoc]
      exact hrest _

/-- **One request after another**, the walker is asked as often as all of them say. -/
theorem answerAll_of_reports (hv : v.Reports s₀ fun drive => (w.listing drive).steps) :
    ∀ (qs : List (Inquiry α)) {s : σ}, v.AfterLookups s₀ s → ∃ s', v.AfterLookups s₀ s' ∧
      v.answerAll qs s = .some (qs.map fun q => ((q.answer w).outcome, (q.answer w).log), s') ∧ ∀ calls,
      v.counting.answerAll qs (s, calls) = .some (qs.map fun q => ((q.answer w).outcome, (q.answer w).log),
        (s', calls + (qs.map fun q => (q.answer w).calls).sum))
  | [], s, hs => ⟨s, hs, rfl, fun _ => rfl⟩
  | q :: rest, s, hs => by
    obtain ⟨s₁, hs₁, hanswer, hcounted⟩ := answer_of_reports hv q hs
    obtain ⟨s', hs', hall, hrest⟩ := answerAll_of_reports hv rest hs₁
    refine ⟨s', hs', ?_, fun calls => ?_⟩
    · simp only [answerAll, hanswer, Part.bind_some, hall, Part.map_some, List.map_cons]
    · simp only [answerAll, hcounted, Part.bind_some, hrest, Part.map_some, List.map_cons, List.sum_cons, Nat.add_assoc]

end LiveWalker

/-- **Handles and pairs are resolved as with the tables**, by any context, for any firmware, and after any lookups. -/
theorem Context.resolutions_of_reports {α σ : Type} {v : LiveWalker σ} {w : Walker} {s s₀ : σ}
    (hv : v.Reports s₀ fun drive => (w.listing drive).steps) (hs : v.AfterLookups s₀ s) (ctx : Context α)
    (fw : Firmware α) :
    (∀ drive partition, ∃ s', v.AfterLookups s₀ s' ∧ v.answer (ctx.handleInquiry fw drive partition) s =
      .some (((ctx.handleFor fw w drive partition).outcome, (ctx.handleFor fw w drive partition).log), s')) ∧
    (∀ path, ∃ s', v.AfterLookups s₀ s' ∧ v.answer (ctx.pathInquiry fw path) s =
      .some (((ctx.pairForPath fw w path).outcome, (ctx.pairForPath fw w path).log), s')) ∧
    ∀ h, ∃ s', v.AfterLookups s₀ s' ∧ v.answer (ctx.pairInquiry fw h) s =
      .some (((ctx.pairForHandle fw w h).outcome, (ctx.pairForHandle fw w h).log), s') := by
  refine ⟨fun drive partition => ?_, fun path => ?_, fun h => ?_⟩
  · obtain ⟨s', hs', hanswer, -⟩ := LiveWalker.answer_of_reports hv (ctx.handleInquiry fw drive partition) hs
    exact ⟨s', hs', hanswer⟩
  · obtain ⟨s', hs', hanswer, -⟩ := LiveWalker.answer_of_reports hv (ctx.pathInquiry fw path) hs
    exact ⟨s', hs', hanswer⟩
  · obtain ⟨s', hs', hanswer, -⟩ := LiveWalker.answer_of_reports hv (ctx.pairInquiry fw h) hs
    exact ⟨s', hs', hanswer⟩

end DriveMap
