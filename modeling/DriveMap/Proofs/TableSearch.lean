import DriveMap.Partition.Search
import Mathlib.Data.List.Nodup
/-!
# Searching a table is searching its listing

A search stops at the first entry that passes its test; if none does, it ends as the listing ends.  So what it finds is
read off the listing (`Walker.found_search`).
-/
namespace DriveMap

/-- The first entry of a listing that a test holds for; if there is none, the way the listing ends. -/
def Listing.find? (l : Listing) (test : PartitionEntry → Bool) : Outcome (Option PartitionEntry) :=
  match l.entries.find? test with
  | some e => .ok (some e)
  | none => l.ending.map fun _ => none

theorem Listing.find?_eq_some {l : Listing} {test : PartitionEntry → Bool} {e : PartitionEntry} :
    l.find? test = .ok (some e) ↔ l.entries.find? test = some e := by
  unfold find?
  cases l.entries.find? test with
  | none => cases l.ending <;> simp [Except.map]
  | some e' => simp

/-- The entries of a listing that are in use. -/
def Listing.used (l : Listing) : List PartitionEntry := l.entries.filter PartitionEntry.isUsed

/-- **Among used entries that a key tells apart, the first with a key is the only one.** -/
theorem find?_used {κ : Type} [BEq κ] [LawfulBEq κ] {key : PartitionEntry → κ} {es : List PartitionEntry}
    (hn : ((es.filter PartitionEntry.isUsed).map key).Nodup) {e : PartitionEntry} (he : e ∈ es)
    (hu : e.isUsed = true) : es.find? (fun x => x.isUsed && key x == key e) = some e := by
  have hsome : (es.find? fun x => x.isUsed && key x == key e).isSome = true := by
    rw [List.find?_isSome]
    exact ⟨e, he, by simp [hu]⟩
  obtain ⟨e', he'⟩ := Option.isSome_iff_exists.1 hsome
  have ht := List.find?_some he'
  rw [Bool.and_eq_true, beq_iff_eq] at ht
  have hee : e' = e := List.inj_on_of_nodup_map hn
    (List.mem_filter.2 ⟨List.mem_of_find?_eq_some he', ht.1⟩) (List.mem_filter.2 ⟨he, hu⟩) ht.2
  rw [he', hee]

namespace Walker

open LiveWalker

variable {w : Walker} {drive : UInt32} {c : Cursor}

theorem listingFrom_of_error {f : Failure Unit} (h : w.next drive c = .error f) :
    w.listingFrom drive c = ⟨[], .error f⟩ := by
  rw [listingFrom]
  split <;> simp_all

theorem listingFrom_of_none (h : w.next drive c = .ok none) : w.listingFrom drive c = ⟨[], .ok ()⟩ := by
  rw [listingFrom]
  split <;> simp_all

theorem listingFrom_of_some {c' : Cursor} {e : PartitionEntry} (h : w.next drive c = .ok (some (e, c'))) :
    w.listingFrom drive c = ⟨e :: (w.listingFrom drive c').entries, (w.listingFrom drive c').ending⟩ := by
  rw [listingFrom]
  split <;> simp_all

theorem takeTurns_fst (w : Walker) (drive : UInt32) (test : PartitionEntry → Bool) (c : Cursor) :
    ∀ (calls : Nat) (offered : List PartitionEntry),
      (takeTurns (w.live.counting.turn drive (recording (stateless test))) (fun x => w.left drive x.1) left_lt_of_turn
        (c, ((), calls), ((), offered))).1 = (w.listingFrom drive c).find? test := by
  fun_induction listingFrom w drive c with
  | case1 c f h =>
    intro calls offered
    rw [takeTurns_of_inl (turn_of_error (counting_next (live_next_of_error h ()) calls) ((), offered))]
    rfl
  | case2 c h =>
    intro calls offered
    rw [takeTurns_of_inl (turn_of_none (counting_next (live_next_of_none h ()) calls) ((), offered))]
    rfl
  | case3 c e c' h hlt rest ih =>
    intro calls offered
    have hnext := counting_next (live_next_of_some h ()) calls
    cases htest : test e with
    | true =>
      rw [takeTurns_of_inl (turn_of_passes hnext (recording_apply (stateless_apply htest) offered))]
      exact (Listing.find?_eq_some.2 (List.find?_cons_of_pos htest)).symm
    | false =>
      rw [takeTurns_of_inr (turn_of_turned_down hnext (recording_apply (stateless_apply htest) offered)), ih]
      simp only [Listing.find?, List.find?_cons, htest, rest]

/-- **A search finds what its drive's listing holds first.** -/
theorem found_search (w : Walker) (drive : UInt32) (test : PartitionEntry → Bool) :
    (w.search drive test).found = (w.listing drive).find? test :=
  w.takeTurns_fst drive test .fresh 0 []

theorem found_search_eq_some {test : PartitionEntry → Bool} {e : PartitionEntry} :
    (w.search drive test).found = .ok (some e) ↔ (w.listing drive).entries.find? test = some e := by
  rw [found_search, Listing.find?_eq_some]

variable {e : PartitionEntry} {index : UInt32} {x : Extent}

theorem of_found_byIndex (h : (w.byIndex drive index).found = .ok (some e)) :
    e ∈ (w.listing drive).entries ∧ e.isUsed = true ∧ e.index = index := by
  have h := found_search_eq_some.1 h
  have ht := List.find?_some h
  rw [PartitionEntry.hasIndex, Bool.and_eq_true, beq_iff_eq] at ht
  exact ⟨List.mem_of_find?_eq_some h, ht⟩

theorem of_found_byExtent (h : (w.byExtent drive x).found = .ok (some e)) :
    e ∈ (w.listing drive).entries ∧ e.isUsed = true ∧ e.extent = x := by
  have h := found_search_eq_some.1 h
  have ht := List.find?_some h
  rw [PartitionEntry.describes, Bool.and_eq_true, beq_iff_eq] at ht
  exact ⟨List.mem_of_find?_eq_some h, ht⟩

theorem found_byIndex (hn : ((w.listing drive).used.map PartitionEntry.index).Nodup)
    (he : e ∈ (w.listing drive).entries) (hu : e.isUsed = true) :
    (w.byIndex drive e.index).found = .ok (some e) :=
  found_search_eq_some.2 (find?_used hn he hu)

theorem found_byExtent (hn : ((w.listing drive).used.map PartitionEntry.extent).Nodup)
    (he : e ∈ (w.listing drive).entries) (hu : e.isUsed = true) :
    (w.byExtent drive e.extent).found = .ok (some e) :=
  found_search_eq_some.2 (find?_used hn he hu)

end Walker
end DriveMap
