import DriveMap.Partition.Search
/-!
# The first match

A test may keep a state, and what it says of an item then hangs on the items it was offered before.  A search for the
first item that passes offers its items in order and stops at that one, so which items it offered is told by the state
that the test is left in; `recording` makes it plain.
-/
namespace DriveMap

variable {ι τ : Type}

/-- Offered some items in order, the test turns down each of them, and is in another state then. -/
inductive TurnsDown (test : ι → StateM τ Bool) : τ → List ι → τ → Prop
  | nil {t : τ} : TurnsDown test t [] t
  | cons {t t' t'' : τ} {a : ι} {as : List ι} : test a t = (false, t') → TurnsDown test t' as t'' →
      TurnsDown test t (a :: as) t''

/-- What a search for the first item that passes comes to: the item, if there is one, the items that the test was
offered, and the state it is left in. -/
inductive Picks (test : ι → StateM τ Bool) (t : τ) (items : List ι) : Option ι → List ι → τ → Prop
  | found {before after : List ι} {a : ι} {t' t'' : τ} : items = before ++ a :: after → TurnsDown test t before t' →
      test a t' = (true, t'') → Picks test t items (some a) (before ++ [a]) t''
  | absent {t' : τ} : TurnsDown test t items t' → Picks test t items none items t'

variable {test : ι → StateM τ Bool} {t t' : τ} {items offered : List ι} {found : Option ι}

theorem TurnsDown.recording (h : TurnsDown test t items t') (offered : List ι) :
    TurnsDown (recording test) (t, offered) items (t', offered ++ items) := by
  induction h generalizing offered with
  | nil =>
    rw [List.append_nil]
    exact .nil
  | @cons _ _ _ a as htest _ ih =>
    have hrest := ih (offered ++ [a])
    rw [List.append_assoc, List.singleton_append] at hrest
    exact .cons (recording_apply htest offered) hrest

theorem turnsDown_stateless {test : ι → Bool} : ∀ {items : List ι}, (∀ a ∈ items, test a = false) →
    TurnsDown (stateless test) () items ()
  | [], _ => .nil
  | a :: as, h => by
    obtain ⟨ha, has⟩ := List.forall_mem_cons.1 h
    exact .cons (stateless_apply ha) (turnsDown_stateless has)

/-- **A test turns down all items, or there is a first that passes.** -/
theorem turnsDown_or (test : ι → StateM τ Bool) : ∀ (t : τ) (items : List ι),
    (∃ t', TurnsDown test t items t') ∨
    ∃ before a after t' t'', items = before ++ a :: after ∧ TurnsDown test t before t' ∧ test a t' = (true, t'')
  | t, [] => .inl ⟨t, .nil⟩
  | t, a :: as => by
    obtain ⟨passed, t', hstep⟩ : ∃ passed t', test a t = (passed, t') := ⟨_, _, rfl⟩
    cases passed with
    | true => exact .inr ⟨[], a, as, t, t', rfl, .nil, hstep⟩
    | false =>
      rcases turnsDown_or test t' as with ⟨t'', hrest⟩ | ⟨before, b, after, t₁, t₂, rfl, hrest, hb⟩
      · exact .inl ⟨t'', .cons hstep hrest⟩
      · exact .inr ⟨a :: before, b, after, t₁, t₂, rfl, .cons hstep hrest, hb⟩

theorem exists_picks (test : ι → StateM τ Bool) (t : τ) (items : List ι) :
    ∃ found offered t', Picks test t items found offered t' := by
  rcases turnsDown_or test t items with ⟨t', h⟩ | ⟨before, a, after, t₁, t₂, rfl, hbefore, ha⟩
  · exact ⟨none, items, t', .absent h⟩
  · exact ⟨some a, before ++ [a], t₂, .found rfl hbefore ha⟩

theorem Picks.recording (h : Picks test t items found offered t') :
    Picks (recording test) (t, []) items found offered (t', offered) := by
  cases h with
  | found hitems hbefore ha => exact .found hitems (hbefore.recording []) (recording_apply ha _)
  | absent hitems => exact .absent (hitems.recording [])

/-! ## Searching a list -/

theorem TurnsDown.findM?_append (h : TurnsDown test t items t') (rest : List ι) :
    (items ++ rest).findM? test t = rest.findM? test t' := by
  induction h with
  | nil => rfl
  | cons htest _ ih =>
    rw [List.cons_append, List.findM?]
    simp only [bind, StateT.bind, htest]
    exact ih

theorem Picks.findM?_eq (h : Picks test t items found offered t') : items.findM? test t = (found, t') := by
  cases h with
  | found hitems hbefore ha =>
    rw [hitems, hbefore.findM?_append, List.findM?]
    simp only [bind, StateT.bind, ha]
    rfl
  | absent hitems =>
    have hnil := hitems.findM?_append []
    rw [List.append_nil] at hnil
    exact hnil

/-- **A search of a list comes to what it picks**, and the items that the test is offered are those up to that one. -/
theorem findM?_recording_eq_iff : items.findM? (recording test) (t, []) = (found, (t', offered)) ↔
    Picks test t items found offered t' := by
  constructor
  · intro h
    obtain ⟨found', offered', t'', hpicks⟩ := exists_picks test t items
    cases hpicks.recording.findM?_eq.symm.trans h
    exact hpicks
  · intro h
    exact h.recording.findM?_eq

theorem findM?_eq_iff : items.findM? test t = (found, t') ↔ ∃ offered, Picks test t items found offered t' := by
  constructor
  · intro h
    obtain ⟨found', offered, t'', hpicks⟩ := exists_picks test t items
    cases hpicks.findM?_eq.symm.trans h
    exact ⟨offered, hpicks⟩
  · rintro ⟨offered, h⟩
    exact h.findM?_eq

theorem findM?_stateless (test : ι → Bool) : ∀ items : List ι,
    items.findM? (stateless test) () = (items.find? test, ())
  | [] => rfl
  | a :: as => by
    rw [List.findM?, List.find?_cons]
    cases h : test a with
    | true => simp only [bind, StateT.bind, stateless, h]; rfl
    | false =>
      simp only [bind, StateT.bind, stateless, h]
      exact findM?_stateless test as

end DriveMap
