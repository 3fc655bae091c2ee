namespace PagedFind

/-- An element of a list has a property that none of those before it has. -/
structure FirstWith {α : Type} (property : α → Prop) (l before : List α) (a : α) : Prop where
  starts : before ++ [a] <+: l
  fresh : ∀ b ∈ before, ¬property b
  holds : property a

variable {α : Type} {property : α → Prop} {l before : List α} {a b : α}

theorem FirstWith.mem (h : FirstWith property l before a) : a ∈ l :=
  h.starts.subset (List.mem_append_right before List.mem_cons_self)

theorem not_firstWith_nil : ¬FirstWith property [] before a := fun h => List.not_mem_nil h.mem

theorem firstWith_cons_iff : FirstWith property (b :: l) before a ↔
    (property b ∧ before = [] ∧ a = b) ∨ ¬property b ∧ ∃ rest, before = b :: rest ∧ FirstWith property l rest a := by
  constructor
  · rintro ⟨hstarts, hfresh, hholds⟩
    cases before with
    | nil =>
      obtain ⟨rfl, -⟩ := List.cons_prefix_cons.mp hstarts
      exact .inl ⟨hholds, rfl, rfl⟩
    | cons c rest =>
      obtain ⟨rfl, hrest⟩ := List.cons_prefix_cons.mp hstarts
      exact .inr ⟨hfresh c List.mem_cons_self, rest, rfl, hrest,
        fun d hd => hfresh d (List.mem_cons_of_mem c hd), hholds⟩
  · rintro (⟨hholds, rfl, rfl⟩ | ⟨hnot, rest, rfl, hstarts, hfresh, hholds⟩)
    · exact ⟨List.cons_prefix_cons.mpr ⟨rfl, List.nil_prefix⟩, List.forall_mem_nil _, hholds⟩
    · exact ⟨List.cons_prefix_cons.mpr ⟨rfl, hstarts⟩, List.forall_mem_cons.mpr ⟨hnot, hfresh⟩, hholds⟩

theorem FirstWith.unique {before' : List α} {a' : α} (h : FirstWith property l before a)
    (h' : FirstWith property l before' a') : before = before' ∧ a = a' := by
  induction l generalizing before before' with
  | nil => exact absurd h not_firstWith_nil
  | cons b l ih =>
    rcases firstWith_cons_iff.mp h with ⟨hb, rfl, rfl⟩ | ⟨hb, rest, rfl, hrest⟩ <;>
      rcases firstWith_cons_iff.mp h' with ⟨hb', rfl, rfl⟩ | ⟨hb', rest', rfl, hrest'⟩
    · exact ⟨rfl, rfl⟩
    · exact absurd hb hb'
    · exact absurd hb' hb
    · obtain ⟨rfl, rfl⟩ := ih hrest hrest'
      exact ⟨rfl, rfl⟩

theorem exists_firstWith_iff : (∃ before a, FirstWith property l before a) ↔ ∃ a ∈ l, property a := by
  constructor
  · rintro ⟨before, a, h⟩
    exact ⟨a, h.mem, h.holds⟩
  · induction l with
    | nil => exact fun ⟨a, hmem, _⟩ => absurd hmem List.not_mem_nil
    | cons b l ih =>
      rintro ⟨a, hmem, hholds⟩
      by_cases hb : property b
      · exact ⟨[], b, firstWith_cons_iff.mpr (.inl ⟨hb, rfl, rfl⟩)⟩
      · have htail : a ∈ l := (List.mem_cons.mp hmem).resolve_left fun heq => hb (heq ▸ hholds)
        obtain ⟨rest, c, hrest⟩ := ih ⟨a, htail, hholds⟩
        exact ⟨b :: rest, c, firstWith_cons_iff.mpr (.inr ⟨hb, rest, rfl, hrest⟩)⟩

theorem forall_not_firstWith_iff : (∀ a, ¬∃ before, FirstWith property l before a) ↔ ∀ a ∈ l, ¬property a := by
  rw [← not_exists, exists_comm, exists_firstWith_iff]
  simp only [not_exists, not_and]

theorem exists_firstWith_cons_iff : (∃ before, FirstWith property (b :: l) before a) ↔
    (property b ∧ a = b) ∨ ¬property b ∧ ∃ before, FirstWith property l before a := by
  simp only [firstWith_cons_iff]
  constructor
  · rintro ⟨before, ⟨hb, -, heq⟩ | ⟨hb, rest, -, hrest⟩⟩
    · exact .inl ⟨hb, heq⟩
    · exact .inr ⟨hb, rest, hrest⟩
  · rintro (⟨hb, heq⟩ | ⟨hb, rest, hrest⟩)
    · exact ⟨[], .inl ⟨hb, rfl, heq⟩⟩
    · exact ⟨b :: rest, .inr ⟨hb, rest, rfl, hrest⟩⟩

/-- The first element of two lists in a row is in the second one just where the first has none. -/
theorem exists_firstWith_append_iff {l' : List α} : (∃ before, FirstWith property (l ++ l') before a) ↔
    (∃ before, FirstWith property l before a) ∨ (∀ b ∈ l, ¬property b) ∧ ∃ before, FirstWith property l' before a := by
  induction l with
  | nil => simp [not_firstWith_nil]
  | cons b l ih =>
    rw [List.cons_append, exists_firstWith_cons_iff, exists_firstWith_cons_iff, ih, List.forall_mem_cons]
    by_cases hb : property b <;> simp [hb]

end PagedFind
