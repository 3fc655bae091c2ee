import PagedFind.Json.Reader

namespace PagedFind

theorem exists_of_bind_eq_ok {ε α β : Type} {x : Except ε α} {f : α → Except ε β} {b : β} (h : x >>= f = .ok b) :
    ∃ a, x = .ok a ∧ f a = .ok b := by
  cases x with
  | error e => cases h
  | ok a => exact ⟨a, rfl, h⟩

theorem exists_of_map_eq_ok {ε α β : Type} {x : Except ε α} {f : α → β} {b : β} (h : x.map f = .ok b) :
    ∃ a, x = .ok a ∧ f a = b := by
  cases x with
  | error e => cases h
  | ok a =>
    cases h
    exact ⟨a, rfl, rfl⟩

namespace Json

namespace Reader

def Opens (c : Char) : Prop := c ∈ ['n', 't', 'f', '"', '-', '[', '{'] ∨ c.isDigit = true

variable {steps depth : Nat} {text rest : List Char} {v : Json}

theorem faultAt_ne_ok {α : Type} {out : α} : (faultAt text : Except ReadError α) ≠ .ok out := nofun

theorem word_ok {value : Json} {name : List Char} (h : word value name text = .ok (v, rest)) : v = value := by
  induction name generalizing text with
  | nil => cases h; rfl
  | cons w name ih =>
    cases text with
    | nil => cases h
    | cons c text =>
      rw [word] at h
      split at h
      · exact ih h
      · cases h

theorem items_ok {done : List Json} (h : items steps depth done text = .ok (v, rest)) : ∃ xs, v = .array xs := by
  induction steps generalizing done text with
  | zero =>
    unfold items at h
    split at h
    · cases h; exact ⟨_, rfl⟩
    · contradiction
    · exact absurd h faultAt_ne_ok
  | succ steps ih =>
    unfold items at h
    split at h
    · cases h; exact ⟨_, rfl⟩
    · next heq =>
      cases heq
      obtain ⟨⟨x, rest'⟩, -, hmore⟩ := exists_of_bind_eq_ok h
      exact ih hmore
    · exact absurd h faultAt_ne_ok

theorem entries_ok {done : Entries Json} (h : entries steps depth done text = .ok (v, rest)) :
    ∃ es, v = .object es := by
  induction steps generalizing done text with
  | zero =>
    unfold entries at h
    split at h
    · cases h; exact ⟨_, rfl⟩
    · contradiction
    · exact absurd h faultAt_ne_ok
  | succ steps ih =>
    unfold entries at h
    split at h
    · cases h; exact ⟨_, rfl⟩
    · next heq =>
      cases heq
      obtain ⟨⟨⟨k, x⟩, rest'⟩, -, hmore⟩ := exists_of_bind_eq_ok h
      exact ih hmore
    · exact absurd h faultAt_ne_ok

/-- What a value begins with tells its kind: only a string begins with a quote. -/
theorem value_ok (h : value steps depth text = .ok (v, rest)) :
    ∃ c after, text = c :: after ∧ Opens c ∧
      ((∃ s, v = .string s ∧ chars [] after = .ok (s, rest)) ∨ v.string? = none) := by
  unfold value at h
  split at h
  · cases h
  · cases h
  · exact ⟨_, _, rfl, .inl (by decide), .inr (by rw [word_ok h]; rfl)⟩
  · exact ⟨_, _, rfl, .inl (by decide), .inr (by rw [word_ok h]; rfl)⟩
  · exact ⟨_, _, rfl, .inl (by decide), .inr (by rw [word_ok h]; rfl)⟩
  · obtain ⟨⟨s, rest'⟩, hchars, heq⟩ := exists_of_map_eq_ok h
    cases heq
    exact ⟨_, _, rfl, .inl (by decide), .inl ⟨s, rfl, hchars⟩⟩
  · obtain ⟨⟨n, rest'⟩, -, heq⟩ := exists_of_map_eq_ok h
    cases heq
    exact ⟨_, _, rfl, .inl (by decide), .inr rfl⟩
  · refine ⟨_, _, rfl, .inl (by decide), .inr ?_⟩
    split at h
    · cases h
    · split at h
      · cases h; rfl
      · obtain ⟨⟨x, rest'⟩, -, hmore⟩ := exists_of_bind_eq_ok h
        obtain ⟨xs, rfl⟩ := items_ok hmore
        rfl
  · refine ⟨_, _, rfl, .inl (by decide), .inr ?_⟩
    split at h
    · cases h
    · split at h
      · cases h; rfl
      · obtain ⟨⟨⟨k, x⟩, rest'⟩, -, hmore⟩ := exists_of_bind_eq_ok h
        obtain ⟨es, rfl⟩ := entries_ok hmore
        rfl
  · split at h
    next hdigit =>
      obtain ⟨⟨n, rest'⟩, -, heq⟩ := exists_of_map_eq_ok h
      cases heq
      exact ⟨_, _, rfl, .inr hdigit, .inr rfl⟩
    next => cases h

theorem length_chars {done : List Char} {s : String} (h : chars done text = .ok (s, rest)) :
    s.length + rest.length < done.length + text.length := by
  fun_induction chars done text
  case case2 =>
    cases h
    simp only [String.length_ofList, List.length_reverse, List.length_cons]
    omega
  -- One more character is held than before, and two or more are gone from the text, or just the one.
  case case8 ih =>
    have hafter := ih h
    simp only [List.length_cons, List.length_drop] at hafter ⊢
    omega
  case case11 ih =>
    have hafter := ih h
    simp only [List.length_cons, List.length_drop] at hafter ⊢
    omega
  case case13 ih =>
    have hafter := ih h
    simp only [List.length_cons] at hafter ⊢
    omega
  case case16 ih =>
    have hafter := ih h
    simp only [List.length_cons] at hafter ⊢
    omega
  all_goals contradiction

theorem length_skip (text : List Char) : (skip text).length ≤ text.length :=
  (List.dropWhile_sublist isSpace).length_le

end Reader

variable {text : String}

/-- A text that reads as a value begins like one, after white space. -/
theorem opens_of_read {v : Json} (h : read text = .ok v) :
    ∃ c after, Reader.skip text.toList = c :: after ∧ Reader.Opens c := by
  obtain ⟨⟨v', rest⟩, hvalue, -⟩ := exists_of_bind_eq_ok h
  obtain ⟨c, after, htext, hopens, -⟩ := Reader.value_ok hvalue
  exact ⟨c, after, htext, hopens⟩

/-- A string is at least two characters shorter than a text of it. -/
theorem length_of_read_string {s : String} (h : read text = .ok (.string s)) : s.length + 2 ≤ text.length := by
  obtain ⟨⟨v, rest⟩, hvalue, hrest⟩ := exists_of_bind_eq_ok h
  obtain ⟨c, after, htext, -, hkind⟩ := Reader.value_ok hvalue
  have hv : v = .string s := by
    dsimp only at hrest
    split at hrest
    · exact Except.ok.inj hrest
    · cases hrest
  subst hv
  rcases hkind with ⟨s', heq, hchars⟩ | hother
  · cases heq
    have hlength := Reader.length_chars hchars
    have hskip := Reader.length_skip text.toList
    rw [htext, String.length_toList] at hskip
    simp only [List.length_cons, List.length_nil] at hskip hlength
    omega
  · cases hother

end Json

end PagedFind
