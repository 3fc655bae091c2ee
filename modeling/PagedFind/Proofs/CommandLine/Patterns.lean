import PagedFind.CommandLine.Reader
import PagedFind.Proofs.Json.Reading
import PagedFind.Proofs.Text.Split

namespace PagedFind

namespace CommandLine

namespace FieldValue

/-- What the typed pattern of a field comes to. -/
def reread (typed : String) : String := (FieldValue.mk "" (valueOf typed)).pattern

theorem ofText_pair {field : String} (hfield : '=' ∉ field.toList) (typed : String) :
    ofText (field ++ "=" ++ typed) = .ok ⟨field, valueOf typed⟩ := by
  have htext : (field ++ "=" ++ typed).toList = field.toList ++ '=' :: typed.toList := by
    simp [String.toList_append]
  rw [ofText, htext, Text.cutFirst_append hfield]
  simp only [String.ofList_toList]

theorem reread_of_error {typed : String} {e : Json.ReadError} (h : Json.read typed = .error e) :
    reread typed = typed := by
  rw [reread, valueOf, h]
  rfl

theorem reread_of_string {typed s : String} (h : Json.read typed = .ok (.string s)) : reread typed = s := by
  rw [reread, valueOf, h]
  rfl

theorem reread_of_other {typed : String} {v : Json} (h : Json.read typed = .ok v) (hv : v.string? = none) :
    reread typed = v.text := by
  rw [reread, valueOf, h]
  cases v <;> first | rfl | cases hv

/-- A pattern stays as it was typed just where it is no JSON, or the compact text of what is no string. -/
theorem reread_eq_iff {typed : String} :
    reread typed = typed ↔ ∀ v, Json.read typed = .ok v → v.string? = none ∧ v.text = typed := by
  cases hread : Json.read typed with
  | error e => exact iff_of_true (reread_of_error hread) nofun
  | ok v =>
    cases hv : v.string? with
    | none =>
      rw [reread_of_other hread hv]
      constructor
      · rintro htext v' heq
        cases heq
        exact ⟨hv, htext⟩
      · exact fun h => (h v rfl).2
    | some s =>
      have hstring : v = .string s := by
        cases v <;> cases hv
        rfl
      subst hstring
      rw [reread_of_string hread]
      refine iff_of_false ?_ fun h => ?_
      · rintro rfl
        have hlength := Json.length_of_read_string hread
        omega
      · cases hv.symm.trans (h _ rfl).1

theorem reread_of_not_opens {typed : String}
    (h : ∀ c after, Json.Reader.skip typed.toList = c :: after → ¬Json.Reader.Opens c) : reread typed = typed := by
  refine reread_eq_iff.mpr fun v hread => ?_
  obtain ⟨c, after, htext, hopens⟩ := Json.opens_of_read hread
  exact absurd hopens (h c after htext)

end FieldValue

namespace Arguments

variable {a b : Arguments} {text : String}

theorem patterns_raise {f : Flag} (h : a.raise f = .ok b) : b.patterns = a.patterns := by
  unfold raise at h
  cases f with
  | help => cases h
  | all =>
    simp only at h
    split at h <;> cases h
    rfl
  | pretty =>
    simp only at h
    split at h <;> cases h
    rfl
  | verbose =>
    simp only at h
    split at h <;> cases h
    rfl

theorem patterns_set {s : Setting} (h : a.set s text = .ok b) :
    (s = .pattern ∧ ∃ x, FieldValue.ofText text = .ok x ∧ b.patterns = a.patterns ++ [x]) ∨
      (s ≠ .pattern ∧ b.patterns = a.patterns) := by
  unfold set at h
  cases s with
  | pattern =>
    obtain ⟨x, hx, heq⟩ := exists_of_bind_eq_ok h
    cases heq
    refine .inl ⟨rfl, x, ?_, rfl⟩
    cases htext : FieldValue.ofText text with
    | error e =>
      rw [htext] at hx
      cases hx
    | ok y =>
      rw [htext] at hx
      cases hx
      rfl
  | present =>
    cases h
    exact .inr ⟨nofun, rfl⟩
  | fields =>
    cases h
    exact .inr ⟨nofun, rfl⟩
  | _ =>
    obtain ⟨x, -, heq⟩ := exists_of_bind_eq_ok h
    cases heq
    exact .inr ⟨nofun, rfl⟩

end Arguments

namespace Progress

variable {p q : Progress} {a : Arguments} {x : FieldValue} {text : String}

/-- A pattern has been given, and is settled or still to be looked at. -/
def Given (p : Progress) (x : FieldValue) : Prop :=
  x ∈ p.settled.patterns ∨ ∃ text, p.pending = some (.pattern, some text) ∧ FieldValue.ofText text = .ok x

theorem mem_of_settle (hgiven : p.Given x) (h : p.settle = .ok a) : x ∈ a.patterns := by
  obtain ⟨settled, pending⟩ := p
  rcases hgiven with hmem | ⟨text, rfl, hx⟩
  · match pending with
    | none => cases h; exact hmem
    | some (s, none) => cases h
    | some (s, some text) =>
      rcases Arguments.patterns_set h with ⟨-, y, -, heq⟩ | ⟨-, heq⟩
      · rw [heq]
        exact List.mem_append_left _ hmem
      · rw [heq]
        exact hmem
  · have hset : settled.set .pattern text = .ok a := h
    rcases Arguments.patterns_set hset with ⟨-, y, hy, heq⟩ | ⟨hne, -⟩
    · cases hx.symm.trans hy
      rw [heq]
      exact List.mem_append_right _ List.mem_cons_self
    · exact absurd rfl hne

theorem Given.flag {f : Flag} (hgiven : p.Given x) (h : p.flag f = .ok q) : q.Given x := by
  obtain ⟨b, hsettle, hraise⟩ := exists_of_bind_eq_ok h
  obtain ⟨c, hc, heq⟩ := exists_of_bind_eq_ok hraise
  cases heq
  refine .inl ?_
  rw [Arguments.patterns_raise hc]
  exact mem_of_settle hgiven hsettle

theorem Given.option {s : Setting} {value : Option String} (hgiven : p.Given x) (h : p.option s value = .ok q) :
    q.Given x := by
  obtain ⟨b, hsettle, hrest⟩ := exists_of_bind_eq_ok h
  have hmem := mem_of_settle hgiven hsettle
  cases value with
  | none =>
    cases hrest
    exact .inl hmem
  | some text =>
    obtain ⟨c, hset, heq⟩ := exists_of_bind_eq_ok hrest
    cases heq
    have hlater : (⟨b, some (s, some text)⟩ : Progress).Given x := .inl hmem
    exact .inl (mem_of_settle hlater hset)

theorem Given.named {name : String} {value : Option String} (hgiven : p.Given x) (h : p.named name value = .ok q) :
    q.Given x := by
  unfold Progress.named at h
  split at h
  · cases h
  · exact hgiven.flag h
  · cases h
  · exact hgiven.option h

theorem Given.lettered {letters : List Char} (hgiven : p.Given x) (h : p.lettered letters = .ok q) : q.Given x := by
  induction letters generalizing p with
  | nil =>
    cases h
    exact hgiven
  | cons c rest ih =>
    unfold Progress.lettered at h
    split at h
    · cases h
    · obtain ⟨p', hflag, hrest⟩ := exists_of_bind_eq_ok h
      exact ih (hgiven.flag hflag) hrest
    · exact hgiven.option h

theorem Given.plain (hgiven : p.Given x) (h : p.plain text = .ok q) : q.Given x := by
  unfold Progress.plain at h
  split at h
  next s hpending =>
    cases h
    rcases hgiven with hmem | ⟨text, hother, -⟩
    · exact .inl hmem
    · cases hpending.symm.trans hother
  next => cases h

theorem Given.argument (hgiven : p.Given x) (h : p.argument text = .ok q) : q.Given x := by
  unfold Progress.argument at h
  split at h
  · split at h
    · exact hgiven.named h
    · exact hgiven.named h
  · exact hgiven.lettered h
  · exact hgiven.plain h

theorem Given.finish (hgiven : p.Given x) (h : p.finish = .ok a) : x ∈ a.patterns := by
  obtain ⟨b, hsettle, hrest⟩ := exists_of_bind_eq_ok h
  have hmem := mem_of_settle hgiven hsettle
  split at hrest
  · cases hrest
  · cases hrest
    exact hmem

/-- A pattern that was given is among those of the whole line. -/
theorem Given.read {line : List String} (hgiven : p.Given x) (h : p.read line = .ok a) : x ∈ a.patterns := by
  induction line generalizing p with
  | nil => exact hgiven.finish h
  | cons text rest ih =>
    unfold Progress.read at h
    split at h
    · split at h
      · exact hgiven.finish h
      · cases h
    · obtain ⟨q, hargument, hrest⟩ := exists_of_bind_eq_ok h
      exact ih (hgiven.argument hargument) hrest

theorem exists_read_of_append {before rest : List String} (hrest : rest ≠ []) (h : p.read (before ++ rest) = .ok a) :
    ∃ q : Progress, q.read rest = .ok a := by
  induction before generalizing p with
  | nil => exact ⟨p, h⟩
  | cons text before ih =>
    rw [List.cons_append] at h
    unfold Progress.read at h
    split at h
    · split at h
      next hnil => exact absurd (List.append_eq_nil_iff.mp hnil).2 hrest
      next => cases h
    · obtain ⟨q, -, hafter⟩ := exists_of_bind_eq_ok h
      exact ih hafter

theorem argument_of_waiting {s : Setting} (hwaiting : p.pending = some (s, none)) (h : p.argument text = .ok q) :
    q = { p with pending := some (s, some text) } := by
  have hsettle : p.settle = .error (.missingValue s.name) := by rw [settle, hwaiting]
  have hflag (f : Flag) : p.flag f ≠ .ok q := by
    rw [flag, hsettle]
    nofun
  have hoption (s : Setting) (value : Option String) : p.option s value ≠ .ok q := by
    rw [option, hsettle]
    nofun
  have hnamed (name : String) (value : Option String) : p.named name value ≠ .ok q := by
    unfold named
    split
    · nofun
    · exact hflag _
    · nofun
    · exact hoption _ _
  unfold argument at h
  split at h
  · split at h
    · exact absurd h (hnamed _ _)
    · exact absurd h (hnamed _ _)
  next c rest _ _ =>
    unfold lettered at h
    split at h
    · cases h
    · obtain ⟨q', hq', -⟩ := exists_of_bind_eq_ok h
      rw [flag, hsettle] at hq'
      cases hq'
    · exact absurd h (hoption _ _)
  · rw [plain, hwaiting] at h
    cases h
    rfl

theorem argument_pattern : p.argument "--regex" = p.option .pattern none := rfl

theorem argument_pattern_value (text : String) : p.argument ("--regex=" ++ text) = p.option .pattern (some text) := by
  have htext : ("--regex=" ++ text).toList = '-' :: '-' :: ("regex".toList ++ '=' :: text.toList) := by
    rw [String.toList_append]
    rfl
  have hcut : Text.cutFirst '=' ("regex".toList ++ '=' :: text.toList) = some ("regex".toList, text.toList) :=
    Text.cutFirst_append (by decide) text.toList
  rw [argument, htext]
  simp only [hcut, String.ofList_toList]
  rfl

/-- A pattern is given by the option for patterns, be it in one argument or in two. -/
theorem given_of_option (hx : FieldValue.ofText text = .ok x) (h : p.option .pattern (some text) = .ok q) :
    q.Given x := by
  obtain ⟨b, -, hrest⟩ := exists_of_bind_eq_ok h
  obtain ⟨c, hset, heq⟩ := exists_of_bind_eq_ok hrest
  cases heq
  rcases Arguments.patterns_set hset with ⟨-, y, hy, hpatterns⟩ | ⟨hne, -⟩
  · cases hx.symm.trans hy
    refine .inl ?_
    rw [hpatterns]
    exact List.mem_append_right _ List.mem_cons_self
  · exact absurd rfl hne

theorem not_dashes (text : String) : "--regex=" ++ text ≠ "--" := by
  intro h
  have hlength := congrArg String.length h
  rw [String.length_append] at hlength
  have hshort : "--".length < "--regex=".length := by decide
  omega

theorem mem_of_read_value {after : List String} (hx : FieldValue.ofText text = .ok x)
    (h : p.read (("--regex=" ++ text) :: after) = .ok a) : x ∈ a.patterns := by
  unfold Progress.read at h
  rw [if_neg (not_dashes text)] at h
  obtain ⟨q, hargument, hrest⟩ := exists_of_bind_eq_ok h
  rw [argument_pattern_value] at hargument
  exact (given_of_option hx hargument).read hrest

theorem mem_of_read_next {after : List String} (hx : FieldValue.ofText text = .ok x)
    (h : p.read ("--regex" :: text :: after) = .ok a) : x ∈ a.patterns := by
  obtain ⟨q, hargument, hrest⟩ := exists_of_bind_eq_ok h
  rw [argument_pattern] at hargument
  obtain ⟨b, -, hoption⟩ := exists_of_bind_eq_ok hargument
  cases hoption
  unfold Progress.read at hrest
  split at hrest
  next hdashes =>
    subst hdashes
    cases hx
  next =>
    obtain ⟨q', hargument', hrest'⟩ := exists_of_bind_eq_ok hrest
    have hpending := argument_of_waiting rfl hargument'
    have hgiven : q'.Given x := .inr ⟨text, by rw [hpending], hx⟩
    exact hgiven.read hrest'

end Progress

theorem read_pattern {text : String} {x : FieldValue} (hx : FieldValue.ofText text = .ok x) :
    read ["--regex=" ++ text] = .ok { patterns := [x] } := by
  have hset : Arguments.set {} .pattern text = .ok { patterns := [x] } := by
    rw [Arguments.set, hx]
    rfl
  have hoption : Progress.start.option .pattern (some text) = .ok ⟨{ patterns := [x] }, none⟩ := by
    show (do return (⟨← Arguments.set {} .pattern text, none⟩ : Progress)) = _
    rw [hset]
    rfl
  rw [read, Progress.read, if_neg (Progress.not_dashes text), Progress.argument_pattern_value, hoption]
  rfl

/-- Wherever an option for patterns stands in a line, the predicates of the line have its pattern, which is the typed
one where that is no JSON or compact JSON that is no string. Of a JSON string it is the string, and of any other JSON
its compact text; what begins like no JSON value is left as it was typed. -/
theorem pattern_mem_predicates (field typed : String) (hfield : '=' ∉ field.toList) :
    let text := field ++ "=" ++ typed
    let pattern := FieldValue.reread typed
    (∀ before after a, read (before ++ "--regex" :: text :: after) = .ok a ∨
        read (before ++ ("--regex=" ++ text) :: after) = .ok a → Expr.pattern field pattern ∈ a.predicates) ∧
      (∃ a, read ["--regex=" ++ text] = .ok a ∧ a.predicates = [.pattern field pattern]) ∧
      (pattern = typed ↔ ∀ v, Json.read typed = .ok v → v.string? = none ∧ v.text = typed) ∧
      (∀ s, Json.read typed = .ok (.string s) → pattern = s) ∧
      (∀ v, Json.read typed = .ok v → v.string? = none → pattern = v.text) ∧
      ((∀ c after, Json.Reader.skip typed.toList = c :: after → ¬Json.Reader.Opens c) → pattern = typed) := by
  intro text pattern
  have hx := FieldValue.ofText_pair hfield typed
  refine ⟨?_, ?_, FieldValue.reread_eq_iff, fun s => FieldValue.reread_of_string,
    fun v => FieldValue.reread_of_other, FieldValue.reread_of_not_opens⟩
  · intro before after a h
    have hmem : ⟨field, FieldValue.valueOf typed⟩ ∈ a.patterns := by
      rcases h with h | h
      · obtain ⟨q, hq⟩ := Progress.exists_read_of_append (List.cons_ne_nil _ _) h
        exact Progress.mem_of_read_next hx hq
      · obtain ⟨q, hq⟩ := Progress.exists_read_of_append (List.cons_ne_nil _ _) h
        exact Progress.mem_of_read_value hx hq
    exact List.mem_append_right _ (List.mem_map_of_mem hmem)
  · exact ⟨_, read_pattern hx, rfl⟩

/-- A pattern that begins like no value stands between other options; one that is a number is changed. -/
theorem pattern_mem_predicates_name :
    (∃ a, read ["--eq", "age=3", "--regex", "name=^A", "--pretty"] = .ok a ∧
      Expr.pattern "name" "^A" ∈ a.predicates) ∧
    ∃ a, read ["--regex=age=3.0e1"] = .ok a ∧ a.predicates = [.pattern "age" "30.0"] := by
  obtain ⟨hmem, -, -, -, -, hplain⟩ := pattern_mem_predicates "name" "^A" (by decide)
  obtain ⟨-, ⟨a, hread, hpredicates⟩, -⟩ := pattern_mem_predicates "age" "3.0e1" (by decide)
  have hopens : ¬Json.Reader.Opens '^' := by
    rintro (hmem | hdigit)
    · revert hmem
      decide
    · cases hdigit
  have hname : FieldValue.reread "^A" = "^A" := by
    refine hplain fun c after htext => ?_
    cases htext
    exact hopens
  have hage : FieldValue.reread "3.0e1" = "30.0" := by decide +kernel
  rw [hname] at hmem
  rw [hage] at hpredicates
  exact ⟨⟨_, rfl, hmem ["--eq", "age=3"] ["--pretty"] _ (.inl rfl)⟩, a, hread, hpredicates⟩

/-- A typed version number loses its last zero on the way. -/
theorem typed_pattern_changed :
    ∃ a, read ["--regex", "version=1.10"] = .ok a ∧ a.predicates = [.pattern "version" "1.1"] := by
  have hchanged : FieldValue.pattern ⟨"version", FieldValue.valueOf "1.10"⟩ = "1.1" := by decide +kernel
  refine ⟨{ patterns := [⟨"version", FieldValue.valueOf "1.10"⟩] }, rfl, ?_⟩
  show [Expr.pattern "version" (FieldValue.pattern ⟨"version", FieldValue.valueOf "1.10"⟩)] = _
  rw [hchanged]

end CommandLine

end PagedFind
