import PagedFind.Proofs.Find.Runs

namespace PagedFind

namespace ResultSet

def Warns (r : ResultSet) (warning : Option String) : Prop :=
  r.warnings = warning.toList.flatMap (List.replicate r.rounds)

variable {r : ResultSet} {warning : Option String}

theorem warns_none_iff : r.Warns none ↔ r.warnings = [] := Iff.rfl

theorem warns_some_iff {w : String} : r.Warns (some w) ↔ r.warnings = List.replicate r.rounds w := by
  rw [Warns, Option.toList_some, List.flatMap_cons, List.flatMap_nil, List.append_nil]

theorem warns_of_rounds_eq_zero (hrounds : r.rounds = 0) (hwarnings : r.warnings = []) : r.Warns warning := by
  rw [Warns, hrounds, hwarnings]
  cases warning <;> rfl

theorem Warns.after {rows : List Json} {bookmark : Option String} (h : r.Warns warning) :
    (ResultSet.after rows bookmark warning r).Warns warning := by
  cases warning with
  | none => exact h
  | some w => exact congrArg (w :: ·) h

end ResultSet

section

variable [Regex.Engine] {σ : Type} {backend : Backend (StateM σ)} {plan : Plan} {keeps : σ → Prop}

/-- What every call keeps is kept by the rounds of a find. -/
theorem rounds_keeps (hcall : ∀ request s, keeps s → keeps (backend.execute plan.database request s).2)
    (fuel : Nat) {p : Position} {s : σ} (hs : keeps s) : keeps (rounds backend plan fuel p s).2 := by
  have hnext {p : Position} {s s' : σ} {reply : Reply Page} (hs : keeps s)
      (call : backend.execute plan.database (plan.roundRequest p) s = (reply, s')) : keeps s' := by
    have hafter := hcall (plan.roundRequest p) s hs
    rwa [call] at hafter
  refine rounds_induction backend plan (motive := fun _ _ s _ s' => keeps s → keeps s')
    ?zero ?failed ?last ?more fuel p s hs
  case zero => exact fun p s hs => hs
  case failed => exact fun fuel p s e events s' call hs => hnext hs call
  case last => exact fun fuel p s page events s' call _ hs => hnext hs call
  case more => exact fun fuel p s page events s' rest s'' call _ ih hs => ih (hnext hs call)

/-- Where all pages that are answered bring the same warning, or none, each round of a find brings it. -/
theorem rounds_warns {warning : Option String}
    (hcall : ∀ request s, keeps s → keeps (backend.execute plan.database request s).2)
    (hwarning : ∀ p s page, keeps s →
      (backend.execute plan.database (plan.roundRequest p) s).1.outcome = .ok page → page.warning = warning)
    (fuel : Nat) {p : Position} {s : σ} (hs : keeps s) :
    (rounds backend plan fuel p s).1.result.Warns warning := by
  have hpage {p : Position} {s s' : σ} {page : Page} {events : List Event} (hs : keeps s)
      (call : backend.execute plan.database (plan.roundRequest p) s = (⟨.ok page, events⟩, s')) :
      page.warning = warning := hwarning p s page hs (by rw [call])
  refine rounds_induction backend plan (motive := fun _ _ s run _ => keeps s → run.result.Warns warning)
    ?zero ?failed ?last ?more fuel p s hs
  case zero => exact fun p s hs => ResultSet.warns_of_rounds_eq_zero rfl rfl
  case failed => exact fun fuel p s e events s' call hs => ResultSet.warns_of_rounds_eq_zero rfl rfl
  case last =>
    intro fuel p s page events s' call stop hs
    rw [Plan.roundRun, hpage hs call]
    exact .after (ResultSet.warns_of_rounds_eq_zero rfl rfl)
  case more =>
    intro fuel p s page events s' rest s'' call go ih hs
    have hafter := hcall (plan.roundRequest p) s hs
    rw [call] at hafter
    rw [Plan.roundRun, hpage hs call]
    exact .after (ih hafter)

theorem rounds_rows {property : Json → Prop}
    (hcall : ∀ request s, keeps s → keeps (backend.execute plan.database request s).2)
    (hdocs : ∀ p s page, keeps s →
      (backend.execute plan.database (plan.roundRequest p) s).1.outcome = .ok page → ∀ doc ∈ page.docs, property doc)
    (fuel : Nat) {p : Position} {s : σ} (hs : keeps s) :
    ∀ row ∈ (rounds backend plan fuel p s).1.result.rows, property row := by
  have hkept {p : Position} {s s' : σ} {page : Page} {events : List Event} (hs : keeps s)
      (call : backend.execute plan.database (plan.roundRequest p) s = (⟨.ok page, events⟩, s')) :
      ∀ row ∈ plan.kept p page, property row :=
    fun row hrow => hdocs p s page hs (by rw [call]) row (List.mem_of_mem_take hrow)
  refine rounds_induction backend plan
    (motive := fun _ _ s run _ => keeps s → ∀ row ∈ run.result.rows, property row) ?zero ?failed ?last ?more fuel p s hs
  case zero => exact fun p s hs => List.forall_mem_nil _
  case failed => exact fun fuel p s e events s' call hs => List.forall_mem_nil _
  case last =>
    intro fuel p s page events s' call stop hs
    exact List.forall_mem_append.mpr ⟨hkept hs call, List.forall_mem_nil _⟩
  case more =>
    intro fuel p s page events s' rest s'' call go ih hs
    have hafter := hcall (plan.roundRequest p) s hs
    rw [call] at hafter
    exact List.forall_mem_append.mpr ⟨hkept hs call, ih hafter⟩

theorem find_keeps (keeps : σ → Prop) {database : String}
    (hcall : ∀ request s, keeps s → keeps (backend.execute database request s).2)
    (selector : Selector) (options : QueryOptions) {s : σ} (hs : keeps s) :
    keeps (find backend database selector options s).2 := by
  rcases Nat.eq_zero_or_pos (options.pagination.target backend.limits) with hzero | hpos
  · rw [(find_of_target_eq_zero backend database selector options s hzero).1]
    exact hs
  · rw [(find_of_target_pos backend database selector options s rfl hpos).1]
    exact rounds_keeps hcall _ hs

/-- What holds of every document that the pages of a find may hold holds of every row of its result. -/
theorem find_rows (keeps : σ → Prop) {property : Json → Prop} {database : String} {selector : Selector}
    {options : QueryOptions} (hcall : ∀ request s, keeps s → keeps (backend.execute database request s).2)
    (hdocs : ∀ size bookmark s page, keeps s →
      (backend.execute database ((FindRequest.base selector options).forRound size bookmark) s).1.outcome = .ok page →
        ∀ doc ∈ page.docs, property doc) {s : σ} (hs : keeps s) :
    ∀ row ∈ (find backend database selector options s).1.result.rows, property row := by
  rcases Nat.eq_zero_or_pos (options.pagination.target backend.limits) with hzero | hpos
  · rw [(find_of_target_eq_zero backend database selector options s hzero).1]
    exact List.forall_mem_nil _
  · rw [(find_of_target_pos backend database selector options s rfl hpos).1]
    exact rounds_rows hcall (fun p s page => hdocs _ p.bookmark s page) _ hs

theorem find_warns (keeps : σ → Prop) {warning : Option String} {database : String} {selector : Selector}
    {options : QueryOptions} (hcall : ∀ request s, keeps s → keeps (backend.execute database request s).2)
    (hwarning : ∀ size bookmark s page, keeps s →
      (backend.execute database ((FindRequest.base selector options).forRound size bookmark) s).1.outcome = .ok page →
        page.warning = warning) {s : σ} (hs : keeps s) :
    (find backend database selector options s).1.result.Warns warning := by
  rcases Nat.eq_zero_or_pos (options.pagination.target backend.limits) with hzero | hpos
  · rw [(find_of_target_eq_zero backend database selector options s hzero).1]
    exact ResultSet.warns_of_rounds_eq_zero rfl rfl
  · rw [(find_of_target_pos backend database selector options s rfl hpos).1]
    exact rounds_warns hcall (fun p s page => hwarning _ p.bookmark s page) _ hs

/-- A backend that keeps its calls serves a find as it does without keeping them. -/
theorem find_recorded (backend : Backend (StateM σ)) (database : String) (selector : Selector)
    (options : QueryOptions) (s : σ) :
    find backend.recorded database selector options (s, []) =
      ((find backend database selector options s).1, (find backend database selector options s).2,
        findCalls backend database selector options s) := by
  rcases Nat.eq_zero_or_pos (options.pagination.target backend.limits) with hzero | hpos
  · obtain ⟨hfind, hcalls⟩ := find_of_target_eq_zero backend database selector options s hzero
    rw [hfind, hcalls]
    exact (find_of_target_eq_zero backend.recorded database selector options (s, []) hzero).1
  · obtain ⟨hfind, hcalls⟩ := find_of_target_pos backend database selector options s rfl hpos
    have hrecorded := (find_of_target_pos backend.recorded database selector options (s, []) rfl hpos).1
    rw [hfind, hcalls, hrecorded]
    have hplan : Plan.ofQuery backend.recorded.limits database selector options
        = Plan.ofQuery backend.limits database selector options := rfl
    rw [hplan, rounds_recorded, List.nil_append]

variable (together : σ → σ → Prop)

/-- Rounds from two states bring the same where every call from states that go together does. -/
theorem rounds_congr (hcall : ∀ p s t, together s t →
      (backend.execute plan.database (plan.roundRequest p) s).1
          = (backend.execute plan.database (plan.roundRequest p) t).1 ∧
        together (backend.execute plan.database (plan.roundRequest p) s).2
          (backend.execute plan.database (plan.roundRequest p) t).2)
    (fuel : Nat) {p : Position} {s t : σ} (hst : together s t) :
    (rounds backend plan fuel p s).1 = (rounds backend plan fuel p t).1 := by
  have hnext {p : Position} {s t s' : σ} {reply : Reply Page} (hst : together s t)
      (call : backend.execute plan.database (plan.roundRequest p) s = (reply, s')) :
      ∃ t', backend.execute plan.database (plan.roundRequest p) t = (reply, t') ∧ together s' t' := by
    obtain ⟨hreply, hstate⟩ := hcall p s t hst
    rw [call] at hreply hstate
    exact ⟨(backend.execute plan.database (plan.roundRequest p) t).2, Prod.ext hreply.symm rfl, hstate⟩
  refine rounds_induction backend plan
    (motive := fun fuel p s run _ => ∀ t, together s t → run = (rounds backend plan fuel p t).1)
    ?zero ?failed ?last ?more fuel p s t hst
  case zero => exact fun p s t hst => rfl
  case failed =>
    intro fuel p s e events s' call t hst
    obtain ⟨t', call', -⟩ := hnext hst call
    rw [rounds_failed fuel call']
  case last =>
    intro fuel p s page events s' call stop t hst
    obtain ⟨t', call', -⟩ := hnext hst call
    rw [rounds_last fuel call' stop]
  case more =>
    intro fuel p s page events s' rest s'' call go ih t hst
    obtain ⟨t', call', hstate⟩ := hnext hst call
    rw [rounds_more fuel call' go, ih t' hstate]

theorem find_congr {database : String} {selector : Selector} {options : QueryOptions}
    (hcall : ∀ size bookmark s t, together s t →
      let request := (FindRequest.base selector options).forRound size bookmark
      (backend.execute database request s).1 = (backend.execute database request t).1 ∧
        together (backend.execute database request s).2 (backend.execute database request t).2)
    {s t : σ} (hst : together s t) :
    (find backend database selector options s).1 = (find backend database selector options t).1 := by
  rcases Nat.eq_zero_or_pos (options.pagination.target backend.limits) with hzero | hpos
  · rw [(find_of_target_eq_zero backend database selector options s hzero).1,
      (find_of_target_eq_zero backend database selector options t hzero).1]
  · rw [(find_of_target_pos backend database selector options s rfl hpos).1,
      (find_of_target_pos backend database selector options t rfl hpos).1,
      rounds_congr together (fun p s t => hcall _ p.bookmark s t) _ hst]

end

end PagedFind
