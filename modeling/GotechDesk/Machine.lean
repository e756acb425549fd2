import Mathlib

set_option autoImplicit false

namespace GotechDesk.Machine

-- A deterministic labelled machine: the label carries every choice the schedule,
-- the peer and the sockets make, and `none` means the step is not enabled.
section
variable {S L : Type}

def run (step : S → L → Option S) : S → List L → Option S
  | state, [] => some state
  | state, label :: rest => (step state label).bind (fun next => run step next rest)

def Reachable (step : S → L → Option S) (init state : S) : Prop :=
  ∃ labels, run step init labels = some state

theorem run_append (step : S → L → Option S) (state : S) (first second : List L) :
    run step state (first ++ second) = (run step state first).bind (fun next => run step next second) := by
  induction first generalizing state with
  | nil => rfl
  | cons label rest ih =>
      cases taken : step state label with
      | none => simp [run, taken]
      | some next => simp [run, taken, ih]

theorem reachable_refl (step : S → L → Option S) (init : S) : Reachable step init init := ⟨[], rfl⟩

theorem reachable_step (step : S → L → Option S) (init state next : S) (label : L)
    (reach : Reachable step init state) (taken : step state label = some next) : Reachable step init next := by
  obtain ⟨labels, ran⟩ := reach
  exact ⟨labels ++ [label], by simp [run_append, ran, run, taken]⟩

theorem reachable_run (step : S → L → Option S) (init : S) (labels : List L) (runs : (run step init labels).isSome = true) :
    Reachable step init ((run step init labels).get runs) := ⟨labels, by simp⟩

-- What every label of a run keeps holds at its end.
theorem run_kept (step : S → L → Option S) (inv : S → Prop) (fits : L → Prop)
    (kept : ∀ state label next, inv state → fits label → step state label = some next → inv next)
    (labels : List L) (init final : S) (fitting : ∀ label ∈ labels, fits label) (start : inv init) (ran : run step init labels = some final) :
    inv final := by
  induction labels generalizing init with
  | nil =>
      have same : init = final := by simpa [run] using ran
      exact same ▸ start
  | cons label rest ih =>
      obtain ⟨first, later⟩ := List.forall_mem_cons.mp fitting
      cases taken : step init label with
      | none => simp [run, taken] at ran
      | some next => exact ih next later (kept init label next start first taken) (by simpa [run, taken] using ran)

theorem run_invariant (step : S → L → Option S) (inv : S → Prop)
    (preserved : ∀ state label next, inv state → step state label = some next → inv next)
    (labels : List L) (init final : S) (start : inv init) (ran : run step init labels = some final) : inv final :=
  run_kept step inv (fun _ => True) (fun state label next holds _ taken => preserved state label next holds taken) labels init final
    (fun _ _ => trivial) start ran

-- The run up to a label, and the rest of it from there.
theorem run_split (step : S → L → Option S) (init final : S) (before after : List L) (ran : run step init (before ++ after) = some final) :
    ∃ state, run step init before = some state ∧ run step state after = some final := by
  rw [run_append] at ran
  exact Option.bind_eq_some_iff.mp ran

theorem reachable_invariant (step : S → L → Option S) (inv : S → Prop) (init state : S) (start : inv init)
    (preserved : ∀ state label next, inv state → step state label = some next → inv next)
    (reach : Reachable step init state) : inv state := by
  obtain ⟨labels, ran⟩ := reach
  exact run_invariant step inv preserved labels init state start ran

-- The steps of a run, oldest first, each with the state it was taken in.
inductive Traced (step : S → L → Option S) (init : S) : List (S × L) → S → Prop where
  | start : Traced step init [] init
  | next (past : List (S × L)) (state after : S) (label : L) : Traced step init past state → step state label = some after →
      Traced step init (past ++ [(state, label)]) after

theorem traced_invariant (step : S → L → Option S) (inv : List (S × L) → S → Prop) (init state : S) (past : List (S × L))
    (start : inv [] init)
    (preserved : ∀ past state label after, inv past state → step state label = some after → inv (past ++ [(state, label)]) after)
    (traced : Traced step init past state) : inv past state := by
  induction traced with
  | start => exact start
  | next past state after label _ taken ih => exact preserved past state label after ih taken

-- When a good state stays good in exactly the steps that fit, a run stays good exactly
-- when all its steps do.
theorem traced_exact (step : S → L → Option S) (guard good : S → Prop) (fits : S → L → Prop) (init state : S) (past : List (S × L))
    (guarded : guard init) (start : good init)
    (kept : ∀ state label next, guard state → step state label = some next → guard next)
    (exact : ∀ state label next, guard state → good state → step state label = some next → (good next ↔ fits state label))
    (traced : Traced step init past state) : ((∀ entry ∈ past, good entry.1) ∧ good state) ↔ ∀ entry ∈ past, fits entry.1 entry.2 := by
  refine And.right (traced_invariant step
    (fun past state => guard state ∧ (((∀ entry ∈ past, good entry.1) ∧ good state) ↔ ∀ entry ∈ past, fits entry.1 entry.2))
    init state past ⟨guarded, by simp [start]⟩ ?_ traced)
  intro past state label next inv taken
  refine ⟨kept state label next inv.1 taken, ?_⟩
  simp only [List.forall_mem_append, List.forall_mem_singleton]
  constructor
  · rintro ⟨⟨before, here⟩, after⟩
    exact ⟨inv.2.mp ⟨before, here⟩, (exact state label next inv.1 here taken).mp after⟩
  · rintro ⟨earlier, last⟩
    obtain ⟨before, here⟩ := inv.2.mpr earlier
    exact ⟨⟨before, here⟩, (exact state label next inv.1 here taken).mpr last⟩

-- An invariant that the fitting steps keep holds along every run that only takes such steps.
theorem traced_kept (step : S → L → Option S) (inv : S → Prop) (fits : S → L → Prop) (init state : S) (past : List (S × L))
    (start : inv init) (kept : ∀ state label next, inv state → fits state label → step state label = some next → inv next)
    (traced : Traced step init past state) (fitting : ∀ entry ∈ past, fits entry.1 entry.2) : (∀ entry ∈ past, inv entry.1) ∧ inv state := by
  induction traced with
  | start => exact ⟨nofun, start⟩
  | next past state after label _ taken ih =>
      obtain ⟨earlier, last⟩ := List.forall_mem_append.mp fitting
      obtain ⟨before, here⟩ := ih earlier
      refine ⟨List.forall_mem_append.mpr ⟨before, List.forall_mem_singleton.mpr here⟩, ?_⟩
      exact kept state label after here (last (state, label) List.mem_cons_self) taken

def trace (step : S → L → Option S) : S → List L → List (S × L)
  | _, [] => []
  | state, label :: rest => (state, label) :: (step state label).elim [] (fun next => trace step next rest)

theorem trace_labels (step : S → L → Option S) (state : S) (labels : List L) (entry : S × L) (member : entry ∈ trace step state labels) :
    entry.2 ∈ labels := by
  induction labels generalizing state with
  | nil => cases member
  | cons label rest ih =>
      obtain rfl | later := List.mem_cons.mp member
      · exact List.mem_cons_self
      · apply List.mem_cons_of_mem
        cases taken : step state label with
        | none => simp [taken] at later
        | some next => exact ih next (by simpa [taken] using later)

theorem traced_append (step : S → L → Option S) (init : S) (labels : List L) (past : List (S × L)) (state final : S)
    (traced : Traced step init past state) (ran : run step state labels = some final) :
    Traced step init (past ++ trace step state labels) final := by
  induction labels generalizing past state with
  | nil =>
      obtain rfl : state = final := by simpa [run] using ran
      simpa [trace] using traced
  | cons label rest ih =>
      cases taken : step state label with
      | none => simp [run, taken] at ran
      | some next =>
          have continued := ih (past ++ [(state, label)]) next (.next past state next label traced taken) (by simpa [run, taken] using ran)
          simpa [trace, taken] using continued

theorem traced_run (step : S → L → Option S) (init : S) (labels : List L) (runs : (run step init labels).isSome = true) :
    Traced step init (trace step init labels) ((run step init labels).get runs) := by
  apply traced_append step init labels [] init _ .start
  simp

end

end GotechDesk.Machine
