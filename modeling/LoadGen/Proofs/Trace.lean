namespace LoadGen

/-!
# Traces

What is told of a system that moves by labels, along a list of them and of every state it can reach.

* `Trace.run`, `Trace.told` — the state that labels lead to, and what is told on the way;
* `Trace.Reached` — the states that can be reached, each with what was told;
* `Trace.Reached.run` — labels lead to states that can be reached;
* `Trace.Reached.split` — a trace is cut in two where something is told.

An invariant that speaks of the past is an induction over `Trace.Reached`: its last step is the last
one that happened, and what was told before is at hand.
-/

namespace Trace

variable {σ ℓ α : Type} (step : σ → ℓ → Option σ) (acts : σ → ℓ → List α)

/-- The state that labels lead to, if all can happen. -/
def run (s : σ) : List ℓ → Option σ
  | [] => some s
  | label :: labels => do run (← step s label) labels

/-- What is told along labels, up to the first that cannot happen. -/
def told (s : σ) : List ℓ → List α
  | [] => []
  | label :: labels =>
    match step s label with
    | none => []
    | some s' => acts s label ++ told s' labels

/-- The states that can be reached, each with what was told on the way. -/
inductive Reached (start : σ) : List α → σ → Prop where
  | start : Reached start [] start
  | next {past : List α} {s s' : σ} {label : ℓ} (before : Reached start past s)
      (now : step s label = some s') : Reached start (past ++ acts s label) s'

variable {step : σ → ℓ → Option σ} {acts : σ → ℓ → List α}

theorem run_cons {s s' : σ} {label : ℓ} {labels : List ℓ} :
    run step s (label :: labels) = some s' ↔
      ∃ next, step s label = some next ∧ run step next labels = some s' := by
  simp only [run, bind, Option.bind_eq_some_iff]

theorem told_cons {s next : σ} {label : ℓ} (h : step s label = some next) (labels : List ℓ) :
    told step acts s (label :: labels) = acts s label ++ told step acts next labels := by
  rw [told, h]

/-- Labels lead from a state that was reached to another one. -/
theorem Reached.run {start s s' : σ} {past : List α} {labels : List ℓ}
    (h : Reached step acts start past s) (along : run step s labels = some s') :
    Reached step acts start (past ++ told step acts s labels) s' := by
  induction labels generalizing past s with
  | nil =>
    cases along
    rw [told, List.append_nil]
    exact h
  | cons label labels ih =>
    obtain ⟨next, now, rest⟩ := run_cons.mp along
    rw [told_cons now, ← List.append_assoc]
    exact ih (h.next now) rest

theorem Reached.trans {start s s' : σ} {past more : List α} (h : Reached step acts start past s)
    (next : Reached step acts s more s') : Reached step acts start (past ++ more) s' := by
  induction next with
  | start =>
    rw [List.append_nil]
    exact h
  | next before now ih =>
    rw [← List.append_assoc]
    exact ih.next now

/-- Whatever is told is told by one label.  A trace leads up to that label, and another one goes on
    from there. -/
theorem Reached.split {start s : σ} {told before after : List α} {mark : α}
    (h : Reached step acts start told s) (eq : told = before ++ mark :: after) :
    ∃ past first rest later s₁ label s₂,
      before = past ++ first ∧ acts s₁ label = first ++ mark :: rest ∧ after = rest ++ later ∧
      Reached step acts start past s₁ ∧ step s₁ label = some s₂ ∧ Reached step acts s₂ later s := by
  induction h generalizing before after with
  | start => simp at eq
  | @next past s s' label reached now ih =>
    rcases List.append_eq_append_iff.mp eq with ⟨first, rfl, here⟩ | ⟨more, rfl, here⟩
    · exact ⟨past, first, after, [], s, label, s', rfl, here, (List.append_nil _).symm, reached, now,
        .start⟩
    · cases more with
      | nil =>
        -- The last label tells it first of all.
        refine ⟨before, [], after, [], s, label, s', (List.append_nil _).symm, here.symm,
          (List.append_nil _).symm, ?_, now, .start⟩
        rw [List.append_nil] at reached
        exact reached
      | cons told more =>
        -- It was told earlier, and the last label belongs to what came after it.
        obtain ⟨rfl, rfl⟩ := List.cons.inj here
        obtain ⟨past, first, rest, later, s₁, label', s₂, rfl, told, rfl, reached', now', on⟩ := ih rfl
        exact ⟨past, first, rest, later ++ acts s label, s₁, label', s₂, rfl, told,
          List.append_assoc .., reached', now', on.next now⟩

/-- Labels lead to states that can be reached. -/
theorem reached_of_run {s s' : σ} {labels : List ℓ} (along : run step s labels = some s') :
    Reached step acts s (told step acts s labels) s' :=
  Reached.start.run along

end Trace

end LoadGen
