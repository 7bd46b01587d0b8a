import Mathlib.Logic.Relation

/-!
# Acting on an earlier read

A party reads a state, others take any number of steps, and then the party's actions are
performed. Of what it read it can rely on the properties that no step breaks (`Stable`).
A list of actions is performed as a whole: every one succeeds in turn, or none has an effect
(`performAll`).
-/

set_option autoImplicit false

namespace Foundation.StaleRead

variable {State Action : Type*}

/-! ## What survives the steps of others -/

/-- A property that no step breaks. -/
def Stable (step : State → State → Prop) (P : State → Prop) : Prop :=
  ∀ ⦃s t⦄, P s → step s t → P t

/-- **A stable property read earlier still holds.** -/
theorem Stable.of_run {step : State → State → Prop} {P : State → Prop} (stable : Stable step P)
    {s t : State} (holds : P s) (run : Relation.ReflTransGen step s t) : P t := by
  induction run with
  | refl => exact holds
  | tail _ last ih => exact stable ih last

/-! ## Atomic transactions -/

variable {perform : State → Action → Option State}

/-- Performs actions in turn; one that is refused undoes them all. -/
def performAll (perform : State → Action → Option State) (s : State) (actions : List Action) :
    Option State :=
  actions.foldlM perform s

@[simp] theorem performAll_nil (s : State) : performAll perform s [] = some s := rfl

theorem performAll_cons (s : State) (a : Action) (actions : List Action) :
    performAll perform s (a :: actions) =
      (perform s a).bind fun t => performAll perform t actions := rfl

/-- Lists in sequence are performed one after the other. -/
theorem performAll_append_eq_bind (s : State) (first second : List Action) :
    performAll perform s (first ++ second) =
      (performAll perform s first).bind fun t => performAll perform t second := by
  rw [performAll, List.foldlM_append]
  rfl

/-- After a list that succeeds, the next one is performed from where it ended. -/
theorem performAll_append {s t : State} {first second : List Action}
    (reached : performAll perform s first = some t) :
    performAll perform s (first ++ second) = performAll perform t second := by
  rw [performAll_append_eq_bind, reached, Option.bind_some]

/-- A list with an action that no state allows fails. -/
theorem performAll_of_refused {a : Action} (refused : ∀ s, perform s a = none) (s : State)
    (front back : List Action) : performAll perform s (front ++ a :: back) = none := by
  rw [performAll_append_eq_bind]
  apply Option.bind_eq_none_iff.mpr
  intro reached _
  rw [performAll_cons, refused, Option.bind_none]

/-- **Where a model follows each action, from states of which a property holds, it follows the
list.** -/
theorem performAll_follows {Model : Type*} {model : Model → Action → Option Model}
    {view : State → Model} {P : State → Prop} {actions : List Action}
    (follows : ∀ a ∈ actions, ∀ s t, P s → perform s a = some t →
      P t ∧ model (view s) a = some (view t))
    {s t : State} (holds : P s) (run : performAll perform s actions = some t) :
    P t ∧ performAll model (view s) actions = some (view t) := by
  induction actions generalizing s with
  | nil =>
      obtain rfl := Option.some.inj run
      exact ⟨holds, rfl⟩
  | cons a actions ih =>
      rw [performAll_cons, Option.bind_eq_some_iff] at run
      obtain ⟨next, first, rest⟩ := run
      obtain ⟨holds, same⟩ := follows a List.mem_cons_self s next holds first
      rw [performAll_cons, same, Option.bind_some]
      exact ih (fun b member => follows b (List.mem_cons_of_mem a member)) holds rest

/-! ## What a list leads to -/

/-- From a state, actions succeed exactly under a condition, and then end in one state. -/
def Leads (perform : State → Action → Option State) (s : State) (actions : List Action) (p : Prop)
    (t : State) : Prop :=
  ∀ final, performAll perform s actions = some final ↔ p ∧ final = t

namespace Leads

variable {s t u : State} {a : Action} {first second : List Action} {p q : Prop}

/-- No action leads nowhere else. -/
theorem nil (s : State) : Leads perform s [] True s := by
  intro final
  rw [performAll_nil, Option.some.injEq, true_and]
  exact eq_comm

theorem single (leads : ∀ final, perform s a = some final ↔ p ∧ final = t) :
    Leads perform s [a] p t := by
  intro final
  rw [performAll_cons, ← leads final]
  exact iff_of_eq (congrArg (· = some final) (Option.bind_fun_some (perform s a)))

/-- Where one list leads, the next goes on. -/
theorem append (leads : Leads perform s first p t) (next : Leads perform t second q u) :
    Leads perform s (first ++ second) (p ∧ q) u := by
  intro final
  rw [performAll_append_eq_bind, Option.bind_eq_some_iff]
  constructor
  · rintro ⟨reached, front, back⟩
    obtain ⟨held, rfl⟩ := (leads reached).mp front
    obtain ⟨holds, rfl⟩ := (next final).mp back
    exact ⟨⟨held, holds⟩, rfl⟩
  · rintro ⟨⟨held, holds⟩, rfl⟩
    exact ⟨t, (leads t).mpr ⟨held, rfl⟩, (next final).mpr ⟨holds, rfl⟩⟩

/-- After a list that fails nothing matters. -/
theorem append_of_fails (leads : Leads perform s first p t) (fails : ∀ final,
    performAll perform t second ≠ some final) (u : State) :
    Leads perform s (first ++ second) False u := by
  intro final
  rw [performAll_append_eq_bind, Option.bind_eq_some_iff, false_and, iff_false]
  rintro ⟨reached, front, back⟩
  obtain ⟨-, rfl⟩ := (leads reached).mp front
  exact fails final back

theorem congr (leads : Leads perform s first p t) (same : p ↔ q) (states : p → t = u) :
    Leads perform s first q u := by
  intro final
  rw [leads final, ← same]
  exact and_congr_right fun holds => by rw [states holds]

end Leads

end Foundation.StaleRead
