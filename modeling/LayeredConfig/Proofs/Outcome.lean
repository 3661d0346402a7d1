/-
Outcomes of actions put together.  An action is known by what it answers and
which state it leaves from every state, and the outcome of a sequence follows
from the outcomes of its parts.  An action that gives the same result from all
states that agree on what matters is as good as that result.
-/
import LayeredConfig.KeyStore
import LayeredConfig.Proofs.Listing
import Mathlib.Control.Monad.Basic

namespace LayeredConfig

section Results

variable {ε α β ι : Type}

theorem bind_eq_ok_iff {result : Except ε α} {next : α → Except ε β} {out : β} :
    (result >>= next) = .ok out ↔ ∃ value, result = .ok value ∧ next value = .ok out := by
  cases result with
  | ok value => exact ⟨fun h => ⟨value, rfl, h⟩, by rintro ⟨_, h, hnext⟩; cases h; exact hnext⟩
  | error failure => exact ⟨nofun, by rintro ⟨_, h, _⟩; cases h⟩

theorem map_eq_ok_iff {result : Except ε α} {make : α → β} {out : β} :
    (make <$> result) = .ok out ↔ ∃ value, result = .ok value ∧ make value = out := by
  cases result with
  | ok value =>
      constructor
      · intro h
        cases h
        exact ⟨value, rfl, rfl⟩
      · rintro ⟨_, h, rfl⟩
        cases h
        rfl
  | error failure => exact ⟨nofun, by rintro ⟨_, h, _⟩; cases h⟩

theorem bind_eq_error_iff {result : Except ε α} {next : α → Except ε β} {failure : ε} :
    (result >>= next) = .error failure ↔
      result = .error failure ∨ ∃ value, result = .ok value ∧ next value = .error failure := by
  cases result with
  | ok value =>
      constructor
      · intro h
        exact Or.inr ⟨value, rfl, h⟩
      · rintro (h | ⟨_, h, hnext⟩)
        · cases h
        · cases h
          exact hnext
  | error other =>
      constructor
      · intro h
        cases h
        exact Or.inl rfl
      · rintro (h | ⟨_, h, _⟩)
        · cases h
          rfl
        · cases h

/-- What is only made up from a result fails when there is none. -/
theorem bind_pure_eq_error_iff {result : Except ε α} {make : α → β} {failure : ε} :
    (do let value ← result; return make value) = .error failure ↔ result = .error failure := by
  rw [bind_eq_error_iff]
  constructor
  · rintro (h | ⟨_, _, hpure⟩)
    · exact h
    · cases hpure
  · intro h
    exact Or.inl h

/-- A fold that succeeds took every step. -/
theorem foldlM_ok_step {step : β → ι → Except ε β} {items : List ι} {start out : β}
    (h : items.foldlM step start = .ok out) :
    ∀ item ∈ items, ∃ before after, step before item = .ok after := by
  induction items generalizing start with
  | nil => simp
  | cons head rest ih =>
      rw [List.foldlM_cons] at h
      obtain ⟨next, hhead, hrest⟩ := bind_eq_ok_iff.1 h
      intro item hitem
      rcases List.mem_cons.1 hitem with rfl | hitem
      · exact ⟨start, next, hhead⟩
      · exact ih hrest item hitem

/-- What every step keeps is kept by a fold that succeeds. -/
theorem foldlM_ok_keeps {P : β → Prop} {step : β → ι → Except ε β} {items : List ι}
    {start out : β}
    (hstep : ∀ item ∈ items, ∀ before after, step before item = .ok after → P before → P after)
    (hstart : P start) (h : items.foldlM step start = .ok out) : P out := by
  induction items generalizing start with
  | nil =>
      cases h
      exact hstart
  | cons head rest ih =>
      rw [List.foldlM_cons] at h
      obtain ⟨next, hhead, hrest⟩ := bind_eq_ok_iff.1 h
      exact ih (fun item hitem => hstep item (List.mem_cons_of_mem head hitem))
        (hstep head List.mem_cons_self start next hhead hstart) hrest

/-- A fold fails because a step fails. -/
theorem foldlM_error_step {step : β → ι → Except ε β} {items : List ι} {start : β} {failure : ε}
    (h : items.foldlM step start = .error failure) :
    ∃ item ∈ items, ∃ before, step before item = .error failure := by
  induction items generalizing start with
  | nil => cases h
  | cons head rest ih =>
      rw [List.foldlM_cons] at h
      rcases bind_eq_error_iff.1 h with hhead | ⟨next, _, hrest⟩
      · exact ⟨head, List.mem_cons_self, start, hhead⟩
      · obtain ⟨item, hitem, hstep⟩ := ih hrest
        exact ⟨item, List.mem_cons_of_mem head hitem, hstep⟩

theorem mapM_ok {step : ι → Except ε β} {items : List ι} {out : ι → β}
    (h : ∀ item ∈ items, step item = .ok (out item)) :
    items.mapM step = .ok (items.map out) :=
  mapM_eq_pure h

theorem mapM_ok_step {step : ι → Except ε β} {items : List ι} {out : List β}
    (h : items.mapM step = .ok out) : ∀ item ∈ items, ∃ after, step item = .ok after := by
  induction items generalizing out with
  | nil => simp
  | cons head rest ih =>
      rw [List.mapM_cons] at h
      obtain ⟨after, hhead, hrest⟩ := bind_eq_ok_iff.1 h
      obtain ⟨others, hothers, _⟩ := bind_eq_ok_iff.1 hrest
      exact List.forall_mem_cons.2 ⟨⟨after, hhead⟩, ih hothers⟩

theorem mapM_error_step {step : ι → Except ε β} {items : List ι} {failure : ε}
    (h : items.mapM step = .error failure) : ∃ item ∈ items, step item = .error failure := by
  induction items with
  | nil => cases h
  | cons head rest ih =>
      rw [List.mapM_cons] at h
      rcases bind_eq_error_iff.1 h with hhead | ⟨after, _, hrest⟩
      · exact ⟨head, List.mem_cons_self, hhead⟩
      · obtain ⟨item, hitem, hstep⟩ := ih (bind_pure_eq_error_iff.1 hrest)
        exact ⟨item, List.mem_cons_of_mem head hitem, hstep⟩

/-- The first failure is the failure of the whole. -/
theorem mapM_first_error {step : ι → Except ε β} {before after : List ι} {item : ι} {failure : ε}
    (hbefore : ∀ earlier ∈ before, ∃ out, step earlier = .ok out)
    (hitem : step item = .error failure) :
    (before ++ item :: after).mapM step = .error failure := by
  induction before with
  | nil =>
      rw [List.nil_append, List.mapM_cons, hitem]
      rfl
  | cons head rest ih =>
      obtain ⟨out, hout⟩ := hbefore head List.mem_cons_self
      rw [List.cons_append, List.mapM_cons, hout,
        ih fun earlier hearlier => hbefore earlier (List.mem_cons_of_mem head hearlier)]
      rfl

/-- Either every step succeeds or one of them fails first. -/
theorem forall_ok_or_first_error (step : ι → Except ε β) (items : List ι) :
    (∀ item ∈ items, ∃ out, step item = .ok out) ∨
      ∃ before item after failure, items = before ++ item :: after ∧
        (∀ earlier ∈ before, ∃ out, step earlier = .ok out) ∧ step item = .error failure := by
  induction items with
  | nil => exact Or.inl (by simp)
  | cons head rest ih =>
      cases hhead : step head with
      | error failure => exact Or.inr ⟨[], head, rest, failure, rfl, by simp, hhead⟩
      | ok out =>
          rcases ih with hall | ⟨before, item, after, failure, rfl, hbefore, hitem⟩
          · exact Or.inl (List.forall_mem_cons.2 ⟨⟨out, hhead⟩, hall⟩)
          · exact Or.inr ⟨head :: before, item, after, failure, rfl,
              List.forall_mem_cons.2 ⟨⟨out, hhead⟩, hbefore⟩, hitem⟩

end Results

namespace Action

variable {σ α β ι : Type}

/-- What comes second runs in the state that the first part leaves, unless
that fails. -/
theorem outcome_bind (action : Action σ α) (next : α → Action σ β) (state : σ) :
    (action >>= next).outcome state =
      match action.outcome state with
      | (.ok value, left) => (next value).outcome left
      | (.error failure, left) => (.error failure, left) := by
  simp only [outcome, ExceptT.run_bind, StateT.run_bind]
  cases (ExceptT.run action).run state with
  | mk result left => cases result <;> rfl

theorem outcome_bind_of_ok {action : Action σ α} {state left : σ} {value : α}
    (h : action.outcome state = (.ok value, left)) (next : α → Action σ β) :
    (action >>= next).outcome state = (next value).outcome left := by
  rw [outcome_bind, h]

theorem outcome_bind_of_error {action : Action σ α} {state left : σ} {failure : Failure}
    (h : action.outcome state = (.error failure, left)) (next : α → Action σ β) :
    (action >>= next).outcome state = (.error failure, left) := by
  rw [outcome_bind, h]

/-- What is only made up from a result leaves the state alone. -/
theorem outcome_bind_pure (action : Action σ α) (make : α → β) (state : σ) :
    (do let value ← action; return make value : Action σ β).outcome state =
      (do let value ← (action.outcome state).1; return make value,
        (action.outcome state).2) := by
  rw [outcome_bind]
  rcases action.outcome state with ⟨_ | _, left⟩
  · rfl
  · rfl

/-- An observed action does not fail. -/
theorem outcome_observe (action : Action σ α) (state : σ) :
    (observe action).outcome state =
      (.ok (action.outcome state).1, (action.outcome state).2) := rfl

/-- From every state of the set the action gives the result and stays in the
set. -/
def Gives (states : σ → Prop) (action : Action σ α) (result : Except Failure α) : Prop :=
  ∀ state, states state → ∃ left, states left ∧ action.outcome state = (result, left)

namespace Gives

variable {states : σ → Prop}

theorem result_eq {action : Action σ α} {result : Except Failure α}
    (h : Gives states action result) {state : σ} (hstate : states state) :
    (action.outcome state).1 = result := by
  obtain ⟨left, _, hout⟩ := h state hstate
  rw [hout]

protected theorem pure (value : α) : Gives states (pure value) (.ok value) :=
  fun state hstate => ⟨state, hstate, rfl⟩

protected theorem throw (failure : Failure) :
    Gives states (throw failure : Action σ α) (.error failure) :=
  fun state hstate => ⟨state, hstate, rfl⟩

protected theorem bind {action : Action σ α} {result : Except Failure α}
    {next : α → Action σ β} {rest : α → Except Failure β} (h : Gives states action result)
    (hnext : ∀ value, result = .ok value → Gives states (next value) (rest value)) :
    Gives states (action >>= next) (result >>= rest) := by
  intro state hstate
  obtain ⟨left, hleft, hout⟩ := h state hstate
  cases result with
  | ok value =>
      obtain ⟨last, hlast, hrest⟩ := hnext value rfl left hleft
      exact ⟨last, hlast, by rw [outcome_bind_of_ok hout, hrest]; rfl⟩
  | error failure => exact ⟨left, hleft, outcome_bind_of_error hout next⟩

theorem bind_ok {action : Action σ α} {value : α} {next : α → Action σ β}
    {result : Except Failure β} (h : Gives states action (.ok value))
    (hnext : Gives states (next value) result) : Gives states (action >>= next) result := by
  intro state hstate
  obtain ⟨left, hleft, hout⟩ := h state hstate
  obtain ⟨last, hlast, hrest⟩ := hnext left hleft
  exact ⟨last, hlast, by rw [outcome_bind_of_ok hout, hrest]⟩

protected theorem observe {action : Action σ α} {result : Except Failure α}
    (h : Gives states action result) : Gives states (observe action) (.ok result) := by
  intro state hstate
  obtain ⟨left, hleft, hout⟩ := h state hstate
  exact ⟨left, hleft, by rw [outcome_observe, hout]⟩

protected theorem foldlM {step : β → ι → Action σ β} {pureStep : β → ι → Except Failure β}
    {items : List ι}
    (h : ∀ item ∈ items, ∀ before, Gives states (step before item) (pureStep before item))
    (start : β) : Gives states (items.foldlM step start) (items.foldlM pureStep start) := by
  induction items generalizing start with
  | nil => exact Gives.pure start
  | cons head rest ih =>
      rw [List.foldlM_cons, List.foldlM_cons]
      apply (h head List.mem_cons_self start).bind
      intro next _
      exact ih (fun item hitem => h item (List.mem_cons_of_mem head hitem)) next

end Gives

end Action

end LayeredConfig
