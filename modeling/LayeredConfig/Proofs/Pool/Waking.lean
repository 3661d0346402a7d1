/-
Wake-ups at a pool.  While somebody waits, every free slot is spoken for: it was
given back by a use that still has to wake someone, or there is a woken use that
still has to look.  Others may take the slot in between, and deadlines may pass;
what is counted is enough.
-/
import LayeredConfig.Proofs.Pool.Traffic

namespace LayeredConfig.Pool

variable {κ : Type} {settings : RedisSettings}

namespace Stage

/-- A move leaves no slot free, or none more than there are new uses that will
see to it. -/
theorem Goes.covers {slots next : Slots κ} {move : Move κ} {stage after : Stage κ}
    (h : Goes settings slots move stage next after) :
    settings.maxActive ≤ next.active ∨
      slots.active + stage.isReleased.toNat + stage.isWoken.toNat ≤
        next.active + after.isReleased.toNat + after.isWoken.toNat := by
  cases h with
  | takeKept hlooking _ | takeFresh hlooking _ _ =>
      -- a woken use that finds a slot takes it itself
      have hreleased : stage.isReleased = false := by
        cases stage <;> first | rfl | cases hlooking
      have hwoken := Bool.toNat_le stage.isWoken
      rw [hreleased]
      exact Or.inr (by simp only [Bool.toNat_false]; omega)
  | block _ _ hfull => exact Or.inl hfull
  | giveUp _ _ hfull => exact Or.inl hfull
  | wake => exact Or.inr (Nat.le_succ slots.active)
  | forgone | unconnected | kept | dropped =>
      exact Or.inr (by simp only [Slots.release, isReleased, isWoken, Bool.toNat_true,
        Bool.toNat_false]; omega)
  | revived | unfit | connected | closed => exact Or.inr (Nat.le_refl _)

/-- Nobody begins to wait while a slot is free. -/
theorem Goes.waits_full {slots next : Slots κ} {move : Move κ} {stage after : Stage κ}
    (h : Goes settings slots move stage next after) (hwaits : after.isWaiting = true) :
    settings.maxActive ≤ next.active := by
  cases h with
  | block _ _ hfull => exact hfull
  | _ => cases hwaits

end Stage

namespace Traffic

variable {traffic next : Traffic κ}

/-- While somebody waits, no more slots are free than were given back by uses
that have to wake someone or await a look of a woken use. -/
def Covered (settings : RedisSettings) (traffic : Traffic κ) : Prop :=
  traffic.uses.any Stage.isWaiting = true →
    settings.maxActive ≤
      traffic.slots.active + traffic.count Stage.isReleased + traffic.count Stage.isWoken

theorem Covered.step (h : Covered settings traffic) {event : Event κ}
    (hstep : traffic.step? settings event = some next) : Covered settings next := by
  intro hwaits
  cases event with
  | call =>
      cases hstep
      have hbefore : traffic.uses.any Stage.isWaiting = true := by
        simpa [Stage.isWaiting] using hwaits
      simpa [count, Stage.isReleased, Stage.isWoken] using h hbefore
  | move use move =>
      obtain ⟨stage, slots, after, hstage, hgo, rfl⟩ := step?_move_iff.1 hstep
      have hgoes := Stage.goes_of_go? hgo
      have hreleased := count_set hstage Stage.isReleased slots after
      have hwoken := count_set hstage Stage.isWoken slots after
      obtain ⟨waiter, hwaiter, hwaiting⟩ := List.any_eq_true.1 hwaits
      rcases List.mem_or_eq_of_mem_set hwaiter with hwaiter | rfl
      · -- somebody else waits, and did so before
        have hbefore := h (List.any_eq_true.2 ⟨waiter, hwaiter, hwaiting⟩)
        rcases hgoes.covers with hfull | hcovers
        · simp only
          omega
        · simp only
          omega
      · have hfull := hgoes.waits_full hwaiting
        simp only
        omega
  | announce use waiter =>
      obtain ⟨rest, uses, hstage, hwake, rfl⟩ := step?_announce_iff.1 hstep
      have hreleased := count_set hstage Stage.isReleased traffic.slots rest.stage
      have hwoken := count_set hstage Stage.isWoken traffic.slots rest.stage
      have hrest : rest.stage.isReleased = false ∧ rest.stage.isWoken = false ∧
          rest.stage.isWaiting = false := by
        cases rest <;> exact ⟨rfl, rfl, rfl⟩
      rw [hrest.1] at hreleased
      rw [hrest.2.1] at hwoken
      rcases wake?_cases hwake with ⟨rfl, hnobody⟩ | ⟨place, hplace, rfl⟩
      · rw [hnobody] at hwaits
        cases hwaits
      · have hwaiting : Stage.waiting ∈ traffic.uses := by
          rcases List.mem_or_eq_of_mem_set (List.mem_of_getElem? hplace) with hmem | heq
          · exact hmem
          · have := hrest.2.2
            rw [← heq] at this
            cases this
        have hbefore := h (List.any_eq_true.2 ⟨_, hwaiting, rfl⟩)
        have hreleased' := countP_set_add Stage.isReleased hplace .woken
        have hwoken' := countP_set_add Stage.isWoken hplace .woken
        simp only [count, Stage.isReleased, Stage.isWoken, Bool.toNat_true,
          Bool.toNat_false] at hbefore hreleased hwoken hreleased' hwoken' ⊢
        omega

theorem Reachable.covered (h : Reachable settings traffic) : Covered settings traffic :=
  h.preserves nofun fun hbefore hstep => hbefore.step hstep

/-- No wake-up is lost: whenever some use is blocked, no more slots are free
than were given back by uses that have not woken anyone yet, together with the
woken uses that have not looked yet.  So if a slot is free then somebody is
about to use it or to wake someone for it. -/
theorem free_slots_spoken_for (h : Reachable settings traffic)
    (hwaits : Stage.waiting ∈ traffic.uses) :
    settings.maxActive - traffic.slots.active ≤
        traffic.count Stage.isReleased + traffic.count Stage.isWoken ∧
      (traffic.slots.active < settings.maxActive →
        ∃ stage ∈ traffic.uses, stage.isReleased = true ∨ stage.isWoken = true) := by
  have hcovered := h.covered (List.any_eq_true.2 ⟨_, hwaits, rfl⟩)
  refine ⟨by omega, fun hfree => ?_⟩
  have hsome : 0 < traffic.count Stage.isReleased ∨ 0 < traffic.count Stage.isWoken := by omega
  rcases hsome with hreleased | hwoken
  · obtain ⟨stage, hstage, his⟩ := List.countP_pos_iff.1 hreleased
    exact ⟨stage, hstage, Or.inl his⟩
  · obtain ⟨stage, hstage, his⟩ := List.countP_pos_iff.1 hwoken
    exact ⟨stage, hstage, Or.inr his⟩

/-- A pool for one connection, which three uses want.  The one that has it gives
it back and wakes the second; a fourth comes in first and finds the connection
unfit, and gives the slot back again. -/
def contest : List (Event Nat) :=
  [.call, .call, .call, .move 0 (.look false), .move 0 (.connect (.ok 7)),
    .move 1 (.look false), .move 2 (.look false), .move 0 (.giveBack true), .announce 0 (some 1),
    .call, .move 3 (.look false), .move 3 (.revive false), .move 3 .forgo]

/-- The third use is blocked while the slot is free: the second has been woken,
and the fourth has still to wake someone. -/
theorem free_slots_spoken_for_contest :
    let settings : RedisSettings := { maxActive := 1, maxIdle := 1, waitTimeoutMs := some 50 }
    let traffic : Traffic Nat := ⟨⟨[], 0⟩, [.finished, .woken, .waiting, .released .retry]⟩
    Reachable settings traffic ∧ Stage.waiting ∈ traffic.uses ∧
      traffic.slots.active < settings.maxActive ∧
      settings.maxActive - traffic.slots.active ≤
        traffic.count Stage.isReleased + traffic.count Stage.isWoken := by
  intro settings traffic
  have hreachable : Reachable settings traffic := ⟨contest, by decide⟩
  have hwaits : Stage.waiting ∈ traffic.uses := by decide
  exact ⟨hreachable, hwaits, by decide, (free_slots_spoken_for hreachable hwaits).1⟩

end Traffic

end LayeredConfig.Pool
