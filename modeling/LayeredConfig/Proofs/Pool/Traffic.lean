/-
What can happen at a pool.  A move of one use changes the slots in one of a few
ways, and counting uses by their stages is enough to follow what the moves do;
what every event preserves holds however things interleave.  A checkout that
nothing interrupts goes through the same stages.
-/
import LayeredConfig.Pool.Traffic
import Mathlib.Data.List.Basic

namespace LayeredConfig.Pool

variable {κ : Type} {settings : RedisSettings}

namespace Stage

/-- Is the use about to look at the slots? -/
def isLooking : Stage κ → Bool
  | asking => true
  | woken => true
  | _ => false

/-- The moves, each with what it finds and what it leaves. -/
inductive Goes (settings : RedisSettings) (slots : Slots κ) :
    Move κ → Stage κ → Slots κ → Stage κ → Prop
  | takeKept {stage connection rest late} (hlooking : stage.isLooking = true)
      (hidle : slots.idle = connection :: rest) :
      Goes settings slots (.look late) stage ⟨rest, slots.active + 1⟩ (reviving connection)
  | takeFresh {stage late} (hlooking : stage.isLooking = true) (hidle : slots.idle = [])
      (hroom : slots.active < settings.maxActive) :
      Goes settings slots (.look late) stage ⟨slots.idle, slots.active + 1⟩ opening
  | block {stage late} (hlooking : stage.isLooking = true) (hidle : slots.idle = [])
      (hfull : settings.maxActive ≤ slots.active) :
      Goes settings slots (.look late) stage slots waiting
  | giveUp {stage late} (hlooking : stage.isLooking = true) (hidle : slots.idle = [])
      (hfull : settings.maxActive ≤ slots.active) :
      Goes settings slots (.look late) stage slots (failed (.poolExhausted settings.maxActive))
  | wake : Goes settings slots .wake waiting slots woken
  | revived (connection) :
      Goes settings slots (.revive true) (reviving connection) slots (holding connection)
  | unfit (connection) : Goes settings slots (.revive false) (reviving connection) slots rejected
  | forgone : Goes settings slots .forgo rejected slots.release (released .retry)
  | connected (connection) :
      Goes settings slots (.connect (.ok connection)) opening slots (holding connection)
  | unconnected (failure) :
      Goes settings slots (.connect (.error failure)) opening slots.release
        (released (.fail failure))
  | kept {usable} (connection) (hkept : slots.keeps settings.maxIdle usable = true) :
      Goes settings slots (.giveBack usable) (holding connection)
        ⟨connection :: slots.idle, slots.active - 1⟩ (released .finish)
  | dropped {usable} (connection) (hkept : slots.keeps settings.maxIdle usable = false) :
      Goes settings slots (.giveBack usable) (holding connection) slots.release
        (released (.dispose connection))
  | closed (connection) : Goes settings slots .close (closing connection) slots finished

theorem goes_look {slots next : Slots κ} {stage after : Stage κ} {late : Bool}
    (hlooking : stage.isLooking = true) (hlook : look settings late slots = (next, after)) :
    Goes settings slots (.look late) stage next after := by
  obtain ⟨idle, active⟩ := slots
  cases idle with
  | cons connection rest =>
      cases hlook
      exact .takeKept hlooking rfl
  | nil =>
      by_cases hroom : active < settings.maxActive
      · simp only [look, Slots.claim, if_pos hroom] at hlook
        cases hlook
        exact .takeFresh hlooking rfl hroom
      · have hfull : settings.maxActive ≤ active := Nat.le_of_not_lt hroom
        simp only [look, Slots.claim, if_neg hroom, ofClaim] at hlook
        split at hlook
        · cases hlook
          exact .block hlooking rfl hfull
        · cases hlook
          exact .giveUp hlooking rfl hfull

/-- Nothing else can be done by a use on its own. -/
theorem goes_of_go? {slots next : Slots κ} {stage after : Stage κ} {move : Move κ}
    (h : stage.go? settings slots move = some (next, after)) :
    Goes settings slots move stage next after := by
  fun_cases go? settings slots stage move with
  | case1 late => exact goes_look rfl (Option.some.inj h)
  | case2 late => exact goes_look rfl (Option.some.inj h)
  | case3 => cases h; exact .wake
  | case4 connection fit =>
      cases fit <;> cases h
      · exact .unfit connection
      · exact .revived connection
  | case5 => cases h; exact .forgone
  | case6 connection => cases h; exact .connected connection
  | case7 failure => cases h; exact .unconnected failure
  | case8 connection usable =>
      cases hkept : slots.keeps settings.maxIdle usable with
      | true =>
          have hroom := hkept
          simp only [Slots.keeps] at hroom
          simp only [go?, hkept, Slots.giveBack, hroom, if_true, Option.some.injEq] at h
          cases h
          exact .kept connection hkept
      | false =>
          have hroom := hkept
          simp only [Slots.keeps] at hroom
          simp only [go?, hkept, Slots.giveBack, hroom, Bool.false_eq_true, if_false,
            Option.some.injEq] at h
          cases h
          exact .dropped connection hkept
  | case9 connection => cases h; exact .closed connection
  | case10 => simp [go?] at h

end Stage

namespace Traffic

/-- Counting with one element changed. -/
theorem countP_set_add {α : Type} (p : α → Bool) {items : List α} {place : Nat} {old : α}
    (h : items[place]? = some old) (new : α) :
    (items.set place new).countP p + (p old).toNat = items.countP p + (p new).toNat := by
  induction items generalizing place with
  | nil => simp at h
  | cons head rest ih =>
      cases place with
      | zero =>
          cases h
          simp only [List.set_cons_zero, List.countP_cons]
          cases p old <;> cases p new <;> rfl
      | succ place =>
          have := ih (by simpa using h)
          simp only [List.set_cons_succ, List.countP_cons]
          omega

section Steps

variable {traffic next : Traffic κ}

theorem step?_move_iff {use : Nat} {move : Move κ} :
    traffic.step? settings (.move use move) = some next ↔
      ∃ stage slots after, traffic.uses[use]? = some stage ∧
        stage.go? settings traffic.slots move = some (slots, after) ∧
        next = ⟨slots, traffic.uses.set use after⟩ := by
  simp only [step?]
  cases traffic.uses[use]? with
  | none => simp
  | some stage => simp [@eq_comm _ next]

theorem step?_announce_iff {use : Nat} {waiter : Option Nat} :
    traffic.step? settings (.announce use waiter) = some next ↔
      ∃ rest uses, traffic.uses[use]? = some (.released rest) ∧
        wake? (traffic.uses.set use rest.stage) waiter = some uses ∧
        next = { traffic with uses := uses } := by
  simp only [step?]
  split
  · next rest hstage => simp [hstage, @eq_comm _ next]
  · next hstage =>
      simp only [reduceCtorEq, false_iff]
      rintro ⟨rest, _, hrest, _⟩
      exact hstage rest hrest

/-- Either nobody waits, or one of those who do is woken. -/
theorem wake?_cases {uses after : List (Stage κ)} {waiter : Option Nat}
    (h : wake? uses waiter = some after) :
    (after = uses ∧ uses.any Stage.isWaiting = false) ∨
      ∃ place, uses[place]? = some .waiting ∧ after = uses.set place .woken := by
  cases waiter with
  | none =>
      simp only [wake?] at h
      split at h
      · cases h
      · next hnone =>
          cases h
          exact Or.inl ⟨rfl, Bool.eq_false_iff.2 hnone⟩
  | some place =>
      simp only [wake?] at h
      split at h
      · next hsome =>
          cases h
          refine Or.inr ⟨place, ?_, rfl⟩
          obtain ⟨stage, hstage, hwaiting⟩ := (Option.any_eq_true _ _).1 hsome
          cases stage with
          | waiting => exact hstage
          | _ => cases hwaiting
      · cases h

theorem count_set {use : Nat} {stage : Stage κ} (hstage : traffic.uses[use]? = some stage)
    (p : Stage κ → Bool) (slots : Slots κ) (after : Stage κ) :
    (⟨slots, traffic.uses.set use after⟩ : Traffic κ).count p + (p stage).toNat =
      traffic.count p + (p after).toNat :=
  countP_set_add p hstage after

/-- Waking a use changes no count of stages among which it is before and after. -/
theorem countP_wake? {uses after : List (Stage κ)} {waiter : Option Nat}
    (h : wake? uses waiter = some after) {p : Stage κ → Bool} (hp : p .waiting = p .woken) :
    after.countP p = uses.countP p := by
  rcases wake?_cases h with ⟨rfl, _⟩ | ⟨place, hplace, rfl⟩
  · rfl
  · have := countP_set_add p hplace .woken
    rw [hp] at this
    omega

/-- What every event preserves holds after every run. -/
theorem run?_preserves {P : Traffic κ → Prop} {events : List (Event κ)}
    (hstep : ∀ {before after : Traffic κ} {event : Event κ}, P before →
      before.step? settings event = some after → P after)
    (hrun : traffic.run? settings events = some next) (hstart : P traffic) : P next := by
  induction events generalizing traffic with
  | nil =>
      cases hrun
      exact hstart
  | cons event rest ih =>
      obtain ⟨after, hfirst, hrest⟩ := Option.bind_eq_some_iff.1 hrun
      exact ih hrest (hstep hstart hfirst)

theorem Reachable.preserves {P : Traffic κ → Prop} (hstart : P {})
    (hstep : ∀ {before after : Traffic κ} {event : Event κ}, P before →
      before.step? settings event = some after → P after)
    (h : Reachable settings traffic) : P traffic := by
  obtain ⟨events, hrun⟩ := h
  exact run?_preserves hstep hrun hstart

theorem run?_cons {event : Event κ} (h : traffic.step? settings event = some next)
    (rest : List (Event κ)) :
    traffic.run? settings (event :: rest) = next.run? settings rest := by
  rw [run?, h, Option.bind_some]

theorem run?_append (first second : List (Event κ)) :
    traffic.run? settings (first ++ second) =
      (traffic.run? settings first).bind fun middle => middle.run? settings second := by
  induction first generalizing traffic with
  | nil => rfl
  | cons event rest ih =>
      simp only [List.cons_append, run?, Option.bind_assoc]
      congr 1
      funext after
      exact ih

theorem Reachable.run {events : List (Event κ)} (h : Reachable settings traffic)
    (hrun : traffic.run? settings events = some next) : Reachable settings next := by
  obtain ⟨earlier, hearlier⟩ := h
  exact ⟨earlier ++ events, by rw [run?_append, hearlier]; exact hrun⟩

end Steps

end Traffic

section Alone

/-- Where a checkout ends that was left alone. -/
def Claim.outcome (settings : RedisSettings) (late : Bool) : Claim κ → Stage κ
  | .kept connection => .holding connection
  | claim => Stage.ofClaim settings late claim

/-- A look at the slots that leads to where the claim leads. -/
theorem Traffic.step?_look {slots next : Slots κ} {uses : List (Stage κ)} {use : Nat}
    {stage : Stage κ} {claim : Claim κ} (hstage : uses[use]? = some stage)
    (hlooking : stage.isLooking = true) (hclaim : slots.claim settings.maxActive = (claim, next))
    (late : Bool) :
    (⟨slots, uses⟩ : Traffic κ).step? settings (.move use (.look late)) =
      some ⟨next, uses.set use (Stage.ofClaim settings late claim)⟩ := by
  have hlook : Stage.look settings late slots = (next, Stage.ofClaim settings late claim) := by
    rw [Stage.look, hclaim]
  refine Traffic.step?_move_iff.2 ⟨stage, next, _, hstage, ?_, rfl⟩
  cases stage with
  | asking => rw [Stage.go?, hlook]
  | woken => rw [Stage.go?, hlook]
  | _ => cases hlooking

/-- A use that takes a slot while nobody waits and nobody interferes goes from
stage to stage as a checkout of that pool does. -/
theorem Traffic.exists_run?_acquire (fit : κ → Bool) (late : Bool) (slots : Slots κ)
    {uses : List (Stage κ)} {use : Nat} {stage : Stage κ} (hstage : uses[use]? = some stage)
    (hlooking : stage.isLooking = true) (hnobody : uses.any Stage.isWaiting = false) :
    ∃ events, (∀ event ∈ events, event.actor? = some use) ∧
      (⟨slots, uses⟩ : Traffic κ).run? settings events =
        some ⟨(slots.acquire settings.maxActive fit).2,
          uses.set use ((slots.acquire settings.maxActive fit).1.outcome settings late)⟩ := by
  have hplace : use < uses.length := (List.getElem?_eq_some_iff.1 hstage).1
  fun_induction Slots.acquire settings.maxActive fit slots generalizing uses stage with
  | case1 slots connection next hclaim hfit =>
      have hlook := step?_look hstage hlooking hclaim late
      have hrevive : (⟨next, uses.set use (.reviving connection)⟩ : Traffic κ).step? settings
          (.move use (.revive true)) = some ⟨next, uses.set use (.holding connection)⟩ := by
        simp [step?, hplace, Stage.go?]
      refine ⟨[.move use (.look late), .move use (.revive true)], by simp [Event.actor?], ?_⟩
      rw [run?_cons hlook, Stage.ofClaim, run?_cons hrevive]
      rfl
  | case2 slots connection next hclaim hfit ih =>
      have hagain : (uses.set use .asking)[use]? = some .asking := by simp [hplace]
      have hquiet : (uses.set use .asking).any Stage.isWaiting = false := by
        rw [List.any_eq_false] at hnobody ⊢
        intro other hother
        rcases List.mem_or_eq_of_mem_set hother with hother | rfl
        · exact hnobody other hother
        · exact Bool.false_ne_true
      obtain ⟨events, hevents, hrun⟩ := ih hagain rfl hquiet (by simpa using hplace)
      -- the connection is let go and the slot given back before the next look
      have hlook := step?_look hstage hlooking hclaim late
      have hunfit : (⟨next, uses.set use (.reviving connection)⟩ : Traffic κ).step? settings
          (.move use (.revive false)) = some ⟨next, uses.set use .rejected⟩ := by
        simp [step?, hplace, Stage.go?]
      have hforgo : (⟨next, uses.set use .rejected⟩ : Traffic κ).step? settings
          (.move use .forgo) = some ⟨next.release, uses.set use (.released .retry)⟩ := by
        simp [step?, hplace, Stage.go?]
      have hannounce : (⟨next.release, uses.set use (.released .retry)⟩ : Traffic κ).step? settings
          (.announce use none) = some ⟨next.release, uses.set use .asking⟩ := by
        simp [step?, hplace, wake?, Rest.stage, hquiet, -List.any_eq_true, -List.any_eq_false]
      refine ⟨.move use (.look late) :: .move use (.revive false) :: .move use .forgo ::
        .announce use none :: events, by simpa [Event.actor?] using hevents, ?_⟩
      rw [run?_cons hlook, Stage.ofClaim, run?_cons hunfit, run?_cons hforgo, run?_cons hannounce,
        hrun, List.set_set]
  | case3 slots next hclaim =>
      exact ⟨[.move use (.look late)], by simp [Event.actor?],
        run?_cons (step?_look hstage hlooking hclaim late) []⟩
  | case4 slots next hclaim =>
      exact ⟨[.move use (.look late)], by simp [Event.actor?],
        run?_cons (step?_look hstage hlooking hclaim late) []⟩

end Alone

end LayeredConfig.Pool
