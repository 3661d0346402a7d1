/-
The account of a pool.  However uses interleave, the slots in use are those of
the connections that are checked out and of the checkouts that are opening or
reviving one; kept connections and slots in use stay within their bounds.  So
every slot that is given back was taken, and a checkout that fails gives back
what it took.
-/
import LayeredConfig.Pool
import LayeredConfig.Proofs.Outcome
import LayeredConfig.Proofs.Pool.Traffic

namespace LayeredConfig.Pool

variable {κ : Type} {settings : RedisSettings}

namespace Stage

/-- Does the use have a slot? -/
def hasSlot (stage : Stage κ) : Bool := stage.isHolding || stage.isTaking

theorem hasSlot_of_isLooking {stage : Stage κ} (h : stage.isLooking = true) :
    stage.hasSlot = false := by
  cases stage <;> first | rfl | cases h

/-- A slot is in use exactly if a use has it, before a move and after it. -/
theorem Goes.active_add {slots next : Slots κ} {move : Move κ} {stage after : Stage κ}
    (h : Goes settings slots move stage next after)
    (hslot : stage.hasSlot = true → 0 < slots.active) :
    next.active + stage.hasSlot.toNat = slots.active + after.hasSlot.toNat := by
  have hlook : stage.isLooking = true → stage.hasSlot.toNat = 0 := fun hlooking => by
    rw [hasSlot_of_isLooking hlooking]
    rfl
  have hback : stage.hasSlot = true → slots.active - 1 + 1 = slots.active := fun htaken =>
    Nat.sub_add_cancel (hslot htaken)
  cases h with
  | takeKept hlooking _ => rw [hlook hlooking]; rfl
  | takeFresh hlooking _ _ => rw [hlook hlooking]; rfl
  | block hlooking _ _ => rw [hlook hlooking]; rfl
  | giveUp hlooking _ _ => rw [hlook hlooking]; rfl
  | wake => rfl
  | revived connection => rfl
  | unfit connection => rfl
  | forgone => exact hback rfl
  | connected connection => rfl
  | unconnected failure => exact hback rfl
  | kept connection _ => exact hback rfl
  | dropped connection _ => exact hback rfl
  | closed connection => rfl

/-- No move makes more connections kept, or more slots and kept connections
together, than there may be. -/
theorem Goes.bounds {slots next : Slots κ} {move : Move κ} {stage after : Stage κ}
    (h : Goes settings slots move stage next after)
    (hslot : stage.hasSlot = true → 0 < slots.active)
    (hidle : slots.idle.length ≤ settings.maxIdle)
    (htotal : slots.active + slots.idle.length ≤ settings.maxActive) :
    next.idle.length ≤ settings.maxIdle ∧
      next.active + next.idle.length ≤ settings.maxActive := by
  cases h with
  | takeKept _ hkept =>
      rw [hkept, List.length_cons] at hidle htotal
      exact ⟨by simp only; omega, by simp only; omega⟩
  | takeFresh _ hnone hroom =>
      simp only [hnone, List.length_nil]
      omega
  | forgone | unconnected | dropped =>
      simp only [Slots.release]
      omega
  | kept connection hkept =>
      have hpos := hslot rfl
      simp only [Slots.keeps, Bool.and_eq_true, decide_eq_true_eq] at hkept
      simp only [List.length_cons]
      omega
  | block | giveUp | wake | revived | unfit | connected | closed => exact ⟨hidle, htotal⟩

end Stage

namespace Traffic

variable {traffic next : Traffic κ}

structure Balanced (settings : RedisSettings) (traffic : Traffic κ) : Prop where
  active_eq : traffic.slots.active = traffic.count Stage.hasSlot
  idle_le : traffic.slots.idle.length ≤ settings.maxIdle
  total_le : traffic.slots.active + traffic.slots.idle.length ≤ settings.maxActive

namespace Balanced

/-- Whoever has a slot finds it among those in use. -/
theorem active_pos (h : Balanced settings traffic) {use : Nat} {stage : Stage κ}
    (hstage : traffic.uses[use]? = some stage) (hslot : stage.hasSlot = true) :
    0 < traffic.slots.active := by
  rw [h.active_eq]
  exact List.countP_pos_iff.2 ⟨stage, List.mem_of_getElem? hstage, hslot⟩

theorem step (h : Balanced settings traffic) {event : Event κ}
    (hstep : traffic.step? settings event = some next) : Balanced settings next := by
  cases event with
  | call =>
      cases hstep
      refine ⟨?_, h.idle_le, h.total_le⟩
      rw [count, List.countP_append, ← count, ← h.active_eq]
      rfl
  | move use move =>
      obtain ⟨stage, slots, after, hstage, hgo, rfl⟩ := step?_move_iff.1 hstep
      have hgoes := Stage.goes_of_go? hgo
      have hactive := hgoes.active_add (h.active_pos hstage)
      have hcount := count_set hstage Stage.hasSlot slots after
      obtain ⟨hidle, htotal⟩ := hgoes.bounds (h.active_pos hstage) h.idle_le h.total_le
      rw [← h.active_eq] at hcount
      exact ⟨by simp only; omega, hidle, htotal⟩
  | announce use waiter =>
      obtain ⟨rest, uses, hstage, hwake, rfl⟩ := step?_announce_iff.1 hstep
      have hcount := count_set hstage Stage.hasSlot traffic.slots rest.stage
      have hrest : rest.stage.hasSlot = false := by cases rest <;> rfl
      refine ⟨?_, h.idle_le, h.total_le⟩
      rw [hrest, count, ← countP_wake? hwake rfl] at hcount
      rw [h.active_eq]
      exact hcount.symm

end Balanced

theorem Reachable.balanced (h : Reachable settings traffic) : Balanced settings traffic :=
  h.preserves ⟨rfl, Nat.zero_le _, Nat.zero_le _⟩ fun hbefore hstep => hbefore.step hstep

/-- Those who have a slot either hold a connection or are taking one. -/
theorem count_hasSlot (traffic : Traffic κ) :
    traffic.count Stage.hasSlot = traffic.count Stage.isHolding + traffic.count Stage.isTaking := by
  simp only [count]
  induction traffic.uses with
  | nil => rfl
  | cons stage rest ih =>
      simp only [List.countP_cons, ih]
      cases stage <;> simp [Stage.hasSlot, Stage.isHolding, Stage.isTaking] <;> omega

/-- By how much a use has changed the number of slots in use, with all that it
did in a run. -/
def net (settings : RedisSettings) (use : Nat) : Traffic κ → List (Event κ) → Int
  | _, [] => 0
  | traffic, event :: rest =>
      match traffic.step? settings event with
      | some next =>
          (if event.actor? = some use then (next.slots.active : Int) - traffic.slots.active else 0) +
            net settings use next rest
      | none => 0

/-- How many slots a use has. -/
def slotOf (uses : List (Stage κ)) (use : Nat) : Nat :=
  (uses[use]?.any Stage.hasSlot).toNat

theorem slotOf_set {uses : List (Stage κ)} {use : Nat} (h : use < uses.length)
    (after : Stage κ) : slotOf (uses.set use after) use = after.hasSlot.toNat := by
  rw [slotOf, List.getElem?_set_self h]
  rfl

theorem slotOf_set_of_ne {uses : List (Stage κ)} {use other : Nat} (h : other ≠ use)
    (after : Stage κ) : slotOf (uses.set other after) use = slotOf uses use := by
  rw [slotOf, slotOf, List.getElem?_set_ne h]

/-- Who is woken has no slot, and had none. -/
theorem slotOf_wake? {uses after : List (Stage κ)} {waiter : Option Nat}
    (h : wake? uses waiter = some after) (use : Nat) : slotOf after use = slotOf uses use := by
  rcases wake?_cases h with ⟨rfl, _⟩ | ⟨place, hplace, rfl⟩
  · rfl
  · by_cases hsame : place = use
    · subst hsame
      rw [slotOf_set (List.getElem?_eq_some_iff.1 hplace).1, slotOf, hplace]
      rfl
    · exact slotOf_set_of_ne hsame _

/-- One event changes the slots of its own use only, and the number of slots in
use by as many. -/
theorem Balanced.slotOf_step (h : Balanced settings traffic) {event : Event κ}
    (hstep : traffic.step? settings event = some next) (use : Nat) :
    (if event.actor? = some use then (next.slots.active : Int) - traffic.slots.active else 0) =
      (slotOf next.uses use : Int) - slotOf traffic.uses use := by
  cases event with
  | call =>
      cases hstep
      have hsame : slotOf (traffic.uses ++ [.asking]) use = slotOf traffic.uses use := by
        rcases Nat.lt_trichotomy use traffic.uses.length with hlt | heq | hgt
        · rw [slotOf, slotOf, List.getElem?_append_left hlt]
        · subst heq
          simp [slotOf, Stage.hasSlot, Stage.isHolding, Stage.isTaking]
        · rw [slotOf, slotOf, List.getElem?_eq_none (by simpa using Nat.succ_le_of_lt hgt),
            List.getElem?_eq_none (by omega)]
      simp [Event.actor?, hsame]
  | move actor move =>
      obtain ⟨stage, slots, after, hstage, hgo, rfl⟩ := step?_move_iff.1 hstep
      by_cases hactor : actor = use
      · subst hactor
        have hactive := (Stage.goes_of_go? hgo).active_add (h.active_pos hstage)
        have hbefore : slotOf traffic.uses actor = stage.hasSlot.toNat := by
          rw [slotOf, hstage]
          rfl
        have hown : (Event.move actor move).actor? = some actor := rfl
        rw [if_pos hown, slotOf_set (List.getElem?_eq_some_iff.1 hstage).1, hbefore]
        simp only
        omega
      · rw [if_neg (by simpa [Event.actor?] using hactor), slotOf_set_of_ne hactor]
        simp
  | announce actor waiter =>
      obtain ⟨rest, uses, hstage, hwake, rfl⟩ := step?_announce_iff.1 hstep
      have hsame : slotOf uses use = slotOf traffic.uses use := by
        rw [slotOf_wake? hwake]
        by_cases hactor : actor = use
        · subst hactor
          rw [slotOf_set (List.getElem?_eq_some_iff.1 hstage).1, slotOf, hstage]
          cases rest <;> rfl
        · exact slotOf_set_of_ne hactor _
      simp [hsame]

/-- What a use did in a run shows in the slots that it has. -/
theorem Balanced.net_eq (h : Balanced settings traffic) {events : List (Event κ)}
    (hrun : traffic.run? settings events = some next) (use : Nat) :
    net settings use traffic events = (slotOf next.uses use : Int) - slotOf traffic.uses use := by
  induction events generalizing traffic with
  | nil =>
      cases hrun
      simp [net]
  | cons event rest ih =>
      obtain ⟨after, hfirst, hrest⟩ := Option.bind_eq_some_iff.1 hrun
      simp only [net, hfirst]
      rw [h.slotOf_step hfirst, ih (h.step hfirst) hrest]
      omega

/-- In every state that can come about, the slots in use are those of the
connections that are checked out and of the checkouts that are reviving or
opening one; no more connections are kept than may be, and with the slots in use
they are no more than may be open.  So a slot that is given back is always one
of those in use, a checkout that failed has changed their number by nothing in
all, and none is in use when nobody has a connection or takes one. -/
theorem slots_account (h : Reachable settings traffic) :
    traffic.slots.active = traffic.count Stage.isHolding + traffic.count Stage.isTaking ∧
    traffic.slots.idle.length ≤ settings.maxIdle ∧
    traffic.slots.active + traffic.slots.idle.length ≤ settings.maxActive ∧
    (∀ use move next rest, traffic.step? settings (.move use move) = some next →
      next.uses[use]? = some (.released rest) →
        next.slots.active + 1 = traffic.slots.active) ∧
    (∀ use events last failure,
      (traffic.uses[use]? = none ∨ traffic.uses[use]? = some .asking) →
        traffic.run? settings events = some last → last.uses[use]? = some (.failed failure) →
          net settings use traffic events = 0) ∧
    ((∀ stage ∈ traffic.uses, stage.isHolding = false ∧ stage.isTaking = false) →
      traffic.slots.active = 0) := by
  have hbalanced := h.balanced
  have hactive := hbalanced.active_eq.trans traffic.count_hasSlot
  refine ⟨hactive, hbalanced.idle_le, hbalanced.total_le, ?_, ?_, ?_⟩
  · intro use move next rest hstep hreleased
    obtain ⟨stage, slots, after, hstage, hgo, rfl⟩ := step?_move_iff.1 hstep
    rw [List.getElem?_set_self (List.getElem?_eq_some_iff.1 hstage).1] at hreleased
    cases hreleased
    have hgoes := Stage.goes_of_go? hgo
    have hadd := hgoes.active_add (hbalanced.active_pos hstage)
    have hslot : stage.hasSlot.toNat = 1 := by cases hgoes <;> rfl
    rw [hslot] at hadd
    exact hadd
  · intro use events last failure hstart hrun hfailed
    have hbefore : slotOf traffic.uses use = 0 := by
      rcases hstart with hstart | hstart <;>
        · rw [slotOf, hstart]
          rfl
    have hafter : slotOf last.uses use = 0 := by
      rw [slotOf, hfailed]
      rfl
    rw [hbalanced.net_eq hrun, hbefore, hafter]
    rfl
  · intro hnobody
    have hholding : traffic.count Stage.isHolding = 0 :=
      List.countP_eq_zero.2 fun stage hstage => by simp [(hnobody stage hstage).1]
    have htaking : traffic.count Stage.isTaking = 0 :=
      List.countP_eq_zero.2 fun stage hstage => by simp [(hnobody stage hstage).2]
    rw [hactive, hholding, htaking]

/-- What an attempt to connect gives where no server can be reached. -/
def unreached : Failure := .backendUnavailable "redis" "CONNECT failed: " none

/-- Three uses of a pool for two connections of which one may be kept: the first
has given its connection back, the second got it, the third could not connect
and has to say so. -/
def crowd : List (Event Nat) :=
  [.call, .call, .call, .move 0 (.look false), .move 0 (.connect (.ok 7)), .move 0 (.giveBack true),
    .move 1 (.look false), .move 2 (.look false), .move 1 (.revive true),
    .move 2 (.connect (.error unreached))]

/-- One slot is left in use after the third use gave its own back, and that use
will have failed without having changed their number. -/
theorem slots_account_crowd :
    let settings : RedisSettings := { maxActive := 2, maxIdle := 1 }
    let traffic : Traffic Nat :=
      ⟨⟨[], 1⟩, [.released .finish, .holding 7, .released (.fail unreached)]⟩
    let last : Traffic Nat := ⟨⟨[], 1⟩, [.released .finish, .holding 7, .failed unreached]⟩
    Reachable settings traffic ∧
      traffic.slots.active = traffic.count Stage.isHolding + traffic.count Stage.isTaking ∧
      run? settings {} (crowd ++ [.announce 2 none]) = some last ∧
      net settings 2 {} (crowd ++ [.announce 2 none]) = 0 := by
  intro settings traffic last
  have hreachable : Reachable settings traffic := ⟨crowd, by decide⟩
  have hrun : run? settings {} (crowd ++ [.announce 2 none]) = some last := by decide
  have hnew : Reachable settings ({} : Traffic Nat) := ⟨[], rfl⟩
  have hfails := (slots_account hnew).2.2.2.2.1 2 (crowd ++ [.announce 2 none]) last
  exact ⟨hreachable, (slots_account hreachable).1, hrun, hfails _ (Or.inl rfl) hrun rfl⟩

end Traffic

section Alone

theorem Slots.claim_active {maxActive : Nat} {slots next : Slots κ} {claim : Claim κ}
    (h : slots.claim maxActive = (claim, next)) :
    next.active = match claim with
      | .full => slots.active
      | _ => slots.active + 1 := by
  unfold Slots.claim at h
  split at h
  · cases h
    rfl
  · split at h <;>
      · cases h
        rfl

/-- A slot is taken with a kept connection or for a new one, and not otherwise,
whatever was let go on the way. -/
theorem Slots.acquire_active (maxActive : Nat) (fit : κ → Bool) (slots : Slots κ) :
    (slots.acquire maxActive fit).2.active =
      match (slots.acquire maxActive fit).1 with
      | .full => slots.active
      | _ => slots.active + 1 := by
  fun_induction Slots.acquire maxActive fit slots with
  | case1 slots connection next hclaim hfit => exact Slots.claim_active hclaim
  | case2 slots connection next hclaim hfit ih =>
      -- letting an unfit connection go gives its slot back
      have hnext : next.release.active = slots.active := by
        rw [Slots.release, Slots.claim_active hclaim, Nat.add_sub_cancel]
      rw [hnext] at ih
      exact ih
  | case3 slots next hclaim => exact Slots.claim_active hclaim
  | case4 slots next hclaim => exact Slots.claim_active hclaim

open LayeredConfig.Action

/-- Connecting is between the client and the server alone. -/
theorem connect_slots (pool : Pool) (state : PoolState) :
    (pool.connect.outcome state).2.slots = state.slots := by
  have hget : (get : Action PoolState PoolState).outcome state = (.ok state, state) := rfl
  rw [connect, outcome_bind_of_ok hget]
  cases state.server.accept? pool.locator.address with
  | none => rfl
  | some accepted =>
      obtain ⟨connection, server⟩ := accepted
      simp only
      cases Server.admits pool.locator <;> rfl

/-- A checkout that fails while nothing else happens leaves as many slots in use
as it found. -/
theorem checkout_error_active (pool : Pool) {state left : PoolState} {failure : Failure}
    (h : pool.checkout.outcome state = (.error failure, left)) :
    left.slots.active = state.slots.active := by
  have hget : (get : Action PoolState PoolState).outcome state = (.ok state, state) := rfl
  have htaken := Slots.acquire_active pool.settings.maxActive (pool.isFit state) state.slots
  rw [checkout, outcome_bind_of_ok hget] at h
  cases hacquire : state.slots.acquire pool.settings.maxActive (pool.isFit state) with
  | mk claim slots =>
      rw [hacquire] at h htaken
      cases claim with
      | kept connection => cases h
      | full =>
          cases h
          exact htaken
      | fresh =>
          have hset : (set { state with slots := slots } : Action PoolState PUnit).outcome state =
            (.ok ⟨⟩, { state with slots := slots }) := rfl
          simp only at h
          rw [outcome_bind_of_ok hset,
            outcome_bind_of_ok (outcome_observe pool.connect { state with slots := slots })] at h
          have hslots := connect_slots pool { state with slots := slots }
          cases hconnect : pool.connect.outcome { state with slots := slots } with
          | mk result reached =>
              rw [hconnect] at h hslots
              cases result with
              | ok connection => cases h
              | error other =>
                  cases h
                  -- the slot that was taken for the attempt goes back
                  change reached.slots.active - 1 = state.slots.active
                  rw [hslots, htaken, Nat.add_sub_cancel]

end Alone
end LayeredConfig.Pool
