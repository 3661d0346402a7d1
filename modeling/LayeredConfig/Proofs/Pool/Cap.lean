/-
How many connections are open.  A connection that is given back and not kept is
closed after its slot has been handed on, so the limit on slots does not limit
the connections that are open: those that wait to be closed come on top, and
unless all connections may be kept there can be any number of them.
-/
import LayeredConfig.Proofs.Pool.Account

namespace LayeredConfig.Pool

variable {κ : Type} {settings : RedisSettings}

namespace Traffic

variable {traffic : Traffic κ}

theorem hasSlot_or_isDisposing {stage : Stage κ} (h : stage.hasConnection = true) :
    stage.hasSlot = true ∨ stage.isDisposing = true := by
  unfold Stage.hasConnection at h
  split at h
  · exact Or.inl rfl
  · exact Or.inl rfl
  · exact Or.inr rfl
  · exact Or.inr rfl
  · cases h

theorem count_hasConnection_le (traffic : Traffic κ) :
    traffic.count Stage.hasConnection ≤
      traffic.count Stage.hasSlot + traffic.count Stage.isDisposing := by
  simp only [count]
  induction traffic.uses with
  | nil => exact Nat.le_refl _
  | cons stage rest ih =>
      have hstage : stage.hasConnection = true →
          stage.hasSlot = true ∨ stage.isDisposing = true := hasSlot_or_isDisposing
      simp only [List.countP_cons]
      grind

/-- Connections that are kept or have a slot stay within the limit. -/
theorem Reachable.openConnections_le (h : Reachable settings traffic) :
    traffic.openConnections ≤ settings.maxActive + traffic.count Stage.isDisposing := by
  have hconnections := traffic.count_hasConnection_le
  have htotal := h.balanced.total_le
  rw [h.balanced.active_eq] at htotal
  rw [openConnections]
  omega

/-- A use that comes in, finds a slot and gets a connection. -/
theorem run?_checkout {claim : Claim κ} {next : Slots κ} {connection : κ} (move : Move κ)
    (hclaim : traffic.slots.claim settings.maxActive = (claim, next))
    (hmove : (Stage.ofClaim settings false claim).go? settings next move =
      some (next, .holding connection)) :
    traffic.run? settings [.call, .move traffic.uses.length (.look false),
      .move traffic.uses.length move] =
        some ⟨next, traffic.uses ++ [.holding connection]⟩ := by
  have hcall : traffic.step? settings .call = some ⟨traffic.slots, traffic.uses ++ [.asking]⟩ := rfl
  have hlook : (⟨traffic.slots, traffic.uses ++ [.asking]⟩ : Traffic κ).step? settings
      (.move traffic.uses.length (.look false)) =
        some ⟨next, traffic.uses ++ [Stage.ofClaim settings false claim]⟩ := by
    rw [step?_look List.getElem?_concat_length rfl hclaim, List.set_append_right _ _ (Nat.le_refl _),
      Nat.sub_self, List.set_cons_zero]
  have htaken : (⟨next, traffic.uses ++ [Stage.ofClaim settings false claim]⟩ : Traffic κ).step?
      settings (.move traffic.uses.length move) =
        some ⟨next, traffic.uses ++ [.holding connection]⟩ := by
    refine step?_move_iff.2 ⟨_, next, _, List.getElem?_concat_length, hmove, ?_⟩
    rw [List.set_append_right _ _ (Nat.le_refl _), Nat.sub_self, List.set_cons_zero]
  rw [run?_cons hcall, run?_cons hlook, run?_cons htaken]
  rfl

/-- A state can come about in which so many connections are kept, held and
waiting to be closed, and nobody is taking one. -/
def Attains (κ : Type) (settings : RedisSettings) (idle holding disposing : Nat) : Prop :=
  ∃ traffic : Traffic κ, Reachable settings traffic ∧ traffic.slots.idle.length = idle ∧
    traffic.slots.active = holding ∧ traffic.count Stage.isHolding = holding ∧
    traffic.count Stage.isDisposing = disposing ∧
    traffic.count Stage.hasConnection = holding + disposing

namespace Attains

variable {idle holding disposing : Nat}

theorem start : Attains κ settings 0 0 0 :=
  ⟨{}, ⟨[], rfl⟩, rfl, rfl, rfl, rfl, rfl⟩

/-- A kept connection is taken out. -/
theorem take (h : Attains κ settings (idle + 1) holding disposing) :
    Attains κ settings idle (holding + 1) disposing := by
  obtain ⟨traffic, hreachable, hidle, hactive, hholding, hdisposing, hconnection⟩ := h
  obtain ⟨connection, rest, hkept⟩ := List.exists_cons_of_length_eq_add_one hidle
  have hclaim : traffic.slots.claim settings.maxActive =
      (.kept connection, ⟨rest, traffic.slots.active + 1⟩) := by
    rw [Slots.claim, hkept]
  refine ⟨_, hreachable.run (run?_checkout (.revive true) hclaim rfl), ?_, ?_, ?_, ?_, ?_⟩
  · simpa [hkept] using hidle
  · simpa using hactive
  · simpa [count, Stage.isHolding] using hholding
  · simpa [count, Stage.isDisposing] using hdisposing
  · simp only [count] at hconnection
    simp [count, Stage.hasConnection, hconnection]
    omega

/-- A connection is opened as there are fewer than may be. -/
theorem connect (connection : κ) (h : Attains κ settings 0 holding disposing)
    (hroom : holding < settings.maxActive) : Attains κ settings 0 (holding + 1) disposing := by
  obtain ⟨traffic, hreachable, hidle, hactive, hholding, hdisposing, hconnection⟩ := h
  have hnone := List.eq_nil_of_length_eq_zero hidle
  have hclaim : traffic.slots.claim settings.maxActive =
      (.fresh, ⟨traffic.slots.idle, traffic.slots.active + 1⟩) := by
    rw [Slots.claim, hnone]
    exact if_pos (hactive ▸ hroom)
  refine ⟨_, hreachable.run
    (run?_checkout (.connect (.ok connection)) hclaim rfl), ?_, ?_, ?_, ?_, ?_⟩
  · exact hidle
  · simpa using hactive
  · simpa [count, Stage.isHolding] using hholding
  · simpa [count, Stage.isDisposing] using hdisposing
  · simp only [count] at hconnection
    simp [count, Stage.hasConnection, hconnection]
    omega

/-- A connection that is given back is kept, or waits to be closed. -/
theorem giveBack (h : Attains κ settings idle (holding + 1) disposing) :
    if idle < settings.maxIdle then Attains κ settings (idle + 1) holding disposing
    else Attains κ settings idle holding (disposing + 1) := by
  obtain ⟨traffic, hreachable, hidle, hactive, hholding, hdisposing, hconnection⟩ := h
  obtain ⟨stage, hmem, hholds⟩ : ∃ stage ∈ traffic.uses, stage.isHolding = true :=
    List.countP_pos_iff.1 (by rw [← count, hholding]; exact Nat.succ_pos holding)
  obtain ⟨use, hstage⟩ := List.getElem?_of_mem hmem
  cases stage with
  | holding connection =>
      have hgives : ∀ slots rest, (Stage.holding connection).go? settings traffic.slots
          (.giveBack true) = some (slots, .released rest) →
            Reachable settings ⟨slots, traffic.uses.set use (.released rest)⟩ :=
        fun slots rest hgo => hreachable.run
          (run?_cons (step?_move_iff.2 ⟨_, _, _, hstage, hgo, rfl⟩) [])
      have hcounts : ∀ rest : Rest κ, (traffic.uses.set use (.released rest)).countP Stage.isHolding =
            holding ∧
          (traffic.uses.set use (.released rest)).countP Stage.isDisposing =
            disposing + (Stage.released rest).isDisposing.toNat ∧
          (traffic.uses.set use (.released rest)).countP Stage.hasConnection =
            holding + disposing + (Stage.released rest).hasConnection.toNat := by
        intro rest
        have hholding' := countP_set_add Stage.isHolding hstage (.released rest)
        have hdisposing' := countP_set_add Stage.isDisposing hstage (.released rest)
        have hconnection' := countP_set_add Stage.hasConnection hstage (.released rest)
        simp only [count] at hholding hdisposing hconnection
        simp only [Stage.isHolding, Bool.toNat_true, Bool.toNat_false] at hholding'
        simp only [Stage.isDisposing, Bool.toNat_false] at hdisposing' ⊢
        simp only [Stage.hasConnection, Bool.toNat_true] at hconnection' ⊢
        omega
      split
      · next hroom =>
          have hgo : (Stage.holding connection).go? settings traffic.slots (.giveBack true) =
              some (⟨connection :: traffic.slots.idle, traffic.slots.active - 1⟩,
                .released .finish) := by
            simp [Stage.go?, Slots.giveBack, Slots.keeps, hidle, hroom]
          exact ⟨_, hgives _ _ hgo, by simp [hidle], by simp [hactive], hcounts .finish⟩
      · next hroom =>
          have hgo : (Stage.holding connection).go? settings traffic.slots (.giveBack true) =
              some (traffic.slots.release, .released (.dispose connection)) := by
            simp [Stage.go?, Slots.giveBack, Slots.keeps, hidle, hroom]
          exact ⟨_, hgives _ _ hgo, hidle, by simp [Slots.release, hactive],
            hcounts (.dispose connection)⟩
  | _ => cases hholds

theorem giveBack_all {k : Nat} (h : Attains κ settings idle (holding + k) disposing)
    (hroom : idle + k ≤ settings.maxIdle) : Attains κ settings (idle + k) holding disposing := by
  induction k generalizing holding with
  | zero => exact h
  | succ k ih =>
      have hfirst : Attains κ settings (idle + k) (holding + 1) disposing :=
        ih (by rwa [Nat.add_right_comm]) (by omega)
      have hlast := hfirst.giveBack
      rwa [if_pos (by omega)] at hlast

theorem take_all {k : Nat} (h : Attains κ settings (idle + k) holding disposing) :
    Attains κ settings idle (holding + k) disposing := by
  induction k generalizing holding with
  | zero => exact h
  | succ k ih =>
      have hrest := ih h.take
      rwa [Nat.add_right_comm] at hrest

/-- Everybody who may hold a connection does. -/
theorem full (connection : κ) : Attains κ settings 0 settings.maxActive 0 := by
  have hsome : ∀ k ≤ settings.maxActive, Attains κ settings 0 k 0 := by
    intro k
    induction k with
    | zero => exact fun _ => start
    | succ k ih => exact fun hk => (ih (by omega)).connect connection hk
  exact hsome _ (Nat.le_refl _)

/-- As many as can be kept are given back and one more, which is not kept.  Then
all are taken out again, and in place of that one another is opened. -/
theorem exceed (connection : κ) (hidle : settings.maxIdle < settings.maxActive)
    (h : Attains κ settings 0 settings.maxActive disposing) :
    Attains κ settings 0 settings.maxActive (disposing + 1) := by
  obtain ⟨spare, hspare⟩ := Nat.exists_eq_add_of_lt hidle
  have hheld : settings.maxActive = spare + 1 + settings.maxIdle := by omega
  have hfull : Attains κ settings 0 (spare + 1 + settings.maxIdle) disposing := hheld ▸ h
  have hkept : Attains κ settings (0 + settings.maxIdle) (spare + 1) disposing :=
    hfull.giveBack_all (by omega)
  have hdropped := hkept.giveBack
  rw [if_neg (by omega)] at hdropped
  have hnew := hdropped.take_all.connect connection (by omega)
  have hback : spare + settings.maxIdle + 1 = settings.maxActive := by omega
  exact hback ▸ hnew

end Attains

/-- The open connections are within the limit except for those that are being
disposed of, and where not all may be kept these can be any number on top. -/
theorem openConnections_bound (settings : RedisSettings) (connection : κ) :
    (∀ traffic : Traffic κ, Reachable settings traffic →
      traffic.openConnections ≤ settings.maxActive + traffic.count Stage.isDisposing) ∧
    (settings.maxIdle < settings.maxActive → ∀ excess, ∃ traffic : Traffic κ,
      Reachable settings traffic ∧ traffic.count Stage.isDisposing = excess ∧
        traffic.openConnections = settings.maxActive + excess) := by
  refine ⟨fun traffic h => h.openConnections_le, fun hidle excess => ?_⟩
  have hattains : Attains κ settings 0 settings.maxActive excess := by
    induction excess with
    | zero => exact Attains.full connection
    | succ excess ih => exact ih.exceed connection hidle
  obtain ⟨traffic, hreachable, hkept, _, _, hdisposing, hconnection⟩ := hattains
  exact ⟨traffic, hreachable, hdisposing, by rw [openConnections, hkept, hconnection]; omega⟩

/-- A pool for one connection, which is not kept: it is given back, and before it
is closed another use opens one. -/
def swap : List (Event Nat) :=
  [.call, .move 0 (.look false), .move 0 (.connect (.ok 7)), .move 0 (.giveBack true),
    .call, .move 1 (.look false), .move 1 (.connect (.ok 8))]

/-- Two connections are open at once, of which one is being disposed of. -/
theorem openConnections_bound_swap :
    let settings : RedisSettings := { maxActive := 1, maxIdle := 0 }
    let traffic : Traffic Nat := ⟨⟨[], 1⟩, [.released (.dispose 7), .holding 8]⟩
    Reachable settings traffic ∧ traffic.openConnections = 2 ∧
      traffic.openConnections ≤ settings.maxActive + traffic.count Stage.isDisposing ∧
      settings.maxIdle < settings.maxActive ∧
      ∃ traffic : Traffic Nat, Reachable settings traffic ∧
        traffic.count Stage.isDisposing = 9 ∧ traffic.openConnections = settings.maxActive + 9 := by
  intro settings traffic
  have hreachable : Reachable settings traffic := ⟨swap, by decide⟩
  have hidle : settings.maxIdle < settings.maxActive := by decide
  exact ⟨hreachable, rfl, (openConnections_bound settings 7).1 traffic hreachable, hidle,
    (openConnections_bound settings 7).2 hidle 9⟩

/-- The limit on connections does not hold: settings that can be used let two be
open where there may be one. -/
theorem limit_exceeded :
    let settings : Settings := { redis := { maxActive := 1, maxIdle := 0 } }
    let traffic : Traffic Nat := ⟨⟨[], 1⟩, [.released (.dispose 7), .holding 8]⟩
    settings.validate = .ok () ∧ Reachable settings.redis traffic ∧
      ¬ traffic.openConnections ≤ settings.redis.maxActive :=
  ⟨rfl, ⟨swap, by decide⟩, by decide⟩

end Traffic

end LayeredConfig.Pool
