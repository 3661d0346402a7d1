/-
The slots of a connection pool: the connections that are kept for reuse, and
how many are in use or being opened.  Each operation here is what happens
between locking the slots and unlocking them.
-/
import LayeredConfig.Settings

namespace LayeredConfig.Pool

/-- The slots of a pool.  The connection that was kept last stands first. -/
structure Slots (κ : Type) where
  idle : List κ := []
  active : Nat := 0
deriving DecidableEq, Repr

/-- What a look at the slots gives: a kept connection, leave to open a new
one, or neither. -/
inductive Claim (κ : Type) where
  | kept (connection : κ)
  | fresh
  | full
deriving DecidableEq, Repr

namespace Slots

variable {κ : Type}

/-- Take a slot: of a kept connection if there is one, or for a new one if
there may be more. -/
def claim (maxActive : Nat) (slots : Slots κ) : Claim κ × Slots κ :=
  match slots.idle with
  | connection :: rest => (.kept connection, ⟨rest, slots.active + 1⟩)
  | [] =>
      if slots.active < maxActive then (.fresh, { slots with active := slots.active + 1 })
      else (.full, slots)

/-- Give a slot back without a connection. -/
def release (slots : Slots κ) : Slots κ :=
  { slots with active := slots.active - 1 }

/-- Give a connection back.  It is kept if it can still be used and there is
room for it. -/
def giveBack (maxIdle : Nat) (connection : κ) (usable : Bool) (slots : Slots κ) : Slots κ :=
  if usable && slots.idle.length < maxIdle then
    ⟨connection :: slots.idle, slots.active - 1⟩
  else slots.release

theorem claim_kept_idle {maxActive : Nat} {slots next : Slots κ} {connection : κ}
    (h : slots.claim maxActive = (.kept connection, next)) :
    slots.idle = connection :: next.idle ∧ next.active = slots.active + 1 := by
  unfold claim at h
  split at h
  · next heq =>
      cases h
      exact ⟨heq, rfl⟩
  · split at h <;> cases h

/-- Claim slots until the claim is of use: a kept connection that is not fit
any more is let go. -/
def acquire (maxActive : Nat) (fit : κ → Bool) (slots : Slots κ) : Claim κ × Slots κ :=
  match _h : slots.claim maxActive with
  | (.kept connection, next) =>
      if fit connection then (.kept connection, next) else acquire maxActive fit next.release
  | (.fresh, next) => (.fresh, next)
  | (.full, next) => (.full, next)
termination_by slots.idle.length
decreasing_by
  have := (claim_kept_idle _h).1
  simp [release, this]

end Slots

end LayeredConfig.Pool
