/-
The limit on the depth of nesting.  A greater limit lets through what the
smaller one stops and changes nothing else: two runs under different limits go
the same way until the smaller limit is reached.
-/
import LayeredConfig.Proofs.MemoryView
import LayeredConfig.Proofs.Parallel

namespace LayeredConfig

open LayeredConfig.Action

/-- A result that is not the alarm of the limit. -/
def NoCycle {α : Type} (result : Except Failure α) : Prop :=
  ∀ reference depth, result ≠ .error (.substitutionCycle reference depth)

namespace Action

variable {σ α β ι : Type}

/-- The second action does what the first does, wherever that raises no alarm. -/
def Extends (action other : Action σ α) : Prop :=
  ∀ state, NoCycle (action.outcome state).1 → other.outcome state = action.outcome state

namespace Extends

theorem refl (action : Action σ α) : Extends action action :=
  fun _ _ => rfl

/-- An alarm is extended by anything. -/
theorem throw_cycle (reference : String) (depth : Nat) (other : Action σ α) :
    Extends (throw (.substitutionCycle reference depth)) other :=
  fun _ h => absurd rfl (h reference depth)

protected theorem bind {action other : Action σ α} {next otherNext : α → Action σ β}
    (h : Extends action other) (hnext : ∀ value, Extends (next value) (otherNext value)) :
    Extends (action >>= next) (other >>= otherNext) := by
  intro state hcycle
  cases hout : action.outcome state with
  | mk result left =>
      cases result with
      | error failure =>
          have hbind := outcome_bind_of_error hout next
          have hsame : other.outcome state = (.error failure, left) := by
            rw [h state, hout]
            rw [hbind] at hcycle
            rw [hout]
            exact fun reference depth heq => hcycle reference depth (by rw [Except.error.inj heq])
          rw [hbind, outcome_bind_of_error hsame]
      | ok value =>
          have hbind := outcome_bind_of_ok hout next
          have hsame : other.outcome state = (.ok value, left) := by
            rw [h state, hout]
            rw [hout]
            exact nofun
          rw [hbind] at hcycle ⊢
          rw [outcome_bind_of_ok hsame]
          exact hnext value left hcycle

/-- Extension is kept when actions are put together. -/
theorem congruence :
    Congruence fun (α : Type) (action other : Action σ α) => Extends action other where
  pure _ := refl _
  missing _ := refl _
  bind := Extends.bind

end Extends

end Action

namespace Engine

variable {σ : Type}

/-- The same engine under another limit. -/
def withLimit (e : Engine σ) (limit : Nat) : Engine σ :=
  { e with settings := { e.settings with maxSubstitutionDepth := limit } }

/-- Nothing that is read depends on the limit. -/
theorem alike_withLimit (e : Engine σ) (limit : Nat) (scope : Scope) :
    e.Alike (fun _ => Extends) scope (e.withLimit limit) scope where
  keyPrefix := rfl
  paths := rfl
  holds _ _ := Extends.refl _
  getScalar _ := Extends.refl _
  getHash _ := Extends.refl _
  hasHashField _ _ := Extends.refl _
  getHashField _ _ := Extends.refl _
  getList _ := Extends.refl _

theorem serveBy_extends (e : Engine σ) (limit : Nat) {expand other : String → Action σ String}
    (scope : Scope) (h : ∀ text, Extends (expand text) (other text)) (request : Request) :
    Extends (e.serveBy expand scope request)
      ((e.withLimit limit).serveBy other scope request) :=
  (e.alike_withLimit limit scope).inLayers.serveBy Extends.congruence h request

/-- At every depth an expansion under a greater limit extends the one under the
smaller: at the smaller limit the alarm is raised, above it both go on. -/
theorem expandAt_extends (e : Engine σ) {limit : Nat}
    (hlimit : e.settings.maxSubstitutionDepth ≤ limit) (scope : Scope) (depth : Nat)
    (value : String) :
    Extends (e.expandAt scope depth value) ((e.withLimit limit).expandAt scope depth value) := by
  fun_induction expandAt e scope depth value with
  | case1 depth value hnone =>
      rw [expandAt, hnone]
      exact Extends.refl _
  | case2 depth value inner reference others hsome hstop =>
      exact Extends.throw_cycle _ _ _
  | case3 depth value inner reference others hsome hgo ih =>
      have hgo' : ¬ (e.withLimit limit).settings.maxSubstitutionDepth ≤ depth := by
        change ¬ limit ≤ depth
        omega
      rw [expandAt, hsome]
      simp only [dif_neg hgo']
      exact ((e.alike_withLimit limit scope).inLayers.resolveAll Extends.congruence
        ih _).bind fun _ => Extends.refl _

/-- Raising the limit never changes an answer: on every store and from every
state, a request that raises no alarm has the same outcome, result and state,
under every greater limit. -/
theorem serve_withLimit_eq (e : Engine σ) {limit : Nat}
    (hlimit : e.settings.maxSubstitutionDepth ≤ limit) (scope : Scope) (request : Request)
    (state : σ) (hcycle : NoCycle ((e.serve scope request).outcome state).1) :
    ((e.withLimit limit).serve scope request).outcome state =
      (e.serve scope request).outcome state := by
  rw [serve_eq_serveBy] at hcycle ⊢
  rw [serve_eq_serveBy]
  exact serveBy_extends e limit scope (expandAt_extends e hlimit scope 0) request state hcycle

/-- Two references in a row, which is all that a limit of two leaves room for. -/
def chained : MemoryStore where
  entries := NameMap.ofList
    [("cfg:default:a", .string "<$\x7bl/index/0\x7d>"), ("cfg:default:l", .list ["$\x7bb\x7d"]),
      ("cfg:default:b", .string "1")]

/-- More room than is needed makes no difference. -/
theorem serve_withLimit_eq_chained :
    let e := MemoryStore.engine { maxSubstitutionDepth := 2 } .byName
    e.settings.maxSubstitutionDepth ≤ 64 ∧
      ((e.serve .empty (.scalar "a")).outcome chained).1 = .ok ⟨"<1>", "cfg:default:a"⟩ ∧
      (((e.withLimit 64).serve .empty (.scalar "a")).outcome chained) =
        (e.serve .empty (.scalar "a")).outcome chained := by
  intro e
  have hlimit : e.settings.maxSubstitutionDepth ≤ 64 := by decide
  have hok : ((e.serve .empty (.scalar "a")).outcome chained).1 =
      .ok ⟨"<1>", "cfg:default:a"⟩ := by decide +kernel
  have hcycle : NoCycle ((e.serve .empty (.scalar "a")).outcome chained).1 := by
    rw [hok]
    exact nofun
  exact ⟨hlimit, hok, serve_withLimit_eq e hlimit .empty (.scalar "a") chained hcycle⟩

end Engine

end LayeredConfig
