/-
Nesting and the limit on it, counted from elsewhere.  What an engine does at a
depth of nesting it does at depth zero under a limit that is smaller by that
depth.  So a reference stands for what the lookup that it asks for finds, with
one level less left below the limit.
-/
import LayeredConfig.Proofs.DepthLimit
import LayeredConfig.Proofs.MemoryReads
import LayeredConfig.Proofs.Nesting

namespace LayeredConfig

open LayeredConfig.Action

variable {α β σ : Type}

/-- Results that are the same, but for the depth that an alarm of the limit
reports. -/
inductive SameButDepth (depth other : Nat) : Except Failure α → Except Failure α → Prop
  | same {result : Except Failure α} (h : NoCycle result) : SameButDepth depth other result result
  | alarm (reference : String) : SameButDepth depth other
      (.error (.substitutionCycle reference depth)) (.error (.substitutionCycle reference other))

namespace SameButDepth

variable {depth other : Nat} {result shallow : Except Failure α}

theorem ok_iff (h : SameButDepth depth other result shallow) {value : α} :
    result = .ok value ↔ shallow = .ok value := by
  rcases h with _ | reference
  · exact Iff.rfl
  · constructor <;> exact nofun

theorem error_iff (h : SameButDepth depth other result shallow) {failure : Failure} :
    result = .error failure ↔
      (NoCycle shallow ∧ shallow = .error failure) ∨
        ∃ reference, shallow = .error (.substitutionCycle reference other) ∧
          failure = .substitutionCycle reference depth := by
  rcases h with hcycle | reference
  · constructor
    · intro hfailed
      exact Or.inl ⟨hcycle, hfailed⟩
    · rintro (⟨_, hfailed⟩ | ⟨reference, halarm, _⟩)
      · exact hfailed
      · exact absurd halarm (hcycle reference other)
  · constructor
    · intro hfailed
      exact Or.inr ⟨reference, rfl, (Except.error.inj hfailed).symm⟩
    · rintro (⟨hcycle, _⟩ | ⟨named, halarm, rfl⟩)
      · exact absurd rfl (hcycle reference other)
      · cases halarm
        rfl

end SameButDepth

namespace Action

/-- From every state the two actions go to the same state, with results that are
the same but for the depth that an alarm reports. -/
def AlikeButDepth (depth other : Nat) (action shallow : Action σ α) : Prop :=
  ∀ state, SameButDepth depth other (action.outcome state).1 (shallow.outcome state).1 ∧
    (action.outcome state).2 = (shallow.outcome state).2

namespace AlikeButDepth

variable {depth other : Nat}

theorem of_noCycle {action : Action σ α} (h : ∀ state, NoCycle (action.outcome state).1) :
    AlikeButDepth depth other action action :=
  fun state => ⟨.same (h state), rfl⟩

protected theorem bind {action shallow : Action σ α} {next shallowNext : α → Action σ β}
    (h : AlikeButDepth depth other action shallow)
    (hnext : ∀ value, AlikeButDepth depth other (next value) (shallowNext value)) :
    AlikeButDepth depth other (action >>= next) (shallow >>= shallowNext) := by
  intro state
  have hfirst := h state
  rw [outcome_bind, outcome_bind]
  generalize action.outcome state = out at hfirst ⊢
  generalize shallow.outcome state = shallowOut at hfirst ⊢
  obtain ⟨result, left⟩ := out
  obtain ⟨shallowResult, shallowLeft⟩ := shallowOut
  obtain ⟨hresult, rfl⟩ := hfirst
  rcases hresult with hcycle | reference
  · rcases result with failure | value
    · refine ⟨.same fun reference depth heq => ?_, rfl⟩
      exact hcycle reference depth (congrArg Except.error (Except.error.inj heq))
    · exact hnext value left
  · exact ⟨.alarm reference, rfl⟩

theorem congruence :
    Congruence fun (α : Type) (action shallow : Action σ α) =>
      AlikeButDepth depth other action shallow where
  pure _ := of_noCycle fun _ => nofun
  missing := by
    intro α failure hmissing
    apply of_noCycle
    rintro _ reference depth ⟨⟩
    cases hmissing
  bind := AlikeButDepth.bind

end AlikeButDepth

end Action

namespace Engine

/-- The lookup that a reference asks for, made by itself. -/
def lookup (e : Engine σ) (scope : Scope) : Reference → Action σ Sourced
  | .listIndex key index => e.lookupListIndex scope key index
  | .hashField key field => e.lookupHashField scope key field
  | .scalar key => e.lookupScalar scope key

theorem resolveAt_zero (e : Engine σ) (scope : Scope) (reference : Reference) :
    e.resolveAt scope 0 reference = (do
      let found ← e.lookup scope reference
      return found.value) := by
  cases reference <;> rfl

end Engine

namespace MemoryStore

variable (settings : Settings) (scope : Scope) (order : FieldOrder)

/-- Whatever the limits, the store is read in the same way, and reading raises
no alarm. -/
theorem alikeButDepth_withLimit (limit other : Nat) :
    (engine settings order).AlikeInLayers
      (fun _ action shallow => AlikeButDepth limit other action shallow) scope
      ((engine settings order).withLimit other) scope :=
  alikeInLayers settings scope order rfl rfl fun _ hreads =>
    AlikeButDepth.of_noCycle fun _ _ _ halarm => nomatch hreads.failure halarm

/-- The expansions reach their limits together, by the recursion on what is left
below the smaller one. -/
theorem expandAt_alikeButDepth {depth : Nat} (below : Nat) (value : String) :
    depth + below ≤ settings.maxSubstitutionDepth →
      AlikeButDepth settings.maxSubstitutionDepth (settings.maxSubstitutionDepth - depth)
        ((engine settings order).expandAt scope (depth + below) value)
        (((engine settings order).withLimit (settings.maxSubstitutionDepth - depth)).expandAt
          scope below value) := by
  fun_induction Engine.expandAt ((engine settings order).withLimit
    (settings.maxSubstitutionDepth - depth)) scope below value with
  | case1 below value hnone =>
      intro _
      rw [Engine.expandAt, hnone]
      exact AlikeButDepth.congruence.pure value
  | case2 below value inner reference others hsome hstop =>
      intro hbelow
      change settings.maxSubstitutionDepth - depth ≤ below at hstop
      have hsmaller : settings.maxSubstitutionDepth - depth = below := by omega
      have hreached : (engine settings order).settings.maxSubstitutionDepth = depth + below := by
        change settings.maxSubstitutionDepth = depth + below
        omega
      rw [Engine.expandAt, hsome]
      simp only [dif_pos (Nat.le_of_eq hreached)]
      rw [hsmaller, ← hreached]
      exact fun _ => ⟨.alarm _, rfl⟩
  | case3 below value inner reference others hsome hgo ih =>
      intro hbelow
      change ¬ settings.maxSubstitutionDepth - depth ≤ below at hgo
      have hroom : ¬ (engine settings order).settings.maxSubstitutionDepth ≤ depth + below := by
        change ¬ settings.maxSubstitutionDepth ≤ depth + below
        omega
      rw [Engine.expandAt, hsome]
      simp only [dif_neg hroom]
      apply AlikeButDepth.congruence.bind
      · exact (alikeButDepth_withLimit settings scope order _ _).resolveAll
          AlikeButDepth.congruence (fun text => ih text (by omega)) _
      · intro replacements
        exact AlikeButDepth.congruence.pure _

/-- A reference means the same as the lookup that it asks for.  From every state
of the store, a value that is nothing but a reference has the value that this
lookup finds under a limit that is smaller by one, or fails as that does; an
alarm reports the limit in force, and both leave the same state.  And whatever
is done at a depth of nesting, up to the limit, is what is done at depth zero
when that depth is taken off the limit, but for the depth that an alarm
reports. -/
theorem expand_mention_eq_lookup :
    (0 < settings.maxSubstitutionDepth → ∀ (mention : Mention) (m : MemoryStore),
      let expanded := ((engine settings order).expand scope mention.text).outcome m
      let direct := (((engine settings order).withLimit
        (settings.maxSubstitutionDepth - 1)).lookup scope mention.reference).outcome m
      expanded.2 = direct.2 ∧
      (∀ value, expanded.1 = .ok value ↔
        ∃ found, direct.1 = .ok found ∧ found.value = value) ∧
      ∀ failure, expanded.1 = .error failure ↔
        (NoCycle direct.1 ∧ direct.1 = .error failure) ∨
          ∃ reference, direct.1 =
              .error (.substitutionCycle reference (settings.maxSubstitutionDepth - 1)) ∧
            failure = .substitutionCycle reference settings.maxSubstitutionDepth) ∧
    ∀ depth ≤ settings.maxSubstitutionDepth,
      let shallow := (engine settings order).withLimit (settings.maxSubstitutionDepth - depth)
      (∀ request, AlikeButDepth settings.maxSubstitutionDepth
        (settings.maxSubstitutionDepth - depth)
        ((engine settings order).serveBy ((engine settings order).expandAt scope depth) scope
          request)
        (shallow.serve scope request)) ∧
      ∀ reference, AlikeButDepth settings.maxSubstitutionDepth
        (settings.maxSubstitutionDepth - depth)
        ((engine settings order).resolveAt scope depth reference)
        (shallow.resolveAt scope 0 reference) := by
  have hdeep : ∀ depth ≤ settings.maxSubstitutionDepth, ∀ text,
      AlikeButDepth settings.maxSubstitutionDepth (settings.maxSubstitutionDepth - depth)
        ((engine settings order).expandAt scope depth text)
        (((engine settings order).withLimit (settings.maxSubstitutionDepth - depth)).expandAt
          scope 0 text) :=
    fun depth hdepth text => expandAt_alikeButDepth settings scope order 0 text hdepth
  have hresolve : ∀ depth ≤ settings.maxSubstitutionDepth, ∀ reference,
      AlikeButDepth settings.maxSubstitutionDepth (settings.maxSubstitutionDepth - depth)
        ((engine settings order).resolveAt scope depth reference)
        (((engine settings order).withLimit (settings.maxSubstitutionDepth - depth)).resolveAt
          scope 0 reference) :=
    fun depth hdepth => (alikeButDepth_withLimit settings scope order _ _).resolveBy
      AlikeButDepth.congruence (hdeep depth hdepth)
  refine ⟨fun hlimit mention m => ?_,
    fun depth hdepth => ⟨fun request => ?_, hresolve depth hdepth⟩⟩
  · obtain ⟨hresult, hleft⟩ := hresolve 1 hlimit mention.reference m
    rw [← Engine.expandAt_text _ scope hlimit, Engine.resolveAt_zero, outcome_bind_pure]
      at hresult hleft
    refine ⟨hleft, fun value => hresult.ok_iff.trans ?_, fun failure => hresult.error_iff.trans ?_⟩
    · rw [bind_eq_ok_iff]
      simp only [pure, Except.pure, Except.ok.injEq]
    · simp only [NoCycle, ne_eq, bind_pure_eq_error_iff]
  · rw [Engine.serve_eq_serveBy]
    exact (alikeButDepth_withLimit settings scope order _ _).serveBy
      AlikeButDepth.congruence (hdeep depth hdepth) request

/-- Around the ring the alarm names the same reference, one level further down
than for the lookup by itself; and so it does two levels further down for a
resolution that starts there. -/
theorem expand_mention_eq_lookup_ring :
    let settings : Settings := { maxSubstitutionDepth := 4 }
    let direct := (((engine settings .byName).withLimit 3).lookup .empty (.scalar "a")).outcome ring
    0 < settings.maxSubstitutionDepth ∧
      direct.1 = .error (.substitutionCycle "$\x7bh/f\x7d" 3) ∧
      ((engine settings .byName).expand .empty "$\x7ba\x7d").outcome ring =
        (.error (.substitutionCycle "$\x7bh/f\x7d" 4), direct.2) ∧
      2 ≤ settings.maxSubstitutionDepth ∧
      ((((engine settings .byName).withLimit 2).resolveAt .empty 0 (.scalar "a")).outcome ring).1 =
        .error (.substitutionCycle "$\x7ba\x7d" 2) ∧
      (((engine settings .byName).resolveAt .empty 2 (.scalar "a")).outcome ring).1 =
        .error (.substitutionCycle "$\x7ba\x7d" 4) := by
  intro settings direct
  have hlimit : 0 < settings.maxSubstitutionDepth := by decide
  have hdirect : direct.1 = .error (.substitutionCycle "$\x7bh/f\x7d" 3) := by decide +kernel
  have htext : (ringChain 1).text = "$\x7ba\x7d" := by decide +kernel
  have hdepth : 2 ≤ settings.maxSubstitutionDepth := by decide
  have hshallow : ((((engine settings .byName).withLimit 2).resolveAt .empty 0
      (.scalar "a")).outcome ring).1 = .error (.substitutionCycle "$\x7ba\x7d" 2) := by
    decide +kernel
  obtain ⟨hmentions, hdepths⟩ := expand_mention_eq_lookup settings .empty .byName
  have hmention := hmentions hlimit (ringChain 1) ring
  rw [htext] at hmention
  obtain ⟨hleft, _, herror⟩ := hmention
  have hexpanded := (herror _).2 (Or.inr ⟨_, hdirect, rfl⟩)
  have hdeeper := ((hdepths 2 hdepth).2 (.scalar "a") ring).1
  exact ⟨hlimit, hdirect, Prod.ext hexpanded hleft, hdepth, hshallow,
    hdeeper.error_iff.2 (Or.inr ⟨_, hshallow, rfl⟩)⟩

end MemoryStore

end LayeredConfig
