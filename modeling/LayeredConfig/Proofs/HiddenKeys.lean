/-
Keys that cannot be probed.  A store may stand around a store in memory, let
all reads through, and answer the probes of some keys itself: that nothing is
there, or with a failure that does not mean that the store is lost.  A lookup
reads only what its probes have found, so for lookups such keys are not there,
although their values could still be read.
-/
import LayeredConfig.Proofs.Union

namespace LayeredConfig

open LayeredConfig.Action

variable {ω σ α : Type}

namespace Action

/-- The action answers as the other one does on the state inside its own, and
changes the state inside in the same way. -/
def PassesTo (inside : ω → σ) (action : Action ω α) (inner : Action σ α) : Prop :=
  ∀ state, inner.outcome (inside state) =
    ((action.outcome state).1, inside (action.outcome state).2)

theorem PassesTo.gives {inside : ω → σ} {action : Action ω α} {inner : Action σ α}
    (h : PassesTo inside action inner) {states : σ → Prop} {result : Except Failure α}
    (hinner : Gives states inner result) :
    Gives (fun state => states (inside state)) action result := by
  intro state hstate
  obtain ⟨left, hleft, hout⟩ := hinner (inside state) hstate
  rw [h state] at hout
  obtain ⟨hresult, hinside⟩ := Prod.mk.inj hout
  rw [← hinside] at hleft
  exact ⟨(action.outcome state).2, hleft, Prod.ext hresult rfl⟩

end Action

/-- What a lookup makes of a probe passes to the store inside with the probe. -/
theorem Engine.passesTo_holds {inside : ω → σ} {e : Engine ω} {inner : Engine σ} {name : String}
    (h : PassesTo inside (e.store.probeKind name) (inner.store.probeKind name))
    {wanted : KeyKind} (hwanted : wanted ≠ .none) :
    PassesTo inside (e.holds wanted name) (inner.holds wanted name) := by
  intro state
  rw [outcome_holds e hwanted, outcome_holds inner hwanted, h state]

namespace MemoryStore

/-- The store with all marked keys removed. -/
def without (m : MemoryStore) (hidden : String → Bool) : MemoryStore :=
  { m with entries := m.entries.without hidden }

/-- A store around a store in memory which hides some keys: their probes say
that nothing is there or fail, and all other reads go through. -/
structure Veil (store : KeyStore ω) (inside : ω → MemoryStore) (order : FieldOrder)
    (hidden : String → Bool) : Prop where
  probe_hidden : ∀ {key}, hidden key = true → ∀ state,
    inside ((store.probeKind key).outcome state).2 = inside state ∧
      (((store.probeKind key).outcome state).1 = .ok .none ∨
        ∃ failure, failure.isConnectivity = false ∧
          ((store.probeKind key).outcome state).1 = .error failure)
  probe : ∀ {key}, hidden key = false →
    PassesTo inside (store.probeKind key) (MemoryStore.store.probeKind key)
  getScalar : ∀ key, PassesTo inside (store.getScalar key) (MemoryStore.getScalar key)
  getHash : ∀ key,
    PassesTo inside (store.getHash key) ((MemoryStore.store.withFieldOrder order).getHash key)
  hasHashField : ∀ key field,
    PassesTo inside (store.hasHashField key field) (MemoryStore.hasHashField key field)
  getHashField : ∀ key field,
    PassesTo inside (store.getHashField key field) (MemoryStore.getHashField key field)
  getList : ∀ key, PassesTo inside (store.getList key) (MemoryStore.getList key)

namespace Veil

variable {store : KeyStore ω} {inside : ω → MemoryStore} {order : FieldOrder}
  {hidden : String → Bool}

/-- What is left when keys are removed was there before. -/
theorem stored_of_without {entries : NameMap StoredValue} {name : String} {value : StoredValue}
    (h : (entries.without hidden).get? name = some value) : entries.get? name = some value := by
  rw [NameMap.get?_without] at h
  split at h
  · cases h
  · exact h

/-- Probing tells apart what is not hidden. -/
theorem holds (h : Veil store inside order hidden) (settings : Settings)
    (entries : NameMap StoredValue) (scope : Scope) {wanted : KeyKind} (hwanted : wanted ≠ .none)
    (name : String) :
    Gives (fun state => Holding entries (inside state))
      (Engine.holds ⟨settings, store⟩ wanted name)
      (.ok (decide ((View.mk settings scope order (entries.without hidden)).kindAt name =
        wanted))) := by
  rw [View.kindAt, NameMap.get?_without]
  by_cases hname : hidden name = true
  · -- whatever the probe answers, it tells that nothing is there
    intro state hstate
    obtain ⟨hsame, hanswer⟩ := h.probe_hidden hname state
    rw [← hsame] at hstate
    refine ⟨_, hstate, ?_⟩
    have htold : KeyKind.ofProbe ((store.probeKind name).outcome state).1 = .ok .none := by
      rcases hanswer with hnothing | ⟨failure, hreach, hfailed⟩
      · rw [hnothing]
        rfl
      · rw [hfailed]
        simp [KeyKind.ofProbe, hreach]
    rw [Engine.outcome_holds _ hwanted, htold, if_pos hname]
    rfl
  · -- the probe goes through, and the store inside shows all its entries
    have hprobe := h.probe (Bool.eq_false_iff.2 hname)
    have hinner := (shows ⟨settings, scope, order, entries⟩).holds wanted name hwanted
    rw [if_neg hname]
    have hpasses : PassesTo inside (Engine.holds ⟨settings, store⟩ wanted name)
        (Engine.holds ⟨settings, MemoryStore.store.withFieldOrder order⟩ wanted name) :=
      Engine.passesTo_holds hprobe hwanted
    exact hpasses.gives hinner

/-- What a veiled store shows is what is not hidden. -/
theorem shows (h : Veil store inside order hidden) (settings : Settings) (scope : Scope)
    (entries : NameMap StoredValue) :
    store.Shows (fun state => Holding entries (inside state))
      ⟨settings, scope, order, entries.without hidden⟩ where
  holds _ name hwanted := h.holds settings entries scope hwanted name
  getScalar {name _} hstored :=
    (h.getScalar name).gives ((MemoryStore.shows ⟨settings, scope, order, entries⟩).getScalar
      (stored_of_without hstored))
  getHash {name _} hstored :=
    (h.getHash name).gives ((MemoryStore.shows ⟨settings, scope, order, entries⟩).getHash
      (stored_of_without hstored))
  hasHashField {name _} field hstored :=
    (h.hasHashField name field).gives
      ((MemoryStore.shows ⟨settings, scope, order, entries⟩).hasHashField field
        (stored_of_without hstored))
  getHashField {name _ field _} hstored hfield :=
    (h.getHashField name field).gives
      ((MemoryStore.shows ⟨settings, scope, order, entries⟩).getHashField
        (stored_of_without hstored) hfield)
  getList {name _} hstored :=
    (h.getList name).gives ((MemoryStore.shows ⟨settings, scope, order, entries⟩).getList
      (stored_of_without hstored))

end Veil

/-- A store in memory whose probes are answered in another way for some keys
is veiled at these keys. -/
theorem veil_withProbe (order : FieldOrder)
    {reply? : String → Option (Except Failure KeyKind)}
    (h : ∀ key reply, reply? key = some reply →
      reply = .ok .none ∨ ∃ failure, failure.isConnectivity = false ∧ reply = .error failure) :
    Veil ((store.withFieldOrder order).withProbe reply?) id order
      (fun key => (reply? key).isSome) where
  probe_hidden := by
    intro key hhidden state
    obtain ⟨reply, hreply⟩ := Option.isSome_iff_exists.1 hhidden
    simp only [KeyStore.withProbe, hreply]
    exact ⟨rfl, h key reply hreply⟩
  probe := by
    intro key hshown state
    have hnone : reply? key = none := by simpa using hshown
    simp only [KeyStore.withProbe, hnone]
    rfl
  getScalar _ _ := rfl
  getHash _ _ := rfl
  hasHashField _ _ _ := rfl
  getHashField _ _ _ := rfl
  getList _ _ := rfl

/-- A key that cannot be probed is the same as an absent key: on an available
store in memory behind a veil every request is answered as it is on the store
without the hidden keys. -/
theorem serve_veiled {store : KeyStore ω} {inside : ω → MemoryStore} {order : FieldOrder}
    {hidden : String → Bool} (h : Veil store inside order hidden) (settings : Settings)
    (scope : Scope) (barerOrder : FieldOrder) {state : ω}
    (havailable : (inside state).unavailable = false) (request : Request) :
    request.SameAnswer
      (((Engine.mk settings store).serve scope request).outcome state).1
      (((engine settings barerOrder).serve scope request).outcome
        ((inside state).without hidden)).1 := by
  let v : View := ⟨settings, scope, order, (inside state).entries.without hidden⟩
  let w : View := ((inside state).without hidden).view settings scope barerOrder
  have hshows := h.shows settings scope (inside state).entries
  have hveiled : (((Engine.mk settings store).serve scope request).outcome state).1 =
      v.reply (v.expansionAt 0) request := by
    rw [Engine.serve_eq_serveBy]
    exact (hshows.serveBy (hshows.expandAt 0) request).result_eq ⟨rfl, havailable⟩
  have hbare := serve_result settings scope barerOrder
    (show ((inside state).without hidden).unavailable = false from havailable) request
  rw [hveiled, hbare]
  have hlike : v.ReadsLike w := ⟨rfl, fun _ => rfl, fun _ _ => rfl, fun _ => rfl⟩
  exact hlike.answer request

/-- A link and the host in it, each of them also for one site. -/
def sites : MemoryStore where
  entries := NameMap.ofList
    [("cfg:default:url", .string "http://$\x7bdb/host\x7d"), ("cfg:site:url", .string "none"),
      ("cfg:default:db", .hash (NameMap.ofList [("host", "db1")])),
      ("cfg:site:db", .hash (NameMap.ofList [("host", "db2")]))]

/-- Probes that fail at the link of the site, and find nothing at its host. -/
def siteReply? (key : String) : Option (Except Failure KeyKind) :=
  if key = "cfg:site:url" then some (.error (.unsupportedKeyType key "zset"))
  else if key = "cfg:site:db" then some (.ok .none)
  else none

/-- With both keys of the site hidden the link is that of all sites. -/
theorem serve_veiled_sites :
    Veil ((store.withFieldOrder .byName).withProbe siteReply?) id .byName
        (fun key => (siteReply? key).isSome) ∧
      sites.unavailable = false ∧
      (((Engine.mk { keyPaths := ["site", "default"] }
        ((store.withFieldOrder .byName).withProbe siteReply?)).serve .empty
          (.scalar "url")).outcome sites).1 = .ok ⟨"http://db1", "cfg:default:url"⟩ := by
  have hveil : Veil ((store.withFieldOrder .byName).withProbe siteReply?) id .byName
      (fun key => (siteReply? key).isSome) := by
    apply veil_withProbe
    intro key reply hreply
    unfold siteReply? at hreply
    split at hreply
    · cases hreply
      exact Or.inr ⟨_, rfl, rfl⟩
    · split at hreply
      · cases hreply
        exact Or.inl rfl
      · cases hreply
  have havailable : (id sites).unavailable = false := rfl
  refine ⟨hveil, havailable, ?_⟩
  have hsame := serve_veiled hveil { keyPaths := ["site", "default"] } .empty .byName
    havailable (.scalar "url")
  refine Eq.trans hsame ?_
  decide +kernel

end MemoryStore

end LayeredConfig
