/-
A store in memory and a server answer alike.  A hash or list with nothing in it
is there in memory and absent on the server, which the probes of a lookup can
tell apart and its answer cannot.  Every write, also one that is refused, keeps
the server holding what is in memory apart from those.
-/
import LayeredConfig.Proofs.ServerWrites
import LayeredConfig.Proofs.Union

namespace LayeredConfig

namespace StoredValue

theorem hasContent_eq_false_iff {value : StoredValue} :
    value.hasContent = false ↔ value = .hash NameMap.empty ∨ value = .list [] := by
  constructor
  · intro h
    cases value with
    | string text => cases h
    | hash fields =>
        obtain ⟨entries, hsorted⟩ := fields
        cases entries with
        | nil => exact .inl rfl
        | cons head rest => cases h
    | list entries =>
        cases entries with
        | nil => exact .inr rfl
        | cons head rest => cases h
  · rintro (rfl | rfl) <;> rfl

theorem fieldNamed?_of_not_hasContent {value : StoredValue} (h : value.hasContent = false)
    (field : String) : value.fieldNamed? field = none := by
  rcases hasContent_eq_false_iff.1 h with rfl | rfl <;> rfl

end StoredValue

namespace NameMap

variable {β : Type}

/-- The names with values that pass a test. -/
def keep (test : β → Bool) (m : NameMap β) : NameMap β :=
  ⟨m.entries.filter fun entry => test entry.2, m.sorted.filter _⟩

theorem get?_keep (test : β → Bool) (m : NameMap β) (name : String) :
    (m.keep test).get? name = (m.get? name).filter test := by
  obtain ⟨entries, hsorted⟩ := m
  simp only [get?, keep]
  induction entries with
  | nil => rfl
  | cons head rest ih =>
      obtain ⟨hhead, hrest⟩ := List.pairwise_cons.1 hsorted
      have ih := ih hrest
      by_cases hname : name = head.1
      · subst hname
        rw [find?_eq_none_of_lt hhead] at ih
        cases htest : test head.2 <;> simp [find?, htest, ih, Option.filter]
      · cases htest : test head.2 <;> simp [find?, htest, hname, ih]

theorem keep_assign (test : β → Bool) (m : NameMap β) (name : String) (value : Option β) :
    (m.assign name value).keep test = (m.keep test).assign name (value.filter test) := by
  apply ext_get?
  intro other
  rw [get?_keep, get?_assign, get?_assign, get?_keep]
  split <;> rfl

end NameMap

theorem Server.Data.Holds.assign {data : Server.Data} {entries : NameMap StoredValue}
    (h : data.Holds entries) (key : String) (value : Option StoredValue) :
    Server.Data.Holds (NameMap.assign data key (value.map StoredValue.onServer))
      (entries.assign key value) := by
  intro other
  rw [NameMap.get?_assign, NameMap.get?_assign, h]
  split <;> rfl

/-- Does a write that goes into a collection find one with something in it, or
nothing at all? -/
def Write.avoidsEmpty (entries : NameMap StoredValue) : Write → Bool
  | .setHashField key _ _ => (entries.get? key).all StoredValue.hasContent
  | .appendList key _ => (entries.get? key).all StoredValue.hasContent
  | _ => true

/-- Do writes, tried one after another, all do so? -/
def MemoryStore.avoidsEmpty (m : MemoryStore) : List Write → Bool
  | [] => true
  | w :: rest => w.avoidsEmpty m.entries && avoidsEmpty ((store.write w).outcome m).2 rest

/-- Does a write go into an empty collection of another kind? -/
def Write.crosses (entries : NameMap StoredValue) : Write → Bool
  | .setHashField key _ _ => entries.get? key = some (.list [])
  | .appendList key _ => entries.get? key = some (.hash NameMap.empty)
  | _ => false

theorem Write.crosses_of_avoidsEmpty {entries : NameMap StoredValue} {w : Write}
    (h : w.avoidsEmpty entries = true) : w.crosses entries = false := by
  have hfull {value : StoredValue} {key : String} (hempty : value.hasContent = false)
      (hall : (entries.get? key).all StoredValue.hasContent = true) :
      entries.get? key ≠ some value := by
    intro hstored
    rw [hstored, Option.all_some, hempty] at hall
    cases hall
  cases w with
  | setHashField key field value => exact decide_eq_false (hfull rfl h)
  | appendList key value => exact decide_eq_false (hfull rfl h)
  | _ => rfl

/-- Do writes, tried one after another, keep out of the empty collections of
another kind? -/
def MemoryStore.keepsApart (m : MemoryStore) : List Write → Bool
  | [] => true
  | w :: rest => !w.crosses m.entries && keepsApart ((store.write w).outcome m).2 rest

theorem MemoryStore.keepsApart_cons {m : MemoryStore} {w : Write} {rest : List Write} :
    m.keepsApart (w :: rest) = true ↔
      w.crosses m.entries = false ∧ keepsApart ((store.write w).outcome m).2 rest = true := by
  rw [keepsApart, Bool.and_eq_true, Bool.not_eq_true']

theorem MemoryStore.keepsApart_of_avoidsEmpty {m : MemoryStore} {writes : List Write}
    (h : m.avoidsEmpty writes = true) : m.keepsApart writes = true := by
  induction writes generalizing m with
  | nil => rfl
  | cons w rest ih =>
      obtain ⟨hw, hrest⟩ := Bool.and_eq_true_iff.1 h
      exact keepsApart_cons.2 ⟨Write.crosses_of_avoidsEmpty hw, ih hrest⟩

/-- Any other write does not see which empty collections there are. -/
theorem Write.result_keep {entries : NameMap StoredValue} {w : Write}
    (h : w.crosses entries = false) :
    w.result ((entries.keep StoredValue.hasContent).get? w.key) =
      w.result (entries.get? w.key) := by
  rw [NameMap.get?_keep]
  cases hstored : entries.get? w.key with
  | none => rfl
  | some value =>
      cases hcontent : value.hasContent with
      | true => rw [Option.filter_some_pos hcontent]
      | false =>
          rw [Option.filter_some_neg (by simp [hcontent])]
          -- an empty collection is lost on the way, and only one of the other kind is missed
          rcases StoredValue.hasContent_eq_false_iff.1 hcontent with rfl | rfl
          · cases w with
            | appendList key text => exact absurd hstored (of_decide_eq_false h)
            | _ => rfl
          · cases w with
            | setHashField key field text => exact absurd hstored (of_decide_eq_false h)
            | _ => rfl

namespace Connection

/-- The server that a connection reaches holds what a store in memory holds,
apart from empty collections. -/
structure Mirrors (connection : Connection) (m : MemoryStore) (state : PoolState) : Prop where
  available : m.unavailable = false
  serving : connection.Serving state.server.data state
  holds : state.server.data.Holds (m.entries.keep StoredValue.hasContent)

namespace Mirrors

variable {connection : Connection} {m : MemoryStore} {state : PoolState}

theorem start (hlive : MemoryStore.Holding NameMap.empty m)
    (hserving : connection.Serving NameMap.empty state) : connection.Mirrors m state where
  available := hlive.2
  serving := by
    rw [hserving.data_eq]
    exact hserving
  holds := by
    rw [hserving.data_eq, hlive.1]
    intro key
    rfl

/-- The same write on both sides keeps them alike. -/
theorem after_write (h : connection.Mirrors m state) {w : Write}
    (hw : w.crosses m.entries = false) :
    connection.Mirrors ((MemoryStore.store.write w).outcome m).2
      ((connection.store.write w).outcome state).2 := by
  have hcontent : ∀ key value, (m.entries.keep StoredValue.hasContent).get? key = some value →
      value.hasContent = true := by
    intro key value hstored
    rw [NameMap.get?_keep] at hstored
    exact (Option.filter_eq_some_iff.1 hstored).2
  have hserving := h.serving.after_write h.holds hcontent w
  rw [Write.result_keep hw] at hserving
  rw [MemoryStore.after_write h.available]
  constructor
  case available => exact h.available
  case serving =>
    rw [hserving.data_eq]
    exact hserving
  case holds =>
    rw [hserving.data_eq, NameMap.keep_assign]
    exact h.holds.assign w.key _

theorem after_keepsApart (h : connection.Mirrors m state) {writes : List Write}
    (hwrites : m.keepsApart writes = true) :
    connection.Mirrors (MemoryStore.store.afterWrites writes m)
      (connection.store.afterWrites writes state) := by
  induction writes generalizing m state with
  | nil => exact h
  | cons w rest ih =>
      obtain ⟨hw, hrest⟩ := MemoryStore.keepsApart_cons.1 hwrites
      exact ih (h.after_write hw) hrest

theorem afterWrites (h : connection.Mirrors m state) {writes : List Write}
    (hwrites : m.avoidsEmpty writes = true) :
    connection.Mirrors (MemoryStore.store.afterWrites writes m)
      (connection.store.afterWrites writes state) :=
  h.after_keepsApart (MemoryStore.keepsApart_of_avoidsEmpty hwrites)

end Mirrors

end Connection

namespace View

variable {v w : View}

theorem stored_of_keep (hsettings : v.settings = w.settings) (hscope : v.scope = w.scope)
    (hentries : w.entries = v.entries.keep StoredValue.hasContent) {α : Type}
    {read? : StoredValue → Option α}
    (hread : ∀ value, value.hasContent = false → read? value = none) (key : String) :
    v.stored key read? = w.stored key read? := by
  have hnames : v.names key = w.names key := by rw [names, names, hsettings, hscope]
  unfold stored
  rw [hnames, hentries]
  congr 1
  funext name
  rw [NameMap.get?_keep]
  cases v.entries.get? name with
  | none => rfl
  | some value =>
      cases hcontent : value.hasContent with
      | true => rw [Option.filter_some_pos hcontent]
      | false =>
          rw [Option.filter_some_neg (by simp [hcontent]), Option.bind_some, hread value hcontent]
          rfl

theorem listEntries_eq_flatMap (v : View) (key : String) :
    v.listEntries key = (v.names key).flatMap fun name =>
      (((v.entries.get? name).bind StoredValue.list?).getD []).map (⟨·, name⟩) := by
  unfold listEntries stored
  induction v.names key with
  | nil => rfl
  | cons name rest ih =>
      rw [List.filterMap_cons, List.flatMap_cons, ← ih]
      cases (v.entries.get? name).bind StoredValue.list? <;> rfl

/-- Empty collections make no difference to what is read. -/
theorem readsLike_of_keep (hsettings : v.settings = w.settings) (hscope : v.scope = w.scope)
    (hentries : w.entries = v.entries.keep StoredValue.hasContent) : v.ReadsLike w where
  settings := hsettings
  strings := by
    refine stored_of_keep hsettings hscope hentries fun value hcontent => ?_
    rcases StoredValue.hasContent_eq_false_iff.1 hcontent with rfl | rfl <;> rfl
  fields key field :=
    stored_of_keep hsettings hscope hentries
      (fun _ hcontent => StoredValue.fieldNamed?_of_not_hasContent hcontent field) key
  lists := by
    intro key
    have hnames : v.names key = w.names key := by rw [names, names, hsettings, hscope]
    rw [listEntries_eq_flatMap, listEntries_eq_flatMap, hnames, hentries]
    congr 1
    funext name
    rw [NameMap.get?_keep]
    cases v.entries.get? name with
    | none => rfl
    | some value =>
        cases hcontent : value.hasContent with
        | true => rw [Option.filter_some_pos hcontent]
        | false =>
            rw [Option.filter_some_neg (by simp [hcontent])]
            rcases StoredValue.hasContent_eq_false_iff.1 hcontent with rfl | rfl <;> rfl

end View

namespace Connection

theorem Mirrors.serve {connection : Connection} {m : MemoryStore} {state : PoolState}
    (h : connection.Mirrors m state) (settings : Settings) (scope : Scope)
    (order serverOrder : FieldOrder) (request : Request) :
    request.SameAnswer
      (((MemoryStore.engine settings order).serve scope request).outcome m).1
      (((Engine.mk settings (connection.store.withFieldOrder serverOrder)).serve scope
        request).outcome state).1 := by
  let v := m.view settings scope order
  let w : View := ⟨settings, scope, serverOrder, m.entries.keep StoredValue.hasContent⟩
  have hshows := connection.shows w h.holds
  have hserver : (((Engine.mk settings (connection.store.withFieldOrder serverOrder)).serve scope
      request).outcome state).1 = w.reply (w.expansionAt 0) request := by
    rw [Engine.serve_eq_serveBy]
    exact (hshows.serveBy (hshows.expandAt 0) request).result_eq h.serving
  rw [MemoryStore.serve_result settings scope order h.available, hserver]
  have hlike : v.ReadsLike w := View.readsLike_of_keep rfl rfl rfl
  exact hlike.answer request

/-- After the same writes, tried on an empty store in memory and through a
connection to an empty server, lookups are answered alike, in whatever orders
the two list the fields of hashes.  Writes may be refused and may store empty
collections, as long as none goes into a collection that is empty. -/
theorem serve_after_writes {connection : Connection} {m : MemoryStore} {start : PoolState}
    (hmemory : MemoryStore.Holding NameMap.empty m)
    (hserver : connection.Serving NameMap.empty start) {writes : List Write}
    (hwrites : m.avoidsEmpty writes = true) (settings : Settings) (scope : Scope)
    (order serverOrder : FieldOrder) (request : Request) :
    request.SameAnswer
      (((MemoryStore.engine settings order).serve scope request).outcome
        (MemoryStore.store.afterWrites writes m)).1
      (((Engine.mk settings (connection.store.withFieldOrder serverOrder)).serve scope
        request).outcome (connection.store.afterWrites writes start)).1 :=
  ((Mirrors.start hmemory hserver).afterWrites hwrites).serve settings scope order serverOrder
    request

/-- A server with one connection that has been accepted. -/
def freshServer : PoolState where
  server := { address := .tcp "localhost" 6379, accepted := 1 }

/-- Writes on one key that put an empty hash, fields in place of it, an entry
that is refused and one more field. -/
def databaseWrites : List Write :=
  [.setHash "cfg:default:db" NameMap.empty,
    .setHash "cfg:default:db" (NameMap.ofList [("host", "db1"), ("port", "1")]),
    .appendList "cfg:default:db" "replica",
    .setHashField "cfg:default:db" "port" "$\x7bport\x7d",
    .setList "cfg:default:hosts" [],
    .storeValue "cfg:default:port" (.string "5432")]

theorem serve_after_writes_database :
    MemoryStore.Holding NameMap.empty {} ∧
      (Connection.mk 0).Serving NameMap.empty freshServer ∧
      MemoryStore.avoidsEmpty {} databaseWrites = true ∧
      (((Engine.mk {} ((Connection.mk 0).store.withFieldOrder .byName)).serve .empty
        (.hashField "db" "port")).outcome
          ((Connection.mk 0).store.afterWrites databaseWrites freshServer)).1 =
        .ok ⟨"5432", "cfg:default:db"⟩ := by
  have hmemory : MemoryStore.Holding NameMap.empty {} := ⟨rfl, rfl⟩
  have hserver : (Connection.mk 0).Serving NameMap.empty freshServer := ⟨rfl, rfl, rfl⟩
  have hwrites : MemoryStore.avoidsEmpty {} databaseWrites = true := by decide +kernel
  refine ⟨hmemory, hserver, hwrites, ?_⟩
  have hsame := serve_after_writes hmemory hserver hwrites {} .empty .byName .byName
    (.hashField "db" "port")
  refine Eq.trans (Eq.symm hsame) ?_
  decide +kernel

end Connection

end LayeredConfig
