/-
Answers as JSON lose nothing.  The text of an answer is read in one way only,
and what is read holds the kind of the answer and all its values with their
sources, so different answers have different texts.  The fields of a hash are
written in the order of their names.
-/
import LayeredConfig.Answer
import LayeredConfig.Proofs.Json.Writing
import LayeredConfig.Proofs.Listing

namespace LayeredConfig

namespace Sourced

/-- A value with its source, read from an object of just these two. -/
def ofJson? : Json → Option Sourced
  | .object [(some "value", .string (some value)), (some "source", .string (some source))] =>
      some ⟨value, source⟩
  | _ => none

theorem ofJson?_toJson (s : Sourced) : ofJson? s.toJson = some s := rfl

theorem isLegible_toJson (s : Sourced) : s.toJson.IsLegible :=
  Json.isLegible_pair (Json.isLegible_text s.value) (Json.isLegible_text s.source)

end Sourced

namespace Answer

/-- A field of a hash with its value, read from a member. -/
def field? : Option String × Json → Option (String × Sourced)
  | (some name, value) => (Sourced.ofJson? value).map (name, ·)
  | (none, _) => none

/-- The answer of a kind that data hold. -/
def ofData? : KeyKind → Json → Option Answer
  | .string, data => (Sourced.ofJson? data).map string
  | .hash, .object members => (members.mapM field?).map fun fields => hash (NameMap.ofList fields)
  | .list, .array items => (items.mapM Sourced.ofJson?).map list
  | _, _ => none

/-- The answer that JSON holds: an object of its kind and its data. -/
def ofJson? : Json → Option Answer
  | .object [(some "type", .string (some tag)), (some "data", data)] =>
      (KeyKind.ofTag? tag).bind fun kind => ofData? kind data
  | _ => none

theorem field?_toJson (entry : String × Sourced) :
    field? (some entry.1, entry.2.toJson) = some entry := rfl

theorem ofData?_data (answer : Answer) : ofData? answer.kind answer.data = some answer := by
  cases answer with
  | string value => rfl
  | hash fields =>
      change ((fields.entries.map fun entry => (some entry.1, entry.2.toJson)).mapM field?).map _ = _
      rw [mapM_map_eq_some field?_toJson, Option.map_some,
        NameMap.ofList_of_perm (List.Perm.refl fields.entries)]
  | list entries =>
      change ((entries.map Sourced.toJson).mapM Sourced.ofJson?).map list = _
      rw [mapM_map_eq_some Sourced.ofJson?_toJson, Option.map_some]

theorem ofJson?_toJson (answer : Answer) : ofJson? answer.toJson = some answer := by
  change (KeyKind.ofTag? answer.kind.tag).bind (fun kind => ofData? kind answer.data) = _
  rw [KeyKind.ofTag?_tag, Option.bind_some, ofData?_data]

theorem isLegible_data (answer : Answer) : answer.data.IsLegible := by
  cases answer with
  | string value => exact value.isLegible_toJson
  | hash fields => exact Json.isLegible_object_map Sourced.isLegible_toJson fields.entries
  | list entries => exact Json.isLegible_array_map Sourced.isLegible_toJson entries

theorem isLegible_toJson (answer : Answer) : answer.toJson.IsLegible :=
  Json.isLegible_pair (Json.isLegible_text answer.kind.tag) answer.isLegible_data

/-- Whatever the text of an answer spells holds the answer. -/
theorem ofJson?_of_spells {answer : Answer} {json : Json}
    (h : Json.Spells answer.toJson.render.toList json) : ofJson? json = some answer := by
  rw [h.unique answer.isLegible_toJson.spells_render, ofJson?_toJson]

/-- The fields of a hash are written in the order of their names. -/
theorem data_hash (fields : NameMap Sourced) :
    ∃ members, (hash fields).data = .object members ∧
      members.map Prod.fst = fields.names.map some ∧ fields.names.Pairwise (· < ·) := by
  refine ⟨fields.entries.map fun entry => (some entry.1, entry.2.toJson), rfl, ?_, ?_⟩
  · rw [NameMap.names, List.map_map, List.map_map]
    rfl
  · exact List.pairwise_map.2 fields.sorted

/-- The text of an answer is an object of the tag of its kind and of data that
hold it, with the fields of a hash in increasing order of their names.  The
text is read in no other way, so different answers have different texts. -/
theorem render_loses_nothing (answer : Answer) :
    (∃ data,
      Json.Spells answer.toJson.render.toList
        (.object [(some "type", .text answer.kind.tag), (some "data", data)]) ∧
      ofData? answer.kind data = some answer ∧
      ∀ fields, answer = hash fields →
        ∃ members, data = .object members ∧ members.map Prod.fst = fields.names.map some ∧
          fields.names.Pairwise (· < ·)) ∧
    (∀ json, Json.Spells answer.toJson.render.toList json → ofJson? json = some answer) ∧
    ∀ other : Answer, other ≠ answer → other.toJson.render ≠ answer.toJson.render := by
  refine ⟨⟨answer.data, answer.isLegible_toJson.spells_render, answer.ofData?_data, ?_⟩, ?_, ?_⟩
  · rintro fields rfl
    exact data_hash fields
  · intro json hspells
    exact ofJson?_of_spells hspells
  · intro other hne hrender
    have hspells := other.isLegible_toJson.spells_render
    rw [hrender] at hspells
    have hread : some other = some answer :=
      other.ofJson?_toJson.symm.trans (ofJson?_of_spells hspells)
    exact hne (Option.some.inj hread)

/-- A value that imitates the end of its own field is not taken for one, and
neither are a control, a line separator and a character beyond 16 bits lost. -/
theorem render_loses_nothing_imitated :
    let imitated := Answer.string ⟨"a\",\"source\":\"b", "\\\x01\u2028"⟩
    let fields := NameMap.ofList [("😀", (⟨"2", "k"⟩ : Sourced)), ("\"\uffff", ⟨"1", "k"⟩)]
    imitated.toJson.render ≠ (Answer.string ⟨"a", "b"⟩).toJson.render ∧
      (∃ json, Json.Spells imitated.toJson.render.toList json ∧ ofJson? json = some imitated) ∧
      ∃ data members, ofData? .hash data = some (hash fields) ∧ data = .object members ∧
        members.map Prod.fst = fields.names.map some ∧ fields.names.Pairwise (· < ·) := by
  intro imitated fields
  obtain ⟨⟨data, hspells, -, -⟩, hread, -⟩ := render_loses_nothing imitated
  obtain ⟨⟨table, -, hdata, hhash⟩, -, -⟩ := render_loses_nothing (hash fields)
  obtain ⟨members, htable⟩ := hhash fields rfl
  exact ⟨(render_loses_nothing (.string ⟨"a", "b"⟩)).2.2 imitated (by decide),
    ⟨_, hspells, hread _ hspells⟩, table, members, hdata, htable⟩

end Answer

end LayeredConfig
