/-
Payloads carry stored values whole.  Every text that spells an object of a kind
and its data is decoded as the value, whichever of the two comes first, however
the fields of a hash are listed, whatever escapes are used and wherever blanks
stand.
-/
import LayeredConfig.StoredValue
import LayeredConfig.Proofs.Json.Writing
import LayeredConfig.Proofs.Listing

namespace LayeredConfig.StoredValue

/-- The JSON that lists what a value holds.  The fields of a hash are listed in
any order. -/
inductive Lists : StoredValue → Json → Prop
  | string (value : String) : Lists (.string value) (.text value)
  | hash {fields : NameMap String} {listing : List (String × String)} :
      listing.Perm fields.entries →
        Lists (.hash fields) (.object (listing.map fun entry => (some entry.1, .text entry.2)))
  | list (entries : List String) : Lists (.list entries) (.array (entries.map .text))

/-- The JSON that carries a value: an object of its kind and its data, in either
order. -/
inductive Carries : StoredValue → Json → Prop
  | typeFirst {value : StoredValue} {data : Json} : Lists value data →
      Carries value (.object [(some "type", .text value.kind.tag), (some "data", data)])
  | dataFirst {value : StoredValue} {data : Json} : Lists value data →
      Carries value (.object [(some "data", data), (some "type", .text value.kind.tag)])

section Reading

variable {value : StoredValue} {data json : Json}

theorem text?_text (s : String) : text? (.text s) = some s := rfl

theorem field?_text (entry : String × String) : field? (some entry.1, .text entry.2) = some entry :=
  rfl

theorem Lists.ofData?_eq (h : Lists value data) : ofData? value.kind data = some value := by
  cases h with
  | string value => rfl
  | @hash fields listing hperm =>
      change ((listing.map fun entry => (some entry.1, .text entry.2)).mapM field?).map _ = _
      rw [mapM_map_eq_some field?_text, Option.map_some, NameMap.ofList_of_perm hperm]
  | list entries =>
      change ((entries.map .text).mapM text?).map StoredValue.list = _
      rw [mapM_map_eq_some text?_text, Option.map_some]

theorem kind?_tag (kind : KeyKind) : kind? (.text kind.tag) = some kind :=
  KeyKind.ofTag?_tag kind

theorem Carries.ofJson?_eq (h : Carries value json) : ofJson? json = some value := by
  cases h with
  | @typeFirst data hlists =>
      change (kind? (.text value.kind.tag)).bind (fun kind => ofData? kind data) = _
      rw [kind?_tag, Option.bind_some, hlists.ofData?_eq]
  | @dataFirst data hlists =>
      change (kind? (.text value.kind.tag)).bind (fun kind => ofData? kind data) = _
      rw [kind?_tag, Option.bind_some, hlists.ofData?_eq]

theorem Carries.decode_eq {payload : String} (h : Carries value json)
    (hspells : Json.Spells payload.toList json) : decode payload = .ok value := by
  rw [decode, Json.parse?_of_spells hspells, Option.bind_some, h.ofJson?_eq]

end Reading

section Writing

variable {value : StoredValue} {data json : Json}

theorem Lists.isLegible (h : Lists value data) : data.IsLegible := by
  cases h with
  | string value => exact Json.isLegible_text value
  | @hash fields listing _ => exact Json.isLegible_object_map Json.isLegible_text listing
  | list entries => exact Json.isLegible_array_map Json.isLegible_text entries

theorem Carries.isLegible (h : Carries value json) : json.IsLegible := by
  have hkind : (Json.text value.kind.tag).IsLegible := Json.isLegible_text value.kind.tag
  cases h with
  | typeFirst hlists => exact Json.isLegible_pair hkind hlists.isLegible
  | dataFirst hlists => exact Json.isLegible_pair hlists.isLegible hkind

theorem carries_toJson (value : StoredValue) : Carries value value.toJson := by
  cases value with
  | string value => exact .typeFirst (.string value)
  | hash fields => exact .typeFirst (.hash (List.Perm.refl fields.entries))
  | list entries => exact .typeFirst (.list entries)

end Writing

/-- A value is decoded from every text of every JSON that carries it, and each
such JSON has a text, its own encoding among them.  So what a payload is decoded
as is decoded again from its encoding, whatever the payload looked like. -/
theorem decode_carried (value : StoredValue) :
    (∀ json payload, Carries value json → Json.Spells payload.toList json →
      decode payload = .ok value) ∧
    (∀ json, Carries value json → Json.Spells json.render.toList json) ∧
    Carries value value.toJson ∧
    ∀ payload, decode payload = .ok value → decode value.toJson.render = decode payload := by
  refine ⟨?_, ?_, carries_toJson value, ?_⟩
  · intro json payload hcarries hspells
    exact hcarries.decode_eq hspells
  · intro json hcarries
    exact hcarries.isLegible.spells_render
  · intro payload hpayload
    have hcarries := carries_toJson value
    rw [hpayload, hcarries.decode_eq hcarries.isLegible.spells_render]

/-- The data first, its fields out of order, blanks around a colon, and a
character beyond 16 bits as two units. -/
theorem decode_carried_spaced :
    let payload :=
      "\x7b\"data\" : \x7b\"b\":\"\\ud83d\\ude00\",\"a\":\"1\"\x7d,\"type\":\"hash\"\x7d"
    let fields := NameMap.ofList [("a", "1"), ("b", "😀")]
    decode payload = .ok (hash fields) ∧ decode (hash fields).toJson.render = decode payload := by
  intro payload fields
  let data := Json.object [(some "b", .text "😀"), (some "a", .text "1")]
  let json := Json.object [(some "data", data), (some "type", .text "hash")]
  have hlisting : [("b", "😀"), ("a", "1")].Perm fields.entries := List.Perm.swap _ _ []
  have hlists := Lists.hash hlisting
  have hcarries : Carries (hash fields) json := .dataFirst hlists
  have hblank : Json.IsGap [' '] := fun c hc => List.mem_append_left ['\t', '\n', '\r'] hc
  have hzero : Json.IsHexDigit '0' 0 := Json.IsHexDigit.decimal (by decide : 0 < 10)
  have hhigh : Json.NamesUnit ['d', '8', '3', 'd'] (0xD800 + 0x3D) :=
    .digits (.small (by decide : 3 < 6)) (.decimal (by decide : 8 < 10))
      (.decimal (by decide : 3 < 10)) (.small (by decide : 3 < 6))
  have hlow : Json.NamesUnit ['d', 'e', '0', '0'] (0xDC00 + 0x200) :=
    .digits (.small (by decide : 3 < 6)) (.small (by decide : 4 < 6)) hzero hzero
  have hunits : '😀'.toNat = 0x10000 + 0x3D * 0x400 + 0x200 := by decide
  have hface : Json.SpellsText _ "😀".toList :=
    .pair (by decide) (by decide) hhigh hlow hunits .nil
  have hdata : Json.SpellsBare _ data :=
    .object (.more (.named Json.isGap_nil (Json.spellsString_quote "b") Json.isGap_nil
      (Json.SpellsBare.string (.quoted hface)).spells)
      (.last (Json.spellsMember_chars (Json.isLegible_text "1"))))
  have hjson : Json.SpellsBare _ json :=
    .object (.more (.named Json.isGap_nil (Json.spellsString_quote "data") hblank
      (.padded hblank hdata Json.isGap_nil))
      (.last (Json.spellsMember_chars (Json.isLegible_text "hash"))))
  have hspells : Json.Spells payload.toList json := by
    convert hjson.spells using 1
    decide +kernel
  obtain ⟨hdecode, -, -, hagain⟩ := decode_carried (hash fields)
  have hread : decode payload = .ok (hash fields) := hdecode json payload hcarries hspells
  exact ⟨hread, hagain payload hread⟩

end LayeredConfig.StoredValue
