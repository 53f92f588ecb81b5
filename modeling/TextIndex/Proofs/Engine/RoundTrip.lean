import TextIndex.Engine.Statistics
import TextIndex.Proofs.Engine.Settings
import TextIndex.Proofs.Json.Structures
import TextIndex.Proofs.KeyedLists

/-!
# Configurations and statistics found again from their JSON

A valid configuration is found again from its text, without its analyzers, and so is one that was
itself read from a text, in whichever of its forms. Statistics are found again with all their
counters, and their map has the same entries as their text.

* `Json.word?_integer`: words are read as they were written.
* `StoredConfig.ofJson?_toJson`, `Config.ofText_render`: configurations.
* `Statistics.ofJson?_toJson`, `Statistics.toList_toMap_perm`: statistics, and their map.
* `survives_json`: both.
-/

namespace TextIndex

theorem Json.word?_integer (word : UInt64) : (Json.integer word.toNat).word? = some word := by
  have small := word.toNat_lt
  have read := Json.integer?_integer (Int.natCast_nonneg word.toNat)
    (show (word.toNat : Int) ≤ UInt64.size - 1 by simp only [UInt64.size]; omega)
  unfold Json.word?
  rw [read]
  simp

/-! ### Configurations -/

/-- The part of a configuration that is stored. -/
def Config.stored (config : Config) : StoredConfig :=
  ⟨some config.workers, some config.capacity, config.timeout, config.policy, config.withPlaces⟩

theorem FailurePolicy.ofJson?_toJson (policy : FailurePolicy) :
    ofJson? policy.toJson = some policy := by
  unfold ofJson? toJson
  rw [Json.choice?_string]
  cases policy <;> decide

/-- **The stored part is read as it was written.** -/
theorem StoredConfig.ofJson?_toJson (config : Config) :
    ofJson? config.toJson = some config.stored := by
  have timeout : Json.nullable? Json.word?
      (.nullable (fun word => .integer word.toNat) config.timeout) = some config.timeout :=
    Json.nullable?_nullable Json.word?_integer nofun config.timeout
  unfold Config.toJson ofJson?
  rw [Json.record?_structured (by simp) (by simp)]
  simp [Record.orDefault, Record.find?, Json.word?_integer, timeout,
    FailurePolicy.ofJson?_toJson, Json.bool?, Config.stored]

namespace Config

theorem written_toJson (config : Config) : config.toJson.Written := by
  have timeout : (Json.nullable (fun word : UInt64 => .integer word.toNat)
      config.timeout).Written := by
    cases config.timeout with
    | none => exact .null
    | some milliseconds => exact Json.written_integer _
  exact Json.written_structured (by
    simp [Json.written_integer, timeout, FailurePolicy.toJson, Json.written_string,
      Json.Written.bool])

theorem ofText_eq_ok {processors : UInt64} {text : String} {config : Config} :
    ofText processors text = .ok config ↔
      ∃ stored, (Json.parse? text).bind StoredConfig.ofJson? = some stored ∧
        stored.toConfig processors = config ∧ config.validate = .ok () := by
  unfold ofText
  cases (Json.parse? text).bind StoredConfig.ofJson? with
  | none => exact iff_of_false nofun nofun
  | some stored =>
    show (stored.toConfig processors).validate.map _ = _ ↔ _
    cases checked : (stored.toConfig processors).validate with
    | error fault =>
      refine iff_of_false nofun fun ⟨other, same, read, valid⟩ => ?_
      obtain rfl := Option.some.inj same
      rw [read, valid] at checked
      cases checked
    | ok _ =>
      constructor
      · intro read
        obtain rfl := Except.ok.inj read
        exact ⟨stored, rfl, rfl, checked⟩
      · rintro ⟨other, same, rfl, -⟩
        obtain rfl := Option.some.inj same
        rfl

/-- **A valid configuration is found again from its text**, but for its analyzers. -/
theorem ofText_render {config : Config} (valid : config.validate = .ok ()) (processors : UInt64) :
    ofText processors config.toJson.render =
      .ok { config with analyzer := none, fieldAnalyzers := ∅ } := by
  refine ofText_eq_ok.mpr ⟨config.stored, ?_, rfl, valid⟩
  rw [Json.parse?_render config.written_toJson, Option.bind_some, StoredConfig.ofJson?_toJson]

/-- A text says how many workers there are and how many documents may wait. -/
def GivesCounts (text : String) : Prop :=
  ∃ stored, (Json.parse? text).bind StoredConfig.ofJson? = some stored ∧
    stored.workers.isSome ∧ stored.capacity.isSome

/-- A configuration that was read from a text is found again from its own. -/
theorem ofText_render_of_ofText {processors : UInt64} {text : String} {config : Config}
    (read : ofText processors text = .ok config) (other : UInt64) :
    ofText other config.toJson.render = .ok config := by
  obtain ⟨stored, -, rfl, valid⟩ := ofText_eq_ok.mp read
  exact ofText_render valid other

/-- What a text with both counts stands for does not depend on the processors. -/
theorem ofText_of_givesCounts {processors : UInt64} {text : String} {config : Config}
    (read : ofText processors text = .ok config) (gives : GivesCounts text) (other : UInt64) :
    ofText other text = .ok config := by
  obtain ⟨stored, found, rfl, valid⟩ := ofText_eq_ok.mp read
  obtain ⟨same, foundAgain, workers, capacity⟩ := gives
  obtain rfl : stored = same := Option.some.inj (found.symm.trans foundAgain)
  refine ofText_eq_ok.mpr ⟨stored, found, ?_, valid⟩
  obtain ⟨count, isCount⟩ := Option.isSome_iff_exists.mp workers
  obtain ⟨places, arePlaces⟩ := Option.isSome_iff_exists.mp capacity
  simp only [StoredConfig.toConfig, isCount, arePlaces, Option.getD_some]

end Config

/-! ### Statistics -/

namespace Statistics

variable (statistics : Statistics)

/-- The counters with their names. -/
def entries : List (String × UInt64) :=
  names.zip statistics.values

theorem nodup_names : names.Nodup := by
  decide

/-- The fields that are written for the counters. -/
def fields : List (String × Json) :=
  statistics.entries.map fun entry => (entry.1, .integer entry.2.toNat)

/-- The members of the text that is written for the counters. -/
def members : List (List Json.TextUnit × Json) :=
  statistics.fields.map fun field => (Json.TextUnit.ofString field.1, field.2)

theorem toJson_eq : statistics.toJson = .structured statistics.fields :=
  rfl

theorem written_toJson : statistics.toJson.Written := by
  refine Json.written_structured fun field member => ?_
  obtain ⟨entry, -, rfl⟩ := List.mem_map.mp (show field ∈ statistics.fields from member)
  exact Json.written_integer _

/-- **Statistics are read as they were written.** -/
theorem ofJson?_toJson : ofJson? statistics.toJson = some statistics := by
  have known : ∀ field ∈ statistics.fields, field.1 ∈ names := by
    intro field member
    obtain ⟨entry, isEntry, rfl⟩ := List.mem_map.mp member
    exact (List.of_mem_zip isEntry).1
  have distinct : (statistics.fields.map (·.1)).Nodup := nodup_names
  have found := Json.mapM_required Json.word?_integer
    (show (statistics.entries.map (·.1)).Nodup from nodup_names) false
  unfold ofJson?
  rw [toJson_eq, Json.record?_structured distinct known]
  show (names.mapM fun name => (⟨statistics.fields, false⟩ : Record).required name Json.word?).bind
    ofValues? = _
  exact congrArg (Option.bind · ofValues?) found

/-- Each member is read as the counter that it was written for. -/
theorem wordMember?_members : statistics.members.map wordMember? = statistics.entries.map some := by
  unfold members fields
  rw [List.map_map, List.map_map]
  refine List.map_congr_left fun entry _ => ?_
  simp [wordMember?, Json.TextUnit.decode?_ofString, Json.word?_integer]

/-- **The map of the counters has the entries of their text.** -/
theorem toList_toMap_perm : statistics.toMap.toList.Perm statistics.entries := by
  have entries : statistics.members.filterMap wordMember? = statistics.entries := by
    have split : statistics.members.filterMap wordMember? =
        (statistics.members.map wordMember?).filterMap id := by
      rw [List.filterMap_map]
      rfl
    rw [split, wordMember?_members, List.filterMap_map]
    exact List.filterMap_some
  have made : statistics.toMap = .ofList (statistics.members.filterMap wordMember?) := rfl
  rw [made, entries]
  exact toList_ofList_perm nodup_names

/-- Statistics are found again from their text, of which each member is one of the counters with its
name, and the map has just these entries. -/
structure Survives : Prop where
  found : (Json.parse? statistics.toJson.render).bind ofJson? = some statistics
  names : statistics.entries.map Prod.fst = names ∧ names.Nodup
  counters : ofValues? (statistics.entries.map Prod.snd) = some statistics
  members : ∃ members, Json.parse? statistics.toJson.render = some (.object members) ∧
    members.map wordMember? = statistics.entries.map some
  map : statistics.toMap.toList.Perm statistics.entries

theorem survives : statistics.Survives := by
  have read := Json.parse?_render statistics.written_toJson
  exact {
    found := by rw [read, Option.bind_some, statistics.ofJson?_toJson]
    names := ⟨rfl, nodup_names⟩
    counters := rfl
    members := ⟨statistics.members, read, statistics.wordMember?_members⟩
    map := statistics.toList_toMap_perm }

end Statistics

/-! ### Both -/

/-- **Configurations and statistics survive JSON.** A valid configuration is found again but for its
analyzers, whatever the number of processors; one that was read from a text is found again from its
own text, and from the first one too if that gives both counts; and statistics are found again, with
a map that has the entries of their text. -/
theorem survives_json :
    (∀ (config : Config) (processors : UInt64), config.validate = .ok () →
      Config.ofText processors config.toJson.render =
        .ok { config with analyzer := none, fieldAnalyzers := ∅ }) ∧
      (∀ (text : String) (processors : UInt64) (config : Config),
        Config.ofText processors text = .ok config → ∀ other : UInt64,
          Config.ofText other config.toJson.render = .ok config ∧
            (Config.GivesCounts text → Config.ofText other text = .ok config)) ∧
      ∀ statistics : Statistics, statistics.Survives := by
  refine ⟨fun config processors valid => Config.ofText_render valid processors,
    fun text processors config read other => ⟨Config.ofText_render_of_ofText read other,
      fun gives => Config.ofText_of_givesCounts read gives other⟩, Statistics.survives⟩

/-- A configuration with the largest words. -/
def Config.largest : Config where
  workers := 18446744073709551615
  capacity := 18446744073709551615
  timeout := some 18446744073709551615
  policy := .skip
  withPlaces := false
  analyzer := some (.standard (some 3))
  fieldAnalyzers := ∅

/-- The counts after an unknown key and in the wrong order, and the same counts in an array. -/
def StoredConfig.twoWorkersTexts : List String :=
  ["\x7b\"size\": [1.5, null], \"analysis_queue_capacity\": 7, \"analysis_workers\": 2\x7d",
    "[2, 7, null, \"reject\"]"]

/-- What both texts stand for. -/
def StoredConfig.twoWorkers : StoredConfig := ⟨some 2, some 7, none, .reject, true⟩

theorem survives_json_largest :
    (Config.largest.validate = .ok () ∧ Config.ofText 8 Config.largest.toJson.render =
      .ok { Config.largest with analyzer := none, fieldAnalyzers := ∅ }) ∧
      ∀ text ∈ StoredConfig.twoWorkersTexts, ∃ config, Config.ofText 8 text = .ok config ∧
        config = StoredConfig.twoWorkers.toConfig 8 ∧
        Config.ofText 1 config.toJson.render = .ok config ∧
        Config.GivesCounts text ∧ Config.ofText 1 text = .ok config := by
  have valid : Config.largest.validate = .ok () := rfl
  refine ⟨⟨valid, survives_json.1 Config.largest 8 valid⟩, fun text member => ?_⟩
  have stored : ∀ text ∈ StoredConfig.twoWorkersTexts,
      (Json.parse? text).bind StoredConfig.ofJson? = some StoredConfig.twoWorkers := by
    decide +kernel
  have gives : Config.GivesCounts text := ⟨_, stored text member, rfl, rfl⟩
  have read : Config.ofText 8 text = .ok (StoredConfig.twoWorkers.toConfig 8) :=
    Config.ofText_eq_ok.mpr ⟨_, stored text member, rfl, rfl⟩
  have again := survives_json.2.1 text 8 _ read 1
  exact ⟨_, read, rfl, again.1, gives, again.2 gives⟩

end TextIndex
