import ElasticEndpoint.Proofs.AcceptedSettings
import ElasticEndpoint.Proofs.WrittenMapping

/-!
Settings files read back. What is written for settings is loaded as the same settings again, whatever data they were made
from.
-/

namespace ElasticEndpoint

namespace Settings

private theorem ofValue_data {settings : Settings} (admissible : settings.IsAdmissible) :
    ofValue (.map settings.data) = .ok settings := by
  have keyed : (settings.data.all fun entry => isTextKey entry.1) = true := rfl
  unfold ofValue
  simp only [keyed, if_true, ofData_data admissible]
  rfl

private theorem same_self {settings : Settings} (probe : settings.probeTimeout ≠ .nan) (api : settings.apiTimeout ≠ .nan) :
    settings.same settings = true := by
  simp [same, probe, api]

theorem short_port {n : Int} (port : 0 ≤ n ∧ n ≤ 65535) : Text.isTooLong n = false := by
  have below : n.natAbs < 10 ^ 5 := by omega
  have bound (limit : Nat) (above : 5 ≤ limit) : 10 ^ 5 ≤ Nat.pow 10 limit := Nat.pow_le_pow_right (by decide) above
  exact decide_eq_false (Nat.not_le.mpr (Nat.lt_of_lt_of_le below (bound Text.digitLimit (by decide))))

private theorem values_entries (settings : Settings) :
    settings.entries.map (fun entry => (Value.text entry.1, entry.2.value)) = settings.data := by
  unfold entries data
  cases settings.apiKey <;> rfl

/-- The names of the fields in their order. -/
def fieldNames : List String :=
  ["api_key", "api_server_port", "api_timeout_s", "api_url", "eip_tag", "probe_timeout_s", "project_id", "reconcile_interval_s",
    "transport_error_policy"]

private theorem names_entries (settings : Settings) : settings.entries.map (·.1) = fieldNames := rfl

/-- Every name of a field can stand as a key, and is read as text. -/
theorem fieldNames_keys {name : String} (isName : name ∈ fieldNames) :
    Yaml.IsKeyText name.toList ∧ Yaml.Tag.ofPlain name.toList = .str := by
  have all : ∀ name ∈ fieldNames, name.toList ≠ [] ∧ name.toList.all Yaml.isKeyChar = true ∧
      name.toList.length ≤ 1024 ∧ Yaml.Tag.ofPlain name.toList = .str := by
    decide +kernel
  obtain ⟨some, named, short, text⟩ := all name isName
  exact ⟨⟨some, List.all_eq_true.mp named, short⟩, text⟩

private theorem entries_writable {settings : Settings} (port : 0 ≤ settings.apiServerPort ∧ settings.apiServerPort ≤ 65535)
    (inverted : Yaml.toInteger (toString settings.interval).toList = .ok settings.interval) :
    ∀ entry ∈ settings.entries, Yaml.IsWritable entry := by
  intro entry mem
  have isName : entry.1 ∈ fieldNames := names_entries settings ▸ List.mem_map_of_mem mem
  obtain ⟨isKey, named⟩ := fieldNames_keys isName
  refine ⟨isKey, named, ?_⟩
  intro n isInt
  have integers : n = settings.apiServerPort ∨ n = settings.interval := by
    have others (key : Option String) : key.elim Yaml.Plain.null .text ≠ .int n := by cases key <;> nofun
    simp only [entries, List.mem_cons, List.not_mem_nil, or_false] at mem
    obtain rfl | rfl | rfl | rfl | rfl | rfl | rfl | rfl | rfl := mem
    · exact absurd isInt (others settings.apiKey)
    · exact .inl (Yaml.Plain.int.inj isInt).symm
    · cases isInt
    · cases isInt
    · cases isInt
    · cases isInt
    · cases isInt
    · exact .inr (Yaml.Plain.int.inj isInt).symm
    · cases isInt
  obtain rfl | rfl := integers
  · exact Yaml.toInteger_toString (short_port port)
  · exact inverted

theorem load_of_admissible {settings : Settings} (admissible : settings.IsAdmissible)
    (inverted : Yaml.toInteger (toString settings.interval).toList = .ok settings.interval) :
    load settings.save = .ok settings := by
  have distinct : (settings.entries.map (·.1)).Nodup := names_entries settings ▸ show fieldNames.Nodup by decide
  have read : Yaml.load (String.ofList (Text.unifyLineEnds (Yaml.write settings.entries).toList)) = _ :=
    Yaml.load_write (List.cons_ne_nil _ _) (entries_writable admissible.port inverted) distinct
  unfold load
  rw [save, read, values_entries]
  exact ofValue_data admissible

/-- The file of settings gives the same settings, unless a time limit is no number, and what is loaded is written as the
same text again. Of the format only one thing is taken for granted: that it reads the interval as the integer it writes. It
does so up to the longest integer that is converted, by Yaml.toInteger_toString. -/
theorem load_save {data : List (Value × Value)} {settings : Settings} (accepted : ofData data = .ok settings)
    (probe : settings.probeTimeout ≠ .nan) (api : settings.apiTimeout ≠ .nan)
    (inverted : Yaml.toInteger (toString settings.interval).toList = .ok settings.interval) :
    ∃ loaded, load settings.save = .ok loaded ∧ settings.same loaded = true ∧ loaded.save = settings.save := by
  exact ⟨settings, load_of_admissible (admissible_of_ofData accepted) inverted, same_self probe api, rfl⟩

/-- Settings whose texts could be taken for other things, without a key and with a limit that is infinite. -/
def oddSettings : Settings :=
  ⟨"123", "null", none, "it\x27s", 0, Decimal.Binary64.ofInt 5, .infinite false, 30, .error⟩

theorem load_save_odd :
    ∃ loaded, load oddSettings.save = .ok loaded ∧ oddSettings.same loaded = true ∧ loaded.save = oddSettings.save :=
  load_save (ofData_data ⟨rfl, by decide, rfl, rfl, by decide⟩) (by decide) (by decide)
    (Yaml.toInteger_toString (short_port (by decide)))

end Settings

end ElasticEndpoint
