import ElasticEndpoint.Settings.File

/-!
Settings that data can give. Whatever kinds of values the data has, the settings that it is accepted as keep the rules
of their fields; and all settings that keep the rules are accepted, from their own fields. The rule of a time limit
lets one value through that is not above zero: the number that is none.
-/

namespace ElasticEndpoint

namespace Settings

open Decimal (Binary64)

section

variable {α : Type} {data : List (Value × Value)} {name : String} {check : Value → Checked α} {value : α}

theorem located_ok_iff {path : List Step} {input : Value} {checked : Checked α} :
    checked.located path input = .ok value ↔ checked = .ok value := by
  cases checked with
  | ok _ =>
    constructor
    · rintro ⟨⟩
      rfl
    · rintro ⟨⟩
      rfl
  | error _ => exact ⟨nofun, nofun⟩

/-- A field that may be left out has its default, or what its check makes of the data. -/
theorem optionalField_ok_iff {fallback : α} :
    optionalField data name fallback check = .ok value ↔
      match Value.lookup (.text name) data with
      | none => value = fallback
      | some input => check input = .ok value := by
  unfold optionalField
  cases Value.lookup (.text name) data with
  | none => simp [eq_comm]
  | some input => exact located_ok_iff

theorem requiredField_ok_iff :
    requiredField data name check = .ok value ↔
      ∃ input, Value.lookup (.text name) data = some input ∧ check input = .ok value := by
  unfold requiredField
  split
  next left => simp [left]
  next input given => simp [given, located_ok_iff]

/-- What an optional field keeps if its default and its check do. -/
theorem optionalField_keeps {fallback : α} (property : α → Prop) (read : optionalField data name fallback check = .ok value)
    (default : property fallback) (checked : ∀ input value, check input = .ok value → property value) :
    property value := by
  rw [optionalField_ok_iff] at read
  split at read
  · exact read ▸ default
  · exact checked _ _ read

end

theorem checkProject_ok_iff {s t : String} : checkProject s = .ok t ↔ t = s ∧ s.isEmpty = false := by
  unfold checkProject
  split
  next blank => simp [blank]
  next named => simp [named, eq_comm]

theorem checkPort_ok_iff {n m : Int} : checkPort n = .ok m ↔ m = n ∧ 0 ≤ n ∧ n ≤ 65535 := by
  have range : (0 ≤ n && n ≤ 65535) = true ↔ 0 ≤ n ∧ n ≤ 65535 := by simp
  unfold checkPort
  split
  next within => simp [range.mp within, eq_comm]
  next beyond =>
    rw [range] at beyond
    simp [beyond]

theorem checkTimeout_ok_iff {x y : Binary64} : checkTimeout x = .ok y ↔ y = x ∧ x.isAtMostZero = false := by
  unfold checkTimeout
  split
  next low => simp [low]
  next high => simp [high, eq_comm]

theorem checkInterval_ok_iff {n m : Int} : checkInterval n = .ok m ↔ m = n ∧ 1 ≤ n := by
  unfold checkInterval
  split
  next short => simp [short]
  next long => simp [show 1 ≤ n by omega, eq_comm]

/-- Settings whose fields keep their rules. -/
structure IsAdmissible (settings : Settings) : Prop where
  project : settings.projectId.isEmpty = false
  port : 0 ≤ settings.apiServerPort ∧ settings.apiServerPort ≤ 65535
  probeTimeout : settings.probeTimeout.isAtMostZero = false
  apiTimeout : settings.apiTimeout.isAtMostZero = false
  interval : 1 ≤ settings.interval

/-- Settings that a pass can work with. -/
structure IsUsable (settings : Settings) : Prop where
  project : settings.projectId.isEmpty = false
  port : 0 ≤ settings.apiServerPort ∧ settings.apiServerPort ≤ 65535
  probeTimeout : settings.probeTimeout.isPositive = true
  apiTimeout : settings.apiTimeout.isPositive = true
  interval : 1 ≤ settings.interval

theorem isPositive_iff {x : Binary64} (above : x.isAtMostZero = false) : x.isPositive = true ↔ x ≠ .nan := by
  cases x <;> simp_all [Binary64.isAtMostZero, Binary64.isPositive]

theorem IsAdmissible.usable_iff {settings : Settings} (admissible : settings.IsAdmissible) :
    settings.IsUsable ↔ settings.probeTimeout ≠ .nan ∧ settings.apiTimeout ≠ .nan := by
  rw [← isPositive_iff admissible.probeTimeout, ← isPositive_iff admissible.apiTimeout]
  constructor
  · exact fun usable => ⟨usable.probeTimeout, usable.apiTimeout⟩
  · exact fun ⟨probe, api⟩ => ⟨admissible.project, admissible.port, probe, api, admissible.interval⟩

theorem ofData_ok_iff {data : List (Value × Value)} {settings : Settings} :
    ofData data = .ok settings ↔
      requiredField data "project_id" (fun v => do checkProject (← v.toText)) = .ok settings.projectId ∧
      optionalField data "eip_tag" "" Value.toText = .ok settings.eipTag ∧
      optionalField data "api_key" none Value.toOptionalText = .ok settings.apiKey ∧
      optionalField data "api_url" defaultApiUrl Value.toText = .ok settings.apiUrl ∧
      optionalField data "api_server_port" 0 (fun v => do checkPort (← toInteger v)) = .ok settings.apiServerPort ∧
      optionalField data "probe_timeout_s" defaultProbeTimeout (fun v => do checkTimeout (← toNumber v)) =
        .ok settings.probeTimeout ∧
      optionalField data "api_timeout_s" defaultApiTimeout (fun v => do checkTimeout (← toNumber v)) =
        .ok settings.apiTimeout ∧
      optionalField data "reconcile_interval_s" 30 (fun v => do checkInterval (← toInteger v)) = .ok settings.interval ∧
      optionalField data "transport_error_policy" .unhealthy toPolicy = .ok settings.policy := by
  unfold ofData
  dsimp only
  generalize requiredField data "project_id" _ = projectId
  generalize optionalField data "eip_tag" _ _ = eipTag
  generalize optionalField data "api_key" _ _ = apiKey
  generalize optionalField data "api_url" _ _ = apiUrl
  generalize optionalField data "api_server_port" _ _ = port
  generalize optionalField data "probe_timeout_s" _ _ = probeTimeout
  generalize optionalField data "api_timeout_s" _ _ = apiTimeout
  generalize optionalField data "reconcile_interval_s" _ _ = interval
  generalize optionalField data "transport_error_policy" _ _ = policy
  constructor
  · intro accepted
    split at accepted
    · cases accepted
      simp
    · cases accepted
  · rintro ⟨rfl, rfl, rfl, rfl, rfl, rfl, rfl, rfl, rfl⟩
    rfl

theorem bind_ok_iff {α β : Type} {checked : Checked α} {next : α → Checked β} {value : β} :
    (do next (← checked)) = .ok value ↔ ∃ middle, checked = .ok middle ∧ next middle = .ok value := by
  cases checked <;> simp [bind, Except.bind]

private theorem above_of_read {data : List (Value × Value)} {name : String} {fallback x : Binary64}
    (read : optionalField data name fallback (fun v => do checkTimeout (← toNumber v)) = .ok x)
    (default : fallback.isAtMostZero = false) : x.isAtMostZero = false := by
  refine optionalField_keeps (fun x => x.isAtMostZero = false) read default fun input value read => ?_
  obtain ⟨_, -, checked⟩ := bind_ok_iff.mp read
  obtain ⟨rfl, above⟩ := checkTimeout_ok_iff.mp checked
  exact above

theorem admissible_of_ofData {data : List (Value × Value)} {settings : Settings}
    (accepted : ofData data = .ok settings) : settings.IsAdmissible := by
  obtain ⟨project, -, -, -, port, probe, api, interval, -⟩ := ofData_ok_iff.mp accepted
  constructor
  · obtain ⟨_, -, read⟩ := requiredField_ok_iff.mp project
    obtain ⟨_, -, checked⟩ := bind_ok_iff.mp read
    obtain ⟨same, named⟩ := checkProject_ok_iff.mp checked
    rwa [same]
  · refine optionalField_keeps (fun n => 0 ≤ n ∧ n ≤ 65535) port (by decide) fun input value read => ?_
    obtain ⟨_, -, checked⟩ := bind_ok_iff.mp read
    obtain ⟨rfl, within⟩ := checkPort_ok_iff.mp checked
    exact within
  · exact above_of_read probe (by decide)
  · exact above_of_read api (by decide)
  · refine optionalField_keeps (1 ≤ ·) interval (by decide) fun input value read => ?_
    obtain ⟨_, -, checked⟩ := bind_ok_iff.mp read
    obtain ⟨rfl, long⟩ := checkInterval_ok_iff.mp checked
    exact long

private theorem admissible_of_load {text : String} {settings : Settings} (loaded : load text = .ok settings) :
    settings.IsAdmissible := by
  have accepted (data : List (Value × Value)) (read : (ofData data).mapError LoadFault.refused = .ok settings) :
      settings.IsAdmissible := by
    cases given : ofData data with
    | ok other =>
      rw [given] at read
      cases read
      exact admissible_of_ofData given
    | error refusal =>
      rw [given] at read
      cases read
  unfold load at loaded
  split at loaded
  · cases loaded
  · unfold ofValue at loaded
    split at loaded
    · exact accepted [] loaded
    · split at loaded
      · split at loaded
        · exact accepted _ loaded
        · cases loaded
      · cases loaded

/-- The fields of settings as data. -/
def data (settings : Settings) : List (Value × Value) :=
  [(.text "api_key", settings.apiKey.elim .null .text),
    (.text "api_server_port", .int settings.apiServerPort),
    (.text "api_timeout_s", .real settings.apiTimeout),
    (.text "api_url", .text settings.apiUrl),
    (.text "eip_tag", .text settings.eipTag),
    (.text "probe_timeout_s", .real settings.probeTimeout),
    (.text "project_id", .text settings.projectId),
    (.text "reconcile_interval_s", .int settings.interval),
    (.text "transport_error_policy", .text settings.policy.word)]

/-- Settings that keep the rules are accepted from their own fields, and stay as they are. -/
theorem ofData_data {settings : Settings} (admissible : settings.IsAdmissible) : ofData settings.data = .ok settings := by
  obtain ⟨project, port, probe, api, interval⟩ := admissible
  rw [ofData_ok_iff]
  simp only [requiredField_ok_iff, optionalField_ok_iff]
  refine ⟨⟨.text settings.projectId, rfl, checkProject_ok_iff.mpr ⟨rfl, project⟩⟩, rfl, ?_, rfl,
    checkPort_ok_iff.mpr ⟨rfl, port⟩, checkTimeout_ok_iff.mpr ⟨rfl, probe⟩, checkTimeout_ok_iff.mpr ⟨rfl, api⟩,
    checkInterval_ok_iff.mpr ⟨rfl, interval⟩, ?_⟩
  · change Value.toOptionalText (settings.apiKey.elim .null .text) = .ok settings.apiKey
    cases settings.apiKey <;> rfl
  · change toPolicy (.text settings.policy.word) = .ok settings.policy
    cases settings.policy <;> rfl

/-- The settings that data can give are those that keep the rules, and a file gives no others; a pass can work with
them exactly if both time limits are numbers. -/
theorem accepted_iff_admissible (settings : Settings) :
    ((∃ data, ofData data = .ok settings) ↔ settings.IsAdmissible) ∧
      ((∃ text, load text = .ok settings) → settings.IsAdmissible) ∧
      (settings.IsAdmissible →
        (settings.IsUsable ↔ settings.probeTimeout ≠ .nan ∧ settings.apiTimeout ≠ .nan)) := by
  refine ⟨⟨?_, ?_⟩, ?_, IsAdmissible.usable_iff⟩
  · rintro ⟨data, accepted⟩
    exact admissible_of_ofData accepted
  · exact fun admissible => ⟨settings.data, ofData_data admissible⟩
  · rintro ⟨text, loaded⟩
    exact admissible_of_load loaded

/-- A time limit that is no number is accepted, though it is not above zero. -/
theorem accepted_noNumber :
    ∃ settings, ofData [(.text "project_id", .text "project"), (.text "probe_timeout_s", .real .nan)] = .ok settings ∧
      ¬settings.IsUsable :=
  ⟨⟨"project", "", none, defaultApiUrl, 0, .nan, defaultApiTimeout, 30, .unhealthy⟩, rfl,
    fun usable => nomatch usable.probeTimeout⟩

end Settings

end ElasticEndpoint
