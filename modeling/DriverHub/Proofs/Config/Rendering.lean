import DriverHub.Proofs.Config.Document
import DriverHub.Proofs.Name

/-! A configuration text with a setting on each line says what the configuration is. The settings it lists
are replaced in the default configuration, in whatever order it lists them, and what they come to is judged
by the rules for configurations. A key that stands there twice, or that is no setting's, spoils the text. -/
namespace DriverHub.Config

/-- A rule for configurations, and what is said of one that breaks it. -/
structure Rule where
  broken : Config → Bool
  message : String

/-- The rules, in the order in which they are checked. -/
def rules : List Rule := [
  ⟨fun config => config.maxDrivers.toNat < 1, "invalid ndev config: max_drivers must be at least 1"⟩,
  ⟨fun config => 2048 < config.maxDrivers.toNat, "invalid ndev config: max_drivers exceeds 2048"⟩,
  ⟨fun config => config.sendDepth.toNat < 1 ∨ config.receiveDepth.toNat < 1,
    "invalid ndev config: queue depths must be at least 1"⟩,
  ⟨fun config => 255 < config.sendDepth.toNat ∨ 255 < config.receiveDepth.toNat,
    "invalid ndev config: queue depths must not exceed 255"⟩]

/-- The configuration is answered if it keeps all rules, and otherwise the first one that it breaks. -/
def Judged (config : Config) (answer : Except ReadError Config) : Prop :=
  match rules.find? fun rule => rule.broken config with
  | none => answer = .ok config
  | some rule => ∃ fault : CapacityFault, answer = .error (.refused fault) ∧ fault.message = rule.message

variable {config a b : Config} {listed : List (Setting × Nat)}

theorem judged_validated (config : Config) :
    config.Judged (config.validated.mapError .refused) := by
  have hzero (count : UInt64) : count = 0 ↔ count.toNat < 1 := by
    rw [← UInt64.toNat_inj, UInt64.toNat_zero, Nat.lt_one_iff]
  have hdrivers : driverLimit < config.maxDrivers ↔ 2048 < config.maxDrivers.toNat := UInt64.lt_iff_toNat_lt
  have hdepth (count : UInt64) : depthLimit < count ↔ 255 < count.toNat := UInt64.lt_iff_toNat_lt
  unfold Judged validated fault?
  simp only [rules, List.find?_cons, List.find?_nil, hzero, hdrivers, hdepth]
  split_ifs with hnone hmany hempty hdeep
  · simp only [hnone, decide_true]
    exact ⟨.noDrivers, rfl, rfl⟩
  · simp only [hnone, hmany, decide_true, decide_false]
    exact ⟨.tooManyDrivers, rfl, rfl⟩
  · simp only [hnone, hmany, hempty, decide_true, decide_false]
    exact ⟨.emptyQueue, rfl, rfl⟩
  · simp only [hnone, hmany, hempty, hdeep, decide_true, decide_false]
    exact ⟨.deepQueue, rfl, rfl⟩
  · simp only [hnone, hmany, hempty, hdeep, decide_false]
    rfl

theorem validated_eq_ok_iff :
    a.validated.mapError ReadError.refused = .ok b ↔ a.Valid ∧ b = a := by
  unfold validated Valid
  cases a.fault? with
  | none => simp [Except.mapError, eq_comm]
  | some fault => simp [Except.mapError]

namespace Reader

variable {reader : Reader}

theorem ofTextOr_of_some {text : String} (h : reader.read? text = some config) (malformed : ReadError) :
    reader.ofTextOr malformed text = config.validated.mapError .refused := by
  rw [ofTextOr, h]

theorem ofTextOr_of_none {text : String} (h : reader.read? text = none) (malformed : ReadError) :
    reader.ofTextOr malformed text = .error malformed := by
  rw [ofTextOr, h]

/-- A file that holds a text is read as this text is, but for how a malformed one is called. -/
theorem ofFile_ofText (reader : Reader) (text : String) :
    reader.ofFile (some (Bytes.ofText text)) = reader.ofTextOr .malformedFile text := by
  rw [ofFile, Option.bind_some, Bytes.text?_ofText]

/-- What a text that lists settings gives, by itself and in a file. -/
theorem Standard.ofTextOr_rendered (h : reader.Standard) (hdistinct : (listed.map Prod.fst).Nodup)
    (hvalues : ∀ entry ∈ listed, entry.2 < 2 ^ 63) (hconfig : config.Has listed) (ended : Bool)
    (malformed : ReadError) :
    reader.ofTextOr malformed (rendered listed ended) = config.validated.mapError .refused := by
  obtain ⟨given, hread, hgiven⟩ := h.read?_rendered hdistinct hvalues ended
  rw [ofTextOr_of_some hread, hgiven.unique hconfig]

end Reader

/-- A configuration text that has settings on its lines, each once and in any order, gives the default
configuration with these settings replaced, provided that it keeps the rules, and otherwise what is said of
the first rule it breaks. One more line with a key that stands there already, or that is no setting's, makes
the text malformed, whatever the values. A file with the text gives the same. So every valid configuration
is had back from its own text, unless a number in it is too large to be written. -/
theorem text_determines {reader : Reader} (hreader : reader.Standard) :
    (∀ listed : List (Setting × Nat), (listed.map Prod.fst).Nodup → (∀ entry ∈ listed, entry.2 < 2 ^ 63) →
      ∃ (config : Config) (answer : Except ReadError Config),
        config.Has listed ∧ config.Judged answer ∧ (answer = .ok config ↔ config.Valid) ∧
          ∀ listed', listed'.Perm listed → ∀ ended,
            reader.ofText (rendered listed' ended) = answer ∧
              reader.ofFile (some (Bytes.ofText (rendered listed' ended))) = answer) ∧
    (∀ (before after : List (Setting × Nat)) (key value : String),
      Bare key → Unbroken value →
      (∀ setting : Setting, setting.key = key → setting ∈ (before ++ after).map Prod.fst) → ∀ ended,
        let text := textOf (before.map written ++ (key, value) :: after.map written) ended
        reader.ofText text = .error .malformedText ∧
          reader.ofFile (some (Bytes.ofText text)) = .error .malformedFile) ∧
    ∀ config : Config, config.Valid → (∀ setting, (config.get setting).toNat < 2 ^ 63) →
      ∀ listed : List (Setting × Nat), listed.Perm config.entries → ∀ ended,
        reader.ofText (rendered listed ended) = .ok config ∧
          reader.ofFile (some (Bytes.ofText (rendered listed ended))) = .ok config := by
  refine ⟨?listed, ?spoiled, ?recovered⟩
  case listed =>
    intro listed hdistinct hvalues
    obtain ⟨config, -, hconfig⟩ := hreader.read?_rendered hdistinct hvalues true
    refine ⟨config, _, hconfig, judged_validated _,
      validated_eq_ok_iff.trans (and_iff_left rfl), ?_⟩
    intro listed' hperm ended
    have hdistinct' : (listed'.map Prod.fst).Nodup := (hperm.map Prod.fst).nodup_iff.mpr hdistinct
    have hvalues' : ∀ entry ∈ listed', entry.2 < 2 ^ 63 := by
      intro entry hentry
      exact hvalues entry (hperm.mem_iff.mp hentry)
    have hread := hreader.ofTextOr_rendered hdistinct' hvalues' (hconfig.perm hperm) ended
    exact ⟨hread _, (reader.ofFile_ofText _).trans (hread _)⟩
  case spoiled =>
    intro before after key value hkey hvalue hspoiled ended
    have hread := Reader.ofTextOr_of_none (hreader.read?_spoiled before after hkey hvalue hspoiled ended)
    exact ⟨hread _, (reader.ofFile_ofText _).trans (hread _)⟩
  case recovered =>
    intro config hvalid hsmall listed hperm ended
    have hdistinct : (listed.map Prod.fst).Nodup :=
      (hperm.map Prod.fst).nodup_iff.mpr (nodup_entries config)
    have hvalues : ∀ entry ∈ listed, entry.2 < 2 ^ 63 := by
      intro entry hentry
      obtain ⟨setting, -, rfl⟩ := List.mem_map.mp (hperm.mem_iff.mp hentry)
      exact hsmall setting
    have hread := hreader.ofTextOr_rendered hdistinct hvalues ((has_entries config).perm hperm) ended
    have hvalidated := validated_eq_ok_iff.mpr ⟨hvalid, rfl⟩
    exact ⟨(hread _).trans hvalidated, (reader.ofFile_ofText _).trans ((hread _).trans hvalidated)⟩

/-- The largest number that can be written is read; a key that comes again spoils the text whatever stands
behind it; and a configuration at the limits is had back. -/
theorem largest_number_read :
    Document.reader.ofText "spare_requests = 9223372036854775807\nrecvq_max = 255" =
        .ok ⟨8, 2, 255, 9223372036854775807⟩ ∧
      Document.reader.ofText "sendq_min = 0\nsendq_min = two\nmax_drivers = 4096\n" = .error .malformedText ∧
      Document.reader.ofText "spare_requests = 0\nmax_drivers = 2048\nrecvq_max = 1\nsendq_min = 255\n" =
        .ok ⟨2048, 255, 1, 0⟩ := by
  obtain ⟨hlisted, hspoiled, hrecovered⟩ := text_determines Document.reader_standard
  refine ⟨?_, ?_, ?_⟩
  · obtain ⟨config, answer, hconfig, -, hvalid, hread⟩ :=
      hlisted [(.receiveDepth, 255), (.spareRequests, 9223372036854775807)] (by decide) (by decide)
    have hgiven : (⟨8, 2, 255, 9223372036854775807⟩ : Config).Has
        [(.receiveDepth, 255), (.spareRequests, 9223372036854775807)] := by
      refine ⟨by decide, fun setting hsetting => ?_⟩
      cases setting
      · rfl
      · rfl
      all_goals exact absurd hsetting (by decide)
    obtain ⟨htext, -⟩ := hread [(.spareRequests, 9223372036854775807), (.receiveDepth, 255)] (by decide) false
    have hrendered : rendered [(.spareRequests, 9223372036854775807), (.receiveDepth, 255)] false =
        "spare_requests = 9223372036854775807\nrecvq_max = 255" := by decide +kernel
    obtain rfl := hconfig.unique hgiven
    rw [← hrendered, htext]
    exact hvalid.mpr (by decide)
  · have hkey : Bare "sendq_min" := bare_key .sendDepth
    have hvalue : Unbroken "two" := by unfold Unbroken; decide
    have hagain : ∀ setting : Setting, setting.key = "sendq_min" →
        setting ∈ ([(Setting.sendDepth, 0)] ++ [(Setting.maxDrivers, 4096)]).map Prod.fst := by
      intro setting hsetting
      obtain rfl : setting = .sendDepth := Setting.key_injective hsetting
      decide
    obtain ⟨htext, -⟩ := hspoiled [(.sendDepth, 0)] [(.maxDrivers, 4096)] _ _ hkey hvalue hagain true
    have hlines : textOf ([(Setting.sendDepth, 0)].map written ++
        ("sendq_min", "two") :: [(Setting.maxDrivers, 4096)].map written) true =
          "sendq_min = 0\nsendq_min = two\nmax_drivers = 4096\n" := by decide +kernel
    rwa [hlines] at htext
  · have hsmall : ∀ setting, ((⟨2048, 255, 1, 0⟩ : Config).get setting).toNat < 2 ^ 63 := by
      intro setting
      cases setting <;> decide
    obtain ⟨htext, -⟩ := hrecovered ⟨2048, 255, 1, 0⟩ (by decide) hsmall
      [(.spareRequests, 0), (.maxDrivers, 2048), (.receiveDepth, 1), (.sendDepth, 255)] (by decide) true
    have hrendered : rendered [(.spareRequests, 0), (.maxDrivers, 2048), (.receiveDepth, 1),
        (.sendDepth, 255)] true =
          "spare_requests = 0\nmax_drivers = 2048\nrecvq_max = 1\nsendq_min = 255\n" := by decide +kernel
    rwa [hrendered] at htext

end DriverHub.Config
