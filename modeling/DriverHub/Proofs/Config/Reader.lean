import DriverHub.Config.Reader
import Mathlib

/-! What a reader of configuration texts has to get right. Of the language of the texts this is only the
little that settings are written in: keys without quotes, numbers in decimal, and one pair on a line. Of
tables it is that settings may be left out, and that nothing else may be given. -/
namespace DriverHub.Config

variable {config a b : Config} {setting : Setting}

theorem get_set (config : Config) (setting other : Setting) (value : UInt64) :
    (config.set setting value).get other = if other = setting then value else config.get other := by
  cases setting <;> cases other <;> rfl

theorem ext_get (h : ∀ setting, a.get setting = b.get setting) : a = b := by
  cases a
  cases b
  rw [Config.mk.injEq]
  exact ⟨h .maxDrivers, h .sendDepth, h .receiveDepth, h .spareRequests⟩

theorem Setting.mem_all (setting : Setting) : setting ∈ Setting.all := by
  cases setting <;> decide

theorem Setting.key_injective : Function.Injective Setting.key := by
  intro setting other h
  cases setting <;> cases other <;> first | rfl | exact absurd h (by decide)

/-! ### Texts -/

/-- A key that needs no quotes. -/
def Bare (key : String) : Prop := key ≠ "" ∧ ∀ c ∈ key.toList, c.isAlphanum ∨ c = '_' ∨ c = '-'

/-- No character ends a line. -/
def Unbroken (value : String) : Prop := '\n' ∉ value.toList ∧ '\r' ∉ value.toList

/-- The text with these keys and values, each pair on a line. The last line may be ended like the others. -/
def textOf (pairs : List (String × String)) (ended : Bool) : String :=
  "\n".intercalate (pairs.map fun pair => pair.1 ++ " = " ++ pair.2) ++ if ended then "\n" else ""

/-- A key, and a number in decimal. -/
def decimal (entry : String × Nat) : String × String := (entry.1, toString entry.2)

/-- A pair of a table, with a number as its value. -/
def numeric (entry : String × Nat) : String × Value := (entry.1, .integer entry.2)

theorem bare_key (setting : Setting) : Bare setting.key := by
  have hall : (setting.key.toList.all fun c => c.isAlphanum ∨ c = '_' ∨ c = '-') = true := by
    cases setting <;> decide
  constructor
  · cases setting <;> decide
  · intro c hc
    exact of_decide_eq_true (List.all_eq_true.mp hall c hc)

theorem map_fst_decimal (entries : List (String × Nat)) :
    (entries.map decimal).map Prod.fst = entries.map Prod.fst := by
  rw [List.map_map]
  rfl

theorem map_fst_numeric (entries : List (String × Nat)) :
    (entries.map numeric).map Prod.fst = entries.map Prod.fst := by
  rw [List.map_map]
  rfl

/-- What is relied on in a reader: that its texts follow the rules for keys, numbers and lines, and that
its tables are taken as settings of a configuration with defaults. Nothing is asked of texts with anything
else in them, unless it is the value of a single line. -/
structure Reader.Standard (reader : Reader) : Prop where
  -- No key may be given twice.
  unique : ∀ {text table}, reader.table? text = some table → (table.map Prod.fst).Nodup
  -- Every line gives a value to its key. Only numbers stand on the lines around the one with any value,
  -- so there this value cannot go on.
  keyed : ∀ {before after : List (String × Nat)} {key value ended table},
    (∀ entry ∈ before ++ after, Bare entry.1) → Bare key → Unbroken value →
    reader.table? (textOf (before.map decimal ++ (key, value) :: after.map decimal) ended) = some table →
      (table.map Prod.fst).Perm (before.map Prod.fst ++ key :: after.map Prod.fst)
  -- A number is read as itself if it fits into 64 bits, one of which is the sign.
  numbers : ∀ {entries : List (String × Nat)} ended,
    (∀ entry ∈ entries, Bare entry.1 ∧ entry.2 < 2 ^ 63) → (entries.map Prod.fst).Nodup →
      ∃ table, reader.table? (textOf (entries.map decimal) ended) = some table ∧
        table.Perm (entries.map numeric)
  -- A table with a key that is no setting's is refused.
  known : ∀ {table config}, reader.config? table = some config →
    ∀ key ∈ table.map Prod.fst, ∃ setting : Setting, setting.key = key
  -- A setting that is given has the value that is given,
  given : ∀ {table config setting number}, (table.map Prod.fst).Nodup → reader.config? table = some config →
    (setting.key, Value.integer number) ∈ table → ((config.get setting).toNat : Int) = number
  -- and one that is missing has its default.
  missing : ∀ {table config setting}, reader.config? table = some config →
    setting.key ∉ table.map Prod.fst → config.get setting = ({} : Config).get setting
  -- Settings are whole numbers of 64 bits without a sign.
  complete : ∀ {table}, (table.map Prod.fst).Nodup →
    (∀ pair ∈ table, ∃ (setting : Setting) (n : Nat), n < UInt64.size ∧ pair = numeric (setting.key, n)) →
      (reader.config? table).isSome

/-! ### Settings in a text -/

/-- The key of a setting, and its value in decimal. -/
def written (entry : Setting × Nat) : String × String := (entry.1.key, toString entry.2)

/-- The text that gives these settings these values. -/
abbrev rendered (entries : List (Setting × Nat)) (ended : Bool) : String :=
  textOf (entries.map written) ended

/-- A configuration with these values for the settings listed, and the default ones for all others. -/
structure Has (config : Config) (entries : List (Setting × Nat)) : Prop where
  listed : ∀ entry ∈ entries, (config.get entry.1).toNat = entry.2
  other : ∀ setting, setting ∉ entries.map Prod.fst → config.get setting = ({} : Config).get setting

/-- The settings of a configuration. -/
def entries (config : Config) : List (Setting × Nat) :=
  Setting.all.map fun setting => (setting, (config.get setting).toNat)

variable {listed listed' : List (Setting × Nat)}

theorem Has.unique (ha : a.Has listed) (hb : b.Has listed) : a = b := by
  apply ext_get
  intro setting
  by_cases hmem : setting ∈ listed.map Prod.fst
  · obtain ⟨entry, hentry, rfl⟩ := List.mem_map.mp hmem
    rw [← UInt64.toNat_inj, ha.listed entry hentry, hb.listed entry hentry]
  · rw [ha.other setting hmem, hb.other setting hmem]

theorem Has.perm (h : config.Has listed) (hperm : listed'.Perm listed) : config.Has listed' := by
  constructor
  · intro entry hentry
    exact h.listed entry (hperm.mem_iff.mp hentry)
  · intro setting hsetting
    apply h.other
    rwa [← (hperm.map Prod.fst).mem_iff]

theorem has_entries (config : Config) : config.Has config.entries := by
  constructor
  · intro entry hentry
    obtain ⟨setting, -, rfl⟩ := List.mem_map.mp hentry
    rfl
  · intro setting hsetting
    exact absurd (List.mem_map.mpr ⟨_, List.mem_map_of_mem (Setting.mem_all setting), rfl⟩) hsetting

theorem nodup_entries (config : Config) : (config.entries.map Prod.fst).Nodup := by
  rw [entries, List.map_map]
  exact (by decide : (Setting.all.map id).Nodup)

/-- Settings under their keys. -/
def keyedBy (listed : List (Setting × Nat)) : List (String × Nat) :=
  listed.map fun entry => (entry.1.key, entry.2)

theorem map_written (listed : List (Setting × Nat)) :
    listed.map written = (keyedBy listed).map decimal := by
  rw [keyedBy, List.map_map]
  rfl

theorem map_fst_keyedBy (listed : List (Setting × Nat)) :
    (keyedBy listed).map Prod.fst = (listed.map Prod.fst).map Setting.key := by
  rw [keyedBy, List.map_map, List.map_map]
  rfl

theorem mem_map_fst_keyedBy :
    setting.key ∈ (keyedBy listed).map Prod.fst ↔ setting ∈ listed.map Prod.fst := by
  rw [map_fst_keyedBy, List.mem_map_of_injective Setting.key_injective]

theorem bare_keyedBy {entry : String × Nat} (h : entry ∈ keyedBy listed) : Bare entry.1 := by
  obtain ⟨given, -, rfl⟩ := List.mem_map.mp h
  exact bare_key given.1

namespace Reader.Standard

variable {reader : Reader}

/-- A text that lists settings, none of them twice, gives the configuration that has them. -/
theorem read?_rendered (h : reader.Standard) (hdistinct : (listed.map Prod.fst).Nodup)
    (hvalues : ∀ entry ∈ listed, entry.2 < 2 ^ 63) (ended : Bool) :
    ∃ config, reader.read? (rendered listed ended) = some config ∧ config.Has listed := by
  have hentries : ∀ entry ∈ keyedBy listed, Bare entry.1 ∧ entry.2 < 2 ^ 63 := by
    intro entry hentry
    refine ⟨bare_keyedBy hentry, ?_⟩
    obtain ⟨given, hgiven, rfl⟩ := List.mem_map.mp hentry
    exact hvalues given hgiven
  have hkeys : ((keyedBy listed).map Prod.fst).Nodup := by
    rw [map_fst_keyedBy]
    exact hdistinct.map Setting.key_injective
  -- The table has these pairs in some order, and nothing below depends on which.
  obtain ⟨table, htable, hperm⟩ := h.numbers ended hentries hkeys
  have hunique := h.unique htable
  have hpair : ∀ entry ∈ listed, numeric (entry.1.key, entry.2) ∈ table := by
    intro entry hentry
    exact hperm.mem_iff.mpr (List.mem_map_of_mem (List.mem_map_of_mem hentry))
  have hsome : (reader.config? table).isSome := by
    apply h.complete hunique
    intro pair hpair
    obtain ⟨entry, hentry, rfl⟩ := List.mem_map.mp (hperm.mem_iff.mp hpair)
    obtain ⟨given, hgiven, rfl⟩ := List.mem_map.mp hentry
    exact ⟨given.1, given.2, (hvalues given hgiven).trans (by decide), rfl⟩
  obtain ⟨config, hconfig⟩ := Option.isSome_iff_exists.mp hsome
  refine ⟨config, ?_, ?_, ?_⟩
  · rw [read?, rendered, map_written, htable, Option.bind_some, hconfig]
  · intro entry hentry
    exact Int.ofNat_inj.mp (h.given hunique hconfig (hpair entry hentry))
  · intro setting hsetting
    apply h.missing hconfig
    rwa [(hperm.map Prod.fst).mem_iff, map_fst_numeric, mem_map_fst_keyedBy]

/-- One more line spoils the text, if it has a key that stands there already or that is no setting's. -/
theorem read?_spoiled (h : reader.Standard) (before after : List (Setting × Nat)) {key value : String}
    (hkey : Bare key) (hvalue : Unbroken value)
    (hspoiled : ∀ setting : Setting, setting.key = key → setting ∈ (before ++ after).map Prod.fst)
    (ended : Bool) :
    reader.read? (textOf (before.map written ++ (key, value) :: after.map written) ended) = none := by
  rw [Option.eq_none_iff_forall_ne_some]
  intro config hread
  obtain ⟨table, htable, hconfig⟩ := Option.bind_eq_some_iff.mp hread
  have hunique := h.unique htable
  rw [map_written, map_written] at htable
  have hbare : ∀ entry ∈ keyedBy before ++ keyedBy after, Bare entry.1 := by
    intro entry hentry
    rcases List.mem_append.mp hentry with hentry | hentry
    · exact bare_keyedBy hentry
    · exact bare_keyedBy hentry
  have hperm := h.keyed hbare hkey hvalue htable
  -- The key in the middle is that of a setting, and so of one that is listed before or after it.
  have hmem : key ∈ table.map Prod.fst :=
    hperm.mem_iff.mpr (List.mem_append_right _ List.mem_cons_self)
  obtain ⟨setting, rfl⟩ := h.known hconfig key hmem
  rw [hperm.nodup_iff, List.nodup_middle, List.nodup_cons, List.mem_append, mem_map_fst_keyedBy,
    mem_map_fst_keyedBy, ← List.mem_append, ← List.map_append] at hunique
  exact hunique.1 (hspoiled setting rfl)

end Reader.Standard
end DriverHub.Config
