import DriverHub.Config.Document
import DriverHub.Proofs.Config.Reader

/-! The reader of configuration texts keeps to the rules for them: a decimal number is read as its value, a
line as the pair that stands on it, and a table of such pairs as the settings it gives. -/
namespace DriverHub.Config

namespace Document

/-! ### Numbers -/

theorem digit?_of_isDigit {c : Char} (h : c.isDigit) : digit? 10 c = some (c.toNat - '0'.toNat) := by
  have hbounds := Char.isDigit_iff_toNat.mp h
  have hbelow : c.toNat - '0'.toNat < 10 := by
    have hnine : '9'.toNat = '0'.toNat + 9 := rfl
    omega
  simp only [digit?, h, if_true, Option.filter, hbelow, decide_true]

/-- Digits are read as the number they write behind what was read before. -/
theorem digits?_eq (digits : List Char) (hdigits : ∀ c ∈ digits, c.isDigit) (afterDigit : Bool)
    (value : Nat) (hstart : afterDigit = true ∨ digits ≠ []) :
    digits? 10 afterDigit value digits = some (Nat.ofDigitChars 10 digits value) := by
  induction digits generalizing afterDigit value with
  | nil =>
    have hafter : afterDigit = true := hstart.resolve_right fun h => h rfl
    rw [digits?, hafter, if_pos rfl, Nat.ofDigitChars_nil]
  | cons c cs ih =>
    obtain ⟨hc, hcs⟩ := List.forall_mem_cons.mp hdigits
    have hmark : c ≠ '_' := by
      rintro rfl
      exact absurd hc (by decide)
    rw [digits?, if_neg hmark, digit?_of_isDigit hc, Nat.ofDigitChars_cons, Nat.mul_comm 10]
    exact ih hcs true _ (.inl rfl)

/-- Only zero is written with a zero in front. -/
theorem head?_toDigits (n : Nat) : (Nat.toDigits 10 n).head? = some '0' ↔ n = 0 := by
  induction n using Nat.strong_induction_on with
  | _ n ih =>
    rw [Nat.toDigits_eq_if (by decide)]
    split_ifs with hone
    · rw [List.head?_singleton, Option.some_inj, Nat.digitChar_eq_zero]
    · -- The first digit is that of the number without the last one.
      have hshorter : n / 10 < n := by omega
      rw [List.head?_append_of_ne_nil _ Nat.toDigits_ne_nil, ih _ hshorter]
      omega

theorem isDigit_of_mem_toDigits {n : Nat} {c : Char} (h : c ∈ Nat.toDigits 10 n) : c.isDigit :=
  Nat.isDigit_of_mem_toDigits (by decide) le_rfl h

theorem decimal?_toDigits (n : Nat) : decimal? (Nat.toDigits 10 n) = some n := by
  have hzero : ¬((Nat.toDigits 10 n).head? = some '0' ∧ Nat.toDigits 10 n ≠ ['0']) := by
    rintro ⟨hhead, hlong⟩
    rw [(head?_toDigits n).mp hhead] at hlong
    exact hlong (Nat.toDigits_zero 10)
  rw [decimal?, if_neg hzero,
    digits?_eq _ (fun c => isDigit_of_mem_toDigits) _ _ (.inr Nat.toDigits_ne_nil),
    Nat.ofDigitChars_ten_toDigits]

/-- Where there are only digits there is neither a sign nor the mark of another radix. -/
theorem integer?_of_digits {digits : List Char} (h : ∀ c ∈ digits, c.isDigit) :
    integer? digits = (decimal? digits).map Int.ofNat := by
  have hne (c : Char) (hc : c.isDigit = false) : c ∉ digits := by
    intro hmem
    rw [h c hmem] at hc
    cases hc
  -- The marks are what the other equations begin with, and none of them is a digit.
  apply integer?.eq_6
  all_goals
    rintro cs rfl
  · exact hne 'x' (by decide) (by simp)
  · exact hne 'o' (by decide) (by simp)
  · exact hne 'b' (by decide) (by simp)
  · exact hne '+' (by decide) (by simp)
  · exact hne '-' (by decide) (by simp)

theorem value?_toDigits {n : Nat} (h : n < 2 ^ 63) :
    value? (Nat.toDigits 10 n) = some (.integer n) := by
  have hbounds : decide (-0x8000000000000000 ≤ Int.ofNat n ∧ Int.ofNat n < 0x8000000000000000) = true := by
    simp only [Int.ofNat_eq_natCast, decide_eq_true_eq]
    omega
  rw [value?, integer?_of_digits fun c => isDigit_of_mem_toDigits, decimal?_toDigits, Option.map_some,
    Option.filter_some, if_pos hbounds]
  rfl

/-! ### Lines -/

theorem lines_ne_nil (text : List Char) : lines text ≠ [] := by
  fun_cases lines text <;> simp_all

theorem lines_append {line : List Char} (h : '\n' ∉ line ∧ '\r' ∉ line) (rest : List Char) :
    lines (line ++ rest) = (lines rest).modifyHead (line ++ ·) := by
  induction line with
  | nil =>
    obtain ⟨first, more, hlines⟩ := List.exists_cons_of_ne_nil (lines_ne_nil rest)
    rw [List.nil_append, hlines]
    rfl
  | cons c cs ih =>
    simp only [List.mem_cons, not_or] at h
    obtain ⟨first, more, hlines⟩ := List.exists_cons_of_ne_nil (lines_ne_nil rest)
    rw [List.cons_append, lines.eq_4 _ _ (fun _ hreturn _ => h.2.1 hreturn.symm)
      fun hfeed => h.1.1 hfeed.symm, ih ⟨h.1.2, h.2.2⟩, hlines]
    rfl

theorem lines_of_unbroken {line : List Char} (h : '\n' ∉ line ∧ '\r' ∉ line) : lines line = [line] := by
  have happend := lines_append h []
  rwa [List.append_nil, show lines [] = [[]] from rfl, List.modifyHead_cons, List.append_nil] at happend

theorem lines_cons {line : List Char} (h : '\n' ∉ line ∧ '\r' ∉ line) (rest : List Char) :
    lines (line ++ '\n' :: rest) = line :: lines rest := by
  rw [lines_append h, lines.eq_3, List.modifyHead_cons, List.append_nil]

/-- The lines that are neither blank nor comments. -/
def content (lines : List (List Char)) : List (List Char) := lines.filter fun line => !isTrivia line

theorem content_cons (line : List Char) (rest : List (List Char)) :
    content (line :: rest) = if isTrivia line then content rest else line :: content rest := by
  rw [content, List.filter_cons]
  cases isTrivia line <;> rfl

/-- Lines that are joined to a text are its lines again, whether or not the last one is ended as well: this
adds but a blank line. -/
theorem content_lines_intercalate {ls : List (List Char)}
    (h : ∀ line ∈ ls, '\n' ∉ line ∧ '\r' ∉ line) {last : List Char}
    (hlast : last = [] ∨ last = ['\n']) :
    content (lines (['\n'].intercalate ls ++ last)) = content ls := by
  induction ls with
  | nil => rcases hlast with rfl | rfl <;> rfl
  | cons line rest ih =>
    obtain ⟨hline, hrest⟩ := List.forall_mem_cons.mp h
    -- Only the last of the lines is followed by the end of the text.
    cases rest with
    | nil =>
      rw [List.intercalate_singleton]
      rcases hlast with rfl | rfl
      · rw [List.append_nil, lines_of_unbroken hline]
      · rw [lines_cons hline, content_cons, content_cons]
        rfl
    | cons next more =>
      rw [List.intercalate_cons_cons, List.append_assoc, List.append_assoc, List.singleton_append,
        lines_cons hline, content_cons, ih hrest, ← content_cons]

theorem pairs?_cons_trivia {line : List Char} (h : isTrivia line = true) (rest : List (List Char)) :
    pairs? (line :: rest) = pairs? rest := by
  rw [pairs?, if_pos h]

theorem pairs?_cons_eq_some_iff {line : List Char} (h : isTrivia line = false)
    {rest : List (List Char)} {table : List (String × Value)} :
    pairs? (line :: rest) = some table ↔ ∃ given others, table = given :: others ∧
      pair? line = some given ∧ pairs? rest = some others ∧ given.1 ∉ others.map Prod.fst := by
  rw [pairs?, if_neg (by rw [h]; exact Bool.false_ne_true)]
  constructor
  · intro hread
    obtain ⟨given, hgiven, hread⟩ := Option.bind_eq_some_iff.mp hread
    obtain ⟨others, hothers, hread⟩ := Option.bind_eq_some_iff.mp hread
    split_ifs at hread with hagain
    refine ⟨given, others, (Option.some.inj hread).symm, hgiven, hothers, ?_⟩
    intro hmem
    obtain ⟨other, hother, heq⟩ := List.mem_map.mp hmem
    exact hagain (List.any_eq_true.mpr ⟨other, hother, decide_eq_true heq⟩)
  · rintro ⟨given, others, rfl, hgiven, hothers, hfresh⟩
    have hnone : ¬others.any (fun other => decide (other.1 = given.1)) = true := by
      intro hany
      obtain ⟨other, hother, heq⟩ := List.any_eq_true.mp hany
      exact hfresh (List.mem_map.mpr ⟨other, hother, of_decide_eq_true heq⟩)
    rw [hgiven, hothers]
    exact if_neg hnone

/-- Lines are read as the pairs of those with content, if each has one and no key is given twice. -/
theorem pairs?_eq_some_iff {ls : List (List Char)} {table : List (String × Value)} :
    pairs? ls = some table ↔
      (content ls).map pair? = table.map some ∧
        (table.map Prod.fst).Nodup := by
  induction ls generalizing table with
  | nil =>
    rw [pairs?, content, List.filter_nil, List.map_nil, Option.some_inj]
    constructor
    · rintro rfl
      exact ⟨rfl, List.nodup_nil⟩
    · rintro ⟨hmap, -⟩
      exact (List.map_eq_nil_iff.mp hmap.symm).symm
  | cons line rest ih =>
    cases htrivia : isTrivia line with
    | true =>
      rw [pairs?_cons_trivia htrivia, ih, content_cons, if_pos htrivia]
    | false =>
      rw [pairs?_cons_eq_some_iff htrivia, content_cons, if_neg (by rw [htrivia]; exact Bool.false_ne_true),
        List.map_cons]
      constructor
      · rintro ⟨given, others, rfl, hgiven, hothers, hfresh⟩
        obtain ⟨hmap, hnodup⟩ := ih.mp hothers
        rw [List.map_cons, List.map_cons, hgiven, hmap]
        exact ⟨rfl, List.nodup_cons.mpr ⟨hfresh, hnodup⟩⟩
      · rintro ⟨hmap, hnodup⟩
        obtain ⟨given, others, rfl, hgiven, hothers⟩ := List.map_eq_cons_iff.mp hmap.symm
        rw [List.map_cons, List.nodup_cons] at hnodup
        exact ⟨given, others, rfl, hgiven.symm, ih.mpr ⟨hothers.symm, hnodup.2⟩, hnodup.1⟩

/-! ### Pairs -/

/-- A pair as it stands on a line. -/
def pairLine (pair : String × String) : List Char := pair.1.toList ++ ' ' :: '=' :: ' ' :: pair.2.toList

/-- Whether a character is part of a value: neither space nor the start of a comment. -/
def isValueChar (c : Char) : Bool := !isBlank c && c ≠ '#'

end Document

namespace Bare

open Document

variable {key : String}

theorem isBareKeyChar_of_mem (h : Bare key) {c : Char} (hc : c ∈ key.toList) : isBareKeyChar c = true := by
  simpa [isBareKeyChar, or_assoc] using h.2 c hc

/-- A bare key is no comment, no quoted key and has no space before it. -/
theorem exists_first (h : Bare key) : ∃ c cs, key.toList = c :: cs ∧ isBlank c = false ∧
    c ≠ '#' ∧ c ≠ '"' ∧ c ≠ '\'' ∧ c ≠ '\ufeff' := by
  obtain ⟨c, cs, hkey⟩ := List.exists_cons_of_ne_nil fun hnil => h.1 (String.toList_eq_nil_iff.mp hnil)
  have hbare := h.isBareKeyChar_of_mem (by rw [hkey]; exact List.mem_cons_self)
  have hne (d : Char) (hd : isBareKeyChar d = false) : c ≠ d := by
    rintro rfl
    rw [hbare] at hd
    cases hd
  refine ⟨c, cs, hkey, ?_, hne _ (by decide), hne _ (by decide), hne _ (by decide), hne _ (by decide)⟩
  simp [isBlank, hne ' ' (by decide), hne '\t' (by decide)]

theorem unbroken (h : Bare key) : Unbroken key := by
  constructor
  all_goals
    intro hmem
    exact absurd (h.isBareKeyChar_of_mem hmem) (by decide)

theorem unbroken_pairLine (h : Bare key) {value : String} (hvalue : Unbroken value) :
    '\n' ∉ pairLine (key, value) ∧ '\r' ∉ pairLine (key, value) := by
  obtain ⟨hfeed, hreturn⟩ := h.unbroken
  constructor
  · simp [pairLine, hfeed, hvalue.1]
  · simp [pairLine, hreturn, hvalue.2]

theorem isTrivia_pairLine (h : Bare key) (value : String) : isTrivia (pairLine (key, value)) = false := by
  obtain ⟨c, cs, hkey, hblank, hcomment, -⟩ := h.exists_first
  rw [isTrivia, pairLine, hkey, List.cons_append, List.dropWhile_cons_of_neg (by simp [hblank])]
  simp [hcomment]

theorem key?_append (h : Bare key) (rest : List Char) :
    key? (key.toList ++ ' ' :: rest) = some (key.toList, ' ' :: rest) := by
  have hall : ∀ c ∈ key.toList, isBareKeyChar c = true := fun c => h.isBareKeyChar_of_mem
  have hspace : isBareKeyChar ' ' = false := by decide
  obtain ⟨c, cs, hkey, -, -, hquote, hliteral, -⟩ := h.exists_first
  rw [key?.eq_3]
  · rw [List.takeWhile_append_of_pos hall, List.dropWhile_append_of_pos hall,
      List.takeWhile_cons_of_neg (by simp [hspace]), List.dropWhile_cons_of_neg (by simp [hspace]),
      List.append_nil, if_neg (by rw [hkey]; exact List.cons_ne_nil c cs)]
  · intro others heq
    rw [hkey] at heq
    exact hquote (List.cons.inj heq).1
  · intro others heq
    rw [hkey] at heq
    exact hliteral (List.cons.inj heq).1

theorem pair?_eq (h : Bare key) (value : String) :
    pair? (pairLine (key, value)) =
      (value? ((value.toList.dropWhile isBlank).takeWhile isValueChar)).bind fun given =>
        if isTrivia ((value.toList.dropWhile isBlank).dropWhile isValueChar) then some (key, given)
        else none := by
  have hstart : (pairLine (key, value)).dropWhile isBlank = pairLine (key, value) := by
    obtain ⟨c, cs, hkey, hblank, -⟩ := h.exists_first
    rw [pairLine, hkey]
    exact List.dropWhile_cons_of_neg (by simp [hblank])
  rw [pair?, hstart, pairLine, h.key?_append]
  simp only [Option.bind_eq_bind, Option.bind_some, String.ofList_toList]
  rfl

/-- What a line with a bare key gives is given under this key. -/
theorem fst_of_pair? (h : Bare key) {value : String} {given : String × Value}
    (hread : pair? (pairLine (key, value)) = some given) : given.1 = key := by
  rw [h.pair?_eq] at hread
  obtain ⟨number, -, hread⟩ := Option.bind_eq_some_iff.mp hread
  split_ifs at hread
  rw [← Option.some.inj hread]

end Bare

namespace Document

theorem unbroken_toString (n : Nat) : Unbroken (toString n) := by
  rw [Unbroken, Nat.toString_eq_ofList_toDigits, String.toList_ofList]
  constructor
  all_goals
    intro hmem
    exact absurd (isDigit_of_mem_toDigits hmem) (by decide)

/-- A number on a line of its own, in decimal, is read as it was written. -/
theorem pair?_decimal {entry : String × Nat} (hkey : Bare entry.1) (hn : entry.2 < 2 ^ 63) :
    pair? (pairLine (decimal entry)) = some (numeric entry) := by
  have hvalue : ∀ c ∈ Nat.toDigits 10 entry.2, isValueChar c = true := by
    intro c hc
    have hdigit := isDigit_of_mem_toDigits hc
    have hne (d : Char) (hd : d.isDigit = false) : c ≠ d := by
      rintro rfl
      rw [hdigit] at hd
      cases hd
    simp [isValueChar, isBlank, hne ' ' (by decide), hne '\t' (by decide), hne '#' (by decide)]
  have hstart : (Nat.toDigits 10 entry.2).dropWhile isBlank = Nat.toDigits 10 entry.2 := by
    obtain ⟨c, cs, hdigits⟩ :=
      List.exists_cons_of_ne_nil (Nat.toDigits_ne_nil : Nat.toDigits 10 entry.2 ≠ [])
    have hblank := hvalue c (by rw [hdigits]; exact List.mem_cons_self)
    rw [hdigits]
    apply List.dropWhile_cons_of_neg
    intro h
    simp [isValueChar, h] at hblank
  rw [decimal, hkey.pair?_eq, Nat.toString_eq_ofList_toDigits, String.toList_ofList, hstart,
    List.takeWhile_eq_self_iff.mpr hvalue, List.dropWhile_eq_nil_iff.mpr hvalue, value?_toDigits hn]
  rfl

/-! ### Texts -/

section Texts

variable {pairs : List (String × String)} {table : List (String × Value)} {ended : Bool}

theorem toList_textOf (pairs : List (String × String)) (ended : Bool) :
    (textOf pairs ended).toList =
      ['\n'].intercalate (pairs.map pairLine) ++ if ended then ['\n'] else [] := by
  have hend : (if ended then "\n" else "" : String).toList = if ended then ['\n'] else [] := by
    cases ended <;> rfl
  have hline (pair : String × String) : (pair.1 ++ " = " ++ pair.2).toList = pairLine pair := by
    rw [String.toList_append, String.toList_append, List.append_assoc]
    rfl
  rw [textOf, String.toList_append, String.toList_intercalate, List.map_map, hend]
  simp only [Function.comp_def, hline]
  rfl

/-- Where the first line starts with a key, no byte order mark stands in front. -/
theorem toList_textOf_ne_marked (h : ∀ pair ∈ pairs, Bare pair.1) (ended : Bool) (rest : List Char) :
    (textOf pairs ended).toList ≠ '\ufeff' :: rest := by
  rw [toList_textOf]
  cases pairs with
  | nil => cases ended <;> simp
  | cons pair more =>
    obtain ⟨c, cs, hkey, -, -, -, -, hmark⟩ := (h pair List.mem_cons_self).exists_first
    have hfirst : ∃ others, ['\n'].intercalate ((pair :: more).map pairLine) = c :: others := by
      rw [List.map_cons, pairLine, hkey]
      cases more with
      | nil => exact ⟨_, List.intercalate_singleton⟩
      | cons next others => exact ⟨_, List.intercalate_cons_cons⟩
    obtain ⟨others, hfirst⟩ := hfirst
    rw [hfirst]
    intro heq
    exact hmark (List.cons.inj heq).1

theorem pairs?_of_table? {text : String} (h : table? text = some table) : ∃ ls, pairs? ls = some table := by
  unfold table? at h
  split at h
  · exact ⟨_, h⟩
  · exact ⟨_, h⟩

/-- A text whose lines give values under bare keys is read as what these lines give. -/
theorem table?_textOf_eq_some_iff (h : ∀ pair ∈ pairs, Bare pair.1 ∧ Unbroken pair.2) :
    table? (textOf pairs ended) = some table ↔
      (pairs.map fun pair => pair? (pairLine pair)) = table.map some ∧ (table.map Prod.fst).Nodup := by
  have hlines : ∀ line ∈ pairs.map pairLine, ('\n' ∉ line ∧ '\r' ∉ line) ∧ isTrivia line = false := by
    intro line hline
    obtain ⟨pair, hpair, rfl⟩ := List.mem_map.mp hline
    obtain ⟨hkey, hvalue⟩ := h pair hpair
    exact ⟨hkey.unbroken_pairLine hvalue, hkey.isTrivia_pairLine _⟩
  have hmark := toList_textOf_ne_marked (fun pair hpair => (h pair hpair).1) ended
  have hlast : (if ended then ['\n'] else []) = [] ∨ (if ended then ['\n'] else []) = ['\n'] := by
    cases ended
    · exact .inl rfl
    · exact .inr rfl
  have hcontent : content (pairs.map pairLine) = pairs.map pairLine := by
    rw [content, List.filter_eq_self]
    intro line hline
    rw [(hlines line hline).2]
    rfl
  have htable : table? (textOf pairs ended) = pairs? (lines (textOf pairs ended).toList) := by
    unfold table?
    split
    · rename_i rest hmarked
      exact absurd hmarked (hmark rest)
    · rfl
  rw [htable, pairs?_eq_some_iff, toList_textOf,
    content_lines_intercalate (fun line hline => (hlines line hline).1) hlast, hcontent, List.map_map]
  rfl

/-- What the lines of such a text give is given under their keys. -/
theorem keys_of_read (h : ∀ pair ∈ pairs, Bare pair.1)
    (hread : (pairs.map fun pair => pair? (pairLine pair)) = table.map some) :
    table.map Prod.fst = pairs.map Prod.fst := by
  induction pairs generalizing table with
  | nil => rw [List.map_eq_nil_iff.mp hread.symm]; rfl
  | cons pair more ih =>
    obtain ⟨hpair, hmore⟩ := List.forall_mem_cons.mp h
    obtain ⟨given, others, rfl, hgiven, hothers⟩ := List.map_eq_cons_iff.mp hread.symm
    rw [List.map_cons, List.map_cons, ih hmore hothers.symm, hpair.fst_of_pair? hgiven.symm]

end Texts

/-! ### Tables -/

section Tables

variable {table : List (String × Value)} {settings : List (Setting × UInt64)} {config : Config}
variable {setting : Setting}

theorem ofKey?_eq_some_iff {key : String} : Setting.ofKey? key = some setting ↔ setting.key = key := by
  unfold Setting.ofKey?
  constructor
  · intro h
    simpa using List.find?_some h
  · rintro rfl
    cases setting <;> decide

theorem word?_natCast {n : Nat} (h : n < UInt64.size) : word? (.integer n) = some (UInt64.ofNat n) := by
  rw [word?, if_pos ⟨Int.natCast_nonneg n, Int.ofNat_lt.mpr h⟩, Int.toNat_natCast]

theorem word?_eq_some {number : Int} {word : UInt64} (h : word? (.integer number) = some word) :
    (word.toNat : Int) = number := by
  rw [word?] at h
  split_ifs at h with hbounds
  obtain ⟨hnonneg, hlt⟩ := hbounds
  obtain ⟨n, rfl⟩ := Int.eq_ofNat_of_zero_le hnonneg
  rw [← Option.some.inj h, Int.toNat_natCast, UInt64.toNat_ofNat_of_lt' (Int.ofNat_lt.mp hlt)]

/-- What a pair of a table gives. -/
def given? (pair : String × Value) : Option (Setting × UInt64) :=
  (Setting.ofKey? pair.1).bind fun setting => (word? pair.2).map fun word => (setting, word)

theorem given?_eq_some_iff {pair : String × Value} {given : Setting × UInt64} :
    given? pair = some given ↔ given.1.key = pair.1 ∧ word? pair.2 = some given.2 := by
  simp only [given?, Option.bind_eq_some_iff, Option.map_eq_some_iff, ofKey?_eq_some_iff]
  constructor
  · rintro ⟨setting, hkey, word, hword, rfl⟩
    exact ⟨hkey, hword⟩
  · rintro ⟨hkey, hword⟩
    exact ⟨given.1, hkey, given.2, hword, rfl⟩

/-- A configuration with settings replaced. -/
def replace (config : Config) (settings : List (Setting × UInt64)) : Config :=
  settings.foldl (fun config given => config.set given.1 given.2) config

theorem foldlM_eq_some_iff {start : Config} :
    (table.foldlM (fun config pair => do
        let setting ← Setting.ofKey? pair.1
        let word ← word? pair.2
        some (config.set setting word)) start) = some config ↔
      ∃ settings, table.map given? = settings.map some ∧ config = replace start settings := by
  induction table generalizing start with
  | nil =>
    constructor
    · intro h
      exact ⟨[], rfl, (Option.some.inj h).symm⟩
    · rintro ⟨settings, hmap, rfl⟩
      rw [List.map_eq_nil_iff.mp hmap.symm]
      rfl
  | cons pair others ih =>
    rw [List.foldlM_cons]
    constructor
    · intro h
      obtain ⟨next, hnext, hrest⟩ := Option.bind_eq_some_iff.mp h
      obtain ⟨setting, hsetting, hnext⟩ := Option.bind_eq_some_iff.mp hnext
      obtain ⟨word, hword, hnext⟩ := Option.bind_eq_some_iff.mp hnext
      obtain ⟨settings, hmap, rfl⟩ := ih.mp hrest
      have hentry : given? pair = some (setting, word) :=
        given?_eq_some_iff.mpr ⟨ofKey?_eq_some_iff.mp hsetting, hword⟩
      refine ⟨(setting, word) :: settings, ?_, ?_⟩
      · rw [List.map_cons, List.map_cons, hentry, hmap]
      · rw [← Option.some.inj hnext]
        rfl
    · rintro ⟨settings, hmap, rfl⟩
      obtain ⟨given, rest, rfl, hgiven, hrest⟩ := List.map_eq_cons_iff.mp hmap.symm
      obtain ⟨hkey, hword⟩ := given?_eq_some_iff.mp hgiven.symm
      have hnext : (do
          let setting ← Setting.ofKey? pair.1
          let word ← word? pair.2
          some (start.set setting word)) = some (start.set given.1 given.2) := by
        rw [ofKey?_eq_some_iff.mpr hkey, hword]
        rfl
      rw [hnext]
      exact ih.mpr ⟨rest, hrest.symm, rfl⟩

/-- A table is taken for a configuration if each of its pairs gives a setting. -/
theorem config?_eq_some_iff :
    config? table = some config ↔
      ∃ settings, table.map given? = settings.map some ∧ config = replace {} settings :=
  foldlM_eq_some_iff

theorem map_key_of_entries (h : table.map given? = settings.map some) :
    table.map Prod.fst = (settings.map Prod.fst).map Setting.key := by
  induction table generalizing settings with
  | nil => rw [List.map_eq_nil_iff.mp h.symm]; rfl
  | cons pair others ih =>
    obtain ⟨given, rest, rfl, hgiven, hrest⟩ := List.map_eq_cons_iff.mp h.symm
    rw [List.map_cons, List.map_cons, List.map_cons, ih hrest.symm,
      (given?_eq_some_iff.mp hgiven.symm).1]

theorem get_replace_of_not_mem (hnone : ∀ given ∈ settings, given.1 ≠ setting) (config : Config) :
    (replace config settings).get setting = config.get setting := by
  unfold replace
  induction settings generalizing config with
  | nil => rfl
  | cons given others ih =>
    obtain ⟨hgiven, hothers⟩ := List.forall_mem_cons.mp hnone
    rw [List.foldl_cons, ih hothers, get_set, if_neg hgiven.symm]

theorem get_replace_of_mem (hdistinct : (settings.map Prod.fst).Nodup) {given : Setting × UInt64}
    (hgiven : given ∈ settings) (config : Config) : (replace config settings).get given.1 = given.2 := by
  induction settings generalizing config with
  | nil => cases hgiven
  | cons first others ih =>
    rw [List.map_cons, List.nodup_cons] at hdistinct
    change (replace (config.set first.1 first.2) others).get given.1 = given.2
    rcases List.mem_cons.mp hgiven with rfl | hgiven
    · rw [get_replace_of_not_mem, get_set, if_pos rfl]
      intro other hother heq
      exact hdistinct.1 (heq ▸ List.mem_map_of_mem hother)
    · exact ih hdistinct.2 hgiven _

end Tables

/-- The reader keeps to the rules. -/
theorem reader_standard : reader.Standard where
  unique h := by
    obtain ⟨ls, hpairs⟩ := pairs?_of_table? h
    exact (pairs?_eq_some_iff.mp hpairs).2
  keyed {before after key value ended table} hentries hkey hvalue h := by
    have hbare : ∀ pair ∈ before.map decimal ++ (key, value) :: after.map decimal,
        Bare pair.1 ∧ Unbroken pair.2 := by
      intro pair hpair
      rw [List.mem_append, List.mem_cons] at hpair
      rcases hpair with hpair | rfl | hpair
      · obtain ⟨entry, hentry, rfl⟩ := List.mem_map.mp hpair
        exact ⟨hentries entry (List.mem_append_left _ hentry), unbroken_toString _⟩
      · exact ⟨hkey, hvalue⟩
      · obtain ⟨entry, hentry, rfl⟩ := List.mem_map.mp hpair
        exact ⟨hentries entry (List.mem_append_right _ hentry), unbroken_toString _⟩
    -- This reader takes the lines one by one, so the table even has the keys in the order of the lines.
    obtain ⟨hlines, -⟩ := (table?_textOf_eq_some_iff hbare).mp h
    have hkeys := keys_of_read (fun pair hpair => (hbare pair hpair).1) hlines
    rw [List.map_append, List.map_cons, map_fst_decimal, map_fst_decimal] at hkeys
    rw [hkeys]
  numbers {entries} ended hentries hdistinct := by
    have hbare : ∀ pair ∈ entries.map decimal, Bare pair.1 ∧ Unbroken pair.2 := by
      intro pair hpair
      obtain ⟨entry, hentry, rfl⟩ := List.mem_map.mp hpair
      exact ⟨(hentries entry hentry).1, unbroken_toString _⟩
    refine ⟨entries.map numeric, (table?_textOf_eq_some_iff hbare).mpr ⟨?_, ?_⟩, .refl _⟩
    · rw [List.map_map, List.map_map]
      apply List.map_congr_left
      intro entry hentry
      exact pair?_decimal (hentries entry hentry).1 (hentries entry hentry).2
    · rwa [map_fst_numeric]
  known h key hkey := by
    obtain ⟨settings, hmap, -⟩ := config?_eq_some_iff.mp h
    rw [map_key_of_entries hmap] at hkey
    obtain ⟨setting, -, rfl⟩ := List.mem_map.mp hkey
    exact ⟨setting, rfl⟩
  given {table config setting number} hdistinct h hpair := by
    obtain ⟨settings, hmap, rfl⟩ := config?_eq_some_iff.mp h
    rw [map_key_of_entries hmap] at hdistinct
    have hentry : given? (setting.key, .integer number) ∈ settings.map some := by
      rw [← hmap]
      exact List.mem_map_of_mem hpair
    obtain ⟨given, hgiven, heq⟩ := List.mem_map.mp hentry
    obtain ⟨hkey, hword⟩ := given?_eq_some_iff.mp heq.symm
    -- The keys differ, so what the pair gives is not replaced by a later one.
    rw [← Setting.key_injective hkey, get_replace_of_mem hdistinct.of_map hgiven]
    exact word?_eq_some hword
  missing {table config setting} h hsetting := by
    obtain ⟨settings, hmap, rfl⟩ := config?_eq_some_iff.mp h
    rw [map_key_of_entries hmap] at hsetting
    apply get_replace_of_not_mem
    rintro given hgiven rfl
    exact hsetting (List.mem_map_of_mem (List.mem_map_of_mem hgiven))
  complete {table} hdistinct h := by
    have hentries : ∃ settings : List (Setting × UInt64), table.map given? = settings.map some := by
      clear hdistinct
      -- Each pair gives its setting by itself, whatever the others give.
      induction table with
      | nil => exact ⟨[], rfl⟩
      | cons pair others ih =>
        obtain ⟨⟨setting, n, hn, rfl⟩, hothers⟩ := List.forall_mem_cons.mp h
        obtain ⟨settings, hmap⟩ := ih hothers
        have hentry : given? (numeric (setting.key, n)) = some (setting, UInt64.ofNat n) :=
          given?_eq_some_iff.mpr ⟨rfl, word?_natCast hn⟩
        refine ⟨(setting, UInt64.ofNat n) :: settings, ?_⟩
        rw [List.map_cons, List.map_cons, hmap, hentry]
    obtain ⟨settings, hmap⟩ := hentries
    exact Option.isSome_iff_exists.mpr ⟨_, config?_eq_some_iff.mpr ⟨settings, hmap, rfl⟩⟩

end Document
end DriverHub.Config
