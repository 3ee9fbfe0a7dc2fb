import DriverHub.InMemory.Roster
import Mathlib

/-! Names are faithful: a name is neither more nor less than the bytes, or the text, it was made from, and
what is announced under a text is known by the name which that text spells. -/
namespace DriverHub

namespace Bytes

variable {text : String}

/-- The bytes of a text are those of its characters, one after the other. -/
theorem ofText_eq_flatMap (text : String) :
    ofText text = text.toList.flatMap String.utf8EncodeChar := by
  have hencoded : text.toByteArray = text.toList.utf8Encode := String.utf8Encode_toList.symm
  unfold ofText
  rw [hencoded]
  exact List.toList_data_toByteArray

/-- Of all characters only NUL has a zero among its bytes: the others are written with bytes that have a
mark in their highest bits, or are one byte themselves. -/
theorem zero_mem_utf8EncodeChar_iff (c : Char) : 0 ∈ String.utf8EncodeChar c ↔ c = '\x00' := by
  have hmarked (value mark : Nat) (hmark : 0 < mark) (hbound : value + mark < 256) :
      (0 : UInt8) ≠ UInt8.ofNat (value + mark) := by
    intro heq
    have hzero : (UInt8.ofNat (value + mark)).toNat = 0 := by rw [← heq]; rfl
    rw [UInt8.toNat_ofNat_of_lt' hbound] at hzero
    omega
  constructor
  · intro hmem
    unfold String.utf8EncodeChar at hmem
    dsimp only at hmem
    split_ifs at hmem with hone htwo hthree
    · have hvalue : c.val.toNat = 0 := by
        have heq : 0 = UInt8.ofNat c.val.toNat := by simpa using hmem
        rw [← UInt8.toNat_ofNat_of_lt' (show c.val.toNat < 256 by omega), ← heq]
        rfl
      exact Char.ext (UInt32.toNat_inj.mp hvalue)
    all_goals
      simp (disch := omega) only [List.mem_cons, List.not_mem_nil, hmarked, or_self] at hmem
  · rintro rfl
    decide

theorem zero_mem_ofText_iff (text : String) : 0 ∈ ofText text ↔ '\x00' ∈ text.toList := by
  simp [ofText_eq_flatMap, zero_mem_utf8EncodeChar_iff]

theorem length_ofText (text : String) : (ofText text).length = text.utf8ByteSize := by
  simp [ofText]

theorem ofText_eq_nil_iff : ofText text = [] ↔ text = "" := by
  rw [← List.length_eq_zero_iff, length_ofText, String.utf8ByteSize_eq_zero_iff]

/-- Bytes that a text was written with spell this text. -/
theorem text?_ofText (text : String) : text? (ofText text) = some text := by
  have hbytes : (⟨(ofText text).toArray⟩ : ByteArray) = text.toByteArray := rfl
  unfold text? String.fromUTF8?
  rw [hbytes, dif_pos text.isValidUTF8]
  rfl

theorem display_ofText (text : String) : display (ofText text) = text := by
  rw [display, text?_ofText, Option.getD_some]

end Bytes

namespace NameBuffer

variable {capacity : Nat} {raw : List UInt8} {name a b : NameBuffer capacity}

theorem WellFormed.length_bytes (h : name.WellFormed) : name.bytes.length = name.length := by
  have hfits := h.fits
  rw [bytes, List.length_take_of_le]
  rw [Vector.length_toList]
  omega

theorem WellFormed.bytes_ne_nil (h : name.WellFormed) : name.bytes ≠ [] := by
  rw [← List.length_pos_iff, h.length_bytes]
  exact Nat.pos_of_ne_zero h.nonempty

/-- Behind the bytes in use there are only zeros. -/
theorem WellFormed.toList_content (h : name.WellFormed) :
    name.content.toList = name.bytes ++ List.replicate (capacity - name.length) 0 := by
  have hfits := h.fits
  have hlength := h.length_bytes
  apply List.ext_getElem
  · simp only [Vector.length_toList, List.length_append, List.length_replicate]
    omega
  · intro i hi _
    by_cases hinside : i < name.length
    · rw [List.getElem_append_left (by omega)]
      simp [bytes]
    · rw [List.getElem_append_right (by omega), List.getElem_replicate, Vector.getElem_toList]
      exact h.cleared i (by simpa using hi) (Nat.le_of_not_lt hinside)

/-- Names are told apart by their bytes: nothing is left behind them that could differ. -/
theorem WellFormed.eq_iff_bytes (ha : a.WellFormed) (hb : b.WellFormed) :
    a = b ↔ a.bytes = b.bytes := by
  constructor
  · exact congrArg bytes
  · intro heq
    have hlength : a.length = b.length := by rw [← ha.length_bytes, heq, hb.length_bytes]
    have hcontent : a.content = b.content := by
      apply Vector.toList_inj.mp
      rw [ha.toList_content, hb.toList_content, heq, hlength]
    cases a
    cases b
    exact congrArg₂ NameBuffer.mk hcontent hlength

/-- What stands before the first NUL of a window is not empty unless the NUL comes at once, is shorter
than the window, and has no NUL. -/
theorem takeWhile_bounds {window : List UInt8} (hmem : 0 ∈ window) :
    (window.takeWhile (· ≠ 0) ≠ [] ↔ window.head? ≠ some 0) ∧
      (window.takeWhile (· ≠ 0)).length < window.length ∧ 0 ∉ window.takeWhile (· ≠ 0) := by
  have hnul : 0 ∉ window.takeWhile (· ≠ 0) := by
    intro h
    simpa using List.mem_takeWhile_imp h
  refine ⟨?_, ?_, hnul⟩
  · cases window with
    | nil => cases hmem
    | cons first rest => by_cases hfirst : first = 0 <;> simp [hfirst]
  · apply lt_of_le_of_ne (List.takeWhile_prefix _).length_le
    intro heq
    rw [(List.takeWhile_prefix _).eq_of_length heq] at hnul
    exact hnul hmem

/-- Where the window has a NUL, the bytes behind the window do not matter. -/
theorem takeWhile_take (hmem : 0 ∈ raw.take capacity) :
    (raw.take capacity).takeWhile (· ≠ 0) = raw.takeWhile (· ≠ 0) := by
  have hshort := (takeWhile_bounds hmem).2.1
  conv_rhs => rw [← List.take_append_drop capacity raw]
  rw [List.takeWhile_append, if_neg (Nat.ne_of_lt hshort)]

theorem head?_take_of_mem (hmem : 0 ∈ raw.take capacity) :
    (raw.take capacity).head? = raw.head? := by
  cases capacity with
  | zero => simp at hmem
  | succ capacity => simp [List.head?_take]

/-- The first NUL ends what has no NUL. -/
theorem takeWhile_of_getElem {window : List UInt8} {length : Nat} (hlength : length < window.length)
    (hzero : window[length] = 0) (hnul : 0 ∉ window.take length) :
    window.takeWhile (· ≠ 0) = window.take length := by
  have hall : ∀ byte ∈ window.take length, decide (byte ≠ 0) = true := by
    intro byte hbyte
    exact decide_eq_true fun h => hnul (h ▸ hbyte)
  conv_lhs => rw [← List.take_append_drop length window]
  rw [List.takeWhile_append_of_pos hall, List.drop_eq_getElem_cons hlength, hzero]
  simp

theorem bytes_of_ofTerminated? (h : ofTerminated? raw = some name) :
    name.bytes = raw.takeWhile (· ≠ 0) := by
  obtain ⟨hwell, hlength, hzero, hbytes⟩ := ofTerminated?_eq_some h
  have hmem : 0 ∈ raw.take capacity := hzero ▸ List.getElem_mem hlength
  have hnul : 0 ∉ (raw.take capacity).take name.length := hbytes ▸ hwell.noNul
  rw [← takeWhile_take hmem, takeWhile_of_getElem hlength hzero hnul, hbytes]

theorem isSome_ofTerminated?_iff :
    (ofTerminated? raw : Option (NameBuffer capacity)).isSome ↔
      0 ∈ raw.take capacity ∧ raw.head? ≠ some 0 := by
  constructor
  · intro hsome
    obtain ⟨name, hname⟩ := Option.isSome_iff_exists.mp hsome
    obtain ⟨hwell, hlength, hzero, -⟩ := ofTerminated?_eq_some hname
    have hmem : 0 ∈ raw.take capacity := hzero ▸ List.getElem_mem hlength
    have hfront : (raw.take capacity).takeWhile (· ≠ 0) ≠ [] := by
      rw [takeWhile_take hmem, ← bytes_of_ofTerminated? hname]
      exact hwell.bytes_ne_nil
    rw [(takeWhile_bounds hmem).1, head?_take_of_mem hmem] at hfront
    exact ⟨hmem, hfront⟩
  · rintro ⟨hmem, hhead⟩
    rw [← head?_take_of_mem hmem] at hhead
    unfold ofTerminated?
    dsimp only
    generalize raw.take capacity = window at *
    split
    · next hnone =>
      rw [List.findIdx?_eq_none_iff] at hnone
      simpa using hnone 0 hmem
    · next length hfind =>
      obtain ⟨hlength, hzero, -⟩ := List.findIdx?_eq_some_iff_getElem.mp hfind
      have hnonempty : length ≠ 0 := by
        rintro rfl
        rw [List.head?_eq_getElem?, List.getElem?_eq_getElem hlength] at hhead
        simp_all
      rw [if_neg hnonempty, Option.isSome_some]

theorem ofTerminated?_eq_some_iff (hwell : name.WellFormed) :
    ofTerminated? raw = some name ↔
      (0 ∈ raw.take capacity ∧ raw.head? ≠ some 0) ∧ name.bytes = raw.takeWhile (· ≠ 0) := by
  rw [← isSome_ofTerminated?_iff]
  constructor
  · intro h
    exact ⟨Option.isSome_iff_exists.mpr ⟨name, h⟩, bytes_of_ofTerminated? h⟩
  · rintro ⟨hsome, hbytes⟩
    obtain ⟨found, hfound⟩ := Option.isSome_iff_exists.mp hsome
    have hread := bytes_of_ofTerminated? hfound
    rw [hfound, Option.some_inj, (WellFormed.of_ofTerminated? hfound).eq_iff_bytes hwell, hread, hbytes]

/-- Only the window counts. -/
theorem ofTerminated?_congr {raw' : List UInt8} (h : raw.take capacity = raw'.take capacity) :
    (ofTerminated? raw : Option (NameBuffer capacity)) = ofTerminated? raw' := by
  unfold ofTerminated?
  rw [h]

/-- What a field reads as whose text is ended by a NUL. -/
theorem front_terminated {bytes : List UInt8} (hnul : 0 ∉ bytes) (rest : List UInt8) :
    (bytes ++ 0 :: rest).takeWhile (· ≠ 0) = bytes := by
  have hall : ∀ byte ∈ bytes, decide (byte ≠ 0) = true := by
    intro byte hbyte
    exact decide_eq_true fun h => hnul (h ▸ hbyte)
  rw [List.takeWhile_append_of_pos hall]
  simp

/-- The NUL behind some bytes is in the window if there are not too many of them. -/
theorem zero_mem_take_iff {bytes : List UInt8} (hnul : 0 ∉ bytes) (rest : List UInt8) :
    0 ∈ (bytes ++ 0 :: rest).take capacity ↔ bytes.length < capacity := by
  rw [List.take_append, List.mem_append]
  constructor
  · rintro (hmem | hmem)
    · exact absurd (List.mem_of_mem_take hmem) hnul
    · by_contra hover
      rw [Nat.sub_eq_zero_of_le (Nat.le_of_not_lt hover), List.take_zero] at hmem
      cases hmem
  · intro hfits
    have hroom : capacity - bytes.length = (capacity - bytes.length - 1) + 1 := by omega
    rw [hroom, List.take_succ_cons]
    exact .inr List.mem_cons_self

theorem isSome_terminated_iff {bytes : List UInt8} (hnul : 0 ∉ bytes) (rest : List UInt8) :
    (ofTerminated? (bytes ++ 0 :: rest) : Option (NameBuffer capacity)).isSome ↔
      bytes ≠ [] ∧ bytes.length < capacity := by
  have hhead : (bytes ++ 0 :: rest).head? ≠ some 0 ↔ bytes ≠ [] := by
    cases bytes with
    | nil => simp
    | cons first more =>
      have hfirst : first ≠ 0 := fun h => hnul (h ▸ List.mem_cons_self)
      simp [hfirst]
  rw [isSome_ofTerminated?_iff, zero_mem_take_iff hnul, hhead, and_comm]

/-- A field in which a NUL follows the bytes of a name is read as this name. -/
theorem WellFormed.ofTerminated?_terminated (h : name.WellFormed) (rest : List UInt8) :
    ofTerminated? (name.bytes ++ 0 :: rest) = some name := by
  rw [ofTerminated?_eq_some_iff h, front_terminated h.noNul, ← isSome_ofTerminated?_iff,
    isSome_terminated_iff h.noNul, h.length_bytes]
  exact ⟨⟨h.bytes_ne_nil, h.fits⟩, rfl⟩

/-- The buffer of a name ends its bytes with a NUL. -/
theorem WellFormed.toList_padded_append (h : name.WellFormed) (more : List UInt8) :
    ∃ rest, name.padded.toList ++ more = name.bytes ++ 0 :: rest := by
  have hroom : capacity - name.length = (capacity - name.length - 1) + 1 := by
    have := h.fits
    omega
  rw [padded, h.toList_content, hroom, List.replicate_succ, List.append_assoc]
  exact ⟨_, rfl⟩

theorem WellFormed.ofTerminated?_padded (h : name.WellFormed) (more : List UInt8) :
    ofTerminated? (name.padded.toList ++ more) = some name := by
  obtain ⟨rest, hfield⟩ := h.toList_padded_append more
  rw [hfield, h.ofTerminated?_terminated]

theorem WellFormed.eq_iff_padded (ha : a.WellFormed) (hb : b.WellFormed) :
    a = b ↔ a.padded = b.padded := by
  constructor
  · exact congrArg padded
  · intro heq
    have hread := ha.ofTerminated?_padded []
    rw [heq, hb.ofTerminated?_padded] at hread
    exact (Option.some.inj hread).symm

/-- A text that is short enough is read from a zeroed buffer into which it was copied: it leaves room for a
NUL there. -/
theorem ofText?_eq {text : String} (hnul : 0 ∉ Bytes.ofText text) (rest : List UInt8) :
    (ofText? text : Option (NameBuffer capacity)) =
      ofTerminated? (Bytes.ofText text ++ 0 :: rest) := by
  unfold ofText?
  dsimp only
  split_ifs with hover
  · have hlong : capacity ≤ (Bytes.ofText text).length := hover.resolve_right hnul
    apply Eq.symm
    rw [← Option.not_isSome_iff_eq_none, isSome_terminated_iff hnul]
    omega
  · have hroom : (Bytes.ofText text).length < capacity := by
      rw [not_or] at hover
      omega
    rw [toList_copied _ hroom.le]
    have hzeros : ((Vector.replicate capacity (0 : UInt8)).toList.drop (Bytes.ofText text).length) =
        0 :: List.replicate (capacity - (Bytes.ofText text).length - 1) 0 := by
      rw [Vector.toList_replicate, List.drop_replicate, ← List.replicate_succ]
      congr 1
      omega
    rw [hzeros]
    cases hread : (ofTerminated? (Bytes.ofText text ++ 0 :: rest) : Option (NameBuffer capacity)) with
    | none =>
      rw [← Option.not_isSome_iff_eq_none, isSome_terminated_iff hnul] at hread ⊢
      exact hread
    | some name =>
      have hbytes := bytes_of_ofTerminated? hread
      rw [front_terminated hnul] at hbytes
      rw [← hbytes, (WellFormed.of_ofTerminated? hread).ofTerminated?_terminated]

theorem ofText?_eq_none {text : String} (hnul : 0 ∈ Bytes.ofText text) :
    (ofText? text : Option (NameBuffer capacity)) = none := by
  unfold ofText?
  exact if_pos (.inr hnul)

theorem isSome_ofText?_iff {text : String} :
    (ofText? text : Option (NameBuffer capacity)).isSome ↔
      text ≠ "" ∧ text.utf8ByteSize < capacity ∧ '\x00' ∉ text.toList := by
  rw [← Bytes.length_ofText, ← Bytes.zero_mem_ofText_iff, ne_eq, ← Bytes.ofText_eq_nil_iff]
  by_cases hnul : 0 ∈ Bytes.ofText text
  · simp [ofText?_eq_none hnul, hnul]
  · rw [ofText?_eq hnul [], isSome_terminated_iff hnul]
    simp only [hnul, not_false_eq_true, and_true, ne_eq]

theorem bytes_of_ofText? {text : String} (h : ofText? text = some name) :
    name.bytes = Bytes.ofText text := by
  have hnul : 0 ∉ Bytes.ofText text := by
    intro hmem
    rw [ofText?_eq_none hmem] at h
    cases h
  rw [ofText?_eq hnul []] at h
  rw [bytes_of_ofTerminated? h, front_terminated hnul]

/-- A name was made from a field or from a text. -/
def Made (name : NameBuffer capacity) : Prop :=
  (∃ raw, ofTerminated? raw = some name) ∨ ∃ text, ofText? text = some name

/-- The names that are made are the well-formed ones. -/
theorem made_iff_wellFormed : name.Made ↔ name.WellFormed := by
  constructor
  · rintro (⟨raw, h⟩ | ⟨text, h⟩)
    · exact .of_ofTerminated? h
    · exact .of_ofText? h
  · intro h
    exact .inl ⟨_, h.ofTerminated?_terminated []⟩

/-- What a name is to the fields and the texts it can be made from. -/
structure Faithful (capacity : Nat) : Prop where
  -- A field has a name when a NUL comes within the capacity and not at once.
  field_accepted (raw : List UInt8) :
    (ofTerminated? raw : Option (NameBuffer capacity)).isSome ↔
      0 ∈ raw.take (min capacity raw.length) ∧ raw.head? ≠ some 0
  -- It is what stands before the first NUL.
  field_read (raw : List UInt8) (name : NameBuffer capacity) (h : ofTerminated? raw = some name) :
    name.bytes = raw.takeWhile (· ≠ 0)
  -- A text is a name when it is not empty, leaves room for a NUL and has none.
  text_accepted (text : String) :
    (ofText? text : Option (NameBuffer capacity)).isSome ↔
      text ≠ "" ∧ text.utf8ByteSize < capacity ∧ '\x00' ∉ text.toList
  -- It has the bytes of the text, and is shown as this text.
  text_read (text : String) (name : NameBuffer capacity) (h : ofText? text = some name) :
    name.bytes = Bytes.ofText text ∧ name.text? = some text ∧ name.display = text
  -- Both ways lead to the same names.
  text_terminated (text : String) (rest : List UInt8) (h : '\x00' ∉ text.toList) :
    (ofTerminated? (Bytes.ofText text ++ 0 :: rest) : Option (NameBuffer capacity)) =
      ofText? text
  -- The buffer of a name is its bytes, at least one and without a NUL, and then only zeros.
  buffer (name : NameBuffer capacity) (h : name.Made) :
    1 ≤ name.length ∧ name.length < capacity ∧
      (∀ (i : Nat) (hi : i < capacity), i < name.length → name.content[i] ≠ 0) ∧
      (∀ (i : Nat) (hi : i < capacity), name.length ≤ i → name.content[i] = 0) ∧
      name.bytes = name.content.toList.take name.length
  -- Names are told apart by their bytes, and by their buffers.
  same (a b : NameBuffer capacity) (ha : a.Made) (hb : b.Made) :
    (a = b ↔ a.bytes = b.bytes) ∧ (a = b ↔ a.padded = b.padded)
  -- The buffer of a name is read as this name, whatever comes behind it.
  field_padded (name : NameBuffer capacity) (h : name.Made) (more : List UInt8) :
    ofTerminated? (name.padded.toList ++ more) = some name

theorem faithful (capacity : Nat) : Faithful capacity where
  field_accepted raw := by
    rw [isSome_ofTerminated?_iff, ← List.take_eq_take_min]
  field_read raw name h := bytes_of_ofTerminated? h
  text_accepted text := isSome_ofText?_iff
  text_read text name h := by
    have hbytes := bytes_of_ofText? h
    rw [text?, display, hbytes]
    exact ⟨rfl, Bytes.text?_ofText text, Bytes.display_ofText text⟩
  text_terminated text rest h := by
    rw [← Bytes.zero_mem_ofText_iff] at h
    exact (ofText?_eq h rest).symm
  buffer name h := by
    have hwell := made_iff_wellFormed.mp h
    refine ⟨Nat.pos_of_ne_zero hwell.nonempty, hwell.fits, ?_, hwell.cleared, rfl⟩
    intro i hi hinside hzero
    apply hwell.noNul
    rw [bytes, List.mem_take_iff_getElem]
    exact ⟨i, by simpa using ⟨hinside, hi⟩, by simpa using hzero⟩
  same a b ha hb :=
    ⟨(made_iff_wellFormed.mp ha).eq_iff_bytes (made_iff_wellFormed.mp hb),
      (made_iff_wellFormed.mp ha).eq_iff_padded (made_iff_wellFormed.mp hb)⟩
  field_padded name h := (made_iff_wellFormed.mp h).ofTerminated?_padded

end NameBuffer

namespace BoundedName

variable {capacity : Nat} {raw : List UInt8} {name a b : BoundedName capacity}

theorem toNameBuffer_inj : a.toNameBuffer = b.toNameBuffer ↔ a = b := by
  cases a
  cases b
  simp

theorem eq_iff_bytes : a = b ↔ a.bytes = b.bytes := by
  rw [← toNameBuffer_inj, a.wellFormed.eq_iff_bytes b.wellFormed]

/-- The names that are made are those whose buffers are. -/
theorem map_ofTerminated? (raw : List UInt8) :
    (ofTerminated? raw : Option (BoundedName capacity)).map toNameBuffer =
      NameBuffer.ofTerminated? raw := by
  cases h : (NameBuffer.ofTerminated? raw : Option (NameBuffer capacity)) <;> simp [ofTerminated?, h]

theorem map_ofText? (text : String) :
    (ofText? text : Option (BoundedName capacity)).map toNameBuffer = NameBuffer.ofText? text := by
  cases h : (NameBuffer.ofText? text : Option (NameBuffer capacity)) <;> simp [ofText?, h]

theorem ofTerminated?_eq_some_iff :
    ofTerminated? raw = some name ↔
      (0 ∈ raw.take capacity ∧ raw.head? ≠ some 0) ∧ name.bytes = raw.takeWhile (· ≠ 0) := by
  rw [← NameBuffer.ofTerminated?_eq_some_iff name.wellFormed, ← map_ofTerminated?]
  simp [toNameBuffer_inj]

theorem bytes_of_ofTerminated? (h : ofTerminated? raw = some name) :
    name.bytes = raw.takeWhile (· ≠ 0) :=
  (ofTerminated?_eq_some_iff.mp h).2

theorem isSome_ofTerminated?_iff :
    (ofTerminated? raw : Option (BoundedName capacity)).isSome ↔
      0 ∈ raw.take capacity ∧ raw.head? ≠ some 0 := by
  rw [← NameBuffer.isSome_ofTerminated?_iff, ← map_ofTerminated?, Option.isSome_map]

end BoundedName

namespace DriverEvent

/-- The front of an event's label is that of the bytes it was made from, followed by zeros. -/
theorem take_label (raw : List UInt8) (endpoint : Option Endpoint) (status : DriverStatus)
    {n : Nat} (hn : n ≤ eventLabelSize) :
    (ofBytes raw endpoint status).label.toList.take n =
      (raw ++ List.replicate eventLabelSize 0).take n := by
  apply List.ext_getElem
  · simp only [List.length_take, Vector.length_toList, List.length_append, List.length_replicate]
    omega
  · intro i hi _
    have hfield : i < eventLabelSize := by
      simp only [List.length_take, Vector.length_toList] at hi
      omega
    rw [List.getElem_take, List.getElem_take, Vector.getElem_toList]
    by_cases hinside : i < raw.length
    · rw [List.getElem_append_left hinside]
      simp [ofBytes, List.getD_eq_getElem?_getD, hinside]
    · rw [List.getElem_append_right (Nat.le_of_not_lt hinside)]
      simp [ofBytes, List.getD_eq_getElem?_getD, Nat.le_of_not_lt hinside]

theorem label?_ofBytes_ofText {text : String} (hnul : 0 ∉ Bytes.ofText text)
    (endpoint : Option Endpoint) (status : DriverStatus) :
    (ofBytes (Bytes.ofText text ++ [0]) endpoint status).label? = BoundedName.ofText? text := by
  have hread : (NameBuffer.ofTerminated?
      (ofBytes (Bytes.ofText text ++ [0]) endpoint status).label.toList : Option (NameBuffer labelSize)) =
        NameBuffer.ofText? text := by
    rw [NameBuffer.ofTerminated?_congr (take_label _ _ _ (by decide)), List.append_assoc]
    exact (NameBuffer.ofText?_eq hnul _).symm
  apply Option.map_injective (fun a b h => BoundedName.toNameBuffer_inj.mp h)
  rw [label?, BoundedName.map_ofTerminated?, BoundedName.map_ofText?, hread]

end DriverEvent

/-- Bounded names stand for exactly their bytes, whatever the capacity. The label of a driver is the text that
discovery was given for it, and there is none where the text is no label. -/
theorem names_faithful (capacity : Nat) :
    NameBuffer.Faithful capacity ∧
      (∀ raw, (BoundedName.ofTerminated? raw : Option (BoundedName capacity)).map (·.toNameBuffer) =
        NameBuffer.ofTerminated? raw) ∧
      (∀ text, (BoundedName.ofText? text : Option (BoundedName capacity)).map (·.toNameBuffer) =
        NameBuffer.ofText? text) ∧
      ∀ (text : String) (endpoint : Option Endpoint) (status : DriverStatus),
        '\x00' ∉ text.toList →
          (DriverEvent.ofBytes (Bytes.ofText text ++ [0]) endpoint status).label? =
              BoundedName.ofText? text ∧
            ((BoundedName.ofText? text : Option Label) = none ↔
              text = "" ∨ labelSize ≤ text.utf8ByteSize) := by
  refine ⟨NameBuffer.faithful capacity, BoundedName.map_ofTerminated?, BoundedName.map_ofText?, ?_⟩
  intro text endpoint status htext
  have hnul : 0 ∉ Bytes.ofText text := by rwa [Bytes.zero_mem_ofText_iff]
  refine ⟨DriverEvent.label?_ofBytes_ofText hnul endpoint status, ?_⟩
  rw [← Option.map_eq_none_iff (f := (·.toNameBuffer)), BoundedName.map_ofText?,
    ← Option.not_isSome_iff_eq_none, NameBuffer.isSome_ofText?_iff]
  simp only [htext, not_false_eq_true, and_true, not_and_or, not_lt, not_not, ne_eq]

/-- A text of fifteen bytes is a label and one of sixteen is none, though it has fifteen characters only.
What stands behind the first NUL of a field leaves no trace in the buffer. -/
theorem names_faithful_accented :
    '\x00' ∉ "pilote-réseau0".toList ∧ '\x00' ∉ "pilote-réseau-0".toList ∧
      ((DriverEvent.up (Bytes.ofText "pilote-réseau0" ++ [0]) ⟨7⟩).label?.map (·.bytes) =
        some (Bytes.ofText "pilote-réseau0")) ∧
      (DriverEvent.up (Bytes.ofText "pilote-réseau-0" ++ [0]) ⟨7⟩).label? = none ∧
      ∃ name : NameBuffer 4,
        NameBuffer.ofTerminated? [105, 111, 0, 107, 0] = some name ∧ name.bytes = [105, 111] ∧
          ∀ (i : Nat) (hi : i < 4), name.length ≤ i → name.content[i] = 0 := by
  have hshort : '\x00' ∉ "pilote-réseau0".toList := by decide +kernel
  have hlong : '\x00' ∉ "pilote-réseau-0".toList := by decide +kernel
  obtain ⟨hlabels, -, htexts, htold⟩ := names_faithful labelSize
  have hnames := (names_faithful 4).1
  obtain ⟨name, hname⟩ := Option.isSome_iff_exists.mp
    ((hnames.field_accepted [105, 111, 0, 107, 0]).mpr (by decide))
  refine ⟨hshort, hlong, ?_, ?_, name, hname, hnames.field_read _ _ hname,
    (hnames.buffer name (.inl ⟨_, hname⟩)).2.2.2.1⟩
  · obtain ⟨heq, -⟩ := htold _ (some ⟨7⟩) .up hshort
    have hsome : (NameBuffer.ofText? "pilote-réseau0" : Option (NameBuffer labelSize)).isSome :=
      (hlabels.text_accepted _).mpr ⟨by decide, by decide, hshort⟩
    rw [← htexts, Option.isSome_map] at hsome
    obtain ⟨label, hlabel⟩ := Option.isSome_iff_exists.mp hsome
    have hread := htexts "pilote-réseau0"
    rw [hlabel, Option.map_some] at hread
    rw [DriverEvent.up, heq, hlabel, Option.map_some, (hlabels.text_read _ _ hread.symm).1]
  · obtain ⟨heq, hnone⟩ := htold _ (some ⟨7⟩) .up hlong
    rw [DriverEvent.up, heq, hnone]
    exact .inr (by decide)

end DriverHub
