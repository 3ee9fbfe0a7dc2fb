import DriverHub.Wire.Layout
import Mathlib

/-! Laws of the formats. What is written is read back. What is read and written again is the bytes that
were read, but for grants: every word with the highest bit set becomes the word for no grant. -/
namespace DriverHub.Wire

theorem length_littleEndian (width value : Nat) : (littleEndian width value).length = width := by
  induction width generalizing value with
  | zero => rfl
  | succ width ih => rw [littleEndian, List.length_cons, ih]

theorem ofLittleEndian_littleEndian (width value : Nat) :
    ofLittleEndian (littleEndian width value) = value % 256 ^ width := by
  induction width generalizing value with
  | zero => rw [littleEndian, ofLittleEndian, pow_zero, Nat.mod_one]
  | succ width ih =>
    have hlow : (UInt8.ofNat (value % 256)).toNat = value % 256 := by
      rw [UInt8.toNat_ofNat']
      omega
    rw [littleEndian, ofLittleEndian, ih, hlow, pow_succ', Nat.mod_mul]

theorem ofLittleEndian_lt (bytes : List UInt8) : ofLittleEndian bytes < 256 ^ bytes.length := by
  induction bytes with
  | nil => exact Nat.one_pos
  | cons byte rest ih =>
    have hbyte := byte.toNat_lt
    rw [ofLittleEndian, List.length_cons, pow_succ]
    omega

theorem littleEndian_ofLittleEndian (bytes : List UInt8) :
    littleEndian bytes.length (ofLittleEndian bytes) = bytes := by
  induction bytes with
  | nil => rfl
  | cons byte rest ih =>
    have hbyte := byte.toNat_lt
    have hlow : (byte.toNat + 256 * ofLittleEndian rest) % 256 = byte.toNat := by omega
    have hhigh : (byte.toNat + 256 * ofLittleEndian rest) / 256 = ofLittleEndian rest := by omega
    rw [List.length_cons, ofLittleEndian, littleEndian, hlow, hhigh, ih, UInt8.ofNat_toNat]

/-- Position `i` lies in a word with the highest bit set that starts at one of these positions. -/
def Voided (starts : List Nat) (bytes : List UInt8) (i : Nat) : Prop :=
  ∃ start ∈ starts, start ≤ i ∧ i < start + 4 ∧ 128 ≤ bytes.getD (start + 3) 0

instance (starts : List Nat) (bytes : List UInt8) (i : Nat) : Decidable (Voided starts bytes i) :=
  inferInstanceAs (Decidable (∃ start ∈ starts, _))

/-- The byte at position `i` once every word with the highest bit set that starts at one of these
positions is replaced by the word for no grant. -/
def settled (starts : List Nat) (bytes : List UInt8) (i : Nat) : UInt8 :=
  if Voided starts bytes i then 0xFF else bytes.getD i 0

theorem settled_nil (bytes : List UInt8) (i : Nat) : settled [] bytes i = bytes.getD i 0 := by
  have hnone : ¬Voided [] bytes i := by
    rintro ⟨start, hstart, -⟩
    cases hstart
  rw [settled, if_neg hnone]

theorem getD_drop (bytes : List UInt8) (count i : Nat) :
    (bytes.drop count).getD i 0 = bytes.getD (count + i) 0 := by
  rw [List.getD_eq_getElem?_getD, List.getD_eq_getElem?_getD, List.getElem?_drop]

/-- Whether a position is void can be decided from the bytes from `shift` on, if the words that start
before end before. -/
theorem settled_drop {starts inner : List Nat} {bytes : List UInt8} {shift i : Nat}
    (hsame : ∀ start, start ≤ i → i < start + 4 →
      (start + shift ∈ starts ↔ start ∈ inner))
    (hbefore : ∀ start ∈ starts, start ≤ shift + i → shift + i < start + 4 → shift ≤ start) :
    settled starts bytes (shift + i) = settled inner (bytes.drop shift) i := by
  have hvoided : Voided starts bytes (shift + i) ↔ Voided inner (bytes.drop shift) i := by
    constructor
    · rintro ⟨start, hstart, hle, hlt, hhigh⟩
      obtain ⟨inside, rfl⟩ := Nat.exists_eq_add_of_le (hbefore start hstart hle hlt)
      have hmem : inside + shift ∈ starts := by rwa [Nat.add_comm]
      refine ⟨inside, (hsame inside (by omega) (by omega)).mp hmem, by omega, by omega, ?_⟩
      rw [getD_drop, ← Nat.add_assoc]
      exact hhigh
    · rintro ⟨start, hstart, hle, hlt, hhigh⟩
      refine ⟨start + shift, (hsame start hle hlt).mpr hstart, by omega, by omega, ?_⟩
      rw [getD_drop] at hhigh
      rwa [show start + shift + 3 = shift + (start + 3) by omega]
  simp only [settled, hvoided, getD_drop]

namespace Format

variable {α β : Type}

/-- What is written has the format's width and is read back, whatever comes behind it. What is read and
written again stays as it was, but for the grants that start at these positions. -/
structure Lawful (format : Format α) (grants : List Nat) : Prop where
  length : ∀ value, (format.write value).length = format.width
  read_write : ∀ value, format.read (format.write value) = value
  read_append : ∀ bytes more, format.width ≤ bytes.length →
    format.read (bytes ++ more) = format.read bytes
  inside : ∀ start ∈ grants, start + 4 ≤ format.width
  write_read : ∀ bytes, format.width ≤ bytes.length → ∀ i < format.width,
    (format.write (format.read bytes)).getD i 0 = settled grants bytes i

theorem Lawful.read_write_append {format : Format α} {grants : List Nat} (h : format.Lawful grants)
    (value : α) (more : List UInt8) : format.read (format.write value ++ more) = value := by
  rw [h.read_append _ _ (Nat.le_of_eq (h.length value).symm), h.read_write]

/-- Numbers of a fixed width are written by their digits. -/
theorem lawful_digits {format : Format α} (ofNat : Nat → α) (toNat : α → Nat)
    (hread : ∀ bytes, format.read bytes = ofNat (ofLittleEndian (bytes.take format.width)))
    (hwrite : ∀ value, format.write value = littleEndian format.width (toNat value))
    (hlt : ∀ value, toNat value < 256 ^ format.width) (hleft : ∀ value, ofNat (toNat value) = value)
    (hright : ∀ n < 256 ^ format.width, toNat (ofNat n) = n) : format.Lawful [] where
  length value := by rw [hwrite, length_littleEndian]
  read_write value := by
    have htake : (littleEndian format.width (toNat value)).take format.width =
        littleEndian format.width (toNat value) := by
      apply List.take_of_length_le
      rw [length_littleEndian]
    rw [hread, hwrite, htake, ofLittleEndian_littleEndian, Nat.mod_eq_of_lt (hlt value), hleft]
  read_append bytes more hlength := by
    rw [hread, hread, List.take_append_of_le_length hlength]
  inside start hstart := nomatch hstart
  write_read bytes hlength i hi := by
    have htake : (bytes.take format.width).length = format.width := List.length_take_of_le hlength
    have hdigits := ofLittleEndian_lt (bytes.take format.width)
    have hsame := littleEndian_ofLittleEndian (bytes.take format.width)
    rw [htake] at hdigits hsame
    rw [hread, hwrite, hright _ hdigits, hsame, settled_nil, List.getD_eq_getElem?_getD,
      List.getElem?_take_of_lt hi, ← List.getD_eq_getElem?_getD]

theorem u8_lawful : u8.Lawful [] := by
  refine lawful_digits UInt8.ofNat UInt8.toNat (fun bytes => ?_) (fun value => ?_)
    (fun value => value.toNat_lt) (fun value => UInt8.ofNat_toNat) fun n hn => ?_
  · cases bytes with
    | nil => rfl
    | cons byte rest => exact UInt8.ofNat_toNat.symm
  · have hlt := value.toNat_lt
    change [value] = [UInt8.ofNat (value.toNat % 256)]
    rw [Nat.mod_eq_of_lt hlt, UInt8.ofNat_toNat]
  · exact UInt8.toNat_ofNat_of_lt' hn

theorem u16_lawful : u16.Lawful [] :=
  lawful_digits UInt16.ofNat UInt16.toNat (fun _ => rfl) (fun _ => rfl) (fun value => value.toNat_lt)
    (fun _ => UInt16.ofNat_toNat) fun _ hn => UInt16.toNat_ofNat_of_lt' hn

theorem u32_lawful : u32.Lawful [] :=
  lawful_digits UInt32.ofNat UInt32.toNat (fun _ => rfl) (fun _ => rfl) (fun value => value.toNat_lt)
    (fun _ => UInt32.ofNat_toNat) fun _ hn => UInt32.toNat_ofNat_of_lt' hn

theorem Lawful.map {format : Format α} {grants : List Nat} (h : format.Lawful grants)
    {decode : α → β} {encode : β → α} (hdecode : ∀ value, decode (encode value) = value)
    (hencode : ∀ value, encode (decode value) = value) :
    (format.map decode encode).Lawful grants where
  length value := h.length (encode value)
  read_write value := by
    change decode (format.read (format.write (encode value))) = value
    rw [h.read_write, hdecode]
  read_append bytes more hlength := congrArg decode (h.read_append bytes more hlength)
  inside := h.inside
  write_read bytes hlength i hi := by
    change (format.write (encode (decode (format.read bytes)))).getD i 0 = _
    rw [hencode]
    exact h.write_read bytes hlength i hi

theorem Lawful.pair {first : Format α} {second : Format β} {grants grants' : List Nat}
    (h : first.Lawful grants) (h' : second.Lawful grants') :
    (first.pair second).Lawful (grants ++ grants'.map (· + first.width)) where
  length value := by
    change (first.write value.1 ++ second.write value.2).length = first.width + second.width
    rw [List.length_append, h.length, h'.length]
  read_write value := by
    have hdrop : (first.write value.1 ++ second.write value.2).drop first.width =
        second.write value.2 := by
      rw [← h.length value.1, List.drop_left]
    change (first.read (first.write value.1 ++ second.write value.2),
      second.read ((first.write value.1 ++ second.write value.2).drop first.width)) = value
    rw [h.read_write_append, hdrop, h'.read_write]
  read_append bytes more hlength := by
    change first.width + second.width ≤ bytes.length at hlength
    change (first.read (bytes ++ more), second.read ((bytes ++ more).drop first.width)) =
      (first.read bytes, second.read (bytes.drop first.width))
    rw [h.read_append _ _ (by omega), List.drop_append_of_le_length (by omega),
      h'.read_append _ _ (by rw [List.length_drop]; omega)]
  inside start hstart := by
    change start + 4 ≤ first.width + second.width
    rcases List.mem_append.mp hstart with hfirst | hsecond
    · have := h.inside start hfirst
      omega
    · obtain ⟨inner, hinner, rfl⟩ := List.mem_map.mp hsecond
      have := h'.inside inner hinner
      omega
  write_read bytes hlength i hi := by
    change first.width + second.width ≤ bytes.length at hlength
    change i < first.width + second.width at hi
    change (first.write (first.read bytes) ++
      second.write (second.read (bytes.drop first.width))).getD i 0 = _
    have hwritten := h.length (first.read bytes)
    -- A byte comes from the value whose field it lies in, and so does the grant that covers it.
    by_cases hfirst : i < first.width
    · have hsettled : settled (grants ++ grants'.map (· + first.width)) bytes (0 + i) =
          settled grants (bytes.drop 0) i := by
        apply settled_drop
        · intro start hle hlt
          rw [List.mem_append, List.mem_map]
          refine ⟨fun hmem => hmem.resolve_right ?_, .inl⟩
          rintro ⟨inner, -, hinner⟩
          omega
        · intro start _ _ _
          exact Nat.zero_le start
      rw [Nat.zero_add, List.drop_zero] at hsettled
      rw [List.getD_append _ _ _ _ (by omega), h.write_read bytes (by omega) i hfirst, hsettled]
    · obtain ⟨j, rfl⟩ := Nat.exists_eq_add_of_le (Nat.le_of_not_lt hfirst)
      rw [List.getD_append_right _ _ _ _ (by omega), hwritten, Nat.add_sub_cancel_left,
        h'.write_read _ (by rw [List.length_drop]; omega) j (by omega)]
      symm
      apply settled_drop
      · intro start hle hlt
        rw [List.mem_append, List.mem_map]
        constructor
        · rintro (hmem | ⟨inner, hinner, heq⟩)
          · have := h.inside _ hmem
            omega
          · rwa [← Nat.add_right_cancel heq]
        · exact fun hmem => .inr ⟨start, hmem, rfl⟩
      · intro start hmem hle hlt
        rcases List.mem_append.mp hmem with hmem | hmem
        · have := h.inside start hmem
          omega
        · obtain ⟨inner, -, rfl⟩ := List.mem_map.mp hmem
          exact Nat.le_add_left _ _

/-- Where the grants of an array's members start. -/
def arrayGrants (grants : List Nat) (width count : Nat) : List Nat :=
  (List.range count).flatMap fun k => grants.map (· + k * width)

theorem mem_arrayGrants {grants : List Nat} {width count start : Nat} :
    start ∈ arrayGrants grants width count ↔
      ∃ k < count, ∃ inner ∈ grants, inner + k * width = start := by
  simp only [arrayGrants, List.mem_flatMap, List.mem_range, List.mem_map]

theorem length_flatMap_write {format : Format α} {grants : List Nat} (h : format.Lawful grants)
    (values : List α) : (values.flatMap format.write).length = values.length * format.width := by
  induction values with
  | nil => rw [List.flatMap_nil, List.length_nil, List.length_nil, Nat.zero_mul]
  | cons value rest ih =>
    rw [List.flatMap_cons, List.length_append, h.length, ih, List.length_cons, Nat.succ_mul,
      Nat.add_comm]

/-- Behind the first `k` members, the next one is written first. -/
theorem drop_flatMap_write {format : Format α} {grants : List Nat} (h : format.Lawful grants)
    (values : List α) {k : Nat} (hk : k < values.length) :
    (values.flatMap format.write).drop (k * format.width) =
      format.write values[k] ++ (values.drop (k + 1)).flatMap format.write := by
  have hsplit : values = values.take k ++ values[k] :: values.drop (k + 1) := by
    rw [List.cons_getElem_drop_succ, List.take_append_drop]
  have hlength : ((values.take k).flatMap format.write).length = k * format.width := by
    rw [length_flatMap_write h, List.length_take_of_le (Nat.le_of_lt hk)]
  conv_lhs => rw [hsplit]
  rw [List.flatMap_append, ← hlength, List.drop_left, List.flatMap_cons]

/-- A position lies in one member of an array only. -/
theorem member_unique {width k k' j : Nat} (hj : j < width) (hle : k' * width ≤ k * width + j)
    (hlt : k * width + j < k' * width + width) : k' = k := by
  have hpos : 0 < width := Nat.zero_lt_of_lt hj
  have hmember : (k * width + j) / width = k' := by
    apply Nat.div_eq_of_lt_le hle
    rw [Nat.succ_mul]
    exact hlt
  rw [Nat.mul_comm, Nat.mul_add_div hpos, Nat.div_eq_of_lt hj, Nat.add_zero] at hmember
  exact hmember.symm

theorem Lawful.array {format : Format α} {grants : List Nat} (h : format.Lawful grants)
    (count : Nat) : (format.array count).Lawful (arrayGrants grants format.width count) where
  length values := by
    change (values.toList.flatMap format.write).length = count * format.width
    rw [length_flatMap_write h, Vector.length_toList]
  read_write values := by
    change Vector.ofFn (fun i : Fin count =>
      format.read ((values.toList.flatMap format.write).drop (i * format.width))) = values
    refine Vector.ext fun i hi => ?_
    have hi' : i < values.toList.length := by rwa [Vector.length_toList]
    rw [Vector.getElem_ofFn, drop_flatMap_write h _ hi', h.read_write_append, Vector.getElem_toList]
  read_append bytes more hlength := by
    change count * format.width ≤ bytes.length at hlength
    refine Vector.ext fun i hi => ?_
    have hnext : (i + 1) * format.width ≤ count * format.width := Nat.mul_le_mul_right _ hi
    rw [Nat.succ_mul] at hnext
    have hrest : format.width ≤ (bytes.drop (i * format.width)).length := by
      rw [List.length_drop]
      omega
    have hmember : format.read ((bytes ++ more).drop (i * format.width)) =
        format.read (bytes.drop (i * format.width)) := by
      rw [List.drop_append_of_le_length (by omega), h.read_append _ _ hrest]
    change (Vector.ofFn fun i : Fin count => format.read ((bytes ++ more).drop (i * format.width)))[i] =
      (Vector.ofFn fun i : Fin count => format.read (bytes.drop (i * format.width)))[i]
    rw [Vector.getElem_ofFn, Vector.getElem_ofFn, hmember]
  inside start hstart := by
    obtain ⟨k, hk, inner, hinner, rfl⟩ := mem_arrayGrants.mp hstart
    have hnext : (k + 1) * format.width ≤ count * format.width := Nat.mul_le_mul_right _ hk
    have hinside := h.inside inner hinner
    rw [Nat.succ_mul] at hnext
    change inner + k * format.width + 4 ≤ count * format.width
    omega
  write_read bytes hlength i hi := by
    change count * format.width ≤ bytes.length at hlength
    change i < count * format.width at hi
    -- The byte lies in member `k`, at position `j` of it.
    have hpos : 0 < format.width := Nat.pos_of_mul_pos_left (Nat.zero_lt_of_lt hi)
    obtain ⟨k, j, hj, rfl⟩ : ∃ k j, j < format.width ∧ i = k * format.width + j :=
      ⟨i / format.width, i % format.width, Nat.mod_lt i hpos, (Nat.div_add_mod' i _).symm⟩
    have hk : k < count := by
      by_contra hle
      have := Nat.mul_le_mul_right format.width (Nat.le_of_not_lt hle)
      omega
    have hnext : (k + 1) * format.width ≤ count * format.width := Nat.mul_le_mul_right _ hk
    rw [Nat.succ_mul] at hnext
    let values := Vector.ofFn fun i : Fin count => format.read (bytes.drop (i * format.width))
    have hlast : k < values.toList.length := by rwa [Vector.length_toList]
    have hvalue : values.toList[k] = format.read (bytes.drop (k * format.width)) := by
      rw [Vector.getElem_toList, Vector.getElem_ofFn]
    have hmember := drop_flatMap_write h values.toList hlast
    rw [hvalue] at hmember
    change (values.toList.flatMap format.write).getD (k * format.width + j) 0 = _
    rw [← getD_drop, hmember, List.getD_append _ _ _ _ (by rw [h.length]; exact hj),
      h.write_read _ (by rw [List.length_drop]; omega) j hj]
    symm
    apply settled_drop
    · intro start hle hlt
      rw [mem_arrayGrants]
      constructor
      · rintro ⟨k', -, inner, hinner, heq⟩
        have hinside := h.inside inner hinner
        obtain rfl : k' = k := member_unique hj (by omega) (by omega)
        rwa [← Nat.add_right_cancel heq]
      · exact fun hmem => ⟨k, hk, start, hmem, rfl⟩
    · intro start hmem hle hlt
      obtain ⟨k', -, inner, hinner, rfl⟩ := mem_arrayGrants.mp hmem
      have hinside := h.inside inner hinner
      obtain rfl : k' = k := member_unique hj (by omega) (by omega)
      exact Nat.le_add_left _ _

theorem i32_lawful : i32.Lawful [] := u32_lawful.map (fun _ => by simp) fun _ => by simp

/-- The highest bit of a word is that of its last byte. -/
theorem highest_bit {bytes : List UInt8} (hlength : 4 ≤ bytes.length) :
    0x80000000 ≤ (u32.read bytes).toNat ↔ 128 ≤ bytes.getD 3 0 := by
  obtain ⟨b₀, rest₀, rfl⟩ := List.exists_cons_of_length_pos (Nat.zero_lt_of_lt hlength)
  obtain ⟨b₁, rest₁, rfl⟩ := List.exists_cons_of_length_pos (l := rest₀) (by simp at hlength; omega)
  obtain ⟨b₂, rest₂, rfl⟩ := List.exists_cons_of_length_pos (l := rest₁) (by simp at hlength; omega)
  obtain ⟨b₃, rest, rfl⟩ := List.exists_cons_of_length_pos (l := rest₂) (by simp at hlength; omega)
  have hword : (u32.read (b₀ :: b₁ :: b₂ :: b₃ :: rest)).toNat =
      (b₀.toNat + 256 * (b₁.toNat + 256 * (b₂.toNat + 256 * (b₃.toNat + 256 * 0)))) % 2 ^ 32 :=
    UInt32.toNat_ofNat'
  have h₀ := b₀.toNat_lt
  have h₁ := b₁.toNat_lt
  have h₂ := b₂.toNat_lt
  have h₃ := b₃.toNat_lt
  change _ ↔ 128 ≤ b₃
  rw [hword, UInt8.le_iff_toNat_le]
  change _ ↔ 128 ≤ b₃.toNat
  omega

theorem grant_lawful : grant.Lawful [0] where
  length _ := length_littleEndian 4 _
  read_write grant? := by
    change GrantId.ofNat? (u32.read (u32.write _)).toNat = grant?
    rw [u32_lawful.read_write]
    cases grant? with
    | none => rfl
    | some grant =>
      have hbound := grant.bound
      have hindex : (UInt32.ofNat grant.index).toNat = grant.index := by
        rw [UInt32.toNat_ofNat']
        omega
      simp only [Option.map_some, Option.getD_some, hindex, GrantId.ofNat?, hbound, ↓reduceDIte]
  read_append bytes more hlength :=
    congrArg (fun word : UInt32 => GrantId.ofNat? word.toNat) (u32_lawful.read_append bytes more hlength)
  inside start hstart := by
    rw [List.mem_singleton.mp hstart]
    exact Nat.le_refl 4
  write_read bytes hlength i hi := by
    change 4 ≤ bytes.length at hlength
    change i < 4 at hi
    have hvoided : Voided [0] bytes i ↔ 0x80000000 ≤ (u32.read bytes).toNat := by
      rw [highest_bit hlength]
      constructor
      · rintro ⟨start, hstart, -, -, hvoid⟩
        obtain rfl := List.mem_singleton.mp hstart
        exact hvoid
      · exact fun hvoid => ⟨0, List.mem_singleton.mpr rfl, Nat.zero_le i, by omega, hvoid⟩
    change (u32.write _).getD i 0 = settled [0] bytes i
    rw [settled]
    by_cases hvoid : 0x80000000 ≤ (u32.read bytes).toNat
    · have hnone : GrantId.ofNat? (u32.read bytes).toNat = none := by
        rw [GrantId.ofNat?, dif_neg (by omega)]
      have hbytes : u32.write noGrant = [0xFF, 0xFF, 0xFF, 0xFF] := by decide
      change (u32.write (((GrantId.ofNat? (u32.read bytes).toNat).map _).getD noGrant)).getD i 0 = _
      rw [if_pos (hvoided.mpr hvoid), hnone, Option.map_none, Option.getD_none, hbytes]
      interval_cases i <;> rfl
    · have hlt : (u32.read bytes).toNat < 0x80000000 := by omega
      have hsome : GrantId.ofNat? (u32.read bytes).toNat = some ⟨(u32.read bytes).toNat, hlt⟩ := by
        rw [GrantId.ofNat?, dif_pos hlt]
      change (u32.write (((GrantId.ofNat? (u32.read bytes).toNat).map _).getD noGrant)).getD i 0 = _
      rw [if_neg (fun hv => hvoid (hvoided.mp hv)), hsome, Option.map_some, Option.getD_some,
        UInt32.ofNat_toNat, u32_lawful.write_read bytes hlength i hi, settled_nil]

end Format

namespace Layout

theorem reconfiguration_lawful : reconfiguration.Lawful [24] :=
  (Format.u32_lawful.pair <| (Format.u32_lawful.map (fun _ => rfl) fun _ => rfl).pair <|
    (Format.u32_lawful.map (fun _ => rfl) fun _ => rfl).pair <|
    (Format.u32_lawful.map (fun _ => rfl) fun _ => rfl).pair <| Format.u32_lawful.pair <|
    Format.u32_lawful.pair <| Format.grant_lawful.pair <| Format.u32_lawful.pair <|
    Format.u8_lawful.array addressSize).map (fun _ => rfl) fun _ => rfl

theorem transfer_lawful : transfer.Lawful [4, 8, 12, 16, 20, 24, 28, 32] :=
  (Format.u32_lawful.pair <| (Format.grant_lawful.array maxSegments).pair <|
    (Format.u16_lawful.array maxSegments).pair Format.u8_lawful).map (fun _ => rfl) fun _ => rfl

theorem initReply_lawful : initReply.Lawful [] :=
  (Format.u32_lawful.pair <| Format.u32_lawful.pair <| Format.u32_lawful.pair <|
    (Format.u32_lawful.map (fun _ => rfl) fun _ => rfl).pair <|
    (Format.u8_lawful.array interfaceNameSize).pair <| (Format.u8_lawful.array addressSize).pair <|
    Format.u8_lawful.pair <| Format.u8_lawful.pair Format.u8_lawful).map (fun _ => rfl) fun _ => rfl

theorem completion_lawful : completion.Lawful [] := Format.u32_lawful.pair Format.i32_lawful

theorem statusReport_lawful : statusReport.Lawful [] :=
  Format.u32_lawful.pair <| (Format.u32_lawful.pair <| Format.u32_lawful.pair <|
    Format.u32_lawful.pair <| Format.u32_lawful.pair <| Format.u32_lawful.pair
      Format.u32_lawful).map (fun _ => rfl) fun _ => rfl

end Layout
end DriverHub.Wire
