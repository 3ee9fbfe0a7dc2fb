import DriverHub.Proofs.Wire.RoundTrip

/-! What the readers accept, and what an accepted message is when it is written again: the same frame in
its canonical form. There, bytes that belong to no field are zero, and every grant with a negative number
is the word for no grant. -/
namespace DriverHub

open Wire

/-- A frame is the front of these bytes if it agrees with them everywhere. -/
theorem Frame.toList_eq_take {frame : Frame} {bytes : List UInt8}
    (hlength : frameSize ≤ bytes.length) :
    frame.toList = bytes.take frameSize ↔
      ∀ i (hi : i < frameSize), frame[i] = bytes.getD i 0 := by
  have htake : (bytes.take frameSize).length = frameSize := List.length_take_of_le hlength
  constructor
  · intro h i hi
    have hfront : i < frame.toList.length := by rwa [Vector.length_toList]
    calc
      frame[i] = frame.toList[i] := (Vector.getElem_toList hfront).symm
      _ = (bytes.take frameSize)[i] := List.getElem_of_eq h hfront
      _ = bytes.getD i 0 := by rw [List.getElem_take, List.getD_eq_getElem]
  · intro h
    apply List.ext_getElem
    · rw [Vector.length_toList, htake]
    · intro i hi hi'
      rw [htake] at hi'
      rw [Vector.getElem_toList, h i hi', List.getElem_take, List.getD_eq_getElem]

namespace Wire

/-- The word at the front, the least significant byte first. -/
def leadingWord (bytes : List UInt8) : UInt32 := UInt32.ofNat (ofLittleEndian (bytes.take 4))

theorem read_leadingWord (bytes : List UInt8) : Format.u32.read bytes = leadingWord bytes := rfl

/-- The bytes of a payload that belong to fields: those before `size`. The words that start at `grants`
hold grants. -/
structure Coverage where
  size : Nat
  grants : List Nat

def RequestType.coverage : RequestType → Coverage
  | .init | .acknowledge => ⟨4, []⟩
  | .configure => ⟨38, [24]⟩
  | .transfer _ => ⟨53, [4, 8, 12, 16, 20, 24, 28, 32]⟩

def ReplyType.coverage : ReplyType → Coverage
  | .init => ⟨41, []⟩
  | .finished _ => ⟨8, []⟩
  | .status => ⟨28, []⟩

namespace Coverage

/-- The canonical form of the frame at the front. -/
def canonical (coverage : Coverage) (bytes : List UInt8) : Frame :=
  Vector.ofFn fun i =>
    if i < 4 then bytes.getD i 0
    else if headerSize ≤ i ∧ i < headerSize + coverage.size then
      settled coverage.grants (bytes.drop headerSize) (i - headerSize)
    else 0

/-- The frame at the front is in canonical form: the bytes that no field has are zero, and a grant with
the highest bit set has every other bit set as well. -/
structure Canonical (coverage : Coverage) (bytes : List UInt8) : Prop where
  reserved : ∀ i, 4 ≤ i → i < headerSize → bytes.getD i 0 = 0
  unused : ∀ i, headerSize + coverage.size ≤ i → i < frameSize → bytes.getD i 0 = 0
  grants : ∀ start ∈ coverage.grants, 128 ≤ bytes.getD (headerSize + start + 3) 0 →
    ∀ i, start ≤ i → i < start + 4 → bytes.getD (headerSize + i) 0 = 0xFF

theorem getElem_canonical (coverage : Coverage) (bytes : List UInt8) {i : Nat} (hi : i < frameSize) :
    (coverage.canonical bytes)[i] = if i < 4 then bytes.getD i 0
      else if headerSize ≤ i ∧ i < headerSize + coverage.size then
        settled coverage.grants (bytes.drop headerSize) (i - headerSize)
      else 0 := Vector.getElem_ofFn ..

/-- The canonical form is the frame itself if and only if the frame is in it. -/
theorem canonical_eq_take {coverage : Coverage} {bytes : List UInt8}
    (hfits : headerSize + coverage.size ≤ frameSize)
    (hinside : ∀ start ∈ coverage.grants, start + 4 ≤ coverage.size)
    (hlength : frameSize ≤ bytes.length) :
    (coverage.canonical bytes).toList = bytes.take frameSize ↔ coverage.Canonical bytes := by
  have hheader : headerSize = 8 := rfl
  rw [Frame.toList_eq_take hlength]
  constructor
  · intro h
    constructor
    · intro i hle hlt
      have hbyte := h i (by omega)
      rw [getElem_canonical, if_neg (by omega), if_neg (by omega)] at hbyte
      exact hbyte.symm
    · intro i hle hlt
      have hbyte := h i hlt
      rw [getElem_canonical, if_neg (by omega), if_neg (by omega)] at hbyte
      exact hbyte.symm
    · intro start hstart hhigh i hle hlt
      have hend := hinside start hstart
      have hbyte := h (headerSize + i) (by omega)
      have hvoided : Voided coverage.grants (bytes.drop headerSize) i := by
        refine ⟨start, hstart, hle, hlt, ?_⟩
        rw [getD_drop, ← Nat.add_assoc]
        exact hhigh
      rw [getElem_canonical, if_neg (by omega), if_pos (by omega), Nat.add_sub_cancel_left, settled,
        if_pos hvoided] at hbyte
      exact hbyte.symm
  · intro h i hi
    rw [getElem_canonical]
    split
    · rfl
    · split
      · rename_i hfield
        obtain ⟨j, rfl⟩ := Nat.exists_eq_add_of_le hfield.1
        rw [Nat.add_sub_cancel_left, settled]
        split
        · rename_i hvoided
          obtain ⟨start, hstart, hle, hlt, hhigh⟩ := hvoided
          rw [getD_drop, ← Nat.add_assoc] at hhigh
          exact (h.grants start hstart hhigh j hle hlt).symm
        · exact getD_drop bytes headerSize j
      · by_cases hlow : i < headerSize
        · exact (h.reserved i (by omega) hlow).symm
        · exact (h.unused i (by omega) hi).symm

end Coverage

theorem getD_assemble (code : UInt32) (payload : List UInt8) (i : Nat) :
    (assemble code payload).getD i 0 = if i < 4 then (Format.u32.write code).getD i 0
      else if i < headerSize then 0 else payload.getD (i - headerSize) 0 := by
  have hcode := length_write_u32 code
  have hheader : headerSize = 8 := rfl
  have hlength := length_header code
  rw [assemble]
  by_cases hlow : i < headerSize
  · rw [List.getD_append _ _ _ _ (by omega), if_pos hlow]
    split
    · rw [List.getD_append _ _ _ _ (by omega)]
    · rw [List.getD_append_right _ _ _ _ (by omega), List.getD_replicate 0 (by omega)]
  · rw [List.getD_append_right _ _ _ _ (by omega), hlength, if_neg (by omega), if_neg hlow]

/-- The fields that were read from a frame, written with the type that stood there, give the frame's
canonical form. -/
theorem Format.Lawful.overwrite_read {α : Type} {format : Format α} {grants : List Nat}
    (h : format.Lawful grants) (frame : Frame) {bytes : List UInt8} {code : UInt32}
    (hcode : code = leadingWord bytes) (hlength : frameSize ≤ bytes.length)
    (hfits : headerSize + format.width ≤ frameSize) :
    frame.overwrite (assemble code (format.write (format.read (bytes.drop headerSize)))) =
      (Coverage.mk format.width grants).canonical bytes := by
  have hwritten := h.length (format.read (bytes.drop headerSize))
  have hheader : headerSize = 8 := rfl
  have hsize : (Coverage.mk format.width grants).size = format.width := rfl
  refine Vector.ext fun i hi => ?_
  rw [Frame.getElem_overwrite, Coverage.getElem_canonical, getD_assemble]
  by_cases hword : i < 4
  · have hsame := Format.u32_lawful.write_read bytes (by change 4 ≤ _; omega) i hword
    rw [settled_nil] at hsame
    rw [if_pos hword, if_pos hword, hcode]
    exact hsame
  · rw [if_neg hword, if_neg hword]
    by_cases hlow : i < headerSize
    · rw [if_pos hlow, if_neg (by omega)]
    · rw [if_neg hlow]
      by_cases hfield : i < headerSize + format.width
      · rw [if_pos ⟨by omega, hfield⟩, h.write_read _ (by rw [List.length_drop]; omega) _ (by omega)]
      · rw [if_neg (by omega), List.getD_eq_default _ _ (by omega)]

end Wire

namespace Request

/-- Why the bytes are no request, if they are none. -/
def objection (bytes : List UInt8) : Option WireError :=
  if bytes.length < 64 then some .truncated
  else if leadingWord bytes ∉ [0x1D00, 0x1D01, 0x1D02, 0x1D03, 0x1D04] then
    some (.unknownType (leadingWord bytes))
  else if leadingWord bytes ∈ [0x1D02, 0x1D03] ∧ 8 < bytes.getD 60 0 then
    some (.badCount (bytes.getD 60 0))
  else none

theorem ofCode?_eq_none {code : UInt32} :
    RequestType.ofCode? code = none ↔ code ∉ [0x1D00, 0x1D01, 0x1D02, 0x1D03, 0x1D04] := by
  have hcodes : RequestType.all.map RequestType.code = [0x1D00, 0x1D01, 0x1D02, 0x1D03, 0x1D04] := rfl
  rw [RequestType.ofCode?, List.find?_eq_none, ← hcodes, List.mem_map]
  simp

theorem code_of_ofCode? {code : UInt32} {type : RequestType}
    (h : RequestType.ofCode? code = some type) : type.code = code := by
  have hfound := List.find?_some h
  simpa using hfound

/-- The types of requests are no types of replies. -/
theorem code_foreign (type : RequestType) :
    type.code ∉ [0x1D80, 0x1D81, 0x1D82, 0x1D83, 0x1D84] := by
  cases type with
  | transfer direction => cases direction <;> decide
  | _ => decide

/-- The number of segments is the payload's byte 52. -/
theorem count_read (bytes : List UInt8) :
    (Layout.transfer.read (bytes.drop headerSize)).count = bytes.getD 60 0 := by
  have hhead (rest : List UInt8) : rest.headD 0 = rest.getD 0 0 := by
    cases rest with
    | nil => rfl
    | cons byte rest => rfl
  change ((((bytes.drop 8).drop 4).drop 32).drop 16).headD 0 = bytes.getD 60 0
  rw [hhead, List.drop_drop, List.drop_drop, List.drop_drop, getD_drop]

/-- The reader fails for the reason stated. -/
theorem decode_eq_error {bytes : List UInt8} {error : WireError} :
    decode bytes = .ok (.error error) ↔ objection bytes = some error := by
  rw [decode_eq, Except.ok.injEq]
  unfold objection
  by_cases hshort : bytes.length < 64
  · rw [if_pos hshort, if_pos hshort, Except.error.injEq, Option.some.injEq]
  · rw [if_neg hshort, if_neg hshort]
    simp only [read_leadingWord]
    cases hcode : RequestType.ofCode? (leadingWord bytes) with
    | none => rw [if_pos (ofCode?_eq_none.mp hcode), Except.error.injEq, Option.some.injEq]
    | some type =>
      have hknown : ¬leadingWord bytes ∉ [0x1D00, 0x1D01, 0x1D02, 0x1D03, 0x1D04] := by
        rw [← ofCode?_eq_none, hcode]
        exact Option.some_ne_none type
      rw [if_neg hknown, ← code_of_ofCode? hcode]
      cases type with
      | transfer direction =>
        have hmember : RequestType.code (.transfer direction) ∈ [0x1D02, 0x1D03] := by
          cases direction <;> decide
        have hcount : maxSegments < (bytes.getD 60 0).toNat ↔ 8 < bytes.getD 60 0 :=
          (UInt8.lt_iff_toNat_lt (a := 8)).symm
        simp only [interpret, count_read, hcount, hmember, true_and]
        split <;> simp
      | _ =>
        rw [if_neg (fun h => absurd h.1 (by decide))]
        simp [interpret]

/-- What the reader accepts has a frame's length, a known type, and fields of this type. -/
theorem decode_eq_ok {bytes : List UInt8} {request : Request} (h : decode bytes = .ok (.ok request)) :
    frameSize ≤ bytes.length ∧ ∃ type : RequestType, type.code = leadingWord bytes ∧
      interpret (bytes.drop headerSize) type = .ok request := by
  rw [decode_eq, Except.ok.injEq] at h
  split at h
  · cases h
  · rename_i hlong
    refine ⟨Nat.le_of_not_lt hlong, ?_⟩
    split at h
    · cases h
    · rename_i type hcode
      exact ⟨type, code_of_ofCode? hcode, h⟩

/-- An accepted request has no more segments than there can be, and written again it gives the canonical
form of its frame. -/
theorem encodeInto_of_decode {bytes : List UInt8} {request : Request}
    (h : decode bytes = .ok (.ok request)) (frame : Frame) :
    request.type.code = leadingWord bytes ∧ request.segmentCount.toNat ≤ maxSegments ∧
      request.encodeInto frame = request.type.coverage.canonical bytes := by
  obtain ⟨hlength, type, hcode, hpayload⟩ := decode_eq_ok h
  cases type with
  | init =>
    obtain rfl := Except.ok.inj hpayload
    exact ⟨hcode, Nat.zero_le 8, Format.u32_lawful.overwrite_read frame hcode hlength (by decide)⟩
  | configure =>
    obtain rfl := Except.ok.inj hpayload
    exact ⟨hcode, Nat.zero_le 8,
      Layout.reconfiguration_lawful.overwrite_read frame hcode hlength (by decide)⟩
  | transfer direction =>
    simp only [interpret] at hpayload
    split at hpayload
    · cases hpayload
    · rename_i hfew
      obtain rfl := Except.ok.inj hpayload
      exact ⟨hcode, Nat.le_of_not_lt hfew,
        Layout.transfer_lawful.overwrite_read frame hcode hlength (by decide)⟩
  | acknowledge =>
    obtain rfl := Except.ok.inj hpayload
    exact ⟨hcode, Nat.zero_le 8, Format.u32_lawful.overwrite_read frame hcode hlength (by decide)⟩

theorem coverage_fits (type : RequestType) : headerSize + type.coverage.size ≤ frameSize ∧
    ∀ start ∈ type.coverage.grants, start + 4 ≤ type.coverage.size := by
  cases type with
  | transfer direction => cases direction <;> decide
  | _ => decide

end Request

namespace Reply

/-- Why the bytes are no reply, if they are none. -/
def objection (bytes : List UInt8) : Option WireError :=
  if bytes.length < 64 then some .truncated
  else if leadingWord bytes ∉ [0x1D80, 0x1D81, 0x1D82, 0x1D83, 0x1D84] then
    some (.unknownType (leadingWord bytes))
  else none

theorem ofCode?_eq_none {code : UInt32} :
    ReplyType.ofCode? code = none ↔ code ∉ [0x1D80, 0x1D81, 0x1D82, 0x1D83, 0x1D84] := by
  have hcodes : ReplyType.all.map ReplyType.code = [0x1D80, 0x1D81, 0x1D82, 0x1D83, 0x1D84] := rfl
  rw [ReplyType.ofCode?, List.find?_eq_none, ← hcodes, List.mem_map]
  simp

theorem code_of_ofCode? {code : UInt32} {type : ReplyType}
    (h : ReplyType.ofCode? code = some type) : type.code = code := by
  have hfound := List.find?_some h
  simpa using hfound

/-- The types of replies are no types of requests. -/
theorem code_foreign (type : ReplyType) :
    type.code ∉ [0x1D00, 0x1D01, 0x1D02, 0x1D03, 0x1D04] := by
  cases type with
  | finished kind => cases kind <;> decide
  | _ => decide

/-- The reader fails for the reason stated. -/
theorem decode_eq_error {bytes : List UInt8} {error : WireError} :
    decode bytes = .ok (.error error) ↔ objection bytes = some error := by
  rw [decode_eq, Except.ok.injEq]
  unfold objection
  by_cases hshort : bytes.length < 64
  · rw [if_pos hshort, if_pos hshort, Except.error.injEq, Option.some.injEq]
  · rw [if_neg hshort, if_neg hshort]
    simp only [read_leadingWord]
    cases hcode : ReplyType.ofCode? (leadingWord bytes) with
    | none => rw [if_pos (ofCode?_eq_none.mp hcode), Except.error.injEq, Option.some.injEq]
    | some type =>
      have hknown : ¬leadingWord bytes ∉ [0x1D80, 0x1D81, 0x1D82, 0x1D83, 0x1D84] := by
        rw [← ofCode?_eq_none, hcode]
        exact Option.some_ne_none type
      rw [if_neg hknown]
      simp

/-- What the reader accepts has a frame's length, a known type, and fields of this type. -/
theorem decode_eq_ok {bytes : List UInt8} {reply : Reply} (h : decode bytes = .ok (.ok reply)) :
    frameSize ≤ bytes.length ∧ ∃ type : ReplyType, type.code = leadingWord bytes ∧
      interpret (bytes.drop headerSize) type = reply := by
  rw [decode_eq, Except.ok.injEq] at h
  split at h
  · cases h
  · rename_i hlong
    refine ⟨Nat.le_of_not_lt hlong, ?_⟩
    split at h
    · cases h
    · rename_i type hcode
      exact ⟨type, code_of_ofCode? hcode, Except.ok.inj h⟩

/-- An accepted reply, written again, gives the canonical form of its frame. -/
theorem encodeInto_of_decode {bytes : List UInt8} {reply : Reply}
    (h : decode bytes = .ok (.ok reply)) (frame : Frame) : reply.type.code = leadingWord bytes ∧
      reply.encodeInto frame = reply.type.coverage.canonical bytes := by
  obtain ⟨hlength, type, hcode, rfl⟩ := decode_eq_ok h
  cases type with
  | init => exact ⟨hcode, Layout.initReply_lawful.overwrite_read frame hcode hlength (by decide)⟩
  | finished kind =>
    exact ⟨hcode, Layout.completion_lawful.overwrite_read frame hcode hlength (by decide)⟩
  | status =>
    exact ⟨hcode, Layout.statusReport_lawful.overwrite_read frame hcode hlength (by decide)⟩

theorem coverage_fits (type : ReplyType) : headerSize + type.coverage.size ≤ frameSize ∧
    ∀ start ∈ type.coverage.grants, start + 4 ≤ type.coverage.size := by
  cases type with
  | finished kind => cases kind <;> decide
  | _ => decide

end Reply

/-- An answer is a failure or it is not. -/
theorem accepted_iff {α : Type} {answer : Except Defect (Except WireError α)}
    {objection : Option WireError} (hanswer : ∃ read, answer = .ok read)
    (h : ∀ error, answer = .ok (.error error) ↔ objection = some error) :
    (∃ message, answer = .ok (.ok message)) ↔ objection = none := by
  constructor
  · rintro ⟨message, haccepted⟩
    rw [Option.eq_none_iff_forall_ne_some]
    intro error hobjection
    have hrefused := (h error).mpr hobjection
    rw [haccepted] at hrefused
    cases hrefused
  · intro hnone
    obtain ⟨read, hread⟩ := hanswer
    cases read with
    | ok message => exact ⟨message, hread⟩
    | error error =>
      have hsome := (h error).mp hread
      rw [hnone] at hsome
      cases hsome

/-- Requests that were accepted are the same if they are written the same. -/
theorem Request.eq_of_encode {bytes bytes' : List UInt8} {request request' : Request}
    (h : decode bytes = .ok (.ok request)) (h' : decode bytes' = .ok (.ok request'))
    (hsame : request.encode = request'.encode) : request = request' := by
  have hread {bytes : List UInt8} {request : Request} (h : decode bytes = .ok (.ok request)) :
      decode (request.encode.toList ++ []) = .ok (.ok request) := by
    have hfew := (encodeInto_of_decode h (Vector.replicate frameSize 0)).2.1
    rw [encode, decode_encodeInto, if_neg (Nat.not_lt.mpr hfew)]
  have hfirst := hread h
  rw [hsame, hread h'] at hfirst
  exact (Except.ok.inj (Except.ok.inj hfirst)).symm

/-- Replies are the same if they are written the same. -/
theorem Reply.eq_of_encode {reply reply' : Reply} (hsame : reply.encode = reply'.encode) :
    reply = reply' := by
  have hread (reply : Reply) : decode (reply.encode.toList ++ []) = .ok (.ok reply) :=
    reply.decode_encodeInto _ []
  have hfirst := hread reply
  rw [hsame, hread reply'] at hfirst
  exact (Except.ok.inj (Except.ok.inj hfirst)).symm

/-- The readers accept the frames of their own types and nothing else, and say why. An accepted frame,
written again, is in its canonical form; so accepted frames hold the same message if and only if they
have the same canonical form. A request is never read as a reply, nor a reply as a request. -/
theorem readers_canonical :
    (∀ bytes : List UInt8,
      (∀ error, Request.decode bytes = .ok (.error error) ↔ Request.objection bytes = some error) ∧
      ((∃ request, Request.decode bytes = .ok (.ok request)) ↔ Request.objection bytes = none) ∧
      (∀ error, Reply.decode bytes = .ok (.error error) ↔ Reply.objection bytes = some error) ∧
      ((∃ reply, Reply.decode bytes = .ok (.ok reply)) ↔ Reply.objection bytes = none)) ∧
    (∀ (bytes : List UInt8) request, Request.decode bytes = .ok (.ok request) →
      request.type.code = leadingWord bytes ∧
      request.encode = request.type.coverage.canonical bytes ∧
      (request.encode.toList = bytes.take frameSize ↔ request.type.coverage.Canonical bytes) ∧
      ∀ (bytes' : List UInt8) request', Request.decode bytes' = .ok (.ok request') →
        (request = request' ↔
          request.type.coverage.canonical bytes = request'.type.coverage.canonical bytes')) ∧
    (∀ (bytes : List UInt8) reply, Reply.decode bytes = .ok (.ok reply) →
      reply.type.code = leadingWord bytes ∧
      reply.encode = reply.type.coverage.canonical bytes ∧
      (reply.encode.toList = bytes.take frameSize ↔ reply.type.coverage.Canonical bytes) ∧
      ∀ (bytes' : List UInt8) reply', Reply.decode bytes' = .ok (.ok reply') →
        (reply = reply' ↔
          reply.type.coverage.canonical bytes = reply'.type.coverage.canonical bytes')) ∧
    (∀ (request : Request) (frame : Frame) (more : List UInt8),
      Reply.decode ((request.encodeInto frame).toList ++ more) =
        .ok (.error (.unknownType request.type.code))) ∧
    ∀ (reply : Reply) (frame : Frame) (more : List UInt8),
      Request.decode ((reply.encodeInto frame).toList ++ more) =
        .ok (.error (.unknownType reply.type.code)) := by
  refine ⟨?errors, ?requests, ?replies, ?requestNoReply, ?replyNoRequest⟩
  case errors =>
    intro bytes
    exact ⟨fun _ => Request.decode_eq_error,
      accepted_iff ⟨_, Request.decode_eq bytes⟩ fun _ => Request.decode_eq_error,
      fun _ => Reply.decode_eq_error,
      accepted_iff (Reply.exists_decode bytes) fun _ => Reply.decode_eq_error⟩
  case requests =>
    intro bytes request h
    obtain ⟨hcode, -, hencode⟩ := Request.encodeInto_of_decode h (Vector.replicate frameSize 0)
    obtain ⟨hfits, hinside⟩ := Request.coverage_fits request.type
    refine ⟨hcode, hencode, ?_, ?_⟩
    · rw [Request.encode, hencode]
      exact Coverage.canonical_eq_take hfits hinside (Request.decode_eq_ok h).1
    · intro bytes' request' h'
      have hencode' := (Request.encodeInto_of_decode h' (Vector.replicate frameSize 0)).2.2
      rw [← hencode, ← hencode']
      exact ⟨congrArg Request.encode, Request.eq_of_encode h h'⟩
  case replies =>
    intro bytes reply h
    obtain ⟨hcode, hencode⟩ := Reply.encodeInto_of_decode h (Vector.replicate frameSize 0)
    obtain ⟨hfits, hinside⟩ := Reply.coverage_fits reply.type
    refine ⟨hcode, hencode, ?_, ?_⟩
    · rw [Reply.encode, hencode]
      exact Coverage.canonical_eq_take hfits hinside (Reply.decode_eq_ok h).1
    · intro bytes' reply' h'
      have hencode' := (Reply.encodeInto_of_decode h' (Vector.replicate frameSize 0)).2
      rw [← hencode, ← hencode']
      exact ⟨congrArg Reply.encode, Reply.eq_of_encode⟩
  case requestNoReply =>
    intro request frame more
    have hcode := Frame.read_assembled frame request.type.code request.fits more
    have hlong := Frame.not_truncated (request.encodeInto frame) more
    have hforeign : request.type.code ∉ [0x1D80, 0x1D81, 0x1D82, 0x1D83, 0x1D84] :=
      Request.code_foreign request.type
    rw [Reply.decode_eq_error, Reply.objection, if_neg hlong, ← read_leadingWord,
      Request.encodeInto, hcode, if_pos hforeign]
  case replyNoRequest =>
    intro reply frame more
    have hcode := Frame.read_assembled frame reply.type.code reply.fits more
    have hlong := Frame.not_truncated (reply.encodeInto frame) more
    have hforeign : reply.type.code ∉ [0x1D00, 0x1D01, 0x1D02, 0x1D03, 0x1D04] :=
      Reply.code_foreign reply.type
    rw [Request.decode_eq_error, Request.objection, if_neg hlong, ← read_leadingWord,
      Reply.encodeInto, hcode, if_pos hforeign]

namespace Trial

/-- A frame of a packet to be received that is not canonical: no grant is -1, and there is a byte that no
field has. -/
def sloppy (stray : UInt8) : List UInt8 :=
  [0x03, 0x1D, 0, 0, 9, 9, 9, 9] ++ List.replicate 36 0x80 ++ List.replicate 16 1 ++ [8, stray] ++
    List.replicate 20 7

def room : Request := .transfer .receive
  { id := 0x80808080, count := 8, grants := Vector.replicate 8 none, lengths := Vector.replicate 8 257 }

/-- Frames that differ in bytes without a meaning hold the same message, which is written in neither of
these ways. -/
theorem sloppy_same :
    Request.decode (sloppy 1) = .ok (.ok room) ∧ Request.decode (sloppy 2) = .ok (.ok room) ∧
      room.type.coverage.canonical (sloppy 1) = room.type.coverage.canonical (sloppy 2) ∧
      room.encode.toList ≠ (sloppy 1).take frameSize := by
  have hfirst : Request.decode (sloppy 1) = .ok (.ok room) := by cbv
  have hsecond : Request.decode (sloppy 2) = .ok (.ok room) := by cbv
  obtain ⟨-, -, hcanonical, hsame⟩ := readers_canonical.2.1 _ _ hfirst
  refine ⟨hfirst, hsecond, (hsame _ _ hsecond).mp rfl, ?_⟩
  intro htake
  have hzero := (hcanonical.mp htake).unused 61 (by decide) (by decide)
  exact absurd hzero (by decide)

end Trial
end DriverHub
