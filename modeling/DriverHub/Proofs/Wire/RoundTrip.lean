import DriverHub.Proofs.Wire.Format
import DriverHub.Wire.Frame

/-! Messages on the wire. A message is found again in the frame it was written into, whatever the frame
held before and whatever bytes come behind it. Reading never goes beyond the frame. -/
namespace DriverHub

open Wire

namespace Wire

/-- The bytes of a word, the least significant first. -/
def wordBytes (word : UInt32) : List UInt8 :=
  [word.toUInt8, (word >>> 8).toUInt8, (word >>> 16).toUInt8, (word >>> 24).toUInt8]

theorem write_u32 (word : UInt32) : Format.u32.write word = wordBytes word := by
  have hbyte (n : Nat) (shifted : UInt32) (hshifted : shifted.toNat = word.toNat / n) :
      UInt8.ofNat (word.toNat / n % 256) = shifted.toUInt8 := by
    apply UInt8.toNat_inj.mp
    rw [UInt8.toNat_ofNat', UInt32.toNat_toUInt8, hshifted]
    omega
  have h₀ := hbyte 1 word (Nat.div_one _).symm
  have h₁ := hbyte 256 (word >>> 8) (by simp [Nat.shiftRight_eq_div_pow])
  have h₂ := hbyte (256 * 256) (word >>> 16) (by simp [Nat.shiftRight_eq_div_pow])
  have h₃ := hbyte (256 * 256 * 256) (word >>> 24) (by simp [Nat.shiftRight_eq_div_pow])
  rw [Nat.div_one] at h₀
  rw [wordBytes, ← h₀, ← h₁, ← h₂, ← h₃]
  simp only [Format.u32, littleEndian, Nat.div_div_eq_div_mul]

theorem length_write_u32 (word : UInt32) : (Format.u32.write word).length = 4 :=
  Format.u32_lawful.length word

/-- Where no byte is missing, a field is read. -/
theorem Format.scan_eq {α : Type} {format : Format α} {bytes : List UInt8}
    (h : format.width ≤ bytes.length) : format.scan bytes = .ok (format.read bytes) :=
  if_neg (Nat.not_lt.mpr h)

section Frames

variable {bytes : List UInt8}

theorem frame?_eq_some (h : frameSize ≤ bytes.length) : frame? bytes = some (bytes.take frameSize) :=
  if_neg (Nat.not_lt.mpr h)

theorem frame?_eq_none (h : bytes.length < frameSize) : frame? bytes = none := if_pos h

/-- The code is read from the first bytes of the frame. -/
theorem scan_code (h : frameSize ≤ bytes.length) :
    Format.u32.scan (bytes.take frameSize) = .ok (Format.u32.read bytes) := by
  have hwidth : Format.u32.width ≤ (bytes.take frameSize).length := by
    rw [List.length_take_of_le h]
    decide
  have hread := Format.u32_lawful.read_append _ (bytes.drop frameSize) hwidth
  rw [List.take_append_drop] at hread
  rw [Format.scan_eq hwidth, hread]

/-- The fields of a message are read from its frame, if they fit into one. -/
theorem Format.Lawful.scan_payload {α : Type} {format : Format α} {grants : List Nat}
    (hformat : format.Lawful grants) (hfits : headerSize + format.width ≤ frameSize)
    (h : frameSize ≤ bytes.length) :
    format.scan ((bytes.take frameSize).drop headerSize) =
      .ok (format.read (bytes.drop headerSize)) := by
  have htake : (bytes.take frameSize).length = frameSize := List.length_take_of_le h
  have hwidth : format.width ≤ ((bytes.take frameSize).drop headerSize).length := by
    rw [List.length_drop, htake]
    omega
  have hdrop : bytes.drop headerSize =
      (bytes.take frameSize).drop headerSize ++ bytes.drop frameSize := by
    conv_lhs => rw [← List.take_append_drop frameSize bytes]
    exact List.drop_append_of_le_length (by rw [htake]; decide)
  rw [Format.scan_eq hwidth, hdrop, hformat.read_append _ _ hwidth]

end Frames

/-- A header is the type and four zeros. -/
theorem length_header (code : UInt32) :
    (Format.u32.write code ++ List.replicate 4 (0 : UInt8)).length = headerSize := by
  rw [List.length_append, length_write_u32, List.length_replicate]

end Wire

theorem Frame.getElem_overwrite (frame : Frame) (bytes : List UInt8) {i : Nat} (hi : i < frameSize) :
    (frame.overwrite bytes)[i] = bytes.getD i 0 := Vector.getElem_mapIdx ..

/-- What a frame holds once these bytes were written into it. -/
theorem Frame.toList_overwrite (frame : Frame) {bytes : List UInt8}
    (h : bytes.length ≤ frameSize) :
    (frame.overwrite bytes).toList = bytes ++ List.replicate (frameSize - bytes.length) 0 := by
  apply List.ext_getElem
  · rw [Vector.length_toList, List.length_append, List.length_replicate]
    omega
  · intro i hi hi'
    have hframe : i < frameSize := by rwa [Vector.length_toList] at hi
    rw [Vector.getElem_toList, Frame.getElem_overwrite, ← List.getD_eq_getElem _ 0 hi']
    by_cases hlt : i < bytes.length
    · rw [List.getD_append _ _ _ _ hlt]
    · have hzero : i - bytes.length < frameSize - bytes.length := by omega
      rw [List.getD_append_right _ _ _ _ (Nat.le_of_not_lt hlt), List.getD_replicate 0 hzero,
        List.getD_eq_default _ _ (Nat.le_of_not_lt hlt)]

/-- Nothing of what a frame held before stays. -/
theorem Frame.overwrite_eq (frame frame' : Frame) (bytes : List UInt8) :
    frame.overwrite bytes = frame'.overwrite bytes := by
  refine Vector.ext fun i hi => ?_
  rw [Frame.getElem_overwrite, Frame.getElem_overwrite]

/-- A frame into which a message was written: type, four zeros, fields, zeros. -/
theorem Frame.toList_assembled (frame : Frame) (code : UInt32) {payload : List UInt8}
    (h : headerSize + payload.length ≤ frameSize) :
    (frame.overwrite (assemble code payload)).toList = Format.u32.write code ++
      (List.replicate 4 0 ++
        (payload ++ List.replicate (frameSize - (headerSize + payload.length)) 0)) := by
  have hlength : (assemble code payload).length = headerSize + payload.length := by
    rw [assemble, List.length_append, length_header]
  rw [Frame.toList_overwrite _ (by rw [hlength]; exact h), hlength, assemble]
  simp only [List.append_assoc]

/-- The header of a frame into which a message was written. -/
theorem Frame.take_assembled (frame : Frame) (code : UInt32) {payload : List UInt8}
    (h : headerSize + payload.length ≤ frameSize) :
    (frame.overwrite (assemble code payload)).toList.take headerSize =
      wordBytes code ++ [0, 0, 0, 0] := by
  rw [Frame.toList_assembled _ _ h, ← List.append_assoc, ← length_header code, List.take_left, write_u32]
  rfl

theorem Frame.drop_assembled (frame : Frame) (code : UInt32) {payload : List UInt8}
    (h : headerSize + payload.length ≤ frameSize) (more : List UInt8) :
    ∃ rest, ((frame.overwrite (assemble code payload)).toList ++ more).drop headerSize =
      payload ++ rest := by
  refine ⟨List.replicate (frameSize - (headerSize + payload.length)) 0 ++ more, ?_⟩
  rw [Frame.toList_assembled _ _ h, ← List.append_assoc, ← length_header code, List.append_assoc,
    List.drop_left, List.append_assoc]

theorem Frame.read_assembled (frame : Frame) (code : UInt32) {payload : List UInt8}
    (h : headerSize + payload.length ≤ frameSize) (more : List UInt8) :
    Format.u32.read ((frame.overwrite (assemble code payload)).toList ++ more) = code := by
  rw [Frame.toList_assembled _ _ h, List.append_assoc]
  exact Format.u32_lawful.read_write_append code _

theorem Frame.not_truncated (frame : Frame) (more : List UInt8) :
    ¬(frame.toList ++ more).length < frameSize := by
  rw [List.length_append, Vector.length_toList]
  omega

namespace Request

/-- How many segments a request says it has. -/
def segmentCount : Request → UInt8
  | .transfer _ t => t.count
  | _ => 0

theorem fits (request : Request) : headerSize + request.payload.length ≤ frameSize := by
  have hword (id : UInt32) : headerSize + (Format.u32.write id).length ≤ frameSize := by
    rw [length_write_u32]
    decide
  cases request with
  | init id => exact hword id
  | configure change =>
    change headerSize + (Layout.reconfiguration.write change).length ≤ frameSize
    rw [Layout.reconfiguration_lawful.length]
    decide
  | transfer direction t =>
    change headerSize + (Layout.transfer.write t).length ≤ frameSize
    rw [Layout.transfer_lawful.length]
    decide
  | acknowledge id => exact hword id

theorem ofCode?_code (type : RequestType) : RequestType.ofCode? type.code = some type := by
  cases type with
  | transfer direction => cases direction <;> rfl
  | _ => rfl

/-- The request of a type whose fields these bytes hold. -/
def interpret (payload : List UInt8) : RequestType → Except WireError Request
  | .init => .ok (.init (Format.u32.read payload))
  | .configure => .ok (.configure (Layout.reconfiguration.read payload))
  | .transfer direction =>
    let t := Layout.transfer.read payload
    if maxSegments < t.count.toNat then .error (.badCount t.count)
    else .ok (.transfer direction t)
  | .acknowledge => .ok (.acknowledge (Format.u32.read payload))

theorem ofPayload_eq {bytes : List UInt8} (h : frameSize ≤ bytes.length) (type : RequestType) :
    ofPayload ((bytes.take frameSize).drop headerSize) type =
      .ok (interpret (bytes.drop headerSize) type) := by
  have hword := Format.u32_lawful.scan_payload (by decide) h
  cases type with
  | init => rw [ofPayload, hword]; rfl
  | configure => rw [ofPayload, Layout.reconfiguration_lawful.scan_payload (by decide) h]; rfl
  | transfer direction =>
    rw [ofPayload, Layout.transfer_lawful.scan_payload (by decide) h, interpret]
    change (if _ then _ else _) = _
    split <;> rfl
  | acknowledge => rw [ofPayload, hword]; rfl

/-- What bytes are read as; no field lies outside the frame. -/
theorem decode_eq (bytes : List UInt8) :
    decode bytes = .ok (
      if bytes.length < frameSize then .error .truncated
      else
        match RequestType.ofCode? (Format.u32.read bytes) with
        | none => .error (.unknownType (Format.u32.read bytes))
        | some type => interpret (bytes.drop headerSize) type) := by
  unfold decode
  by_cases hshort : bytes.length < frameSize
  · rw [frame?_eq_none hshort, if_pos hshort]
    rfl
  · have hlong := Nat.le_of_not_lt hshort
    rw [frame?_eq_some hlong, if_neg hshort]
    dsimp only
    rw [scan_code hlong]
    change (match RequestType.ofCode? (Format.u32.read bytes) with
      | none => _
      | some type => _) = _
    cases RequestType.ofCode? (Format.u32.read bytes) with
    | none => rfl
    | some type => exact ofPayload_eq hlong type

/-- The fields of a request are found again, unless it says that it has too many segments. -/
theorem interpret_payload (request : Request) (rest : List UInt8) :
    interpret (request.payload ++ rest) request.type =
      if maxSegments < request.segmentCount.toNat then .error (.badCount request.segmentCount)
      else .ok request := by
  cases request with
  | init id =>
    exact congrArg (Except.ok ∘ Request.init) (Format.u32_lawful.read_write_append id rest)
  | configure change =>
    exact congrArg (Except.ok ∘ Request.configure)
      (Layout.reconfiguration_lawful.read_write_append change rest)
  | transfer direction t =>
    have hread := Layout.transfer_lawful.read_write_append t rest
    simp only [type, payload, interpret, hread]
    rfl
  | acknowledge id =>
    exact congrArg (Except.ok ∘ Request.acknowledge) (Format.u32_lawful.read_write_append id rest)

/-- A request is read from the frame it was written into. -/
theorem decode_encodeInto (request : Request) (frame : Frame) (more : List UInt8) :
    decode ((request.encodeInto frame).toList ++ more) =
      .ok (if maxSegments < request.segmentCount.toNat then .error (.badCount request.segmentCount)
        else .ok request) := by
  obtain ⟨rest, hrest⟩ := Frame.drop_assembled frame request.type.code request.fits more
  have hcode := Frame.read_assembled frame request.type.code request.fits more
  rw [decode_eq, if_neg (Frame.not_truncated _ more)]
  simp only [encodeInto, hcode, ofCode?_code, hrest, interpret_payload]

end Request

namespace Reply

theorem fits (reply : Reply) : headerSize + reply.payload.length ≤ frameSize := by
  cases reply with
  | init reply =>
    change headerSize + (Layout.initReply.write reply).length ≤ frameSize
    rw [Layout.initReply_lawful.length]
    decide
  | finished kind number result =>
    change headerSize + (Layout.completion.write (number, result)).length ≤ frameSize
    rw [Layout.completion_lawful.length]
    decide
  | status number report =>
    change headerSize + (Layout.statusReport.write (number, report)).length ≤ frameSize
    rw [Layout.statusReport_lawful.length]
    decide

theorem ofCode?_code (type : ReplyType) : ReplyType.ofCode? type.code = some type := by
  cases type with
  | finished kind => cases kind <;> rfl
  | _ => rfl

/-- The reply of a type whose fields these bytes hold. -/
def interpret (payload : List UInt8) : ReplyType → Reply
  | .init => .init (Layout.initReply.read payload)
  | .finished kind =>
    let (id, result) := Layout.completion.read payload
    .finished kind id result
  | .status =>
    let (id, report) := Layout.statusReport.read payload
    .status id report

theorem ofPayload_eq {bytes : List UInt8} (h : frameSize ≤ bytes.length) (type : ReplyType) :
    ofPayload ((bytes.take frameSize).drop headerSize) type =
      .ok (interpret (bytes.drop headerSize) type) := by
  cases type with
  | init => rw [ofPayload, Layout.initReply_lawful.scan_payload (by decide) h]; rfl
  | finished kind => rw [ofPayload, Layout.completion_lawful.scan_payload (by decide) h]; rfl
  | status => rw [ofPayload, Layout.statusReport_lawful.scan_payload (by decide) h]; rfl

/-- What bytes are read as; no field lies outside the frame. -/
theorem decode_eq (bytes : List UInt8) :
    decode bytes = .ok (
      if bytes.length < frameSize then .error .truncated
      else
        match ReplyType.ofCode? (Format.u32.read bytes) with
        | none => .error (.unknownType (Format.u32.read bytes))
        | some type => .ok (interpret (bytes.drop headerSize) type)) := by
  unfold decode
  by_cases hshort : bytes.length < frameSize
  · rw [frame?_eq_none hshort, if_pos hshort]
    rfl
  · have hlong := Nat.le_of_not_lt hshort
    rw [frame?_eq_some hlong, if_neg hshort]
    dsimp only
    rw [scan_code hlong]
    change (match ReplyType.ofCode? (Format.u32.read bytes) with
      | none => _
      | some type => _) = _
    cases ReplyType.ofCode? (Format.u32.read bytes) with
    | none => rfl
    | some type =>
      dsimp only
      rw [ofPayload_eq hlong]
      rfl

/-- No bytes make the reading of a reply go out of bounds. -/
theorem exists_decode (bytes : List UInt8) : ∃ answer, decode bytes = .ok answer :=
  ⟨_, decode_eq bytes⟩

/-- The fields of a reply are found again. -/
theorem interpret_payload (reply : Reply) (rest : List UInt8) :
    interpret (reply.payload ++ rest) reply.type = reply := by
  cases reply with
  | init reply => exact congrArg Reply.init (Layout.initReply_lawful.read_write_append reply rest)
  | finished kind number result =>
    exact congrArg (fun x : UInt32 × Int32 => Reply.finished kind x.1 x.2)
      (Layout.completion_lawful.read_write_append (number, result) rest)
  | status number report =>
    exact congrArg (fun x : UInt32 × StatusReport => Reply.status x.1 x.2)
      (Layout.statusReport_lawful.read_write_append (number, report) rest)

/-- What comes behind a frame is not read. -/
theorem decode_take (bytes : List UInt8) : decode (bytes.take frameSize) = decode bytes := by
  by_cases hshort : bytes.length < frameSize
  · rw [List.take_of_length_le (Nat.le_of_lt hshort)]
  · have hlong := Nat.le_of_not_lt hshort
    have htake : frameSize ≤ (bytes.take frameSize).length :=
      Nat.le_of_eq (List.length_take_of_le hlong).symm
    unfold decode
    rw [frame?_eq_some hlong, frame?_eq_some htake, List.take_take, Nat.min_self]

/-- A reply is read from the frame it was written into. -/
theorem decode_encodeInto (reply : Reply) (frame : Frame) (more : List UInt8) :
    decode ((reply.encodeInto frame).toList ++ more) = .ok (.ok reply) := by
  obtain ⟨rest, hrest⟩ := Frame.drop_assembled frame reply.type.code reply.fits more
  have hcode := Frame.read_assembled frame reply.type.code reply.fits more
  rw [decode_eq, if_neg (Frame.not_truncated _ more)]
  simp only [encodeInto, hcode, ofCode?_code, hrest, interpret_payload]

end Reply

/-- Messages survive the wire. A message is written the same into any frame: its type, the least
significant byte first, four zeros, and its fields. From this frame, and whatever bytes come behind it,
the same message is read. The exception are requests that say that they have more segments than there
can be: reading them fails for that reason. -/
theorem messages_survive :
    (∀ (request : Request) (frame : Frame) (more : List UInt8),
      (∀ former, request.encodeInto frame = request.encodeInto former) ∧
      (request.encodeInto frame).toList.take headerSize =
        wordBytes request.type.code ++ [0, 0, 0, 0] ∧
      (request.segmentCount.toNat ≤ maxSegments →
        Request.decode ((request.encodeInto frame).toList ++ more) = .ok (.ok request)) ∧
      ∀ direction t, request = .transfer direction t → maxSegments < t.count.toNat →
        Request.decode ((request.encodeInto frame).toList ++ more) =
          .ok (.error (.badCount t.count))) ∧
    ∀ (reply : Reply) (frame : Frame) (more : List UInt8),
      (∀ former, reply.encodeInto frame = reply.encodeInto former) ∧
      (reply.encodeInto frame).toList.take headerSize =
        wordBytes reply.type.code ++ [0, 0, 0, 0] ∧
      Reply.decode ((reply.encodeInto frame).toList ++ more) = .ok (.ok reply) := by
  constructor
  · intro request frame more
    have hdecode := request.decode_encodeInto frame more
    refine ⟨fun former => Frame.overwrite_eq frame former _, Frame.take_assembled frame _ request.fits,
      fun hfew => ?_, fun direction t hrequest hmany => ?_⟩
    · rw [hdecode, if_neg (Nat.not_lt.mpr hfew)]
    · subst hrequest
      rw [hdecode]
      exact congrArg Except.ok (if_pos hmany)
  · intro reply frame more
    exact ⟨fun former => Frame.overwrite_eq frame former _,
      Frame.take_assembled frame _ reply.fits, reply.decode_encodeInto frame more⟩

/-- A packet of two segments to be sent, with one of the two not granted. -/
def Trial.packet : Transfer where
  id := 7
  count := 2
  grants := #v[some ⟨5, by decide⟩, none, none, none, none, none, none, none]
  lengths := #v[1500, 60, 0, 0, 0, 0, 0, 0]

theorem Trial.packet_survives :
    (Request.transfer .send packet).segmentCount.toNat ≤ maxSegments ∧
      maxSegments < (Transfer.mk 7 9 packet.grants packet.lengths).count.toNat ∧
      Request.decode (((Request.transfer .send packet).encodeInto
        (Vector.replicate frameSize 0xAA)).toList ++ [1, 2, 3]) = .ok (.ok (.transfer .send packet)) ∧
      Request.decode (((Request.transfer .receive
        (Transfer.mk 7 9 packet.grants packet.lengths)).encodeInto
          (Vector.replicate frameSize 0xAA)).toList ++ [1, 2, 3]) = .ok (.error (.badCount 9)) := by
  have hfew : (Request.transfer .send packet).segmentCount.toNat ≤ maxSegments := by decide
  have hmany : maxSegments < (Transfer.mk 7 9 packet.grants packet.lengths).count.toNat := by decide
  refine ⟨hfew, hmany, ?_, ?_⟩
  · exact (messages_survive.1 _ _ _).2.2.1 hfew
  · exact (messages_survive.1 _ _ _).2.2.2 _ _ rfl hmany

end DriverHub
