import DriverHub.Wire.Format
import DriverHub.Wire.Message

/-!
Layouts of the messages. A layout lists the fields of a message in the order in which its payload
holds them, without gaps.
-/
namespace DriverHub.Wire.Layout

/-- The fields of a configuration request in their order. -/
def reconfiguration : Format Reconfiguration :=
  (Format.u32.pair <| (Format.u32.map ChangeSet.mk ChangeSet.bits).pair <|
    (Format.u32.map Mode.mk Mode.bits).pair <|
    (Format.u32.map Capabilities.mk Capabilities.bits).pair <| Format.u32.pair <| Format.u32.pair <|
    Format.grant.pair <| Format.u32.pair <| Format.u8.array addressSize).map
    (fun (id, set, mode, capabilities, flags, media, grant, count, address) =>
      ⟨id, set, mode, capabilities, flags, media, grant, count, address⟩)
    (fun change => (change.id, change.set, change.mode, change.capabilities, change.flags,
      change.media, change.multicastGrant, change.multicastCount, change.address))

/-- The fields of a transfer in their order. -/
def transfer : Format Transfer :=
  (Format.u32.pair <| (Format.grant.array maxSegments).pair <|
    (Format.u16.array maxSegments).pair Format.u8).map
    (fun (id, grants, lengths, count) => ⟨id, count, grants, lengths⟩)
    (fun transfer => (transfer.id, transfer.grants, transfer.lengths, transfer.count))

/-- The fields of an init reply in their order. -/
def initReply : Format InitReply :=
  (Format.u32.pair <| Format.u32.pair <| Format.u32.pair <|
    (Format.u32.map Capabilities.mk Capabilities.bits).pair <|
    (Format.u8.array interfaceNameSize).pair <| (Format.u8.array addressSize).pair <|
    Format.u8.pair <| Format.u8.pair Format.u8).map
    (fun (id, link, media, capabilities, name, address, addressLength, maxSend, maxReceive) =>
      ⟨id, link, media, capabilities, name, address, addressLength, maxSend, maxReceive⟩)
    (fun reply => (reply.id, reply.link, reply.media, reply.capabilities, reply.name,
      reply.address, reply.addressLength, reply.maxSend, reply.maxReceive))

/-- The fields of a finished request in their order: its number and the result. -/
def completion : Format (UInt32 × Int32) := Format.u32.pair Format.i32

/-- The fields of a status report in their order, behind its number. -/
def statusReport : Format (UInt32 × StatusReport) :=
  Format.u32.pair <|
    (Format.u32.pair <| Format.u32.pair <| Format.u32.pair <| Format.u32.pair <|
      Format.u32.pair Format.u32).map
      (fun (link, media, outErrors, collisions, inErrors, inDrops) =>
        ⟨link, media, outErrors, collisions, inErrors, inDrops⟩)
      (fun report => (report.link, report.media, report.outErrors, report.collisions,
        report.inErrors, report.inDrops))

end DriverHub.Wire.Layout
