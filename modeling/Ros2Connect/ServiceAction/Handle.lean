import Ros2Connect.Lib.KeyMap
import Ros2Connect.ServiceAction.Manager

/-!
What service and action plugins share: the key a handle is stored under, the
messages between the two plugins of a channel as the receiver gets them, and
what the receiver gets of a message's data.
-/

namespace Ros2Connect

open Lib

namespace ServiceActionHandle

/-- The bytes of the gid and a zero byte. -/
def gIDString (gID : Bytes) : Bytes := gID ++ [0]

theorem gIDString_inj {gID other : Bytes} : gIDString gID = gIDString other ↔ gID = other := by
  simp [gIDString]

/-- The key of a received message is the key of its sender's handle. -/
theorem getGIDString_eq (message : ServiceActionMessage) :
    message.getGIDString = gIDString message.getGID := rfl

end ServiceActionHandle

/-- A message on its way between the two plugins of a channel. Its data is
absent when the receiver cannot decompress it. -/
structure Transfer where
  opCode : ServiceActionOpCode
  gID : Bytes
  data : Option Bytes
  deriving Repr, DecidableEq

/-- What the receiver of a message gets of its data, by op-code, gid and data. -/
abbrev Reception := ServiceActionOpCode → Bytes → Bytes → Option Bytes

namespace Transfer

/-- A message as it arrives. -/
def arriving (reception : Reception) (opCode : ServiceActionOpCode) (gID data : Bytes) :
    Transfer :=
  ⟨opCode, gID, reception opCode gID data⟩

@[simp] theorem arriving_opCode (reception : Reception)
    (opCode : ServiceActionOpCode) (gID data : Bytes) :
    (arriving reception opCode gID data).opCode = opCode := rfl

@[simp] theorem arriving_gID (reception : Reception)
    (opCode : ServiceActionOpCode) (gID data : Bytes) :
    (arriving reception opCode gID data).gID = gID := rfl

@[simp] theorem arriving_data (reception : Reception)
    (opCode : ServiceActionOpCode) (gID data : Bytes) :
    (arriving reception opCode gID data).data = reception opCode gID data := rfl

/-- What the plugin of the other node gets of the data of a message: the frame
is written, read, converted and, if need be, decompressed. -/
def receivedData (codecs : Codecs) (compression : Compression) (channel : UInt8) :
    Reception := fun opCode gID data => do
  let message ← (ServiceActionMessage.forServiceAction channel opCode data gID).toOption
  let received ← (RclMessage.fromFlatBuffer
    (MessageBase.getCompressedCombinedVector codecs message compression)).toOption
  let converted ← (← (ServiceActionMessage.fromMessage received).toOption)
  if MessageBase.isCompressed converted then
    let (success, stored) ← (MessageBase.decompress codecs converted).toOption
    if success then return stored.getData else none
  else return converted.getData

/-- The data arrives as it was sent. -/
theorem receivedData_eq {codecs : Codecs} (hcodecs : codecs.RoundTrip)
    (compression : Compression) (channel : UInt8) (opCode : ServiceActionOpCode)
    (gID data : Bytes) (hgid : 1 ≤ gID.length) (hsize : gID.length ≤ 255) :
    receivedData codecs compression channel opCode gID data = some data := by
  obtain ⟨message, received, converted, hmessage, hreceived, hconverted, hdelivers⟩ :=
    ServiceActionMessage.delivers_frame hcodecs channel opCode data gID hgid hsize compression
  rcases hdelivers.data with ⟨hplain, hdata⟩ | ⟨hcompressed, stored, hstored, -, -, -, hdata⟩
  · simp [receivedData, hmessage, hreceived, hconverted, hplain, hdata, Except.toOption]
  · simp [receivedData, hmessage, hreceived, hconverted, hcompressed, hstored, hdata,
      Except.toOption]

end Transfer

end Ros2Connect
