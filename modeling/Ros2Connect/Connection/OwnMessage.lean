import Ros2Connect.Connection.CallerObligation
import Ros2Connect.ServiceAction.Manager
import Ros2Connect.Message.StoreWrites

/-!
The messages a node of the program builds itself, their frames, and what the
other node gets of them. The decoder and the accessors check nothing, but these
frames keep every obligation they have.
-/

namespace Ros2Connect

open Lib

/-- What the constructors of `VectorMessage` and `ServiceActionMessage` are
called with, and the profile the message is compressed with. -/
inductive OwnMessage where
  | authentication (value : Bytes)
  | notification (text : Bytes)
  | subscription (channel : UInt8) (value : Bool)
  | topic (channel : UInt8) (serializedMessage : Bytes) (compression : Compression)
  | serviceAction (channel : UInt8) (opCode : ServiceActionOpCode) (data gID : Bytes)
      (compression : Compression)
  deriving DecidableEq

namespace ServiceActionMessage

variable {message : ServiceActionMessage}

/-- What a node gets of a message on such a platform. The gid is right as it is
received, and a short one also after `decompress`. -/
structure DeliversWith (memcpy : Memcpy) (codecs : Codecs) (message : ServiceActionMessage)
    (s : UInt8) (o : ServiceActionOpCode) (d gid : Bytes) : Prop where
  serviceActionChannel : message.serviceActionChannel = s
  serviceActionOpCode : message.serviceActionOpCode = o
  gID : message.getGID = gid
  data : (MessageBase.isCompressed message = false ∧ message.getData = d) ∨
    (MessageBase.isCompressed message = true ∧
      ∃ stored, message.decompressWith memcpy codecs = .ok (true, stored) ∧
        stored.serviceActionChannel = s ∧ stored.serviceActionOpCode = o ∧
        stored.getData = d ∧ (gid.length ≤ 4 → stored.getGID = gid))

theorem Delivers.deliversWith {codecs : Codecs} {s : UInt8} {o : ServiceActionOpCode}
    {d gid : Bytes} (h : message.Delivers codecs s o d gid) (hlaid : message.Laid) (memcpy : Memcpy) :
    message.DeliversWith memcpy codecs s o d gid where
  serviceActionChannel := h.serviceActionChannel
  serviceActionOpCode := h.serviceActionOpCode
  gID := h.gID
  data := by
    refine h.data.imp_right fun ⟨hcompressed, stored, hdecompress, hchannel, hopCode, hgID,
      hdata⟩ => ⟨hcompressed, ?_⟩
    have hcompressor : message.compressor ≠ .none := by
      simpa [MessageBase.isCompressed, MessageBase.compressor] using hcompressed
    rcases decompressWith_cases memcpy codecs message with ⟨hfails, -⟩ | ⟨data, hplain, hwith⟩
    · rw [hdecompress] at hfails
      cases hfails
    · rw [hdecompress] at hplain
      obtain rfl : stored = message.store data := by
        cases hplain
        rfl
      have hsame : data = d := (hlaid.store hcompressor data).1.symm.trans hdata
      refine ⟨_, hwith, hchannel, hopCode, (getData_storeWith memcpy message data).trans hsame,
        fun hshort => ?_⟩
      rw [← h.gID, hlaid.length_getGID] at hshort
      rw [hlaid.storeWith_eq hcompressor hshort memcpy data]
      exact hgID

end ServiceActionMessage

namespace OwnMessage

/-- The vector handed to `send`, or written by `close`. -/
def combinedVector (codecs : Codecs) : OwnMessage → Except Fault Bytes
  | authentication value => .ok (VectorMessage.forOpCodeAuthentication value).combinedVector
  | notification text => .ok (VectorMessage.forOpCodeNotification text).combinedVector
  | subscription channel value =>
      .ok (VectorMessage.forOpCodeSubscription channel value).combinedVector
  | topic channel serializedMessage compression =>
      .ok (MessageBase.getCompressedCombinedVector codecs
        (VectorMessage.fromSerializedMessage channel serializedMessage) compression)
  | serviceAction channel opCode data gID compression =>
      (ServiceActionMessage.forServiceAction channel opCode data gID).map
        fun message => MessageBase.getCompressedCombinedVector codecs message compression

/-- A topic is on none of the channels that stand for something else. -/
def OnChannel : OwnMessage → Prop
  | topic channel _ _ =>
      channel ≠ OpCode.notification.toByte ∧ channel ≠ OpCode.subscription.toByte ∧
        channel ≠ OpCode.serviceAction.toByte ∧ channel ≠ OpCode.authentication.toByte
  | authentication _ | notification _ | subscription _ _ | serviceAction _ _ _ _ _ => True

/-- A serialized message is not empty, and a gid fits its size byte. -/
def Filled : OwnMessage → Prop
  | topic _ serializedMessage _ => serializedMessage ≠ []
  | serviceAction _ _ _ gID _ => 1 ≤ gID.length ∧ gID.length ≤ 255
  | authentication _ | notification _ | subscription _ _ => True

/-- What the other node makes of a message: where it sends it, and what it reads
there. -/
inductive Arrives (codecs : Codecs) (message : RclMessage) : OwnMessage → Prop where
  | authentication (value : Bytes) :
      MessageBase.isOpCode message .authentication = true →
      MessageBase.isCompressed message = false →
      message.readString = .ok (value.takeWhile (· != 0)) →
      Arrives codecs message (authentication value)
  | notification (text : Bytes) :
      MessageBase.isOpCode message .authentication = false → destination message = .logger →
      MessageBase.isCompressed message = false →
      message.readString = .ok (text.takeWhile (· != 0)) →
      Arrives codecs message (notification text)
  | subscription (channel : UInt8) (value : Bool) :
      MessageBase.isOpCode message .authentication = false →
      destination message = .subscriberManager → MessageBase.isCompressed message = false →
      message.toSubscription = .ok (channel, value) →
      Arrives codecs message (subscription channel value)
  | plain (channel : UInt8) (serializedMessage : Bytes) (compression : Compression) :
      MessageBase.isOpCode message .authentication = false →
      destination message = .publisherManager → message.channel = channel →
      MessageBase.isCompressed message = false →
      message.serializedMessage = serializedMessage →
      Arrives codecs message (topic channel serializedMessage compression)
  | compressed (channel : UInt8) (serializedMessage : Bytes) (compression : Compression)
      (stored : RclMessage) :
      MessageBase.isOpCode message .authentication = false →
      destination message = .publisherManager → message.channel = channel →
      MessageBase.isCompressed message = true →
      MessageBase.decompress codecs message = .ok (true, stored) →
      stored.serializedMessage = serializedMessage →
      Arrives codecs message (topic channel serializedMessage compression)
  | serviceAction (channel : UInt8) (opCode : ServiceActionOpCode) (data gID : Bytes)
      (compression : Compression) (converted : ServiceActionMessage) :
      MessageBase.isOpCode message .authentication = false →
      destination message = .serviceActionManager →
      ServiceActionMessage.fromMessage message = .ok (some converted) →
      (∀ memcpy, converted.DeliversWith memcpy codecs channel opCode data gID) →
      Arrives codecs message (serviceAction channel opCode data gID compression)

variable {codecs : Codecs} {message : RclMessage}

/-- The two zero bytes a string is followed by end it inside the payload. -/
theorem readString_forOpCodeString (opCode : OpCode) (value : Bytes) (size : UInt32) :
    RclMessage.readString ⟨opCode.toByte, .none, size, value ++ [0] ++ [0]⟩ =
      .ok (value.takeWhile (· != 0)) := by
  refine (RclMessage.readString_eq_ok_iff _ _).mpr ⟨by simp, ?_⟩
  simp only [RclMessage.toString, List.append_assoc]
  induction value with
  | nil => rfl
  | cons byte rest ih =>
      by_cases hbyte : byte = 0
      · simp [hbyte]
      · simp [hbyte, ih]

theorem fromFlatBuffer_forOpCodeString (opCode : OpCode) (value : Bytes) :
    RclMessage.fromFlatBuffer (VectorMessage.forOpCodeString opCode value).combinedVector =
      .ok ⟨opCode.toByte, .none, UInt32.ofNat (value ++ [0] ++ [0]).length,
        value ++ [0] ++ [0]⟩ := by
  have h := RclMessage.fromFlatBuffer_uncompressed opCode.toByte (value ++ [0] ++ [0])
  simpa only [VectorMessage.forOpCodeString, List.append_assoc] using h

/-- A message on no special channel goes to the publisher manager. -/
theorem destination_eq_publisherManager (hnotification : message.channel ≠
      OpCode.notification.toByte) (hsubscription : message.channel ≠ OpCode.subscription.toByte)
    (hserviceAction : message.channel ≠ OpCode.serviceAction.toByte) :
    destination message = .publisherManager := by
  have hnot : ∀ opCode : OpCode, message.channel ≠ opCode.toByte →
      MessageBase.isOpCode message opCode = false := fun opCode hchannel =>
    Bool.eq_false_iff.mpr fun h => hchannel ((message.isOpCode_eq_true opCode).mp h)
  simp [destination, hnot _ hnotification, hnot _ hsubscription, hnot _ hserviceAction]

theorem arrives_topic (hcodecs : codecs.RoundTrip) (channel : UInt8) (serializedMessage : Bytes)
    (compression : Compression)
    (h : (topic channel serializedMessage compression).OnChannel)
    (hdata : serializedMessage ≠ []) :
    ∃ message, RclMessage.fromFlatBuffer (MessageBase.getCompressedCombinedVector codecs
        (VectorMessage.fromSerializedMessage channel serializedMessage) compression) =
          .ok message ∧ Arrives codecs message (topic channel serializedMessage compression) := by
  obtain ⟨hnotification, hsubscription, hserviceAction, hauthentication⟩ := h
  obtain ⟨message, hmessage, hchannel, hpayload⟩ :=
    VectorMessage.fromFlatBuffer_frame hcodecs channel serializedMessage compression
  have hkey : MessageBase.isOpCode message .authentication = false :=
    Bool.eq_false_iff.mpr fun h => hauthentication
      (hchannel.symm.trans ((message.isOpCode_eq_true .authentication).mp h))
  have hdestination : destination message = .publisherManager :=
    destination_eq_publisherManager (hchannel ▸ hnotification) (hchannel ▸ hsubscription)
      (hchannel ▸ hserviceAction)
  refine ⟨message, hmessage, ?_⟩
  rcases hpayload with ⟨hplain, hserialized⟩ | ⟨hcompressed, -, hdecompress⟩
  · exact .plain channel serializedMessage compression hkey hdestination hchannel hplain
      hserialized
  · rw [RclMessage.store, if_neg (by simpa using hdata)] at hdecompress
    exact .compressed channel serializedMessage compression _ hkey hdestination hchannel
      hcompressed hdecompress rfl

theorem isOpCode_authentication_serviceAction
    (hchannel : message.channel = OpCode.serviceAction.toByte) :
    MessageBase.isOpCode message .authentication = false := by
  simp [MessageBase.isOpCode, MessageBase.channel, hchannel]
  decide

/-- The frame of a service or action message is decoded, whatever gid it was
built with. -/
theorem fromFlatBuffer_serviceAction (hcodecs : codecs.RoundTrip) {channel : UInt8}
    {opCode : ServiceActionOpCode} {data gID : Bytes} {built : ServiceActionMessage}
    (hbuilt : ServiceActionMessage.forServiceAction channel opCode data gID = .ok built)
    (compression : Compression) :
    ∃ message, RclMessage.fromFlatBuffer
        (MessageBase.getCompressedCombinedVector codecs built compression) = .ok message ∧
      message.channel = OpCode.serviceAction.toByte := by
  obtain ⟨hchannel, rest, hvector⟩ : built.channel = OpCode.serviceAction.toByte ∧
      ∃ rest, built.combinedVector =
        [OpCode.serviceAction.toByte, Compressor.none.toByte] ++ rest := by
    simp only [ServiceActionMessage.forServiceAction, ServiceActionMessage.ofCombinedVector,
      bind_eq_ok, pure, Except.pure, Except.ok.injEq] at hbuilt
    obtain ⟨_, -, _, -, _, -, rfl⟩ := hbuilt
    exact ⟨rfl, _, rfl⟩
  rcases MessageBase.getCompressedCombinedVector_cases hcodecs built compression with
    hplain | ⟨dst, hinverts, hframe⟩
  · rw [hplain]
    exact ⟨_, hvector ▸ RclMessage.fromFlatBuffer_uncompressed _ rest, rfl⟩
  · have hcompressed : compression.compressor ≠ .none := by
      intro hnone
      rw [hnone] at hinverts
      exact hinverts
    have hlayout : MessageBase.compressedHeader built compression.compressor
        (UInt32.ofNat (MessageBase.getSrc built).length) ++ dst =
        [built.channel, compression.compressor.toByte] ++
          Bytes.encodeWord (UInt32.ofNat (MessageBase.getSrc built).length) ++
          ([built.serviceActionChannel, built.serviceActionOpCode.toByte,
            UInt8.ofNat built.getGID.length] ++ built.getGID ++ dst) := by
      simp only [MessageBase.compressedHeader, List.append_assoc]
    rw [hframe, hlayout]
    exact ⟨_, RclMessage.fromFlatBuffer_compressed built.channel compression.compressor _ _
      hcompressed, hchannel⟩

theorem arrives_serviceAction (hcodecs : codecs.RoundTrip) (channel : UInt8)
    (opCode : ServiceActionOpCode) (data gID : Bytes) (compression : Compression)
    (h : (serviceAction channel opCode data gID compression).Filled) :
    ∃ frame message, (serviceAction channel opCode data gID compression).combinedVector codecs =
        .ok frame ∧ RclMessage.fromFlatBuffer frame = .ok message ∧
      Arrives codecs message (serviceAction channel opCode data gID compression) := by
  obtain ⟨built, received, converted, hbuilt, hreceived, hconverted, hdelivers⟩ :=
    ServiceActionMessage.delivers_frame hcodecs channel opCode data gID h.1 h.2 compression
  have hchannel : received.channel = OpCode.serviceAction.toByte := by
    obtain ⟨message, hmessage, hchannel⟩ :=
      fromFlatBuffer_serviceAction hcodecs hbuilt compression
    obtain rfl := Except.ok.inj (hmessage.symm.trans hreceived)
    exact hchannel
  have hdestination : destination received = .serviceActionManager := by
    simp only [destination, MessageBase.isOpCode, MessageBase.channel, hchannel]
    decide
  have hlaid := ServiceActionMessage.fromMessage_laid hconverted
  refine ⟨_, received, ?_, hreceived, .serviceAction channel opCode data gID compression converted
    (isOpCode_authentication_serviceAction hchannel) hdestination hconverted
    fun memcpy => hdelivers.deliversWith hlaid memcpy⟩
  simp [combinedVector, hbuilt, Except.map]

/-- What is evaluated of a message of the program is there to be read. -/
theorem Arrives.safe {own : OwnMessage} (h : own.Arrives codecs message) : message.Safe := by
  have hsafe : ∀ {accessor : Accessor}, message.accessor = some accessor →
      MessageBase.isCompressed message = false →
      accessor.Readable message.serializedMessage → message.Safe := by
    intro accessor haccessor hplain hreadable other hother
    obtain rfl := Option.some.inj (haccessor.symm.trans hother)
    exact ⟨⟨hplain, hreadable⟩, (accessor.evaluate_eq_ok_iff message).mpr hreadable⟩
  have hunread : message.accessor = none → message.Safe := by
    intro hnone accessor haccessor
    rw [hnone] at haccessor
    cases haccessor
  cases h with
  | authentication value hopCode hplain hread =>
      refine @hsafe .toString (by simp [RclMessage.accessor, hopCode]) hplain ?_
      exact ((message.readString_eq_ok_iff _).mp hread).1
  | notification text hopCode hdestination hplain hread =>
      refine @hsafe .toString
        (by simp [RclMessage.accessor, hopCode, hdestination]) hplain ?_
      exact ((message.readString_eq_ok_iff _).mp hread).1
  | subscription channel value hopCode hdestination hplain hsubscription =>
      refine @hsafe .toSubscription
        (by simp [RclMessage.accessor, hopCode, hdestination]) hplain ?_
      exact message.exists_toSubscription_eq_ok_iff.mp ⟨_, hsubscription⟩
  | plain channel serializedMessage compression hopCode hdestination =>
      exact hunread (by simp [RclMessage.accessor, hopCode, hdestination])
  | compressed channel serializedMessage compression stored hopCode hdestination =>
      exact hunread (by simp [RclMessage.accessor, hopCode, hdestination])
  | serviceAction channel opCode data gID compression converted hopCode hdestination =>
      exact hunread (by simp [RclMessage.accessor, hopCode, hdestination])

theorem exists_arrives (hcodecs : codecs.RoundTrip) (own : OwnMessage) (h : own.OnChannel)
    (hfilled : own.Filled) :
    ∃ frame message, own.combinedVector codecs = .ok frame ∧
      RclMessage.fromFlatBuffer frame = .ok message ∧ own.Arrives codecs message := by
  cases own with
  | authentication value =>
      exact ⟨_, _, rfl, fromFlatBuffer_forOpCodeString .authentication value,
        .authentication value rfl rfl (readString_forOpCodeString _ value _)⟩
  | notification text =>
      exact ⟨_, _, rfl, fromFlatBuffer_forOpCodeString .notification text,
        .notification text rfl rfl rfl (readString_forOpCodeString _ text _)⟩
  | subscription channel value =>
      refine ⟨_, _, rfl, RclMessage.fromFlatBuffer_uncompressed OpCode.subscription.toByte
        [channel, if value then 1 else 0], .subscription channel value rfl rfl rfl ?_⟩
      cases value <;> rfl
  | topic channel serializedMessage compression =>
      obtain ⟨message, hmessage, harrives⟩ :=
        arrives_topic hcodecs channel serializedMessage compression h hfilled
      exact ⟨_, message, rfl, hmessage, harrives⟩
  | serviceAction channel opCode data gID compression =>
      exact arrives_serviceAction hcodecs channel opCode data gID compression hfilled

/-- A frame that is no user key is decoded to a message that is none, also if
nothing is in it. -/
theorem exists_fromFlatBuffer (hcodecs : codecs.RoundTrip) {own : OwnMessage} (h : own.OnChannel)
    (hkey : ∀ value, own ≠ .authentication value) {frame : Bytes}
    (hframe : own.combinedVector codecs = .ok frame) :
    ∃ message, RclMessage.fromFlatBuffer frame = .ok message ∧
      MessageBase.isOpCode message .authentication = false := by
  cases own with
  | authentication value => exact absurd rfl (hkey value)
  | notification text =>
      cases hframe
      exact ⟨_, fromFlatBuffer_forOpCodeString .notification text, rfl⟩
  | subscription channel value =>
      cases hframe
      exact ⟨_, RclMessage.fromFlatBuffer_uncompressed OpCode.subscription.toByte
        [channel, if value then 1 else 0], rfl⟩
  | topic channel serializedMessage compression =>
      cases hframe
      obtain ⟨message, hmessage, hchannel, -⟩ :=
        VectorMessage.fromFlatBuffer_frame hcodecs channel serializedMessage compression
      refine ⟨message, hmessage, Bool.eq_false_iff.mpr fun hopCode => h.2.2.2 ?_⟩
      exact hchannel.symm.trans ((message.isOpCode_eq_true .authentication).mp hopCode)
  | serviceAction channel opCode data gID compression =>
      simp only [combinedVector] at hframe
      cases hbuilt : ServiceActionMessage.forServiceAction channel opCode data gID with
      | error fault =>
          rw [hbuilt] at hframe
          cases hframe
      | ok built =>
          rw [hbuilt] at hframe
          cases hframe
          obtain ⟨message, hmessage, hchannel⟩ :=
            fromFlatBuffer_serviceAction hcodecs hbuilt compression
          exact ⟨message, hmessage, isOpCode_authentication_serviceAction hchannel⟩

end OwnMessage

/-- A node decodes every frame a node builds, reads no byte outside its payload
and gets what the frame was built of: the string of an AUTHENTICATION or
NOTIFICATION message up to its first NUL, the channel and value of a SUBSCRIPTION
message, the serialized message of a topic and the contents of a service or
action message, whose gid a platform may garble when it decompresses the
message. -/
theorem fromFlatBuffer_own {codecs : Codecs} (hcodecs : codecs.RoundTrip) (own : OwnMessage)
    (h : own.OnChannel) (hfilled : own.Filled) :
    ∃ frame message, own.combinedVector codecs = .ok frame ∧
      RclMessage.fromFlatBuffer frame = .ok message ∧ message.Safe ∧
      own.Arrives codecs message := by
  obtain ⟨frame, message, hframe, hmessage, harrives⟩ := own.exists_arrives hcodecs h hfilled
  exact ⟨frame, message, hframe, hmessage, harrives.safe, harrives⟩

/-- A response of three bytes to a request of a ROS client, compressed with
LZ4. -/
theorem fromFlatBuffer_own_response :
    let own : OwnMessage := .serviceAction 4 .serviceToServer [1, 2, 3]
      [1, 15, 2, 3, 4, 5, 6, 7, 8, 9, 10, 11, 12, 13, 14, 16] ⟨.lz4Default, 1⟩
    own.combinedVector literalCodecs = .ok [251, 1, 3, 0, 0, 0, 4, 2, 16, 1, 15, 2, 3, 4, 5, 6, 7,
        8, 9, 10, 11, 12, 13, 14, 16, 48, 1, 2, 3] ∧
      ∃ frame message, own.combinedVector literalCodecs = .ok frame ∧
        RclMessage.fromFlatBuffer frame = .ok message ∧ message.Safe ∧
        own.Arrives literalCodecs message :=
  ⟨rfl, fromFlatBuffer_own literalCodecs_roundTrip (.serviceAction 4 .serviceToServer [1, 2, 3]
    [1, 15, 2, 3, 4, 5, 6, 7, 8, 9, 10, 11, 12, 13, 14, 16] ⟨.lz4Default, 1⟩) trivial
    ⟨by decide, by decide⟩⟩

end Ros2Connect
