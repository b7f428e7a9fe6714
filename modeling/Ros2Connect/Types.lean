import Ros2Connect.Lib.Bytes

/-!
The enumerations and records of `types.hpp`. An enumeration is an inductive
type together with the byte it is written as.
-/

namespace Ros2Connect

open Lib

inductive Compressor where
  | none
  | lz4Default
  | lz4Hc
  | zlib
  deriving Repr, DecidableEq

namespace Compressor

def toByte : Compressor → UInt8
  | none => 0
  | lz4Default => 1
  | lz4Hc => 2
  | zlib => 3

/-- The compressor a byte names, if it lies in `COMPRESSOR_MIN` to
`COMPRESSOR_MAX`. -/
def ofByte? (byte : UInt8) : Option Compressor :=
  if byte = 0 then some none
  else if byte = 1 then some lz4Default
  else if byte = 2 then some lz4Hc
  else if byte = 3 then some zlib
  else Option.none

@[simp] theorem ofByte_toByte (compressor : Compressor) :
    ofByte? compressor.toByte = some compressor := by
  cases compressor <;> rfl

theorem eq_toByte_of_ofByte {byte : UInt8} {compressor : Compressor}
    (h : ofByte? byte = some compressor) : byte = compressor.toByte := by
  unfold ofByte? at h
  split at h
  · cases h
    assumption
  · split at h
    · cases h
      assumption
    · split at h
      · cases h
        assumption
      · split at h
        · cases h
          assumption
        · cases h

theorem toByte_injective : Function.Injective toByte := by
  intro first second h
  apply Option.some.inj
  rw [← ofByte_toByte first, ← ofByte_toByte second, h]

end Compressor

inductive OpCode where
  | notification
  | subscription
  | serviceAction
  | tf
  | tfStatic
  | clock
  | authentication
  deriving Repr, DecidableEq

def OpCode.toByte : OpCode → UInt8
  | notification => 249
  | subscription => 250
  | serviceAction => 251
  | tf => 252
  | tfStatic => 253
  | clock => 254
  | authentication => 255

inductive ServiceActionOpCode where
  | serviceToClient
  | serviceToClientCancel
  | serviceToServer
  | actionToClientGoal
  | actionToServerGoalReject
  | actionToServerGoalAccept
  | actionToClientCancel
  | actionToServerCancelReject
  | actionToServerCancelAccept
  | actionToServerFeedback
  | actionToServerResultSucceeded
  | actionToServerResultAborted
  | actionToServerResultCanceled
  | actionToServerResultUnknown
  deriving Repr, DecidableEq

namespace ServiceActionOpCode

def toByte : ServiceActionOpCode → UInt8
  | serviceToClient => 0
  | serviceToClientCancel => 1
  | serviceToServer => 2
  | actionToClientGoal => 3
  | actionToServerGoalReject => 4
  | actionToServerGoalAccept => 5
  | actionToClientCancel => 6
  | actionToServerCancelReject => 7
  | actionToServerCancelAccept => 8
  | actionToServerFeedback => 9
  | actionToServerResultSucceeded => 10
  | actionToServerResultAborted => 11
  | actionToServerResultCanceled => 12
  | actionToServerResultUnknown => 13

/-- The op-code a byte names, if it does not exceed
`SERVICE_ACTION_OP_CODE_MAX`. -/
def ofByte? (byte : UInt8) : Option ServiceActionOpCode :=
  [serviceToClient, serviceToClientCancel, serviceToServer, actionToClientGoal,
    actionToServerGoalReject, actionToServerGoalAccept, actionToClientCancel,
    actionToServerCancelReject, actionToServerCancelAccept, actionToServerFeedback,
    actionToServerResultSucceeded, actionToServerResultAborted,
    actionToServerResultCanceled, actionToServerResultUnknown][byte.toNat]?

@[simp] theorem ofByte_toByte (opCode : ServiceActionOpCode) :
    ofByte? opCode.toByte = some opCode := by
  cases opCode <;> rfl

end ServiceActionOpCode

/-- `compression_t`. -/
structure Compression where
  compressor : Compressor
  rate : UInt32
  deriving Repr, DecidableEq

/-- `LZ4_MAX_INPUT_SIZE`. -/
def lz4MaxInputSize : Nat := 0x7E000000

/-- `LZ4_MAX_SRC_SIZE`. -/
def lz4MaxSrcSize : Nat := min lz4MaxInputSize (min (2 ^ 31 - 1 - 1) (2 ^ 32 - 1 - 1))

/-- `ZLIB_MAX_SRC_SIZE`, with a 64-bit `uLong`. -/
def zlibMaxSrcSize : Nat := min (2 ^ 64 - 1 - 1) (2 ^ 32 - 1 - 1)

/-- `Topic_t`, without the topic and type names and the QoS profile, which
reach ROS only. -/
structure Topic where
  channel : UInt8
  useOwnThread : Bool
  permanent : Bool
  compression : Compression
  deriving Repr, DecidableEq

end Ros2Connect
