/-
This file reads and writes one WebSocket frame.
-/

import SecureChat.Library.ByteOrder

namespace SecureChat.WebSocket
open Library

def wsOpcodeContinuation : UInt8 := 0x0
def wsOpcodeText : UInt8 := 0x1
def wsOpcodeBinary : UInt8 := 0x2
def wsOpcodeClose : UInt8 := 0x8
def wsOpcodePing : UInt8 := 0x9
def wsOpcodePong : UInt8 := 0xA

/-- The fields of `websocket_frame_header_t`. -/
structure WebsocketFrameHeader where
  fin : Bool
  rsv1 : Bool
  rsv2 : Bool
  rsv3 : Bool
  opcode : UInt8
  mask : Bool
  payloadLen : Nat
  deriving DecidableEq, Repr

/-- The struct overlays the first two bytes.
The ABI puts the first bit-field of each byte in its least significant bits. -/
def websocketFrameHeader (first second : UInt8) : WebsocketFrameHeader where
  fin := first &&& 0x01 != 0
  rsv1 := first &&& 0x02 != 0
  rsv2 := first &&& 0x04 != 0
  rsv3 := first &&& 0x08 != 0
  opcode := first >>> 4
  mask := second &&& 0x01 != 0
  payloadLen := (second >>> 1).toNat

/-- The header of the buffer that a parser casts to the struct. -/
def headerOf (data : List UInt8) : WebsocketFrameHeader :=
  websocketFrameHeader (data.getD 0 0) (data.getD 1 0)

/-- Both parsers read the extended length and step behind it in the same way. -/
def extendedLength (data : List UInt8) (header : WebsocketFrameHeader) : Option (Nat × Nat) :=
  if header.payloadLen = 126 then
    if data.length < 4 then none else some (bigEndianValue ((data.drop 2).take 2), 4)
  else if header.payloadLen = 127 then
    if data.length < 10 then none else some (bigEndianValue ((data.drop 2).take 8), 10)
  else some (header.payloadLen, 2)

/-- Each byte is combined with the key byte at its index modulo four. -/
def applyMask (key payload : List UInt8) : List UInt8 :=
  payload.mapIdx fun index byte => byte ^^^ key.getD (index % 4) 0

/-- The output parameters of `websocket_parse_frame`. -/
structure FrameOutputs where
  opcode : UInt8
  payload : List UInt8
  payloadLen : Nat
  isFinal : Bool
  deriving DecidableEq, Repr

/-- The parser sets its outputs one after another, so a failed call leaves some of them set.
The sum of the last length test is a 64-bit `size_t`. -/
def websocketParseFrame (data : List UInt8) (out : FrameOutputs) : Int × FrameOutputs :=
  if data.length < 2 then (-1, out) else
  let header := headerOf data
  let out := { out with opcode := header.opcode, isFinal := header.fin }
  match extendedLength data header with
  | none => (-1, out)
  | some (len, offset) =>
      let out := { out with payloadLen := len }
      if header.mask ∧ data.length < offset + 4 then (-1, out) else
      let offset := if header.mask then offset + 4 else offset
      if data.length < (offset + len) % 2 ^ 64 then (-2, out) else
      let payload := (data.drop offset).take len
      let key := (data.drop (offset - 4)).take 4
      (0, { out with payload := if header.mask ∧ 0 < len then applyMask key payload else payload })

/-- The second header byte without the mask flag, and the extended length behind it. -/
def createdLength (payloadLen : Nat) : UInt8 × List UInt8 :=
  if payloadLen ≤ 125 then (UInt8.ofNat payloadLen &&& 0x7F, [])
  else if payloadLen ≤ 65535 then (126, bigEndian 2 payloadLen)
  else (127, bigEndian 8 payloadLen)

/-- The masking key is stored in host order. The function fails only when `malloc` does. -/
def websocketCreateFrame (opcode : UInt8) (payload : List UInt8) (mask : Bool)
    (maskingKey : UInt32) (allocated : Bool) : Option (List UInt8) :=
  let first := 0x80 ||| (opcode &&& 0x0F)
  let (second, extended) := createdLength payload.length
  let key := littleEndian 4 maskingKey.toNat
  if allocated then
    some <| if mask then first :: (second ||| 0x80) :: extended ++ key ++ applyMask key payload
      else first :: second :: extended ++ payload
  else none

end SecureChat.WebSocket
