import SecureChat.Library.Crc

namespace SecureChat.Utils
open Library

/-- The reflected polynomial of CRC-32. -/
def crc32Polynomial : BitVec 32 := 0xEDB88320#32

/-- The documented result of `crc32` in zlib for a buffer that it sees at once. -/
def StandardCrc32 (crc32 : UInt32 → List UInt8 → UInt32) : Prop :=
  ∀ bytes, (crc32 0 bytes).toBitVec = Crc.tableChecksum crc32Polynomial bytes

/-- The length is cut to the 32 bits of the parameter of `crc32`. -/
def utilsCrc32 (crc32 : UInt32 → List UInt8 → UInt32) (data : List UInt8) : UInt32 :=
  crc32 0 (data.take (data.length % 2 ^ 32))

end SecureChat.Utils
