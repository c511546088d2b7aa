import Mingfwq.ByteArray.Model
import Mingfwq.Lib.ByteOrder

/-!
# Reading and writing values (bytearray.h, bytearray.cpp, endian.h)

`m_endian` changes only in `setIsLittleEndian`, so it is a parameter of the operations that read it, and so is the byte
order of the machine. A string is its bytes; floating point numbers are their bit patterns.
-/

namespace Mingfwq.ByteArray

open Lib

/-- What the allocator finds in the array in a given state. -/
abbrev Memory := ByteArray → Nat → UInt8

/-- Why an operation does not return. -/
inductive Error where
  | fault (e : Fault)
  | scratchOverrun      -- a byte stored past the end of `tmp`
  deriving DecidableEq, Repr

/-- An operation on the array. One that throws keeps what it has done before. -/
abbrev Op := EStateM Error ByteArray

/-- `write(buf, size)`. -/
def writeBytes (memory : Memory) (buf : List UInt8) : Op Unit := fun a =>
  match a.write buf (memory a) with
  | .ok a' => .ok () a'
  | .error e => .error (.fault e) a

/-- `read(buf, size)`. -/
def readBytes (size : Nat) : Op (List UInt8) := fun a =>
  match a.read size with
  | .ok (bytes, a') => .ok bytes a'
  | .error e => .error (.fault e) a

/-- The order that `setIsLittleEndian(val)` sets. -/
def endian (val : Bool) : ByteOrder := if val then .little else .big

section FixedWidth

variable (memory : Memory) (MINGFWQ_BYTE_ORDER m_endian : ByteOrder)

/-- A number of `n` bytes, by its bit pattern. -/
def writeF (n value : Nat) : Op Unit :=
  let value := if m_endian ≠ MINGFWQ_BYTE_ORDER then ByteOrder.swap n value else value
  writeBytes memory (MINGFWQ_BYTE_ORDER.bytes n value)

def readF (n : Nat) : Op Nat := do
  let v := MINGFWQ_BYTE_ORDER.value (← readBytes n)
  if m_endian = MINGFWQ_BYTE_ORDER then pure v else pure (ByteOrder.swap n v)

def writeFint8 (value : Int8) : Op Unit := writeBytes memory [value.toUInt8]

def writeFuint8 (value : UInt8) : Op Unit := writeBytes memory [value]

def writeFint16 (value : Int16) : Op Unit := writeF memory MINGFWQ_BYTE_ORDER m_endian 2 value.toUInt16.toNat

def writeFuint16 (value : UInt16) : Op Unit := writeF memory MINGFWQ_BYTE_ORDER m_endian 2 value.toNat

def writeFint32 (value : Int32) : Op Unit := writeF memory MINGFWQ_BYTE_ORDER m_endian 4 value.toUInt32.toNat

def writeFuint32 (value : UInt32) : Op Unit := writeF memory MINGFWQ_BYTE_ORDER m_endian 4 value.toNat

def writeFint64 (value : Int64) : Op Unit := writeF memory MINGFWQ_BYTE_ORDER m_endian 8 value.toUInt64.toNat

def writeFuint64 (value : UInt64) : Op Unit := writeF memory MINGFWQ_BYTE_ORDER m_endian 8 value.toNat

/-- `value` is the bit pattern of a float. -/
def writeFloat (value : UInt32) : Op Unit := writeFuint32 memory MINGFWQ_BYTE_ORDER m_endian value

/-- `value` is the bit pattern of a double. -/
def writeDouble (value : UInt64) : Op Unit := writeFuint64 memory MINGFWQ_BYTE_ORDER m_endian value

def readFuint8 : Op UInt8 := do
  return (← readBytes 1).headD 0

def readFint8 : Op Int8 := do
  return ((← readBytes 1).headD 0).toInt8

def readFint16 : Op Int16 := do
  return (UInt16.ofNat (← readF MINGFWQ_BYTE_ORDER m_endian 2)).toInt16

def readFuint16 : Op UInt16 := do
  return .ofNat (← readF MINGFWQ_BYTE_ORDER m_endian 2)

def readFint32 : Op Int32 := do
  return (UInt32.ofNat (← readF MINGFWQ_BYTE_ORDER m_endian 4)).toInt32

def readFuint32 : Op UInt32 := do
  return .ofNat (← readF MINGFWQ_BYTE_ORDER m_endian 4)

def readFint64 : Op Int64 := do
  return (UInt64.ofNat (← readF MINGFWQ_BYTE_ORDER m_endian 8)).toInt64

def readFuint64 : Op UInt64 := do
  return .ofNat (← readF MINGFWQ_BYTE_ORDER m_endian 8)

/-- The bit pattern of the float. -/
def readFloat : Op UInt32 := readFuint32 MINGFWQ_BYTE_ORDER m_endian

/-- The bit pattern of the double. It is read with the reader of four bytes. -/
def readBouble : Op UInt64 := do
  return (← readFuint32 MINGFWQ_BYTE_ORDER m_endian).toUInt64

end FixedWidth

section Varint

variable (memory : Memory)

def EncodeZigzag32 (v : Int32) : UInt32 := if v < 0 then (-v).toUInt32 * 2 - 1 else (v * 2).toUInt32

def EncodeZigzag64 (v : Int64) : UInt64 := if v < 0 then (-v).toUInt64 * 2 - 1 else (v * 2).toUInt64

def DecodeZigzag32 (v : UInt32) : Int32 := ((v >>> 1) ^^^ -(v &&& 1)).toInt32

def DecodeZigzag64 (v : UInt64) : Int64 := ((v >>> 1) ^^^ -(v &&& 1)).toInt64

/-- The loop of writeUint32 and writeUint64, with `room` bytes of `tmp` left: the bytes it stores. -/
def groups : Nat → Nat → Except Error (List UInt8)
  | 0, _ => .error .scratchOverrun
  | room + 1, value =>
      if value ≥ 0x80 then do
        let rest ← groups room (value >>> 7)
        .ok (UInt8.ofNat (value &&& 0x7F ||| 0x80) :: rest)
      else .ok [UInt8.ofNat value]

/-- `tmp` holds `room` bytes. -/
def writeGroups (room value : Nat) : Op Unit := fun a =>
  match groups room value with
  | .ok tmp => writeBytes memory tmp a
  | .error e => .error e a

def writeUint32 (value : UInt32) : Op Unit := writeGroups memory 5 value.toNat

def writeUint64 (value : UInt64) : Op Unit := writeGroups memory 10 value.toNat

def writeInt32 (value : Int32) : Op Unit := writeUint32 memory (EncodeZigzag32 value)

def writeInt64 (value : Int64) : Op Unit := writeUint64 memory (EncodeZigzag64 value)

/-- The loop of readUint32 and readUint64 over its values of `i`; `result` has `w` bits. -/
def readGroups (w : Nat) : List Nat → Nat → Op Nat
  | [], result => pure result
  | i :: is, result => do
      let b ← readFuint8
      if b < 0x80 then pure (result ||| (b.toNat <<< i) % 2 ^ w)
      else readGroups w is (result ||| ((b &&& 0x7F).toNat <<< i) % 2 ^ w)

/-- `for(int i = 0; i < w; i += 7)`. -/
def shifts (w : Nat) : List Nat := List.range' 0 ((w + 6) / 7) 7

def readUint32 : Op UInt32 := do
  return .ofNat (← readGroups 32 (shifts 32) 0)

def readUint64 : Op UInt64 := do
  return .ofNat (← readGroups 64 (shifts 64) 0)

def readInt32 : Op Int32 := do
  return DecodeZigzag32 (← readUint32)

/-- It reads with readUint32. -/
def readInt64 : Op Int64 := do
  return DecodeZigzag64 (← readUint32).toUInt64

end Varint

section Strings

variable (memory : Memory) (MINGFWQ_BYTE_ORDER m_endian : ByteOrder)

/-- The size of a string is a `size_t`. -/
structure StdString where
  chars : List UInt8
  fits : chars.length < 2 ^ 64
  deriving DecidableEq

def StdString.size (s : StdString) : Nat := s.chars.length

def writeStringF16 (value : StdString) : Op Unit := do
  writeFuint16 memory MINGFWQ_BYTE_ORDER m_endian (.ofNat value.size)
  writeBytes memory value.chars

def writeStringF32 (value : StdString) : Op Unit := do
  writeFuint32 memory MINGFWQ_BYTE_ORDER m_endian (.ofNat value.size)
  writeBytes memory value.chars

def writeStringF64 (value : StdString) : Op Unit := do
  writeFuint64 memory MINGFWQ_BYTE_ORDER m_endian (.ofNat value.size)
  writeBytes memory value.chars

def writeStringFVint (value : StdString) : Op Unit := do
  writeUint64 memory (.ofNat value.size)
  writeBytes memory value.chars

/-- `read(&buff[0], len)` into a buffer that has been resized to `len`. -/
def readString (len : Nat) : Op (List UInt8) := readBytes len

def readStringF16 : Op (List UInt8) := do
  readString (← readFuint16 MINGFWQ_BYTE_ORDER m_endian).toNat

def readStringF32 : Op (List UInt8) := do
  readString (← readFuint32 MINGFWQ_BYTE_ORDER m_endian).toNat

def readStringF64 : Op (List UInt8) := do
  readString (← readFuint64 MINGFWQ_BYTE_ORDER m_endian).toNat

def readStringVint : Op (List UInt8) := do
  readString (← readUint64).toNat

end Strings

end Mingfwq.ByteArray
