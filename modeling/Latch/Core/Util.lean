/-
Result codes and the small portable helpers of `src/core/util.c`.

`ls_result_t` is split into `LS_OK`, which is a normal return here, and `Errno`,
the codes a function may stop with.
-/
import Latch.Lib.Bytes

namespace Latch

/-- The error codes of `ls_result_t`. -/
inductive Errno where
  | einval
  | enospace
  | eio
  | ecorrupt
  | eagain
  | enotsup
  | ebusy
  | eauth
  | eoverflow
  deriving DecidableEq, Repr

/-- One bit of the reflected CRC. -/
def crcBit (crc : UInt32) : UInt32 := (crc >>> 1) ^^^ (0xedb88320 &&& (0 - (crc &&& 1)))

/-- One byte of the reflected CRC. -/
def crcByte (crc : UInt32) (b : UInt8) : UInt32 := (List.range 8).foldl (fun c _ => crcBit c)
  (crc ^^^ b.toUInt32)

/-- `ls_crc32`. -/
def lsCrc32 (data : List UInt8) : UInt32 := ~~~ (data.foldl crcByte 0xffffffff)

/-- `ls_hash_string`; a null pointer is `none`. -/
def lsHashString : Option (List UInt8) → UInt32
  | none => 0
  | some text => text.foldl (fun hash b => (hash ^^^ b.toUInt32) * 16777619) 2166136261

-- the check value of CRC-32
example : lsCrc32 [0x31, 0x32, 0x33, 0x34, 0x35, 0x36, 0x37, 0x38, 0x39] = 0xcbf43926 := by
  decide +kernel

end Latch
