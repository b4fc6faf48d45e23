import LikedYou.Cache.Basic

/-!
# The layout of stored rows

An entry is the millisecond of its expiry in eight bytes, least significant first, followed by its
text. An index row is the millisecond of the expiry in eight bytes, most significant first, followed
by the key of the entry, so that index rows are ordered by their expiry. An index row has no sign:
an expiry before 1970 is put at its beginning.
-/

namespace LikedYou.Durable

/-! ## Faults -/

/-- Why the durable cache failed. -/
inductive Fault where
  /-- A key is empty or too long. -/
  | badKeyLength
  /-- There is no room for a row. -/
  | mapFull
  /-- What is stored is no entry. -/
  | corrupt (reason : String)
  /-- An index row carries something. -/
  | loadedIndexRow
  /-- The directory of the cache cannot be made. -/
  | directory (reason : String)
  deriving DecidableEq, Repr

namespace Fault

/-- The wording of a fault. -/
def message : Fault → String
  | badKeyLength =>
    "Transaction error: MDB_BAD_VALSIZE: Unsupported size of key/DB name/data, " ++
    "or wrong DUPFIXED size"
  | mapFull => "Transaction error: MDB_MAP_FULL: Environment mapsize limit reached"
  | corrupt reason => s!"Corrupt entry: {reason}"
  | loadedIndexRow =>
    "Transaction error: error while decoding: " ++
    "the slice of bytes is non-empty and therefore is not a unit `()` type"
  | directory reason => s!"I/O error: {reason}"

/-- The fault that a cache reports. -/
def toStorage : Fault → StorageFault
  | corrupt reason => .serialization reason
  | fault => .unavailable fault.message

/-- The fault of an operation. -/
def toOperation (f : Fault) : OperationFault := .storage f.toStorage

/-- The length of the longest path. -/
def maxPathLength : Nat := 4095

/-- What comes of making the directory `below` the file at `path`. Whether it can be the name of
anything is looked at before what is there. -/
def belowFile (path below : String) : Fault :=
  if below.contains '\x00' then .directory "file name contained an unexpected NUL byte"
  else if maxPathLength < path.utf8ByteSize + 1 + below.utf8ByteSize then
    .directory "File name too long (os error 36)"
  else if below.all (· = '/') then .directory "File exists (os error 17)"
  else .directory "Not a directory (os error 20)"

end Fault

/-! ## Numbers in front -/

/-- The first eight bytes and the rest, if there are so many. -/
def splitEight? (bs : Bytes) : Option (Bytes × Bytes) :=
  let first := bs.take 8
  if first.length = 8 then some (first, bs.drop 8) else none

/-! ## Entries -/

/-- The row of an entry. -/
def encodeEntry (value : String) (expiresAt : Int64) : Bytes :=
  Bytes.littleEndian 8 expiresAt.toUInt64.toNat ++ Utf8.ofString value

/-- The expiry of an entry, if its row is long enough to have one. -/
def entryExpiry? (row : Bytes) : Option Int64 :=
  (splitEight? row).map fun (first, _) => (UInt64.ofNat (Bytes.ofLittleEndian first)).toInt64

/-- What a row of an entry says at a given millisecond. -/
inductive Reading where
  | live (value : String)
  | expired
  deriving DecidableEq, Repr

/-- Read an entry. Its text is only looked at while its time is not over. -/
def decodeEntry (row : Bytes) (now : Int64) : Except Fault Reading :=
  match splitEight? row with
  | none => .error (.corrupt "entry shorter than expiry prefix")
  | some (first, value) =>
    if (UInt64.ofNat (Bytes.ofLittleEndian first)).toInt64 ≤ now then .ok .expired
    else
      match Utf8.toString value with
      | .ok s => .ok (.live s)
      | .error f => .error (.corrupt f.message)

/-! ## Room -/

/-- The bytes of a page. -/
def pageSize : Nat := 4096

/-- The pages that the tables take where there is next to nothing in them. -/
def tablePages : Nat := 8

/-- The length of the longest row that there can be room for in some megabytes; for none stands the
least there is, one. A long row has pages of its own, and the first of them begins with a head. -/
def longestRowIn (megabytes : Nat) : Nat :=
  (max megabytes 1 * 1048576 / pageSize - tablePages) * pageSize - 16

/-! ## Expiries -/

/-- The last millisecond that can be told. -/
def lastMillisecond : Nat := UInt64.size / 2 - 1

/-- The millisecond in which something expires: the clock and the length of time are added, both the
length and the sum being brought back to the last millisecond where they are larger. -/
def expiryAfter (ttl : Time.Duration) (now : Int64) : Int64 :=
  Int64.ofInt (min (now.toInt + min ttl.millis lastMillisecond) lastMillisecond)

/-! ## Index rows -/

/-- The index row of an entry. -/
def indexRow (expiresAt : Int64) (key : Bytes) : Bytes :=
  Bytes.bigEndian 8 expiresAt.toInt.toNat ++ key

/-- The expiry and the key that an index row tells. What is beyond the last millisecond is brought
back to it. -/
def splitIndexRow? (row : Bytes) : Option (Int64 × Bytes) :=
  (splitEight? row).map fun (first, key) =>
    (Int64.ofNat (min (Bytes.ofBigEndian first) lastMillisecond), key)

end LikedYou.Durable
