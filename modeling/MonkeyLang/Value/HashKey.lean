/-!
# Keys of hashes

An integer and a boolean are stored under themselves, a string under a 64-bit
digest of its UTF-8 bytes (FNV-1a).  Two strings with one digest share a key.
Keys are ordered by their sort, booleans before integers before strings, and
within a sort by their digest as an unsigned number.
-/

set_option autoImplicit false

namespace MonkeyLang

/-! ## The digest of a string -/

/-- The digest of no bytes. -/
def Digest.basis : UInt64 := 14695981039346656037

/-- What the digest is multiplied by after each byte. -/
def Digest.prime : UInt64 := 1099511628211

/-- The digest with one more byte taken in. -/
def Digest.step (digest : UInt64) (byte : UInt8) : UInt64 :=
  (digest ^^^ byte.toUInt64) * Digest.prime

/-- The digest of the UTF-8 bytes of a text. -/
def Digest.ofText (text : String) : UInt64 :=
  text.toUTF8.data.toList.foldl Digest.step Digest.basis

/-! ## Keys -/

/-- What a value is stored under in a hash. -/
inductive HashKey where
  | boolean (value : Bool)
  | integer (value : Int64)
  | string (digest : UInt64)
  deriving DecidableEq

namespace HashKey

/-- The digest of a key: one bit, the two's complement, or the digest of the string. -/
def digest : HashKey → UInt64
  | boolean false => 0
  | boolean true => 1
  | integer value => value.toUInt64
  | string digest => digest

/-- The place of the sort of a key among the sorts. -/
def sortRank : HashKey → Nat
  | boolean _ => 0
  | integer _ => 1
  | string _ => 2

/-- The place of a key among all keys: its digest after all digests of the sorts before it. -/
def rank (key : HashKey) : Nat :=
  key.sortRank * UInt64.size + key.digest.toNat

instance : LT HashKey := ⟨fun left right => left.rank < right.rank⟩

instance (left right : HashKey) : Decidable (left < right) :=
  inferInstanceAs (Decidable (left.rank < right.rank))

end HashKey

end MonkeyLang
