/-
HMAC over SHA-256, and UTF-8 as the bytes and text that are signed.
-/

import FolioLattice.Data.Sha256

namespace FolioLattice.Data

open FolioLattice.Text (Bytes)

/-- `hashlib.sha256(data).digest()`. -/
def sha256Bytes (data : Bytes) : Bytes :=
  let state := hashBlocks (data.length / 64 + 2) initialHash (toWords (padMessage data))
  [state.a, state.b, state.c, state.d, state.e, state.f, state.g, state.h].flatMap
    (fun word => (bigEndian 4 word).map UInt8.ofNat)

theorem sha256Bytes_length (data : Bytes) : (sha256Bytes data).length = 32 := rfl

def hmacBlock : Nat := 64

/-- `hmac.new(key, message, hashlib.sha256).digest()`. -/
def hmacSha256 (key message : Bytes) : Bytes :=
  let key := if hmacBlock < key.length then sha256Bytes key else key
  let block := key ++ List.replicate (hmacBlock - key.length) 0
  sha256Bytes (block.map (· ^^^ 0x5c) ++ sha256Bytes (block.map (· ^^^ 0x36) ++ message))

theorem hmacSha256_length (key message : Bytes) : (hmacSha256 key message).length = 32 :=
  sha256Bytes_length _

/-- `str.encode("utf-8")`. -/
def encodeUtf8 (text : List Char) : Bytes := text.flatMap String.utf8EncodeChar

/-- `bytes.decode("utf-8")`; `none` is its `UnicodeDecodeError`. -/
def decodeStrict (bytes : Bytes) : Option (List Char) :=
  (String.fromUTF8? bytes.toByteArray).map String.toList

theorem decodeStrict_encodeUtf8 (text : List Char) : decodeStrict (encodeUtf8 text) = some text := by
  have valid : (encodeUtf8 text).toByteArray.IsValidUTF8 := ⟨text, rfl⟩
  unfold decodeStrict String.fromUTF8?
  rw [dif_pos valid, Option.map_some]
  exact congrArg some (String.toList_ofList (l := text))

end FolioLattice.Data
