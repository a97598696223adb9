import CheetahDex.Lib.Cbc
import CheetahDex.Lib.Checks

/-!
# Encrypted mnemonics

A record keeps a mnemonic under two keys that are derived from the password with one salt each: one
for AES, and one for a tag of the ciphertext and the initialization vector. A string is the list of
its UTF-8 bytes; random bytes are arguments.
-/

namespace CheetahDex.Crypto

open Lib (check orError)
open Lib.Cbc (Block Bytes encryptPadded decryptPadded)

inductive MnemonicError where
  | invalidMnemonic
  | unsupportedParam (param : String)
  | derivation
  | invalidBase64 (field : String)
  | hmac
  | ivLength (length : ℕ)
  | padding
  | utf8
  deriving DecidableEq

structure Argon2Params where
  algorithm : String
  version : UInt32
  mCost : UInt32
  tCost : UInt32
  pCost : UInt32
  outputLen : UInt32
  deriving DecidableEq

def Argon2Params.default : Argon2Params := ⟨"argon2id", 19, 65536, 2, 1, 32⟩

inductive KeyDerivationDetails where
  | argon2 (params : Argon2Params) (saltAes saltHmac : String)
  | slip0021 (encryptionPath authenticationPath : String)
  deriving DecidableEq

/-- `EncryptedMnemonicData`; there is one `encryption_algorithm` only. -/
structure EncryptedMnemonicData where
  version : UInt32
  keyDerivationDetails : KeyDerivationDetails
  iv : String
  ciphertext : String
  tag : String
  deriving DecidableEq

/-- What an evaluation of Argon2id depends on besides the password. -/
structure Argon2Input where
  version : UInt32
  mCost : UInt32
  tCost : UInt32
  pCost : UInt32
  salt : Bytes
  deriving DecidableEq

/-- What other crates do. -/
structure Crates (Key : Type) where
  /-- `Mnemonic::parse_in_normalized` with the English words. -/
  parseInNormalized : Bytes → Bool
  argon2 : Argon2Input → Bytes → Option Key
  /-- HMAC-SHA512 of a key and a text. -/
  hmacSha512 : Bytes → Bytes → Bytes
  /-- 32 bytes as a key. -/
  ofBytes : Bytes → Key
  hmac : Key → Bytes → Bytes
  base64Encode : Bytes → String
  base64Decode : String → Option Bytes
  saltEncode : Bytes → String
  saltDecode : String → Option Bytes
  isUtf8 : Bytes → Bool
  ascii_of_parse : ∀ text, parseInNormalized text = true → ∀ b ∈ text, b < 128
  base64_decode_encode : ∀ bytes, base64Decode (base64Encode bytes) = some bytes
  salt_decode_encode : ∀ bytes, saltDecode (saltEncode bytes) = some bytes
  utf8_of_ascii : ∀ text, (∀ b ∈ text, b < 128) → isUtf8 text = true

variable {Key : Type} (c : Crates Key) (aes : Key → Equiv.Perm Block)

/-- `derive_argon2_key`, up to the evaluation. -/
def argon2Input (params : Argon2Params) (salt : Bytes) : Except MnemonicError Argon2Input := do
  -- `eq_ignore_ascii_case`
  check (params.algorithm.toList.map Char.toLower ≠ "argon2id".toList)
    (.unsupportedParam params.algorithm)
  check (params.outputLen ≠ 32) (.unsupportedParam "output_len")
  check (params.version ≠ 0x10 ∧ params.version ≠ 0x13) (.unsupportedParam "version")
  return ⟨params.version, params.mCost, params.tCost, params.pCost, salt⟩

def deriveArgon2Key (password : Bytes) (params : Argon2Params) (salt : Bytes) :
    Except MnemonicError Key := do
  orError (c.argon2 (← argon2Input params salt) password) .derivation

/-- `slip21::derive_key_from_path`; HMAC takes keys of any length. -/
def deriveKeyFromPath (seed : Bytes) (path : List String) : Bytes :=
  let master := c.hmacSha512 "Symmetric key seed".toUTF8.toList seed
  (path.foldl (fun node label => c.hmacSha512 (node.take 32) (0 :: label.toUTF8.toList))
    master).take 32

def deriveKeysSlip0021 (seed : Bytes) : Key × Key :=
  (c.ofBytes (deriveKeyFromPath c seed ["SLIP-0021", "Encryption key"]),
    c.ofBytes (deriveKeyFromPath c seed ["SLIP-0021", "Authentication key"]))

/-- `derive_keys_for_mnemonic`: the keys for AES and for the tag. -/
def deriveKeysForMnemonic (password : Bytes) :
    KeyDerivationDetails → Except MnemonicError (Key × Key)
  | .argon2 params saltAes saltHmac => do
    let saltAes ← orError (c.saltDecode saltAes) (.invalidBase64 "salt_aes")
    let saltHmac ← orError (c.saltDecode saltHmac) (.invalidBase64 "salt_hmac")
    let encryptionKey ← deriveArgon2Key c password params saltAes
    let hmacKey ← deriveArgon2Key c password params saltHmac
    return (encryptionKey, hmacKey)
  | .slip0021 .. => return deriveKeysSlip0021 c password

def encryptMnemonic (saltAes saltHmac iv : Block) (mnemonic password : Bytes) :
    Except MnemonicError EncryptedMnemonicData := do
  check (c.parseInNormalized mnemonic = false) .invalidMnemonic
  let details := .argon2 .default (c.saltEncode saltAes.toList) (c.saltEncode saltHmac.toList)
  let keys ← deriveKeysForMnemonic c password details
  let ciphertext := encryptPadded (aes keys.1) iv mnemonic
  let tag := c.hmac keys.2 (ciphertext ++ iv.toList)
  return ⟨1, details, c.base64Encode iv.toList, c.base64Encode ciphertext, c.base64Encode tag⟩

def decryptMnemonic (encrypted : EncryptedMnemonicData) (password : Bytes) :
    Except MnemonicError Bytes := do
  let iv ← orError (c.base64Decode encrypted.iv) (.invalidBase64 "iv")
  let ciphertext ← orError (c.base64Decode encrypted.ciphertext) (.invalidBase64 "ciphertext")
  let tag ← orError (c.base64Decode encrypted.tag) (.invalidBase64 "tag")
  let keys ← deriveKeysForMnemonic c password encrypted.keyDerivationDetails
  check (c.hmac keys.2 (ciphertext ++ iv) ≠ tag) .hmac
  if h : iv.length = 16 then do
    let block : Block := ⟨iv.toArray, by simpa using h⟩
    let decrypted ← orError (decryptPadded (aes keys.1) block ciphertext) .padding
    check (c.isUtf8 decrypted = false) .utf8
    return decrypted
  else .error (.ivLength iv.length)

end CheetahDex.Crypto
