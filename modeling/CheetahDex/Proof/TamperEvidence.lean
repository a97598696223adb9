import CheetahDex.Crypto.Mnemonic
import CheetahDex.Lib.Hex

/-!
# Changed records of mnemonics

The tag covers the ciphertext and the initialization vector, and its key depends on the parameters
and on one of the two salts. With another second salt the tag is still right, and the ciphertext is
decrypted under another key.
-/

namespace CheetahDex.Crypto

open Lib Lib.Cbc Option Except

variable {Key : Type} (c : Crates Key)

/-- Different inputs of the key derivation give different keys for the password. -/
structure DistinctKeys (password : Bytes) : Prop where
  argon2 : ∀ i j k, c.argon2 i password = some k → c.argon2 j password = some k → i = j
  slip0021 : ∀ i, c.argon2 i password ≠ some (deriveKeysSlip0021 c password).2

/-- What is read of a record. -/
structure Opened where
  iv : Bytes
  ciphertext : Bytes
  tag : Bytes
  aesInput : Argon2Input
  hmacInput : Argon2Input
  deriving DecidableEq

def openedKeys : KeyDerivationDetails → Except MnemonicError (Argon2Input × Argon2Input)
  | .argon2 params saltAes saltHmac => do
    let saltAes ← orError (c.saltDecode saltAes) (.invalidBase64 "salt_aes")
    let saltHmac ← orError (c.saltDecode saltHmac) (.invalidBase64 "salt_hmac")
    return (← argon2Input params saltAes, ← argon2Input params saltHmac)
  | .slip0021 .. => .error .derivation

def opened (r : EncryptedMnemonicData) : Except MnemonicError Opened := do
  let iv ← orError (c.base64Decode r.iv) (.invalidBase64 "iv")
  let ciphertext ← orError (c.base64Decode r.ciphertext) (.invalidBase64 "ciphertext")
  let tag ← orError (c.base64Decode r.tag) (.invalidBase64 "tag")
  let keys ← openedKeys c r.keyDerivationDetails
  return ⟨iv, ciphertext, tag, keys.1, keys.2⟩

variable (password : Bytes) (r r' : EncryptedMnemonicData)

/-- The changed record does not differ just in the salt of the AES key. -/
def AesSaltKept : Prop :=
  ∀ o o', opened c r = .ok o → opened c r' = .ok o' → { o' with aesInput := o.aesInput } = o →
    (c.argon2 o'.aesInput password).isSome → o'.aesInput = o.aesInput

/-- Whoever changed the record did not find a tag for a new key or message. -/
def Unforged : Prop :=
  ∀ keys keys' iv iv' ciphertext ciphertext' tag',
    deriveKeysForMnemonic c password r.keyDerivationDetails = .ok keys →
    deriveKeysForMnemonic c password r'.keyDerivationDetails = .ok keys' →
    c.base64Decode r.iv = some iv → c.base64Decode r'.iv = some iv' →
    c.base64Decode r.ciphertext = some ciphertext →
    c.base64Decode r'.ciphertext = some ciphertext' → c.base64Decode r'.tag = some tag' →
    c.hmac keys'.2 (ciphertext' ++ iv') = tag' →
    keys'.2 = keys.2 ∧ ciphertext' ++ iv' = ciphertext ++ iv

/-- Under every behaviour of AES for keys other than `key`, the record decrypts to nothing or to
the mnemonic. -/
def TamperEvident (aes : Key → Equiv.Perm Block) (key : Key) (r' : EncryptedMnemonicData)
    (mnemonic password : Bytes) : Prop :=
  ∀ aes', aes' key = aes key → ∀ text, decryptMnemonic c aes' r' password = .ok text →
    text = mnemonic

variable {c} {aes : Key → Equiv.Perm Block} {mnemonic password : Bytes}
  {r r' : EncryptedMnemonicData}

/-! ## What the functions establish -/

theorem deriveArgon2Key_ok {params : Argon2Params} {salt : Bytes} {key : Key}
    (h : deriveArgon2Key c password params salt = .ok key) :
    ∃ input, argon2Input params salt = .ok input ∧ c.argon2 input password = some key := by
  obtain ⟨input, hinp, h⟩ := of_bind_ok h
  exact ⟨input, hinp, orError_ok_iff.mp h⟩

variable {details : KeyDerivationDetails} {keys : Key × Key} {inputs : Argon2Input × Argon2Input}

/-- The keys come from Argon2, or from the seed alone. -/
theorem deriveKeys_ok (h : deriveKeysForMnemonic c password details = .ok keys) :
    (∃ inputs, openedKeys c details = .ok inputs ∧ c.argon2 inputs.1 password = some keys.1 ∧
      c.argon2 inputs.2 password = some keys.2) ∨
    ∃ p q, details = .slip0021 p q ∧ keys = deriveKeysSlip0021 c password := by
  cases details with
  | argon2 params saltAes saltHmac =>
    obtain ⟨bytesAes, hss, bytesHmac, hsl, encryptionKey, hkey, h⟩ := of_bind₃_ok h
    obtain ⟨hmacKey, hhm, h⟩ := of_bind_ok h
    obtain ⟨input, hinp, hkey⟩ := deriveArgon2Key_ok hkey
    obtain ⟨input', hinp', hhm⟩ := deriveArgon2Key_ok hhm
    cases h
    exact .inl ⟨(input, input'), ok_bind_ok hss (ok_bind_ok hsl
      (ok_bind_ok hinp (ok_bind_ok hinp' rfl))), hkey, hhm⟩
  | slip0021 p q => exact .inr ⟨p, q, rfl, (ok.inj h).symm⟩

theorem deriveKeys_of_opened (h : openedKeys c details = .ok inputs)
    (hkey : c.argon2 inputs.1 password = some keys.1)
    (hhm : c.argon2 inputs.2 password = some keys.2) :
    deriveKeysForMnemonic c password details = .ok keys := by
  cases details with
  | argon2 params saltAes saltHmac =>
    obtain ⟨_, hss, _, hsl, _, hinp, h⟩ := of_bind₃_ok h
    obtain ⟨_, hinp', h⟩ := of_bind_ok h
    cases h
    refine ok_bind_ok hss (ok_bind_ok hsl (ok_bind_ok (a := keys.1) ?_
      (ok_bind_ok (a := keys.2) ?_ rfl)))
    · exact ok_bind_ok hinp (orError_ok_iff.mpr hkey)
    · exact ok_bind_ok hinp' (orError_ok_iff.mpr hhm)
  | slip0021 _ _ => cases h

/-- When a record decrypts, its tag is right, and the rest is decryption under the AES key. -/
theorem decryptMnemonic_ok_iff {text : Bytes} :
    decryptMnemonic c aes r password = .ok text ↔
      ∃ (iv : Block) (ciphertext tag : Bytes) (keys : Key × Key),
        c.base64Decode r.iv = some iv.toList ∧ c.base64Decode r.ciphertext = some ciphertext ∧
        c.base64Decode r.tag = some tag ∧
        deriveKeysForMnemonic c password r.keyDerivationDetails = .ok keys ∧
        c.hmac keys.2 (ciphertext ++ iv.toList) = tag ∧
        decryptPadded (aes keys.1) iv ciphertext = some text ∧ c.isUtf8 text = true := by
  constructor
  · intro h
    obtain ⟨iv, hiv, ciphertext, hct, tag, htag, h⟩ := of_bind₃_ok h
    obtain ⟨keys, hky, _, hhm, h⟩ := of_bind₂_ok h
    split at h
    case isTrue hlen =>
      obtain ⟨text', htx, _, hut, h⟩ := of_bind₂_ok h
      cases h
      exact ⟨⟨iv.toArray, by simpa using hlen⟩, ciphertext, tag, keys, orError_ok_iff.mp hiv,
        orError_ok_iff.mp hct,
        orError_ok_iff.mp htag, hky, not_not.mp (not_of_check hhm),
        orError_ok_iff.mp htx, Bool.not_eq_false _ ▸ not_of_check hut⟩
    case isFalse => cases h
  · rintro ⟨iv, ciphertext, tag, keys, hiv, hct, htag, hky, hhm, htx, hut⟩
    refine ok_bind_ok (orError_ok_iff.mpr hiv) (ok_bind_ok
      (orError_ok_iff.mpr hct) (ok_bind_ok (orError_ok_iff.mpr htag)
      (ok_bind_ok hky (ok_bind_ok (check_eq_ok_iff.mpr (not_not.mpr hhm)) ?_))))
    rw [dif_pos (by simp)]
    refine ok_bind_ok (orError_ok_iff.mpr htx) (ok_bind_ok (check_eq_ok_iff.mpr ?_) rfl)
    simp [hut]

theorem opened_eq_ok {iv ciphertext tag : Bytes} (hiv : c.base64Decode r.iv = some iv)
    (hct : c.base64Decode r.ciphertext = some ciphertext)
    (htag : c.base64Decode r.tag = some tag)
    (hins : openedKeys c r.keyDerivationDetails = .ok inputs) :
    opened c r = .ok ⟨iv, ciphertext, tag, inputs.1, inputs.2⟩ :=
  ok_bind_ok (orError_ok_iff.mpr hiv) (ok_bind_ok (orError_ok_iff.mpr hct)
    (ok_bind_ok (orError_ok_iff.mpr htag) (ok_bind_ok hins rfl)))

theorem opened_ok {o : Opened} (h : opened c r = .ok o) :
    c.base64Decode r.iv = some o.iv ∧ c.base64Decode r.ciphertext = some o.ciphertext ∧
      c.base64Decode r.tag = some o.tag ∧
      openedKeys c r.keyDerivationDetails = .ok (o.aesInput, o.hmacInput) := by
  obtain ⟨_, hiv, _, hct, _, htag, h⟩ := of_bind₃_ok h
  obtain ⟨_, hins, h⟩ := of_bind_ok h
  cases h
  exact ⟨orError_ok_iff.mp hiv, orError_ok_iff.mp hct, orError_ok_iff.mp htag, hins⟩

/-- What is in a new record. -/
theorem encryptMnemonic_ok {saltAes saltHmac iv : Block}
    (h : encryptMnemonic c aes saltAes saltHmac iv mnemonic password = .ok r) :
    ∃ (keys : Key × Key) (o : Opened), opened c r = .ok o ∧ o.iv = iv.toList ∧
      o.ciphertext = encryptPadded (aes keys.1) iv mnemonic ∧
      o.tag = c.hmac keys.2 (o.ciphertext ++ o.iv) ∧
      c.argon2 o.aesInput password = some keys.1 ∧ c.argon2 o.hmacInput password = some keys.2 ∧
      ∀ b ∈ mnemonic, b < 128 := by
  obtain ⟨_, hpr, keys, hky, h⟩ := of_bind₂_ok h
  cases h
  rcases deriveKeys_ok hky with ⟨inputs, hins, hkey, hhm⟩ | ⟨_, _, hsp, -⟩
  · exact ⟨keys, _, opened_eq_ok (c.base64_decode_encode _) (c.base64_decode_encode _)
      (c.base64_decode_encode _) hins, rfl, rfl, rfl, hkey, hhm,
      c.ascii_of_parse mnemonic (by simpa using not_of_check hpr)⟩
  · cases hsp

/-- **What is encrypted is decrypted with the same password.** -/
theorem decrypt_restores (saltAes saltHmac iv : Block) :
    let made := encryptMnemonic c aes saltAes saltHmac iv mnemonic password
    made >>= (decryptMnemonic c aes · password) = made.map fun _ => mnemonic := by
  intro made
  cases hr : made with
  | error e => rfl
  | ok r =>
    obtain ⟨keys, o, ho, hiv, htx, htag, haes, hhm, has⟩ := encryptMnemonic_ok hr
    obtain ⟨hdiv, hdtx, hdt, hins⟩ := opened_ok ho
    refine decryptMnemonic_ok_iff.mpr ⟨iv, o.ciphertext, o.tag, keys, hiv ▸ hdiv, hdtx,
      hdt, deriveKeys_of_opened hins haes hhm, hiv ▸ htag.symm, ?_,
      c.utf8_of_ascii mnemonic has⟩
    rw [htx, decryptPadded_encryptPadded]

/-! ## Tamper evidence -/

/-- A changed record is tamper evident exactly if not just the salt of the AES key is changed. -/
theorem tamperEvident_iff {saltAes saltHmac iv : Block} {key : Key}
    (hdistinct : DistinctKeys c password)
    (hr : encryptMnemonic c aes saltAes saltHmac iv mnemonic password = .ok r)
    (hkey : (deriveKeysForMnemonic c password r.keyDerivationDetails).map Prod.fst = .ok key)
    (hforge : Unforged c password r r') :
    TamperEvident c aes key r' mnemonic password ↔ AesSaltKept c password r r' := by
  obtain ⟨keys, o, ho, hiv, hct, htag, haes, hhm, has⟩ := encryptMnemonic_ok hr
  obtain ⟨hdiv, hdc, hdt, hins⟩ := opened_ok ho
  have hky : deriveKeysForMnemonic c password r.keyDerivationDetails = .ok keys :=
    deriveKeys_of_opened hins haes hhm
  obtain rfl : key = keys.1 := by
    rw [hky] at hkey
    exact (ok.inj hkey).symm
  constructor
  · intro hev o₀ o' ho₀ ho' he hs
    obtain rfl : o = o₀ := ok.inj (ho.symm.trans ho₀)
    obtain ⟨key', hkey'⟩ := Option.isSome_iff_exists.mp hs
    by_contra hne
    -- The new key is another one, so AES may do anything under it.
    have hkn : keys.1 ≠ key' := fun heq => hne (hdistinct.argon2 _ _ _ hkey' (heq ▸ haes))
    obtain ⟨perm, other, hoth, hdif, hsm⟩ := exists_decryptPadded_ne (aes keys.1) iv has
    classical
    refine hdif (hev (Function.update aes key' perm) (Function.update_of_ne hkn _ _)
      other (decryptMnemonic_ok_iff.mpr ?_))
    obtain ⟨hdiv', hdc', hdt', hins'⟩ := opened_ok ho'
    rw [← he] at hiv hct htag hhm
    refine ⟨iv, o'.ciphertext, o'.tag, (key', keys.2), hiv ▸ hdiv', hdc', hdt',
      deriveKeys_of_opened hins' hkey' hhm, hiv ▸ htag.symm, ?_, c.utf8_of_ascii other hsm⟩
    rw [Function.update_self]
    exact hct ▸ hoth
  · intro hkp aes' hag text htx
    obtain ⟨iv', ciphertext', tag', keys', hiv', hct', htag', hky', hhm', htx, -⟩ :=
      decryptMnemonic_ok_iff.mp htx
    -- the tag is right, so the key of the tag, the text and the vector are the old ones
    obtain ⟨hmacKey, hms⟩ := hforge keys keys' _ _ _ _ _ hky hky' hdiv hiv' hdc hct' htag' hhm'
    rw [hiv] at hms
    obtain ⟨hsa, hsv⟩ := List.append_inj' hms (by simp)
    obtain rfl : iv' = iv := Vector.toList_inj.mp hsv
    rcases deriveKeys_ok hky' with ⟨inputs', hins', haes', hmac'⟩ | ⟨_, _, -, hsp⟩
    · have hmacInput : inputs'.2 = o.hmacInput := hdistinct.argon2 _ _ _ (hmacKey ▸ hmac') hhm
      have htg : tag' = o.tag := by rw [htag, ← hhm', hmacKey, hsa, hiv]
      have he : inputs'.1 = o.aesInput :=
        hkp o _ ho (opened_eq_ok hiv' hct' htag' hins')
        (by rw [hmacInput, htg, hsa, ← hiv]) (by rw [haes']; rfl)
      have hke : keys'.1 = keys.1 := some.inj (haes'.symm.trans (he ▸ haes))
      rw [hke, hag, hsa, hct, decryptPadded_encryptPadded] at htx
      exact (some.inj htx).symm
    -- a record cannot have been moved to the other way of deriving keys
    · rw [← hmacKey, hsp] at hhm
      exact absurd hhm (hdistinct.slip0021 _)

/-! Simple crates, a record under them, and two changes of it. -/

/-- Of Argon2 only that its inputs give different keys is kept, and of the tag that it covers the
message, without a key. Encodings are hexadecimal, and a mnemonic is any ASCII text. -/
def sampleCrates : Crates (Option Argon2Input) where
  parseInNormalized text := text.all (· < 128)
  argon2 input _ := some (some input)
  hmacSha512 _ _ := []
  ofBytes _ := none
  hmac _ message := message
  base64Encode bytes := String.ofList (Hex.encode bytes)
  base64Decode text := Hex.decode text.toList
  saltEncode bytes := String.ofList (Hex.encode bytes)
  saltDecode text := Hex.decode text.toList
  isUtf8 text := text.all (· < 128)
  ascii_of_parse text h := by simpa using h
  base64_decode_encode bytes := by simp [Hex.decode_encode]
  salt_decode_encode bytes := by simp [Hex.decode_encode]
  utf8_of_ascii text h := by simpa using h

/-- A cipher that adds the first byte of the salt to each block. -/
def sampleAes (key : Option Argon2Input) : Equiv.Perm Block :=
  xorEquiv (single 0 ((key.bind fun input => input.salt.head?).getD 0))

def sampleMnemonic : Bytes :=
  "legal winner thank year wave sausage worth useful legal winner thank yellow".toUTF8.toList

def sampleRecord (version : UInt32) (algorithm : String) (saltAes : Block) :
    EncryptedMnemonicData :=
  let ciphertext := encryptPadded (sampleAes (some ⟨19, 65536, 2, 1, (single 0 1).toList⟩))
    (single 0 0) sampleMnemonic
  let encode := sampleCrates.base64Encode
  ⟨version, .argon2 { Argon2Params.default with algorithm } (encode saltAes.toList)
    (encode (single 0 2).toList), encode (single 0 0).toList, encode ciphertext,
    encode (ciphertext ++ (single 0 0).toList)⟩

theorem renamedAlgorithm_tamperEvident :
    TamperEvident sampleCrates sampleAes (some ⟨19, 65536, 2, 1, (single 0 1).toList⟩)
      (sampleRecord 7 "ARGON2ID" (single 0 1)) sampleMnemonic [] := by
  have hr : encryptMnemonic sampleCrates sampleAes (single 0 1) (single 0 2) (single 0 0)
      sampleMnemonic [] = .ok (sampleRecord 1 "argon2id" (single 0 1)) := by decide +kernel
  have hky : deriveKeysForMnemonic sampleCrates []
        (sampleRecord 7 "ARGON2ID" (single 0 1)).keyDerivationDetails =
      deriveKeysForMnemonic sampleCrates []
        (sampleRecord 1 "argon2id" (single 0 1)).keyDerivationDetails := by decide +kernel
  have hop : opened sampleCrates (sampleRecord 7 "ARGON2ID" (single 0 1)) =
      opened sampleCrates (sampleRecord 1 "argon2id" (single 0 1)) := by decide +kernel
  have hdistinct : DistinctKeys sampleCrates [] :=
    ⟨fun i j k hi hj => some.inj ((some.inj hi).trans (some.inj hj).symm),
      fun i h => Option.some_ne_none i (some.inj h)⟩
  refine (tamperEvident_iff hdistinct hr (by decide +kernel) ?_).mpr ?_
  · intro keys keys' iv iv' ciphertext ciphertext' _ hk hk' hiv hiv' hc hc' _ _
    obtain rfl : keys' = keys := ok.inj (hk'.symm.trans (hky.trans hk))
    obtain rfl : iv' = iv := some.inj (hiv'.symm.trans hiv)
    obtain rfl : ciphertext' = ciphertext := some.inj (hc'.symm.trans hc)
    exact ⟨rfl, rfl⟩
  · intro o o' ho ho' _ _
    rw [ok.inj (ho'.symm.trans (hop.trans ho))]

/-- With another salt for the AES key, the record decrypts to another text. -/
theorem otherSalt_decrypts :
    let other := "negal winner thalk year wave sauqage worth usefun legal winner tjank yellow"
    encryptMnemonic sampleCrates sampleAes (single 0 1) (single 0 2) (single 0 0) sampleMnemonic
        [] = .ok (sampleRecord 1 "argon2id" (single 0 1)) ∧
      decryptMnemonic sampleCrates sampleAes (sampleRecord 1 "argon2id" (single 0 3)) [] =
        .ok other.toUTF8.toList ∧
      other.toUTF8.toList ≠ sampleMnemonic := by
  decide +kernel

end CheetahDex.Crypto
