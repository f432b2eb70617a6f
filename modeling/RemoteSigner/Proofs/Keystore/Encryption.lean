import RemoteSigner.Proofs.Bytes.Fixed
import RemoteSigner.Proofs.Keystore.RoundTrip
import RemoteSigner.Proofs.SignerId

/-!
# Encryption and decryption

The password that encrypted a secret decrypts it again (`decrypt_encrypt`), whatever functions
stretch passwords, make checksums and yield the key stream: decryption finds the salt, the
initial vector and the number of rounds in the keystore, comes to the same derived key, and the
same stream takes off what it has put on (`applyCipher_applyCipher`). With any password it comes
as far as the checksum, which alone decides how it goes on (`Hides.decrypt_eq`). So a keystore
that was encrypted gives the signer of its secret (`toSigner_encrypt`), also after it was written
and read back, for it is `Storable` (`storable_of_encrypt`), and it is read back as it is
(`ofText_encrypt`). Main result: `encryption_restored`.
-/

namespace RemoteSigner.Keystore

variable {suite : KeySuite} {random : Randomness} {secret publicKey : Bytes} {password : String}
  {rounds : Nat} {k : Keystore}

theorem dropMarkers_digits (bytes : Bytes) :
    Text.dropMarkers (Hex.digits bytes) = Hex.digits bytes := by
  unfold Text.dropMarkers
  split
  · rename_i rest hmarked
    exact absurd hmarked (Hex.digits_unmarked bytes rest)
  · rfl

/-- A field is read as the bytes that were written into it. -/
theorem bytesOf_encode (field : String) (bytes : Bytes) :
    bytesOf field (Hex.encode bytes) = .ok bytes := by
  unfold bytesOf Hex.encode
  rw [String.toList_ofList, dropMarkers_digits, Hex.decodeChars_digits]

/-- Applying the key stream twice gives the message back. -/
theorem applyCipher_applyCipher {derived iv message hidden : Bytes}
    (h : applyCipher suite derived iv message = .ok hidden) :
    applyCipher suite derived iv hidden = .ok message := by
  unfold applyCipher at h ⊢
  simp only at h ⊢
  split at h
  · rename_i hlengths
    obtain rfl := Except.ok.inj h
    rw [if_pos hlengths]
    refine congrArg Except.ok (List.ext_getElem (by simp) fun i _ _ => ?_)
    rw [List.getElem_mapIdx, List.getElem_mapIdx, UInt8.xor_assoc, UInt8.xor_self, UInt8.xor_zero]
  · cases h

/-- The key that encryption derives from a password. -/
def derivedKey (suite : KeySuite) (random : Randomness) (password : String) (rounds : Nat) :
    Bytes :=
  (suite.pbkdf2 (Password.bytes password) random.salt.bytes rounds derivedLength).bytes

/-- What a keystore tells of how a secret was encrypted. -/
structure Hides (suite : KeySuite) (random : Randomness) (secret : Bytes) (password : String)
    (publicKey : Bytes) (rounds : Nat) (hidden : Bytes) (k : Keystore) : Prop where
  hides : applyCipher suite (derivedKey suite random password rounds) random.iv.bytes secret =
    .ok hidden
  kdf : k.kdf = ⟨"pbkdf2", .pbkdf2 rounds derivedLength "hmac-sha256"
    (Hex.encode random.salt.bytes), ""⟩
  checksum : k.checksum = ⟨"sha256", .record [], Hex.encode
    (checksumOf suite (derivedKey suite random password rounds) hidden)⟩
  cipher : k.cipher = ⟨"aes-128-ctr", Hex.encode random.iv.bytes, Hex.encode hidden⟩
  declares : k.publicKey = Hex.encode publicKey
  version : k.version = formatVersion

theorem hides_of_encrypt (h : encrypt suite random secret password publicKey rounds = .ok k) :
    ∃ hidden, Hides suite random secret password publicKey rounds hidden k := by
  obtain ⟨hidden, hhidden, h⟩ := bind_eq_ok.mp h
  obtain rfl := pure_eq_ok.mp h
  exact ⟨hidden, hhidden, rfl, rfl, rfl, rfl, rfl⟩

/-- Every secret can be encrypted, for what is derived is long enough for a key. -/
theorem exists_encrypt (suite : KeySuite) (random : Randomness) (secret : Bytes)
    (password : String) (publicKey : Bytes) (rounds : Nat) :
    ∃ k, encrypt suite random secret password publicKey rounds = .ok k := by
  have hlengths : ((derivedKey suite random password rounds).take 16).length = 16 ∧
      random.iv.bytes.length = 16 := by
    rw [List.length_take, derivedKey, FixedBytes.length_eq, FixedBytes.length_eq]
    exact ⟨rfl, rfl⟩
  have hhidden : ∃ hidden, applyCipher suite (derivedKey suite random password rounds)
      random.iv.bytes secret = .ok hidden := by
    unfold applyCipher
    exact ⟨_, if_pos hlengths⟩
  obtain ⟨hidden, hhidden⟩ := hhidden
  exact ⟨_, bind_eq_ok.mpr ⟨hidden, hhidden, rfl⟩⟩

/-- What becomes of a decryption with any password: the checksum decides. -/
theorem Hides.decrypt_eq {hidden : Bytes}
    (h : Hides suite random secret password publicKey rounds hidden k) (other : String) :
    k.decrypt suite other =
      if checksumOf suite (derivedKey suite random other rounds) hidden ≠
          checksumOf suite (derivedKey suite random password rounds) hidden then
        .error .checksumMismatch
      else applyCipher suite (derivedKey suite random other rounds) random.iv.bytes hidden := by
  -- the salt and the number of rounds come from the keystore, whatever the password
  have hderived : k.deriveKey suite (Password.bytes other) =
      .ok (derivedKey suite random other rounds) := by
    simp only [deriveKey, h.kdf, bytesOf_encode]
    rfl
  unfold decrypt
  simp only [hderived, h.checksum, h.cipher, bytesOf_encode, bind, Except.bind, ne_eq,
    not_true_eq_false, if_false]

/-- A password opens what was encrypted with one of the same normal form. -/
theorem Hides.decrypt_same {hidden : Bytes} {other : String}
    (h : Hides suite random secret password publicKey rounds hidden k)
    (hsame : Password.normalize other = Password.normalize password) :
    k.decrypt suite other = .ok secret := by
  have hderived : derivedKey suite random other rounds =
      derivedKey suite random password rounds := by
    rw [derivedKey, derivedKey, Password.bytes, Password.bytes, hsame]
  rw [h.decrypt_eq, hderived, if_neg (not_not.mpr rfl)]
  exact applyCipher_applyCipher h.hides

/-- A password opens what was encrypted with it. -/
theorem decrypt_encrypt (h : encrypt suite random secret password publicKey rounds = .ok k) :
    k.decrypt suite password = .ok secret := by
  obtain ⟨_, hides⟩ := hides_of_encrypt h
  exact hides.decrypt_same rfl

theorem storable_of_encrypt (hrounds : rounds ≤ 4294967295)
    (h : encrypt suite random secret password publicKey rounds = .ok k) : k.Storable := by
  obtain ⟨_, _, hkdf, hchecksum, _, _, hversion⟩ := hides_of_encrypt h
  refine ⟨?_, ?_, hversion⟩
  · rw [hkdf]
    exact ⟨hrounds, by decide⟩
  · rw [hchecksum]
    exact ⟨by decide, trivial⟩

/-- A keystore that was encrypted for the public key of its secret gives the signer of it. -/
theorem toSigner_encrypt {keyType : KeyType} {x : Signer}
    (hsigner : suite.signer keyType secret = .ok x)
    (h : encrypt suite random secret password x.identifier.key rounds = .ok k) :
    k.toSigner suite password keyType = .ok x := by
  obtain ⟨_, _, _, _, _, hdeclares, _⟩ := hides_of_encrypt h
  have hpublic : SignerId.normalize k.publicKey = x.identifier.text := by
    rw [hdeclares]
    exact SignerId.normalize_text x.identifier
  unfold toSigner
  simp only [decrypt_encrypt h, hsigner, hpublic, bind, Except.bind, bne_self_eq_false,
    Bool.and_false]
  rfl

/-! ## Other passwords -/

/-- The half of a derived key that the checksum covers. -/
def checkHalf (derived : Bytes) : Bytes :=
  (derived.drop 16).take 16

/-- Two different messages have one digest. -/
def DigestCollision (suite : KeySuite) (a b : Bytes) : Prop :=
  a ≠ b ∧ suite.digest a = suite.digest b

/-- A password from which another half is derived is told, unless digests collide. -/
theorem Hides.decrypt_other {hidden : Bytes} {other : String}
    (h : Hides suite random secret password publicKey rounds hidden k)
    (hhalf : checkHalf (derivedKey suite random other rounds) ≠
      checkHalf (derivedKey suite random password rounds)) :
    k.decrypt suite other = .error .checksumMismatch ∨
      DigestCollision suite (checkHalf (derivedKey suite random other rounds) ++ hidden)
        (checkHalf (derivedKey suite random password rounds) ++ hidden) := by
  rw [h.decrypt_eq]
  split
  · exact .inl rfl
  · rename_i hchecksum
    exact .inr ⟨fun hmessage => hhalf (List.append_cancel_right hmessage),
      FixedBytes.eq_of_bytes (not_not.mp hchecksum)⟩

/-! ## Encryption, through text -/

theorem ofText_encrypt (hrounds : rounds ≤ 4294967295)
    (h : encrypt suite random secret password publicKey rounds = .ok k) :
    ofText k.toText = .ok k := by
  obtain ⟨_, hides⟩ := hides_of_encrypt h
  have hrestored : k.restored = k := by
    obtain ⟨kdf, ⟨function, params, message⟩, cipher, description, publicKey, path, uuid,
      version⟩ := k
    obtain rfl : params = .record [] := congrArg KeystoreModule.params hides.checksum
    rfl
  rw [ofText_toText (storable_of_encrypt hrounds h), hrestored]

/-- Every secret can be encrypted, and the keystore is read back from its text. Any password of
the same normal form opens it, and one from which another half for the checksum is derived is
told, unless the messages that the checksum covers collide. -/
theorem encryption_restored (suite : KeySuite) (random : Randomness) (secret : Bytes)
    (password : String) (publicKey : Bytes) (rounds : UInt32) :
    ∃ k hidden, encrypt suite random secret password publicKey rounds.toNat = .ok k ∧
      k.cipher.message = Hex.encode hidden ∧ ofText k.toText = .ok k ∧
      (∀ other, Password.normalize other = Password.normalize password →
        k.decrypt suite other = .ok secret) ∧
      ∀ other, checkHalf (derivedKey suite random other rounds.toNat) ≠
          checkHalf (derivedKey suite random password rounds.toNat) →
        k.decrypt suite other = .error .checksumMismatch ∨
          DigestCollision suite
            (checkHalf (derivedKey suite random other rounds.toNat) ++ hidden)
            (checkHalf (derivedKey suite random password rounds.toNat) ++ hidden) := by
  obtain ⟨k, h⟩ := exists_encrypt suite random secret password publicKey rounds.toNat
  obtain ⟨hidden, hides⟩ := hides_of_encrypt h
  exact ⟨k, hidden, h, congrArg KeystoreModule.message hides.cipher,
    ofText_encrypt (Nat.le_of_lt_succ rounds.toNat_lt) h, fun _ => hides.decrypt_same,
    fun _ => hides.decrypt_other⟩

/-- The standard functions, but for a derived key that shows the password in its second half. -/
def showingSuite : KeySuite :=
  { KeySuite.standard with
    pbkdf2 := fun password _ _ length => .fit length (List.replicate 16 0 ++ password) }

/-- Nothing is drawn but zeros. -/
def zeroRandomness : Randomness :=
  ⟨.zero 32, .zero 16, .zero 16⟩

/-- A password counts without its control characters. Another one is told, unless two messages
have one digest. -/
theorem controlCharacter_restored :
    ∃ k hidden,
      encrypt showingSuite zeroRandomness [1, 2, 3] "pass\u007fword" [4] 2 = .ok k ∧
      ofText k.toText = .ok k ∧ k.decrypt showingSuite "password" = .ok [1, 2, 3] ∧
      (k.decrypt showingSuite "passwort" = .error .checksumMismatch ∨
        DigestCollision showingSuite (Utf8.encode "passwort" ++ List.replicate 8 0 ++ hidden)
          (Utf8.encode "password" ++ List.replicate 8 0 ++ hidden)) := by
  obtain ⟨k, hidden, hencrypt, _, htext, hsame, hother⟩ :=
    encryption_restored showingSuite zeroRandomness [1, 2, 3] "pass\u007fword" [4] 2
  have hnormal : Password.normalize "password" = Password.normalize "pass\u007fword" := by
    decide +kernel
  have hwrong : checkHalf (derivedKey showingSuite zeroRandomness "passwort" 2) =
      Utf8.encode "passwort" ++ List.replicate 8 0 := by decide +kernel
  have hright : checkHalf (derivedKey showingSuite zeroRandomness "pass\u007fword" 2) =
      Utf8.encode "password" ++ List.replicate 8 0 := by decide +kernel
  have htold := hother "passwort"
  rw [show UInt32.toNat 2 = 2 from rfl, hwrong, hright] at htold
  exact ⟨k, hidden, hencrypt, htext, hsame _ hnormal, htold (by decide +kernel)⟩

end RemoteSigner.Keystore
