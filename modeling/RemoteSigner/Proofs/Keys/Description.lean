import Mathlib.Data.List.TakeDrop
import RemoteSigner.Keys.KeystoreFiles
import RemoteSigner.Keys.Loader
import RemoteSigner.Proofs.Files.Writing
import RemoteSigner.Proofs.Json.Decoding
import RemoteSigner.Proofs.SignerId
import RemoteSigner.Proofs.Toml.Lines

/-!
# Descriptions of keystores, written and read back

The description of a keystore is read back from its text if the names of the files need no
escapes (`ofText_toText`). Those of a key's own files need none (`simple_marked`), name one
file of the directory (`plain_marked`), and the description among them is taken for one
(`isCandidate_marked`).
-/

namespace RemoteSigner

namespace SigningMetadata

/-- The texts of the description of a keystore, by key. -/
def keystoreEntries (keystoreFile passwordFile : String) (keyType : KeyType) :
    List (String × String) :=
  [("type", "file-keystore"), ("keystoreFile", keystoreFile),
    ("keystorePasswordFile", passwordFile), ("keyType", keyType.name)]

variable {keystoreFile passwordFile : String} {keyType : KeyType}

theorem toText_keystore :
    (SigningMetadata.mk (.fileKeystore keystoreFile passwordFile) keyType).toText =
    String.ofList (Toml.lines (keystoreEntries keystoreFile passwordFile keyType)) := by
  rw [← String.toList_inj, String.toList_ofList]
  simp [toText, members, SecretSource.fields, SecretSource.kind, Toml.assignment, Toml.lines,
    keystoreEntries]

theorem plainly_keystore (hkeystore : Toml.Simple keystoreFile)
    (hpassword : Toml.Simple passwordFile) :
    Toml.Plainly (keystoreEntries keystoreFile passwordFile keyType) := by
  have hkind : Toml.Simple "file-keystore" := by decide +kernel
  have hname : Toml.Simple keyType.name := by cases keyType <;> decide +kernel
  have hbare : ∀ key ∈ ["type", "keystoreFile", "keystorePasswordFile", "keyType"],
      key.toList ≠ [] ∧ key.toList.all Toml.isBare = true := by decide +kernel
  refine ⟨fun e he => ?_, fun e he => ?_, by simp [keystoreEntries]⟩
  · have hkey : e.1 ∈ (keystoreEntries keystoreFile passwordFile keyType).map (·.1) :=
      List.mem_map_of_mem he
    obtain ⟨hne, hall⟩ := hbare e.1 hkey
    exact ⟨hne, List.all_eq_true.mp hall⟩
  · simp only [keystoreEntries, List.mem_cons, List.not_mem_nil, or_false] at he
    rcases he with rfl | rfl | rfl | rfl
    · exact hkind
    · exact hkeystore
    · exact hpassword
    · exact hname

theorem readingMembers_texts (entries : List (String × String)) :
    Toml.readingMembers (entries.map fun e => (e.1, .text e.2)) =
      Json.readMembers .ofJson (entries.map fun e => (e.1, .text e.2)) := by
  induction entries with
  | nil => rfl
  | cons e rest ih => exact congrArg (_ :: ·) ih

theorem keyType_decode (keyType : KeyType) (depth : Nat) :
    KeyType.decode depth (.ofJson (.text keyType.name)) = .ok keyType := by
  cases keyType <;> rfl

theorem decode_keystore (depth : Nat) :
    decode depth (.record (Json.readMembers .ofJson
      ((keystoreEntries keystoreFile passwordFile keyType).map fun e => (e.1, .text e.2))) .kept) =
      .ok ⟨.fileKeystore keystoreFile passwordFile, keyType⟩ := by
  have hkeys : (((keystoreEntries keystoreFile passwordFile keyType).map
      fun e => (e.1, Json.text e.2)).map (·.1)).Nodup := by simp [keystoreEntries]
  obtain ⟨found, htype⟩ := Json.Fields.givenBy_member (f := .ofJson) (k := "type")
    (j := .text "file-keystore") hkeys (by simp [keystoreEntries]) 0
  have hkind : kinds.lookup "file-keystore" = some fun fs =>
      SecretSource.fileKeystore <$> fs.required "keystoreFile" .text
        <*> fs.required "keystorePasswordFile" .text := by simp [kinds, List.lookup_cons]
  unfold decode
  simp only
  rw [htype]
  refine bind_eq_ok.mpr ⟨"file-keystore", rfl, ?_⟩
  rw [hkind]
  refine Json.Placed.toExcept_eq_ok.mpr ?_
  simp only [Json.Placed.seq_eq_value, Json.Placed.map_eq_value]
  exact ⟨_, _,
    ⟨_, ⟨_, _,
      ⟨_, Json.Fields.required_member (j := .text keystoreFile) hkeys
        (by simp [keystoreEntries]) rfl, rfl⟩,
      Json.Fields.required_member (j := .text passwordFile) hkeys
        (by simp [keystoreEntries]) rfl, rfl⟩, rfl⟩,
    Json.Fields.withDefault_member hkeys (by simp [keystoreEntries])
      (keyType_decode keyType depth) _, rfl⟩

/-- The description of a keystore is read back from its text. -/
theorem ofText_toText (path : String) (hkeystore : Toml.Simple keystoreFile)
    (hpassword : Toml.Simple passwordFile) :
    ofText path (SigningMetadata.mk (.fileKeystore keystoreFile passwordFile) keyType).toText =
      .ok ⟨.fileKeystore keystoreFile passwordFile, keyType⟩ := by
  have htable : Toml.ofText? (String.ofList (Toml.lines
      (keystoreEntries keystoreFile passwordFile keyType))) = _ :=
    Toml.ofText?_lines (plainly_keystore hkeystore hpassword)
  have hdecode : Toml.decode? decode
      (SigningMetadata.mk (.fileKeystore keystoreFile passwordFile) keyType).toText =
        some ⟨.fileKeystore keystoreFile passwordFile, keyType⟩ := by
    rw [Toml.decode?, toText_keystore, htable]
    simp only [Option.bind_eq_bind, Option.bind_some, Toml.reading, readingMembers_texts,
      decode_keystore]
    rfl
  rw [ofText, hdecode]

end SigningMetadata

/-! ## Names of the files of a key -/

namespace SignerId

variable {id : SignerId} {ext : String}

/-- The characters behind the first two of a file name are digits and those of the
extension. -/
theorem toList_marked (id : SignerId) (ext : String) :
    (id.marked ++ ext).toList = '0' :: 'x' :: (Hex.digits id.key ++ ext.toList) := by
  simp [marked, Hex.encodeMarked, Hex.encode]

/-- What holds of all digits, of the marker and of the extension holds of the characters of
a file name. -/
theorem forall_mem_marked {p : Char → Prop} (hdigit : ∀ n < 16, p (Hex.digit n)) (hx : p 'x')
    (hext : ∀ c ∈ ext.toList, p c) : ∀ c ∈ (id.marked ++ ext).toList, p c := by
  rw [toList_marked]
  intro c hc
  rcases List.mem_cons.mp hc with rfl | hc
  · exact hdigit 0 (by decide)
  rcases List.mem_cons.mp hc with rfl | hc
  · exact hx
  rcases List.mem_append.mp hc with hc | hc
  · obtain ⟨n, hn, rfl⟩ := Hex.mem_digits hc
    exact hdigit n hn
  · exact hext c hc

theorem simple_marked (h : Toml.Simple ext) : Toml.Simple (id.marked ++ ext) :=
  forall_mem_marked (by decide) (by decide) h

theorem plain_marked (h : '/' ∉ ext.toList) : FilePath.Plain (id.marked ++ ext) := by
  have hne : ∀ name : String, name.toList.head? ≠ some '0' → id.marked ++ ext ≠ name := by
    rintro name hhead rfl
    rw [toList_marked] at hhead
    exact hhead rfl
  refine ⟨fun hslash => ?_, hne _ (by decide), hne _ (by decide), hne _ (by decide)⟩
  exact forall_mem_marked (p := (· ≠ '/')) (by decide) (by decide) (fun c hc heq => h (heq ▸ hc))
    _ hslash rfl

/-- What follows the key in a file name is the extension. -/
theorem extensionOf?_marked (id : SignerId) {tail : List Char} (hext : ext.toList = '.' :: tail)
    (h : '.' ∉ tail) : FilePath.extensionOf? (id.marked ++ ext) = some (String.ofList tail) := by
  have hname : (id.marked ++ ext).toList.reverse =
      tail.reverse ++ '.' :: ((Hex.digits id.key).reverse ++ ['x', '0']) := by
    rw [toList_marked, hext]
    simp
  have hspan : (id.marked ++ ext).toList.reverse.span (· ≠ '.') =
      (tail.reverse, '.' :: ((Hex.digits id.key).reverse ++ ['x', '0'])) := by
    have hplain : ∀ c ∈ tail.reverse, (decide (c ≠ '.')) = true := by
      intro c hc
      have hne : c ≠ '.' := fun heq => h (heq ▸ List.mem_reverse.mp hc)
      exact decide_eq_true hne
    rw [hname, List.span_eq_takeWhile_dropWhile, List.takeWhile_append_of_pos hplain,
      List.dropWhile_append_of_pos hplain]
    simp
  unfold FilePath.extensionOf?
  rw [hspan]
  cases (Hex.digits id.key).reverse <;> simp

/-- A load takes the description of a key for one. -/
theorem isCandidate_marked (id : SignerId) :
    Loader.isCandidate "toml" (id.marked ++ ".toml") = true := by
  have hsame : Text.sameIgnoringCase "toml" "toml" = true := beq_self_eq_true _
  rw [Loader.isCandidate, extensionOf?_marked id rfl (by decide), toList_marked]
  exact hsame

end SignerId

end RemoteSigner
