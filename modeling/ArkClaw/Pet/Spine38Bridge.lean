import ArkClaw.Pet.ExternalAssets

/-!
# The header of a skeleton, read twice

The loader reads the two strings at the head of a skeleton and checks their version; the native bridge reads them again
before it hands the skeleton to its runtime. `stringBytes` says what a string of the header is; the loader decodes its
bytes, the bridge keeps a view of them. What the loader has read the bridge reads from the same bytes. But the loader
takes any version whose first two numbers are 3 and 8, and the bridge only one that begins with "3.8.".

The bridge counts a length in 32 bits, the loader in as many as it takes.
-/

namespace ArkClaw.Pet

open ArkClaw.Library
open ExternalAssets (slice readVarint readBinaryString parseSkeletonMetadata)

namespace Spine38Bridge

/-! ## The bridge -/

/-- `read_varint` with `rounds` bytes left to read. -/
def readVarint (data : Bytes) (cursor : Nat) (value : UInt32) (shift : Nat) : Nat → Option (UInt32 × Nat)
  | 0 => none
  | rounds + 1 =>
    match data[cursor]? with
    | none => none
    | some byte =>
      let value := value ||| ((byte &&& 0x7F).toUInt32 <<< UInt32.ofNat shift)
      if byte &&& 0x80 = 0 then some (value, cursor + 1) else readVarint data (cursor + 1) value (shift + 7) rounds

/-- `read_binary_string_view`: where a string starts and its size, if it is not null, and where the next one starts. -/
def readBinaryStringView (data : Bytes) (cursor : Nat) : Option (Option (Nat × Nat) × Nat) := do
  let (encodedLength, cursor) ← readVarint data cursor 0 0 5
  if encodedLength = 0 then return (none, cursor)
  else
    let stringSize := (encodedLength - 1).toNat
    if data.length - cursor < stringSize then none
    else return (some (cursor, stringSize), cursor + stringSize)

/-- The greatest `int`. -/
def intMax : Nat := 2147483647

/-- The bytes of "3.8.". -/
def dotted : Bytes := [0x33, 0x2E, 0x38, 0x2E]

/-- `skeleton_declares_spine38`. -/
def skeletonDeclaresSpine38 (skeleton : Bytes) : Bool :=
  if skeleton.length = 0 ∨ intMax < skeleton.length then false
  else
    let second : Option (Option (Nat × Nat) × Nat) := do
      let (_, cursor) ← readBinaryStringView skeleton 0
      readBinaryStringView skeleton cursor
    match second with
    | some (some (value, size), _) => decide (4 ≤ size ∧ slice skeleton value (value + 4) = dotted)
    | _ => false

/-! ## The strings of the header -/

/-- The bytes of the string at an offset, if it is not null, and where the next one starts. -/
def stringBytes (data : Bytes) (offset : Nat) : Option (Option Bytes × Nat) := do
  let (length, start) ← ExternalAssets.readVarint data offset 0 0 5
  if length = 0 then return (none, start)
  else return (some (slice data start (start + (length - 1))), start + (length - 1))

/-- The second string of the header begins with "3.8.". -/
def VersionDotted (data : Bytes) : Prop :=
  ∃ hash offset version next, stringBytes data 0 = some (hash, offset) ∧
    stringBytes data offset = some (some version, next) ∧ dotted <+: version

/-- The bytes that are viewed. -/
def viewed (skeleton : Bytes) (view : Option (Nat × Nat)) : Option Bytes :=
  view.map fun (start, size) => slice skeleton start (start + size)

/-- A view of the string shows the text, or both are null. -/
def Shows (skeleton : Bytes) (view : Option (Nat × Nat)) (value : Option Text) : Prop :=
  (viewed skeleton view).map Bytes.decodeUtf8 = value.map some

/-- Both readers come to the same strings at the same offsets. -/
def ReadAlike (data skeleton : Bytes) (version : Text) : Prop :=
  ∃ hash offset next hashView versionView,
    readBinaryString data 0 = some (hash, offset) ∧ readBinaryString data offset = some (some version, next) ∧
    readBinaryStringView skeleton 0 = some (hashView, offset) ∧ Shows skeleton hashView hash ∧
    readBinaryStringView skeleton offset = some (versionView, next) ∧ Shows skeleton versionView (some version)

section

variable {data skeleton : Bytes}

theorem low_bits (b : UInt8) : (b &&& 0x7F).toUInt32.toNat = b.toNat % 0x80 := by
  have hmask : (0x7F : UInt8).toNat = 2 ^ 7 - 1 := rfl
  rw [UInt8.toNat_toUInt32, UInt8.toNat_and, hmask, Nat.and_two_pow_sub_one_eq_mod]

/-- The high bit says whether another byte follows. -/
theorem high_bit (b : UInt8) : b &&& 0x80 = 0 ↔ b.toNat < 0x80 := by
  obtain ⟨n, hn⟩ : ∃ n : Fin 256, b = UInt8.ofNat n := ⟨⟨b.toNat, b.toNat_lt⟩, (UInt8.ofNat_toNat).symm⟩
  subst hn
  revert n
  decide +kernel

/-- Seven bits are put above the ones there are, as far as 32 bits go. -/
theorem shifted_in {value : UInt32} {result shift : Nat} (hvalue : value.toNat = result) (hresult : result < 2 ^ shift)
    (hshift : shift < 32) (b : UInt8) :
    (value ||| ((b &&& 0x7F).toUInt32 <<< UInt32.ofNat shift)).toNat = (result + (b.toNat % 0x80) * 2 ^ shift) % 2 ^ 32 := by
  have hroom : 2 ^ 32 = 2 ^ shift * 2 ^ (32 - shift) := by rw [← Nat.pow_add, Nat.add_sub_cancel' hshift.le]
  have hshiftNat : (UInt32.ofNat shift).toNat % 32 = shift := by
    rw [UInt32.toNat_ofNat']
    omega
  have hsum : (result + b.toNat % 0x80 * 2 ^ shift) % 2 ^ 32 =
      2 ^ shift * (b.toNat % 0x80 % 2 ^ (32 - shift)) + result := by
    rw [hroom, Nat.mod_mul, Nat.add_mul_mod_self_right, Nat.mod_eq_of_lt hresult,
      Nat.add_mul_div_right _ _ (Nat.two_pow_pos shift), Nat.div_eq_of_lt hresult, Nat.zero_add, Nat.add_comm]
  rw [UInt32.toNat_or, UInt32.toNat_shiftLeft, low_bits, hvalue, hshiftNat, Nat.shiftLeft_eq, hsum,
    Nat.two_pow_add_eq_or_of_lt hresult, Nat.or_comm, Nat.mul_comm _ (2 ^ shift), hroom, Nat.mul_mod_mul_left]

/-- Where the loader reads a length, the bridge reads it in 32 bits. -/
theorem readVarint_of (hbegins : data <+: skeleton) (rounds : Nat) :
    ∀ {offset shift result length next : Nat} {value : UInt32}, shift + 7 * rounds = 35 → value.toNat = result →
      result < 2 ^ shift → ExternalAssets.readVarint data offset shift result rounds = some (length, next) →
      ∃ encoded, readVarint skeleton offset value shift rounds = some (encoded, next) ∧
        encoded.toNat = length % 2 ^ 32 := by
  induction rounds with
  | zero => exact fun _ _ _ h => nomatch h
  | succ rounds ih =>
    intro offset shift result length next value hrounds hvalue hresult h
    rw [ExternalAssets.readVarint] at h
    cases hb : data[offset]? with
    | none =>
      rw [hb] at h
      cases h
    | some b =>
      have hb' : skeleton[offset]? = some b := by
        obtain ⟨rest, rfl⟩ := hbegins
        rw [List.getElem?_append_left (List.getElem?_eq_some_iff.mp hb).1, hb]
      rw [hb] at h
      dsimp only at h
      have hshifted := shifted_in hvalue hresult (by omega) b
      rw [readVarint, hb']
      dsimp only
      by_cases hlast : b.toNat < 0x80
      · rw [if_pos hlast] at h
        cases h
        rw [if_pos ((high_bit b).mpr hlast)]
        exact ⟨_, rfl, hshifted⟩
      · rw [if_neg hlast] at h
        rw [if_neg (mt (high_bit b).mp hlast)]
        cases rounds with
        | zero => cases h
        | succ rounds =>
          have hnew : result + b.toNat % 0x80 * 2 ^ shift < 2 ^ (shift + 7) := by
            have hlow : b.toNat % 0x80 < 2 ^ 7 := Nat.mod_lt _ (by decide)
            calc result + b.toNat % 0x80 * 2 ^ shift < 2 ^ shift + b.toNat % 0x80 * 2 ^ shift := by omega
              _ = (b.toNat % 0x80 + 1) * 2 ^ shift := by rw [Nat.add_one_mul, Nat.add_comm]
              _ ≤ 2 ^ 7 * 2 ^ shift := Nat.mul_le_mul_right _ hlow
              _ = 2 ^ (shift + 7) := by rw [← Nat.pow_add, Nat.add_comm]
          have hsmall : 2 ^ (shift + 7) ≤ 2 ^ 32 := Nat.pow_le_pow_right (by decide) (by omega)
          refine ih (by omega) ?_ hnew h
          rw [hshifted, Nat.mod_eq_of_lt (hnew.trans_le hsmall)]

theorem slice_of_begins (hbegins : data <+: skeleton) {start stop : Nat} (hstop : stop ≤ data.length) :
    slice skeleton start stop = slice data start stop := by
  obtain ⟨rest, rfl⟩ := hbegins
  rw [slice, slice, List.take_append_of_le_length hstop]

/-- What the loader reads as a string is one of the header, and of a size that it takes. -/
theorem readBinaryString_bytes {offset next : Nat} {value : Option Text}
    (h : readBinaryString data offset = some (value, next)) :
    ∃ length start, ExternalAssets.readVarint data offset 0 0 5 = some (length, start) ∧
      (length = 0 ∧ value = none ∧ next = start ∨
        0 < length ∧ length ≤ 257 ∧ next = start + (length - 1) ∧ next ≤ data.length ∧
          ∃ text, value = some text ∧ (slice data start next).decodeUtf8 = some text) := by
  unfold readBinaryString at h
  obtain ⟨⟨length, start⟩, hvarint, h⟩ := Option.bind_eq_some_iff.mp h
  refine ⟨length, start, hvarint, ?_⟩
  dsimp only at h
  by_cases hnull : length = 0
  · rw [if_pos hnull] at h
    cases h
    exact .inl ⟨hnull, rfl, rfl⟩
  · rw [if_neg hnull] at h
    split_ifs at h with hlong
    obtain ⟨text, htext, h⟩ := Option.bind_eq_some_iff.mp h
    cases h
    exact .inr ⟨by omega, by omega, rfl, by omega, text, rfl, htext⟩

/-- The bridge views what the loader reads. -/
theorem readBinaryStringView_of (hbegins : data <+: skeleton) {offset next : Nat} {value : Option Text}
    (h : readBinaryString data offset = some (value, next)) :
    ∃ view, readBinaryStringView skeleton offset = some (view, next) ∧ Shows skeleton view value ∧
      stringBytes data offset = some (viewed skeleton view, next) := by
  obtain ⟨length, start, hvarint, hstring⟩ := readBinaryString_bytes h
  obtain ⟨encoded, hencoded, hlength⟩ := readVarint_of hbegins 5 (show 0 + 7 * 5 = 35 from rfl)
    (show (0 : UInt32).toNat = 0 from rfl) (by decide) hvarint
  have hview (view : Option (Nat × Nat)) (after : Nat) :
      readBinaryStringView skeleton offset = some (view, after) ↔
        (if encoded = 0 then some (none, start)
          else if skeleton.length - start < (encoded - 1).toNat then none
          else some (some (start, (encoded - 1).toNat), start + (encoded - 1).toNat)) = some (view, after) := by
    rw [readBinaryStringView, hencoded]
    rfl
  have hbytes : stringBytes data offset = if length = 0 then some (none, start)
      else some (some (slice data start (start + (length - 1))), start + (length - 1)) := by
    rw [stringBytes, hvarint]
    rfl
  rcases hstring with ⟨hnull, rfl, rfl⟩ | ⟨hpos, hsize, hnext, hinside, text, rfl, htext⟩
  · have hzero : encoded = 0 := by
      rw [← UInt32.toNat_inj, hlength, hnull]
      rfl
    exact ⟨none, (hview _ _).mpr (if_pos hzero), rfl, hbytes.trans (if_pos hnull)⟩
  · have hnat : encoded.toNat = length := by rw [hlength, Nat.mod_eq_of_lt (by omega)]
    have hnonzero : encoded ≠ 0 := by
      rintro rfl
      exact hpos.ne hnat
    have hpred : (encoded - 1).toNat = length - 1 := by
      rw [UInt32.toNat_sub_of_le _ _ (UInt32.le_iff_toNat_le.mpr (by rw [hnat]; exact hpos)), hnat]
      rfl
    have hroom := hbegins.length_le
    have hviewed : viewed skeleton (some (start, length - 1)) = some (slice data start next) := by
      rw [hnext] at hinside ⊢
      exact congrArg some (slice_of_begins hbegins hinside)
    refine ⟨some (start, length - 1), (hview _ _).mpr ?_, ?_, ?_⟩
    · rw [if_neg hnonzero, hpred, if_neg (by omega), hnext]
    · rw [Shows, hviewed, Option.map_some, htext, Option.map_some]
    · rw [hbytes, if_neg hpos.ne', hviewed, ← hnext]

/-- What the parser accepts are two strings, of which the second is its version. -/
theorem parseSkeletonMetadata_strings {sha256 : Text} {major minor : Int} {metadata : SkeletonAssetMetadata}
    (h : parseSkeletonMetadata data sha256 major minor = .ok metadata) :
    ∃ hash offset next, readBinaryString data 0 = some (hash, offset) ∧
      readBinaryString data offset = some (some metadata.version, next) ∧ 16 ≤ data.length := by
  unfold parseSkeletonMetadata at h
  dsimp only at h
  split at h
  next version next hstrings =>
    obtain ⟨⟨hash, offset⟩, hhash, hversion⟩ := Option.bind_eq_some_iff.mp hstrings
    split_ifs at h with hshort
    split at h
    next => cases h
    next =>
      split_ifs at h
      cases h
      exact ⟨hash, offset, next, hhash, hversion, by omega⟩
  next => cases h

/-- Bytes begin with "3.8." if there are four of them, and these are the ones. -/
theorem dotted_iff {start size : Nat} :
    4 ≤ size ∧ slice skeleton start (start + 4) = dotted ↔ dotted <+: slice skeleton start (start + size) := by
  have hfour (hsize : 4 ≤ size) : (slice skeleton start (start + size)).take 4 = slice skeleton start (start + 4) := by
    rw [slice, slice, List.take_drop, List.take_take, Nat.min_eq_left (by omega)]
  rw [List.prefix_iff_eq_take]
  constructor
  · rintro ⟨hsize, hdots⟩
    exact ((hfour hsize).trans hdots).symm
  · intro hdots
    have hsize : 4 ≤ size := by
      have hlength := congrArg List.length hdots
      simp only [dotted, slice, List.length_cons, List.length_nil, List.length_take, List.length_drop] at hlength
      omega
    exact ⟨hsize, (hfour hsize).symm.trans hdots.symm⟩

/-- What the loader accepts as a skeleton of Spine 3.8 the bridge reads alike, in these bytes and in all that begin with
them; it accepts them exactly if the version begins with "3.8.", as long as an `int` counts them. -/
theorem skeletonDeclaresSpine38_iff {sha256 : Text} {metadata : SkeletonAssetMetadata}
    (h : parseSkeletonMetadata data sha256 3 8 = .ok metadata) (hbegins : data <+: skeleton) :
    ReadAlike data skeleton metadata.version ∧ skeletonDeclaresSpine38 skeleton = true ↔
      VersionDotted data ∧ skeleton.length ≤ intMax := by
  obtain ⟨hash, offset, next, hhash, hversion, hlength⟩ := parseSkeletonMetadata_strings h
  obtain ⟨hashView, hhashView, hhashShown, hhashBytes⟩ := readBinaryStringView_of hbegins hhash
  obtain ⟨versionView, hversionView, hversionShown, hversionBytes⟩ := readBinaryStringView_of hbegins hversion
  have halike : ReadAlike data skeleton metadata.version :=
    ⟨hash, offset, next, hashView, versionView, hhash, hversion, hhashView, hhashShown, hversionView, hversionShown⟩
  have hnonempty : skeleton.length ≠ 0 := by
    have hroom := hbegins.length_le
    omega
  cases versionView with
  | none => cases hversionShown
  | some view =>
    obtain ⟨start, size⟩ := view
    have hdotted : VersionDotted data ↔ dotted <+: slice skeleton start (start + size) := by
      constructor
      · rintro ⟨hash', offset', version, next', hhash', hversion', hdots⟩
        rw [hhashBytes] at hhash'
        cases hhash'
        rw [hversionBytes] at hversion'
        cases hversion'
        exact hdots
      · exact fun hdots => ⟨_, _, _, _, hhashBytes, hversionBytes, hdots⟩
    have hdeclares : skeletonDeclaresSpine38 skeleton = true ↔
        skeleton.length ≤ intMax ∧ 4 ≤ size ∧ slice skeleton start (start + 4) = dotted := by
      have hsecond : (do
          let (_, cursor) ← readBinaryStringView skeleton 0
          readBinaryStringView skeleton cursor) = some (some (start, size), next) := by
        rw [hhashView]
        exact hversionView
      unfold skeletonDeclaresSpine38
      dsimp only
      rw [hsecond]
      by_cases hmany : intMax < skeleton.length
      · rw [if_pos (.inr hmany)]
        exact ⟨nofun, fun hall => absurd hall.1 (not_le.mpr hmany)⟩
      · rw [if_neg (by simp only [hnonempty, hmany, or_self, not_false_eq_true]), decide_eq_true_eq]
        exact ⟨fun hall => ⟨not_lt.mp hmany, hall⟩, And.right⟩
    rw [hdeclares, dotted_iff, hdotted]
    exact ⟨fun hall => ⟨hall.2.2, hall.2.1⟩, fun hall => ⟨halike, hall.2, hall.1⟩⟩

end

/-! ## Two headers -/

/-- A null hash, the version, and the sixteen bytes that have to follow. -/
def headed (version : Bytes) : Bytes :=
  0x00 :: UInt8.ofNat (version.length + 1) :: version ++ List.replicate 16 0

/-- "3.8.99". -/
def patched : Bytes := [0x33, 0x2E, 0x38, 0x2E, 0x39, 0x39]

/-- "3.8". -/
def bare : Bytes := [0x33, 0x2E, 0x38]

theorem skeletonDeclaresSpine38_patched : skeletonDeclaresSpine38 (headed patched ++ [0x01, 0x02]) = true := by
  obtain ⟨metadata, hmetadata⟩ : ∃ metadata, parseSkeletonMetadata (headed patched) (lit "") 3 8 = .ok metadata :=
    ⟨_, by rfl⟩
  refine ((skeletonDeclaresSpine38_iff hmetadata (List.prefix_append _ _)).mpr ⟨?_, by decide +kernel⟩).2
  exact ⟨none, 1, patched, 8, by decide +kernel, by decide +kernel, by decide +kernel⟩

/-- The loader takes a version without a third number, and the bridge refuses it. -/
theorem bare_refused : parseSkeletonMetadata (headed bare) (lit "") 3 8 =
      .ok { version := lit "3.8", major := 3, minor := 8, sha256 := lit "" } ∧
    skeletonDeclaresSpine38 (headed bare) = false := by
  constructor
  · rfl
  · decide +kernel

end Spine38Bridge

end ArkClaw.Pet
