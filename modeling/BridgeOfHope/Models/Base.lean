import BridgeOfHope.Bytes.BigEndian
import BridgeOfHope.Models

namespace BridgeOfHope

open BigEndian

-- `uuid.UUID(bytes=...)`
def Uuid.ofBytes (bytes : Bytes) : Except Exn Uuid :=
  if bytes.length = 16 then .ok (BitVec.ofNat 128 (fromBytes bytes))
  else .error ⟨.valueError, "bytes is not a 16-char string"⟩

def Uuid.bytes (id : Uuid) : Bytes := toBytes 16 id.toNat

namespace Models

-- `unix_ms` is the clock in milliseconds, and `rand` is what `os.urandom(10)` gives.
def uuid7 (unixMs : ℕ) (rand : Vector UInt8 10) : Except Exn Uuid :=
  if 2 ^ 48 ≤ unixMs then .error ⟨.overflowError, "int too big to convert"⟩
  else
    let b := toBytes 6 unixMs ++ rand.toList
    let b := b.modify 6 fun byte => (byte &&& 0x0F) ||| 0x70
    let b := b.modify 8 fun byte => (byte &&& 0x3F) ||| 0x80
    Uuid.ofBytes b

end Models

-- The bits of ten random bytes that are not overwritten: all but the first four,
-- and the first two of the third byte.
def freeBits (bits : List Bool) : List Bool := (bits.drop 4).take 12 ++ bits.drop 18

def randomBits (rand : Vector UInt8 10) : List Bool := freeBits (bits rand.toList)

-- What can be read off the UUID again.

def Uuid.unixMs (id : Uuid) : ℕ := fromBytes (id.bytes.take 6)

def Uuid.randomBits (id : Uuid) : List Bool := freeBits (bits (id.bytes.drop 6))

theorem Uuid.exists_ofBytes {bytes : Bytes} (hlength : bytes.length = 16) :
    ∃ id, Uuid.ofBytes bytes = .ok id ∧ id.bytes = bytes := by
  have hbound : fromBytes bytes < 2 ^ 128 := by
    have hbytes := @fromBytes_lt bytes
    rw [hlength] at hbytes
    omega
  refine ⟨_, if_pos hlength, ?_⟩
  unfold Uuid.bytes
  rw [BitVec.toNat_ofNat, Nat.mod_eq_of_lt hbound, ← hlength]
  exact toBytes_fromBytes

theorem Uuid.bytes_inj {id id' : Uuid} (h : id.bytes = id'.bytes) : id = id' :=
  BitVec.eq_of_toNat_eq (toBytes_inj id.isLt id'.isLt h)

-- The version and the variant overwrite the first bits of a byte, and no others.

theorem byteBits_version : ∀ byte : UInt8,
    byteBits ((byte &&& 0x0F) ||| 0x70) = [false, true, true, true] ++ (byteBits byte).drop 4 :=
  forall_byte (by decide +kernel)

theorem byteBits_variant : ∀ byte : UInt8,
    byteBits ((byte &&& 0x3F) ||| 0x80) = [true, false] ++ (byteBits byte).drop 2 :=
  forall_byte (by decide +kernel)

theorem version_shift : ∀ byte : UInt8, ((byte &&& 0x0F) ||| 0x70) >>> 4 = 7 := forall_byte (by decide +kernel)

theorem variant_shift : ∀ byte : UInt8, ((byte &&& 0x3F) ||| 0x80) >>> 6 = 2 := forall_byte (by decide +kernel)

variable {unixMs unixMs' : ℕ} {rand rand' : Vector UInt8 10} {id id' : Uuid}

theorem length_randomBits : (randomBits rand).length = 74 := by simp [randomBits, freeBits]

theorem exists_rand (rand : Vector UInt8 10) :
    ∃ r₀ r₁ r₂ rest, rand.toList = r₀ :: r₁ :: r₂ :: rest ∧ rest.length = 7 := by
  have hlength : rand.toList.length = 10 := by simp
  generalize rand.toList = list at hlength
  rcases list with _ | ⟨r₀, _ | ⟨r₁, _ | ⟨r₂, rest⟩⟩⟩
  · cases hlength
  · cases hlength
  · cases hlength
  · exact ⟨r₀, r₁, r₂, rest, rfl, by simpa using hlength⟩

-- The sixteen bytes: the timestamp, and the random bytes with two of them overwritten.
theorem bytes_uuid7 {r₀ r₁ r₂ : UInt8} {rest : Bytes} (ht : unixMs < 2 ^ 48)
    (hrand : rand.toList = r₀ :: r₁ :: r₂ :: rest) (hrest : rest.length = 7) :
    ∃ id, Models.uuid7 unixMs rand = .ok id ∧
      id.bytes = toBytes 6 unixMs ++ ((r₀ &&& 0x0F) ||| 0x70) :: r₁ :: ((r₂ &&& 0x3F) ||| 0x80) :: rest := by
  unfold Models.uuid7
  rw [if_neg (by omega), hrand]
  exact Uuid.exists_ofBytes (by simp [hrest])

-- What the UUID is made of.
structure Encodes (id : Uuid) (unixMs : ℕ) (rand : Vector UInt8 10) : Prop where
  version : id.bytes.getD 6 0 >>> 4 = 7
  variant : id.bytes.getD 8 0 >>> 6 = 2
  timestamp : id.unixMs = unixMs
  random : id.randomBits = randomBits rand
  free : (randomBits rand).length = 74
  layout : bits id.bytes = bits (toBytes 6 unixMs) ++ [false, true, true, true] ++ (randomBits rand).take 12 ++
    [true, false] ++ (randomBits rand).drop 12

theorem Uuid.length_bytes : id.bytes.length = 16 := length_toBytes

theorem randomBits_eq {r₀ r₁ r₂ : UInt8} {rest : Bytes} (hrand : rand.toList = r₀ :: r₁ :: r₂ :: rest) :
    randomBits rand = (byteBits r₀).drop 4 ++ byteBits r₁ ++ (byteBits r₂).drop 2 ++ bits rest := by
  rw [randomBits, hrand]
  rfl

theorem encodes_of_bytes {r₀ r₁ r₂ : UInt8} {rest : Bytes} (ht : unixMs < 2 ^ 48)
    (hrand : rand.toList = r₀ :: r₁ :: r₂ :: rest)
    (hid : id.bytes = toBytes 6 unixMs ++ ((r₀ &&& 0x0F) ||| 0x70) :: r₁ :: ((r₂ &&& 0x3F) ||| 0x80) :: rest) :
    Encodes id unixMs rand := by
  have hsix : (toBytes 6 unixMs).length = 6 := length_toBytes
  have hrandom := randomBits_eq hrand
  refine ⟨?_, ?_, ?_, ?_, length_randomBits, ?_⟩
  · rw [hid]
    exact version_shift r₀
  · rw [hid]
    exact variant_shift r₂
  · rw [Uuid.unixMs, hid, List.take_left' hsix]
    exact fromBytes_toBytes ht
  · rw [Uuid.randomBits, hid, List.drop_left' hsix, bits_cons, bits_cons, bits_cons,
      byteBits_version, byteBits_variant,
      hrandom]
    rfl
  · rw [hid, hrandom, bits_append, bits_cons, bits_cons, bits_cons, byteBits_version, byteBits_variant]
    simp only [List.append_assoc]
    rfl

-- The timestamp and the free bits are all there is to it.
theorem Encodes.inj (h : Encodes id unixMs rand) (h' : Encodes id' unixMs' rand') :
    id = id' ↔ unixMs = unixMs' ∧ randomBits rand = randomBits rand' := by
  constructor
  · rintro rfl
    exact ⟨h.timestamp.symm.trans h'.timestamp, h.random.symm.trans h'.random⟩
  · rintro ⟨rfl, hrandom⟩
    apply Uuid.bytes_inj
    apply bits_inj (Uuid.length_bytes.trans Uuid.length_bytes.symm)
    rw [h.layout, h'.layout, hrandom]

-- The earlier UUID comes first in byte order.
theorem Uuid.bytes_lt (h : id.unixMs < id'.unixMs) : id.bytes < id'.bytes := by
  have hlength : (id.bytes.take 6).length = (id'.bytes.take 6).length := by simp [Uuid.length_bytes]
  rw [← List.take_append_drop 6 id.bytes, ← List.take_append_drop 6 id'.bytes]
  exact append_lt_append hlength (lt_of_fromBytes_lt hlength h) _ _

theorem uuid7_encodes (ht : unixMs < 2 ^ 48) (rand : Vector UInt8 10) :
    ∃ id, Models.uuid7 unixMs rand = .ok id ∧ Encodes id unixMs rand := by
  obtain ⟨r₀, r₁, r₂, rest, hrand, hrest⟩ := exists_rand rand
  obtain ⟨id, hid, hbytes⟩ := bytes_uuid7 ht hrand hrest
  exact ⟨id, hid, encodes_of_bytes ht hrand hbytes⟩

theorem uuid7_ok (h : Models.uuid7 unixMs rand = .ok id) : unixMs < 2 ^ 48 := by
  by_contra hlate
  rw [Models.uuid7, if_pos (by omega)] at h
  cases h

theorem uuid7_time_ordered (ht : unixMs < 2 ^ 48) (rand : Vector UInt8 10) :
    ∃ id, Models.uuid7 unixMs rand = .ok id ∧ Encodes id unixMs rand ∧
      ∀ unixMs' rand' id', Models.uuid7 unixMs' rand' = .ok id' →
        (id = id' ↔ unixMs = unixMs' ∧ randomBits rand = randomBits rand') ∧
          (unixMs < unixMs' → id.bytes < id'.bytes) := by
  obtain ⟨id, hid, hencodes⟩ := uuid7_encodes ht rand
  refine ⟨id, hid, hencodes, fun unixMs' rand' id' hid' => ?_⟩
  obtain ⟨_, hsame, hencodes'⟩ := uuid7_encodes (uuid7_ok hid') rand'
  cases hid'.symm.trans hsame
  refine ⟨hencodes.inj hencodes', fun hlt => Uuid.bytes_lt ?_⟩
  rw [hencodes.timestamp, hencodes'.timestamp]
  exact hlt

theorem uuid7_time_ordered_2026 : ∃ id, Models.uuid7 1767225600000 (Vector.replicate 10 0xFF) = .ok id ∧
    Encodes id 1767225600000 (Vector.replicate 10 0xFF) ∧
      ∀ unixMs' rand' id', Models.uuid7 unixMs' rand' = .ok id' →
        (id = id' ↔ 1767225600000 = unixMs' ∧ randomBits (Vector.replicate 10 0xFF) = randomBits rand') ∧
          (1767225600000 < unixMs' → id.bytes < id'.bytes) :=
  uuid7_time_ordered (by decide) _

example : Models.uuid7 1767225600000 (Vector.replicate 10 0xFF) =
    .ok 0x019B76DAA8007FFFBFFFFFFFFFFFFFFF#128 := by
  decide +kernel

end BridgeOfHope
