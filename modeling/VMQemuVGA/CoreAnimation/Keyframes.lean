import VMQemuVGA.IOKit
import VMQemuVGA.Lib.Bytes
import VMQemuVGA.Lib.Crc32
import VMQemuVGA.Lib.Double
import VMQemuVGA.Lib.Scan

/-! # Keyframes that come with the animation

A keyframe animation can bring its own keyframes: its `from_value` then points to a header
and a block of data, which are checked before they are used. What the block says its size
is decides whether it is looked at; how much of it is read does not depend on that. -/

namespace VMQemuVGA

/-! ## The checksum -/

/-- `crc32_table`. -/
def crc32Table : List (BitVec 32) :=
  [
    0x00000000, 0x77073096, 0xEE0E612C, 0x990951BA, 0x076DC419, 0x706AF48F, 0xE963A535,
    0x9E6495A3, 0x0EDB8832, 0x79DCB8A4, 0xE0D5E91E, 0x97D2D988, 0x09B64C2B, 0x7EB17CBD,
    0xE7B82D07, 0x90BF1D91, 0x1DB71064, 0x6AB020F2, 0xF3B97148, 0x84BE41DE, 0x1ADAD47D,
    0x6DDDE4EB, 0xF4D4B551, 0x83D385C7, 0x136C9856, 0x646BA8C0, 0xFD62F97A, 0x8A65C9EC,
    0x14015C4F, 0x63066CD9, 0xFA0F3D63, 0x8D080DF5, 0x3B6E20C8, 0x4C69105E, 0xD56041E4,
    0xA2677172, 0x3C03E4D1, 0x4B04D447, 0xD20D85FD, 0xA50AB56B, 0x35B5A8FA, 0x42B2986C,
    0xDBBBC9D6, 0xACBCF940, 0x32D86CE3, 0x45DF5C75, 0xDCD60DCF, 0xABD13D59, 0x26D930AC,
    0x51DE003A, 0xC8D75180, 0xBFD06116, 0x21B4F4B5, 0x56B3C423, 0xCFBA9599, 0xB8BDA50F,
    0x2802B89E, 0x5F058808, 0xC60CD9B2, 0xB10BE924, 0x2F6F7C87, 0x58684C11, 0xC1611DAB,
    0xB6662D3D, 0x76DC4190, 0x01DB7106, 0x98D220BC, 0xEFD5102A, 0x71B18589, 0x06B6B51F,
    0x9FBFE4A5, 0xE8B8D433, 0x7807C9A2, 0x0F00F934, 0x9609A88E, 0xE10E9818, 0x7F6A0DBB,
    0x086D3D2D, 0x91646C97, 0xE6635C01, 0x6B6B51F4, 0x1C6C6162, 0x856530D8, 0xF262004E,
    0x6C0695ED, 0x1B01A57B, 0x8208F4C1, 0xF50FC457, 0x65B0D9C6, 0x12B7E950, 0x8BBEB8EA,
    0xFCB9887C, 0x62DD1DDF, 0x15DA2D49, 0x8CD37CF3, 0xFBD44C65, 0x4DB26158, 0x3AB551CE,
    0xA3BC0074, 0xD4BB30E2, 0x4ADFA541, 0x3DD895D7, 0xA4D1C46D, 0xD3D6F4FB, 0x4369E96A,
    0x346ED9FC, 0xAD678846, 0xDA60B8D0, 0x44042D73, 0x33031DE5, 0xAA0A4C5F, 0xDD0D7CC9,
    0x5005713C, 0x270241AA, 0xBE0B1010, 0xC90C2086, 0x5768B525, 0x206F85B3, 0xB966D409,
    0xCE61E49F, 0x5EDEF90E, 0x29D9C998, 0xB0D09822, 0xC7D7A8B4, 0x59B33D17, 0x2EB40D81,
    0xB7BD5C3B, 0xC0BA6CAD, 0xEDB88320, 0x9ABFB3B6, 0x03B6E20C, 0x74B1D29A, 0xEAD54739,
    0x9DD277AF, 0x04DB2615, 0x73DC1683, 0xE3630B12, 0x94643B84, 0x0D6D6A3E, 0x7A6A5AA8,
    0xE40ECF0B, 0x9309FF9D, 0x0A00AE27, 0x7D079EB1, 0xF00F9344, 0x8708A3D2, 0x1E01F268,
    0x6906C2FE, 0xF762575D, 0x806567CB, 0x196C3671, 0x6E6B06E7, 0xFED41B76, 0x89D32BE0,
    0x10DA7A5A, 0x67DD4ACC, 0xF9B9DF6F, 0x8EBEEFF9, 0x17B7BE43, 0x60B08ED5, 0xD6D6A3E8,
    0xA1D1937E, 0x38D8C2C4, 0x4FDFF252, 0xD1BB67F1, 0xA6BC5767, 0x3FB506DD, 0x48B2364B,
    0xD80D2BDA, 0xAF0A1B4C, 0x36034AF6, 0x41047A60, 0xDF60EFC3, 0xA867DF55, 0x316E8EEF,
    0x4669BE79, 0xCB61B38C, 0xBC66831A, 0x256FD2A0, 0x5268E236, 0xCC0C7795, 0xBB0B4703,
    0x220216B9, 0x5505262F, 0xC5BA3BBE, 0xB2BD0B28, 0x2BB45A92, 0x5CB36A04, 0xC2D7FFA7,
    0xB5D0CF31, 0x2CD99E8B, 0x5BDEAE1D, 0x9B64C2B0, 0xEC63F226, 0x756AA39C, 0x026D930A,
    0x9C0906A9, 0xEB0E363F, 0x72076785, 0x05005713, 0x95BF4A82, 0xE2B87A14, 0x7BB12BAE,
    0x0CB61B38, 0x92D28E9B, 0xE5D5BE0D, 0x7CDCEFB7, 0x0BDBDF21, 0x86D3D2D4, 0xF1D4E242,
    0x68DDB3F8, 0x1FDA836E, 0x81BE16CD, 0xF6B9265B, 0x6FB077E1, 0x18B74777, 0x88085AE6,
    0xFF0F6A70, 0x66063BCA, 0x11010B5C, 0x8F659EFF, 0xF862AE69, 0x616BFFD3, 0x166CCF45,
    0xA00AE278, 0xD70DD2EE, 0x4E048354, 0x3903B3C2, 0xA7672661, 0xD06016F7, 0x4969474D,
    0x3E6E77DB, 0xAED16A4A, 0xD9D65ADC, 0x40DF0B66, 0x37D83BF0, 0xA9BCAE53, 0xDEBB9EC5,
    0x47B2CF7F, 0x30B5FFE9, 0xBDBDF21C, 0xCABAC28A, 0x53B39330, 0x24B4A3A6, 0xBAD03605,
    0xCDD70693, 0x54DE5729, 0x23D967BF, 0xB3667A2E, 0xC4614AB8, 0x5D681B02, 0x2A6F2B94,
    0xB40BBE37, 0xC30C8EA1, 0x5A05DF1B, 0x2D02EF8D
  ].map (BitVec.ofNat 32)

/-- `calculateCRC32`. -/
def calculateCRC32 (data : List UInt8) : BitVec 32 :=
  data.foldl (Crc32.tableStep crc32Table) 0xFFFFFFFF#32 ^^^ 0xFFFFFFFF#32

/-- The polynomial of IEEE 802.3, lowest coefficient first. -/
def crcPolynomial : BitVec 32 := 0xEDB88320#32

theorem crc32Table_entry : ∀ i < 256,
    crc32Table.getD i 0#32 = Crc32.shifts crcPolynomial 8 (BitVec.ofNat 32 i) := by
  decide +kernel

/-- The table has no misprint. -/
theorem calculateCRC32_eq : calculateCRC32 = Crc32.crc32 crcPolynomial := by
  funext data
  rw [calculateCRC32, Crc32.tableStep_eq crcPolynomial crc32Table_entry, Crc32.crc32]

/-- The digits from 1 to 9. -/
example : calculateCRC32 [0x31, 0x32, 0x33, 0x34, 0x35, 0x36, 0x37, 0x38, 0x39] =
    0xCBF43926#32 := by
  decide

/-! ## The descriptor -/

/-- What a `key_path` is compared with. -/
inductive KeyPath where
  | positionX
  | positionY
  | boundsWidth
  | boundsHeight
  | opacity
  | cornerRadius
  | rotationZ
  | scaleX
  | scaleY
  | backgroundColor
  | other
  deriving DecidableEq, Repr

/-- `VMCATimingFunction`. -/
inductive TimingFunction where
  | linear
  | easeIn
  | easeOut
  | easeInOut
  | default
  deriving DecidableEq, Repr

/-- `VMCAAnimationDescriptor`, as far as an interpolation reads it. A value is the memory
its pointer leads to. -/
structure AnimationDescriptor where
  keyPath : Option KeyPath
  fromValue : Option (Nat → UInt8)
  toValue : Option (Nat → UInt8)
  duration : ℚ
  timingFunction : TimingFunction

/-- What is touched: bytes of what `from_value` points to, or an element of an array of
keyframes. -/
inductive KeyframeAccess where
  | bytes (offset size : Nat)
  | index (i : Nat)
  deriving DecidableEq, Repr

/-- Inside a block of that many bytes, or inside the arrays. -/
def KeyframeAccess.Within (size : Nat) : KeyframeAccess → Prop
  | .bytes offset n => offset + n ≤ size
  | .index i => i < 8

instance (size : Nat) (a : KeyframeAccess) : Decidable (a.Within size) :=
  match a with
  | .bytes offset n => inferInstanceAs (Decidable (offset + n ≤ size))
  | .index i => inferInstanceAs (Decidable (i < 8))

/-! ## The block

`VMCAKeyframeDataHeader` has 16 bytes, `VMCAKeyframeData` behind it 168. -/

/-- `isfinite`, of the bits of a float. -/
def floatFinite (bits : Nat) : Bool := decide (bits / 2 ^ 23 % 2 ^ 8 ≠ 255)

namespace Keyframes

section Layout
variable (mem : Nat → UInt8)

def dataSize : Nat := wordAt mem 8
def checksum : Nat := wordAt mem 12
def count : Nat := wordAt mem 16
def dataType : Nat := wordAt mem 20
def time (i : Nat) : Double := .ofBits (longAt mem (24 + 8 * i))

/-- `provided_data->count - 1`, in 32 bits. -/
def lastIndex : Nat := (count mem + (u32 - 1)) % u32

/-- Magic number, version and size. -/
def headerValid : Bool :=
  decide (wordAt mem 0 = 0x564B4644) && decide (wordAt mem 4 ≤ 1) &&
    decide (168 ≤ dataSize mem) && decide (dataSize mem ≤ 184)

def timeAccess (i : Nat) : List KeyframeAccess := [.index i, .bytes (24 + 8 * i) 8]

/-- `TIMING_EPSILON`. -/
def timingEpsilon : ℚ := 1 / 1000000

/-! ### The checks -/

/-- 4. Each time is later than the one before it. The loop stops where the difference is
small; a difference that is not a number does not stop it. -/
def timingScan : Bool × List KeyframeAccess :=
  scan (fun i => timeAccess i ++ timeAccess (i - 1))
    (fun i => !((time mem i).sub (time mem (i - 1))).le (.finite timingEpsilon))
    (count mem - 1) 1

/-- 1. to 4. -/
def timesValid : Bool :=
  decide (count mem ≠ 0 ∧ count mem ≤ 8) && decide (dataType mem ≤ 3) &&
    decide (time mem 0 = .finite 0) && decide (time mem (lastIndex mem) = .finite 1) &&
    (timingScan mem).1

/-- Where the arrays start that a type of keyframes has. -/
def valueArrays : Nat → List Nat
  | 0 => [88]
  | 1 => [88]
  | 2 => [88, 120]
  | 3 => [88, 120, 152]
  | _ => []

/-- One turn of 5.: no component of a color is above 255, other values are finite. -/
def valueValid (i : Nat) : Bool :=
  if dataType mem = 1 then decide (wordAt mem (88 + 4 * i) / 2 ^ 24 ≤ 255)
  else (valueArrays (dataType mem)).all fun base => floatFinite (wordAt mem (base + 4 * i))

def valueAccess (type i : Nat) : List KeyframeAccess :=
  (valueArrays type).flatMap fun base => [.index i, .bytes (base + 4 * i) 4]

def valueScan : Bool × List KeyframeAccess :=
  scan (valueAccess (dataType mem)) (valueValid mem) (count mem) 0

/-- 1. to 5. -/
def valuesValid : Bool := timesValid mem && (valueScan mem).1

/-- 6. The checksum, if there is one. -/
def checksumValid : Bool :=
  checksum mem == 0 || calculateCRC32 (peek mem 16 168) == BitVec.ofNat 32 (checksum mem)

/-- `data_integrity_valid` in the end. -/
def integrityValid : Bool := valuesValid mem && checksumValid mem

/-- What the checks touch, and the copy that follows them. -/
def checkAccesses : List KeyframeAccess :=
  [.bytes 16 4, .bytes 20 4] ++ timeAccess 0 ++ timeAccess (lastIndex mem) ++
    (timingScan mem).2 ++ (if timesValid mem then (valueScan mem).2 else []) ++
    (if valuesValid mem = true ∧ (checksum mem ≠ 0 ∨ integrityValid mem = true) then
      [.bytes 16 168] else [])

/-- `use_provided_keyframes`, and what finding it out touches. -/
def detect : Bool × List KeyframeAccess :=
  if headerValid mem then (integrityValid mem, .bytes 0 16 :: checkAccesses mem)
  else (false, [.bytes 0 16])

end Layout

end Keyframes

/-- What `interpolateKeyframeAnimation` does before it changes a layer. -/
structure KeyframeTurn where
  provided : Bool
  progress : ℚ
  /-- `segment_start` -/
  segmentStart : Double
  /-- `segment_end` -/
  segmentEnd : Double
  accesses : List KeyframeAccess

namespace AnimationDescriptor
variable (d : AnimationDescriptor)

/-! ## Keyframes -/

def detectKeyframes : Bool × List KeyframeAccess :=
  match d.fromValue, d.toValue with
  | some mem, some _ => Keyframes.detect mem
  | _, _ => (false, [])

/-- A long animation gets more keyframes. -/
def generatedCount : Nat := if 3 < d.duration then 6 else if 3 / 2 < d.duration then 5 else 4

/-- `times`, where they are generated. -/
def generatedTimes : List ℚ :=
  match d.timingFunction with
  | .easeIn =>
      if d.generatedCount = 4 then [0, 15 / 100, 65 / 100, 1]
      else if d.generatedCount = 5 then [0, 1 / 10, 35 / 100, 75 / 100, 1]
      else [0, 8 / 100, 25 / 100, 55 / 100, 8 / 10, 1]
  | .easeOut =>
      if d.generatedCount = 4 then [0, 35 / 100, 85 / 100, 1]
      else if d.generatedCount = 5 then [0, 25 / 100, 65 / 100, 9 / 10, 1]
      else [0, 2 / 10, 45 / 100, 75 / 100, 92 / 100, 1]
  | .easeInOut =>
      if d.generatedCount = 4 then [0, 25 / 100, 75 / 100, 1]
      else if d.generatedCount = 5 then [0, 2 / 10, 1 / 2, 8 / 10, 1]
      else [0, 15 / 100, 35 / 100, 65 / 100, 85 / 100, 1]
  | .linear | .default =>
      (List.range d.generatedCount).map fun i : Nat => (i : ℚ) / (d.generatedCount - 1 : Nat)

/-- `keyframe_data.count`. -/
def keyframeCount : Nat :=
  match d.fromValue with
  | some mem => if d.detectKeyframes.1 then Keyframes.count mem else d.generatedCount
  | none => d.generatedCount

/-- `keyframe_data.times[i]`. -/
def keyframeTime (i : Nat) : Double :=
  match d.fromValue with
  | some mem =>
      if d.detectKeyframes.1 then Keyframes.time mem i else .finite (d.generatedTimes.getD i 0)
  | none => .finite (d.generatedTimes.getD i 0)

/-- `keyframe_data.data_type`. -/
def keyframeType : Nat :=
  match d.fromValue with
  | some mem => if d.detectKeyframes.1 then Keyframes.dataType mem else 0
  | none => 0

/-! ## The segment -/

/-- `progress` between zero and one. -/
def clampProgress (progress : ℚ) : ℚ :=
  if progress < 0 then 0 else if 1 < progress then 1 else progress

/-- The first segment that has the time in it, or the first one. -/
def findSegment (time : Nat → Double) (count : Nat) (p : ℚ) : Nat :=
  ((List.range (count - 1)).find? fun i =>
    (time i).le (.finite p) && (Double.finite p).le (time (i + 1))).getD 0

/-- `current_segment`. -/
def currentSegment (progress : ℚ) : Nat :=
  let found := findSegment d.keyframeTime d.keyframeCount (clampProgress progress)
  if found ≥ d.keyframeCount - 1 then d.keyframeCount - 2 else found

/-! ## The function -/

/-- The values of the keyframes: those of the block if they have the type, or made from
`from_value` and `to_value`. -/
def valueAccesses (type segment : Nat) : List KeyframeAccess :=
  if d.detectKeyframes.1 = true ∧ d.keyframeType = type then [.index segment, .index (segment + 1)]
  else if d.fromValue.isNone ∨ d.toValue.isNone then []
  else .bytes 0 4 :: (List.range d.keyframeCount).map .index ++
    [.index segment, .index (segment + 1)]

/-- `interpolateBasicAnimation` reads `from_value` for the key paths it knows. -/
def basicAccesses (path : KeyPath) : List KeyframeAccess :=
  if d.fromValue.isNone ∨ d.toValue.isNone ∨ path = .other then [] else [.bytes 0 4]

def pathAccesses (path : KeyPath) (segment : Nat) : List KeyframeAccess :=
  match path with
  | .positionX | .positionY | .boundsWidth | .boundsHeight | .opacity | .cornerRadius =>
      d.valueAccesses 0 segment
  | .rotationZ => d.valueAccesses 3 segment
  | .scaleX | .scaleY | .backgroundColor | .other => d.basicAccesses path

def interpolateKeyframeAnimation (progress : ℚ) : Option KeyframeTurn :=
  d.keyPath.map fun path =>
    let segment := d.currentSegment progress
    { provided := d.detectKeyframes.1
      progress := clampProgress progress
      segmentStart := d.keyframeTime segment
      segmentEnd := d.keyframeTime (segment + 1)
      accesses := d.detectKeyframes.2 ++ [.index segment, .index (segment + 1)] ++
        d.pathAccesses path segment }

end AnimationDescriptor

/-! ## What is asked of it -/

/-- What the first four checks let through. -/
structure Keyframes.TimesPass (mem : Nat → UInt8) : Prop where
  two_le : 2 ≤ count mem
  le_eight : count mem ≤ 8
  type : dataType mem ≤ 3
  first : time mem 0 = .finite 0
  last : time mem (count mem - 1) = .finite 1
  climbs : ∀ i < count mem - 1, Double.Climbs timingEpsilon (time mem i) (time mem (i + 1))

/-- The count, the type and the times that keyframes are to be used with. -/
structure Keyframes.TimesSound (mem : Nat → UInt8) : Prop where
  two_le : 2 ≤ count mem
  le_eight : count mem ≤ 8
  type : dataType mem ≤ 3
  first : time mem 0 = .finite 0
  last : time mem (count mem - 1) = .finite 1
  increasing : ∀ i < count mem - 1, ∃ p q, time mem i = .finite p ∧
    time mem (i + 1) = .finite q ∧ timingEpsilon < q - p

/-- The values of a keyframe, other than a color, are finite. -/
def Keyframes.ValueFinite (mem : Nat → UInt8) (i : Nat) : Prop :=
  dataType mem = 1 ∨
    ∀ base ∈ valueArrays (dataType mem), floatFinite (wordAt mem (base + 4 * i)) = true

/-- The checksum is that of the data, if there is one. -/
def Keyframes.ChecksumRight (mem : Nat → UInt8) : Prop :=
  checksum mem ≠ 0 →
    Crc32.crc32 crcPolynomial (peek mem 16 168) = BitVec.ofNat 32 (checksum mem)

/-- When a block is to be used. -/
structure Keyframes.Sound (mem : Nat → UInt8) : Prop extends Keyframes.TimesSound mem where
  finite : ∀ i < count mem, ValueFinite mem i
  checksum : ChecksumRight mem

/-- Every time is a number or an infinity. -/
def Keyframes.TimesOrdered (mem : Nat → UInt8) : Prop := ∀ i < count mem, time mem i ≠ .nan

/-- A block with a valid header; behind its `data_size` bytes lies whatever memory holds. -/
structure KeyframeBlob where
  mem : Nat → UInt8
  header : Keyframes.headerValid mem = true

namespace KeyframeBlob
variable (b : KeyframeBlob)

def dataSize : Nat := Keyframes.dataSize b.mem

/-- The block as `from_value` of an animation. -/
def animation (keyPath : Option KeyPath) (toValue : Option (Nat → UInt8)) (duration : ℚ)
    (timing : TimingFunction) : AnimationDescriptor :=
  ⟨keyPath, some b.mem, toValue, duration, timing⟩

/-- Nothing outside is touched, the keyframes of the block are used exactly if they are
sound, and the progress lies in its segment. -/
structure Right (turn : Option KeyframeTurn) : Prop where
  within : ∀ t ∈ turn, ∀ a ∈ t.accesses, a.Within b.dataSize
  used : (∃ t ∈ turn, t.provided = true) ↔ Keyframes.Sound b.mem
  segment : ∀ t ∈ turn, t.segmentStart.le (.finite t.progress) = true ∧
    (Double.finite t.progress).le t.segmentEnd = true

/-- Some keyframe's values are not finite; up to there the block has them. -/
def StopsInside : Prop :=
  ∃ j < Keyframes.count b.mem, (∀ k < j, Keyframes.ValueFinite b.mem k) ∧
    ¬ Keyframes.ValueFinite b.mem j ∧ (Keyframes.dataType b.mem = 3 → 156 + 4 * j ≤ b.dataSize)

/-- The condition: the count is one of 1 to 8, the block has all of its 184 bytes or is
found faulty before they are needed, and no time is not a number unless the block is found
faulty for something else. Without key path or `to_value` the block is not looked at, and
must not be sound. -/
def Meets (keyPath : Option KeyPath) (toValue : Option (Nat → UInt8)) : Prop :=
  if keyPath.isSome ∧ toValue.isSome then
    1 ≤ Keyframes.count b.mem ∧ Keyframes.count b.mem ≤ 8 ∧
      (b.dataSize < 184 → Keyframes.TimesPass b.mem → b.StopsInside) ∧
      (Keyframes.TimesPass b.mem → (∀ i < Keyframes.count b.mem, Keyframes.ValueFinite b.mem i) →
        Keyframes.ChecksumRight b.mem → Keyframes.TimesOrdered b.mem)
  else ¬ Keyframes.Sound b.mem

end KeyframeBlob

/-! ## The checks -/

namespace Keyframes
variable {mem : Nat → UInt8}

/-- The last index is below the count, unless the count is zero. -/
theorem lastIndex_eq (h : 1 ≤ count mem) : lastIndex mem = count mem - 1 := by
  have hlt : count mem < u32 := wordAt_lt mem 16
  rw [lastIndex, u32_eq] at *
  omega

theorem lastIndex_lt_iff : lastIndex mem < 8 ↔ 1 ≤ count mem ∧ count mem ≤ 8 := by
  rcases Nat.eq_zero_or_pos (count mem) with hzero | hpos
  · rw [lastIndex, hzero]
    decide
  · rw [lastIndex_eq hpos]
    omega

theorem timingScan_iff : (timingScan mem).1 = true ↔
    ∀ i < count mem - 1, Double.Climbs timingEpsilon (time mem i) (time mem (i + 1)) := by
  refine scan_fst_iff.trans ⟨fun hall i hlt => ?_, fun hall i hle hlt => ?_⟩
  · exact (Bool.not_eq_true' _).mp (hall (i + 1) (Nat.le_add_left 1 i) (by omega))
  · obtain ⟨k, rfl⟩ := Nat.exists_eq_add_of_le' hle
    exact (Bool.not_eq_true' _).mpr (hall k (by omega))

/-- One keyframe does not pass: it would be the first and the last. -/
theorem timesValid_iff : timesValid mem = true ↔ TimesPass mem := by
  simp only [timesValid, Bool.and_eq_true, decide_eq_true_eq, timingScan_iff]
  constructor
  · rintro ⟨⟨⟨⟨⟨hzero, hle⟩, htype⟩, hfirst⟩, hlast⟩, hclimbs⟩
    have hpos : 1 ≤ count mem := Nat.pos_of_ne_zero hzero
    rw [lastIndex_eq hpos] at hlast
    have htwo : 2 ≤ count mem := by
      by_contra hone
      have hsame : count mem - 1 = 0 := by omega
      rw [hsame, hfirst] at hlast
      exact absurd hlast (by decide)
    exact ⟨htwo, hle, htype, hfirst, hlast, hclimbs⟩
  · intro h
    have hpos : 1 ≤ count mem := Nat.le_of_succ_le h.two_le
    refine ⟨⟨⟨⟨⟨by omega, h.le_eight⟩, h.type⟩, h.first⟩, ?_⟩, h.climbs⟩
    rw [lastIndex_eq hpos]
    exact h.last

/-- **Times that pass are sound** exactly if none of them is not a number. -/
theorem timesSound_iff : TimesSound mem ↔ TimesPass mem ∧ TimesOrdered mem := by
  constructor
  · intro h
    refine ⟨⟨h.two_le, h.le_eight, h.type, h.first, h.last, fun i hi => ?_⟩, fun i hi hnan => ?_⟩
    · obtain ⟨p, q, hp, hq, hlt⟩ := h.increasing i hi
      rw [hp, hq]
      exact Double.climbs_finite_iff.mpr hlt
    · rcases Nat.lt_or_ge i (count mem - 1) with hlt | hge
      · obtain ⟨p, q, hp, -, -⟩ := h.increasing i hlt
        rw [hp] at hnan
        cases hnan
      · obtain rfl : i = count mem - 1 := by omega
        rw [h.last] at hnan
        cases hnan
  · rintro ⟨h, hordered⟩
    have htwo := h.two_le
    have hnumbers := Double.finite_of_climbs h.climbs h.first h.last fun i hi =>
      hordered i (by omega)
    refine ⟨h.two_le, h.le_eight, h.type, h.first, h.last, fun i hi => ?_⟩
    obtain ⟨p, hp⟩ := hnumbers i (by omega)
    obtain ⟨q, hq⟩ := hnumbers (i + 1) hi
    have hclimbs := h.climbs i hi
    rw [hp, hq] at hclimbs
    exact ⟨p, q, hp, hq, Double.climbs_finite_iff.mp hclimbs⟩

/-- A byte of a color is never above 255. -/
theorem valueValid_iff {i : Nat} : valueValid mem i = true ↔ ValueFinite mem i := by
  unfold valueValid ValueFinite
  split
  next hcolor =>
    have hlt := wordAt_lt mem (88 + 4 * i)
    exact iff_of_true (decide_eq_true (by omega)) (Or.inl hcolor)
  next hcolor => simp [hcolor]

theorem valueScan_iff : (valueScan mem).1 = true ↔ ∀ i < count mem, ValueFinite mem i := by
  refine scan_fst_iff.trans ⟨fun hall i hlt => ?_, fun hall i _ hlt => ?_⟩
  · exact valueValid_iff.mp (hall i (Nat.zero_le i) (by omega))
  · exact valueValid_iff.mpr (hall i (by omega))

theorem checksumValid_iff : checksumValid mem = true ↔ ChecksumRight mem := by
  rw [checksumValid, calculateCRC32_eq, Bool.or_eq_true, beq_iff_eq, beq_iff_eq]
  exact Decidable.or_iff_not_imp_left

theorem integrityValid_iff : integrityValid mem = true ↔
    TimesPass mem ∧ (∀ i < count mem, ValueFinite mem i) ∧ ChecksumRight mem := by
  rw [integrityValid, valuesValid, Bool.and_eq_true, Bool.and_eq_true, timesValid_iff,
    valueScan_iff, checksumValid_iff, and_assoc]

/-- **The checks accept the sound blocks**, and those that only times without an order
distinguish from them. -/
theorem sound_iff : Sound mem ↔ integrityValid mem = true ∧ TimesOrdered mem := by
  rw [integrityValid_iff]
  constructor
  · intro h
    obtain ⟨hpass, hordered⟩ := timesSound_iff.mp h.toTimesSound
    exact ⟨⟨hpass, h.finite, h.checksum⟩, hordered⟩
  · rintro ⟨⟨hpass, hfinite, hchecksum⟩, hordered⟩
    exact ⟨timesSound_iff.mpr ⟨hpass, hordered⟩, hfinite, hchecksum⟩

/-! ## What the checks touch -/

section Accesses
variable {size : Nat} {i : Nat}

theorem within_timeAccess (hsize : 168 ≤ size) :
    (∀ a ∈ timeAccess i, a.Within size) ↔ i < 8 := by
  rw [timeAccess, List.forall_mem_cons, List.forall_mem_singleton]
  show i < 8 ∧ 24 + 8 * i + 8 ≤ size ↔ i < 8
  omega

/-- Transform values can lie behind the end of the block. -/
theorem within_valueAccess (hsize : 168 ≤ size) {type : Nat} (hi : i < 8) :
    (∀ a ∈ valueAccess type i, a.Within size) ↔ (type = 3 → 156 + 4 * i ≤ size) := by
  have hcases : type = 0 ∨ type = 1 ∨ type = 2 ∨ type = 3 ∨ 3 < type := by omega
  rcases hcases with rfl | rfl | rfl | rfl | hgt
  · simp [valueAccess, valueArrays, KeyframeAccess.Within]
    omega
  · simp [valueAccess, valueArrays, KeyframeAccess.Within]
    omega
  · simp [valueAccess, valueArrays, KeyframeAccess.Within]
    omega
  · simp [valueAccess, valueArrays, KeyframeAccess.Within]
    omega
  · have hne : type ≠ 3 := Nat.ne_of_gt hgt
    have hnone : valueArrays type = [] := by
      match type, hgt with
      | _ + 4, _ => rfl
    simp [valueAccess, hnone, hne]

theorem within_timingScan (hsize : 168 ≤ size) (hcount : count mem ≤ 8) :
    ∀ a ∈ (timingScan mem).2, a.Within size := by
  intro a ha
  obtain ⟨i, hpos, hlt, -, hmem⟩ := mem_scan_iff.mp ha
  rcases List.mem_append.mp hmem with h | h
  · exact (within_timeAccess hsize).mpr (by omega) a h
  · exact (within_timeAccess hsize).mpr (by omega) a h

/-- The loop over the values touches those up to the first that is not finite. -/
theorem within_valueScan (hsize : 168 ≤ size) (hcount : count mem ≤ 8) :
    (∀ a ∈ (valueScan mem).2, a.Within size) ↔
      ∀ i < count mem, (∀ k < i, ValueFinite mem k) → dataType mem = 3 → 156 + 4 * i ≤ size := by
  constructor
  · intro h i hi hbefore
    refine (within_valueAccess hsize (Nat.lt_of_lt_of_le hi hcount)).mp fun a ha => h a ?_
    exact mem_scan_iff.mpr ⟨i, Nat.zero_le i, by omega,
      fun k _ hk => valueValid_iff.mpr (hbefore k hk), ha⟩
  · intro h a ha
    obtain ⟨i, -, hi, hbefore, hmem⟩ := mem_scan_iff.mp ha
    have hlt : i < count mem := by omega
    refine (within_valueAccess hsize (Nat.lt_of_lt_of_le hlt hcount)).mpr (h i hlt ?_) a hmem
    intro k hk
    exact valueValid_iff.mp (hbefore k (Nat.zero_le k) hk)

theorem valuesValid_iff :
    valuesValid mem = true ↔ TimesPass mem ∧ ∀ i < count mem, ValueFinite mem i := by
  rw [valuesValid, Bool.and_eq_true, timesValid_iff, valueScan_iff]

/-- With good values, the checksum or the copy needs the whole of the data. -/
theorem whole_iff : (valuesValid mem = true ∧ (checksum mem ≠ 0 ∨ integrityValid mem = true)) ↔
    valuesValid mem = true := by
  refine and_iff_left_of_imp fun hvalues => ?_
  by_cases hsum : checksum mem = 0
  · right
    rw [integrityValid, hvalues, checksumValid, hsum]
    rfl
  · exact Or.inl hsum

theorem within_checkAccesses (hsize : 168 ≤ size) (hle : size ≤ 184) :
    (∀ a ∈ checkAccesses mem, a.Within size) ↔ 1 ≤ count mem ∧ count mem ≤ 8 ∧
      (TimesPass mem → ∀ i < count mem, (∀ k < i, ValueFinite mem k) →
        dataType mem = 3 → 156 + 4 * i ≤ size) ∧
      (TimesPass mem → (∀ i < count mem, ValueFinite mem i) → size = 184) := by
  have hfields : ∀ a ∈ [KeyframeAccess.bytes 16 4, .bytes 20 4], a.Within size := by
    rw [List.forall_mem_cons, List.forall_mem_singleton]
    show 16 + 4 ≤ size ∧ 20 + 4 ≤ size
    omega
  have hfirst : ∀ a ∈ timeAccess 0, a.Within size := (within_timeAccess hsize).mpr (by decide)
  have hwhole : (KeyframeAccess.bytes 16 168).Within size ↔ size = 184 := by
    show 16 + 168 ≤ size ↔ size = 184
    omega
  simp only [checkAccesses, List.forall_mem_append, whole_iff]
  rw [within_timeAccess (i := lastIndex mem) hsize, lastIndex_lt_iff]
  constructor
  · rintro ⟨⟨⟨⟨_, hpos, hcount⟩, _⟩, hvalues⟩, hcopy⟩
    refine ⟨hpos, hcount, fun htimes => ?_, fun htimes hfinite => ?_⟩
    · rw [if_pos (timesValid_iff.mpr htimes)] at hvalues
      exact (within_valueScan hsize hcount).mp hvalues
    · rw [if_pos (valuesValid_iff.mpr ⟨htimes, hfinite⟩)] at hcopy
      exact hwhole.mp (hcopy _ List.mem_cons_self)
  · rintro ⟨hpos, hcount, hvalues, hcopy⟩
    refine ⟨⟨⟨⟨⟨hfields, hfirst⟩, hpos, hcount⟩, within_timingScan hsize hcount⟩, ?_⟩, ?_⟩
    · split
      next htimes =>
        exact (within_valueScan hsize hcount).mpr (hvalues (timesValid_iff.mp htimes))
      next => exact List.forall_mem_nil _
    · split
      next hvalid =>
        obtain ⟨htimes, hfinite⟩ := valuesValid_iff.mp hvalid
        rw [List.forall_mem_singleton]
        exact hwhole.mpr (hcopy htimes hfinite)
      next => exact List.forall_mem_nil _

end Accesses

end Keyframes

/-! ## The segment -/

namespace AnimationDescriptor

theorem findSegment_lt (time : Nat → Double) {count : Nat} (p : ℚ) (hcount : 2 ≤ count) :
    findSegment time count p < count - 1 := by
  unfold findSegment
  cases hfind : (List.range (count - 1)).find? fun i =>
      (time i).le (.finite p) && (Double.finite p).le (time (i + 1)) with
  | none =>
      show 0 < count - 1
      omega
  | some k => exact List.mem_range.mp (List.mem_of_find?_eq_some hfind)

theorem findSegment_spec {time : Nat → Double} {count : Nat} {p : ℚ} (hcount : 2 ≤ count)
    (hnumbers : ∀ i ≤ count - 1, ∃ r, time i = .finite r)
    (h₀ : (time 0).le (.finite p) = true) (h₁ : (Double.finite p).le (time (count - 1)) = true) :
    (time (findSegment time count p)).le (.finite p) = true ∧
      (Double.finite p).le (time (findSegment time count p + 1)) = true := by
  obtain ⟨i, hi, hacross⟩ :=
    Double.exists_step_across (by omega : 0 < count - 1) hnumbers h₀ h₁
  unfold findSegment
  cases hfind : (List.range (count - 1)).find? fun i =>
      (time i).le (.finite p) && (Double.finite p).le (time (i + 1)) with
  | none =>
      have hnot := List.find?_eq_none.mp hfind i (List.mem_range.mpr hi)
      simp [hacross] at hnot
  | some k =>
      have hmatch := List.find?_some hfind
      exact Bool.and_eq_true_iff.mp hmatch

theorem clampProgress_mem (progress : ℚ) :
    0 ≤ clampProgress progress ∧ clampProgress progress ≤ 1 := by
  unfold clampProgress
  split
  next => exact ⟨le_rfl, zero_le_one⟩
  next hneg =>
    split
    next => exact ⟨zero_le_one, le_rfl⟩
    next hgt => exact ⟨not_lt.mp hneg, not_lt.mp hgt⟩

variable (d : AnimationDescriptor)

theorem generatedCount_cases :
    d.generatedCount = 4 ∨ d.generatedCount = 5 ∨ d.generatedCount = 6 := by
  unfold generatedCount
  split
  · exact Or.inr (Or.inr rfl)
  · split
    · exact Or.inr (Or.inl rfl)
    · exact Or.inl rfl

/-- Generated times go from zero to one. -/
theorem generatedTimes_ends : d.generatedTimes.getD 0 0 = 0 ∧
    d.generatedTimes.getD (d.generatedCount - 1) 0 = 1 := by
  unfold generatedTimes
  rcases d.generatedCount_cases with h | h | h
  all_goals
    rw [h]
    cases d.timingFunction with
    | linear => decide +kernel
    | easeIn => decide
    | easeOut => decide
    | easeInOut => decide
    | default => decide +kernel

/-- What the keyframes that are used have in common. -/
structure KeyframesUsable : Prop where
  two_le : 2 ≤ d.keyframeCount
  le_eight : d.keyframeCount ≤ 8
  first : d.keyframeTime 0 = .finite 0
  last : d.keyframeTime (d.keyframeCount - 1) = .finite 1

/-- Keyframes are provided by a block that passes the checks. -/
theorem provided_valid (h : d.detectKeyframes.1 = true) :
    ∃ mem, d.fromValue = some mem ∧ Keyframes.integrityValid mem = true := by
  unfold detectKeyframes at h
  split at h
  next mem _ hfrom _ =>
    rw [Keyframes.detect] at h
    split at h
    · exact ⟨mem, hfrom, h⟩
    · exact absurd h Bool.false_ne_true
  next => exact absurd h Bool.false_ne_true

theorem keyframes_generated (h : d.detectKeyframes.1 = false) :
    d.keyframeCount = d.generatedCount ∧
      ∀ i, d.keyframeTime i = .finite (d.generatedTimes.getD i 0) := by
  unfold keyframeCount keyframeTime
  rw [h]
  cases d.fromValue with
  | none => exact ⟨rfl, fun _ => rfl⟩
  | some _ => exact ⟨rfl, fun _ => rfl⟩

theorem keyframes_provided {mem : Nat → UInt8} (hfrom : d.fromValue = some mem)
    (h : d.detectKeyframes.1 = true) :
    d.keyframeCount = Keyframes.count mem ∧ ∀ i, d.keyframeTime i = Keyframes.time mem i := by
  unfold keyframeCount keyframeTime
  rw [h, hfrom]
  exact ⟨rfl, fun _ => rfl⟩

theorem keyframesUsable : d.KeyframesUsable := by
  cases hprovided : d.detectKeyframes.1 with
  | false =>
      obtain ⟨hcount, htime⟩ := d.keyframes_generated hprovided
      obtain ⟨hfirst, hlast⟩ := d.generatedTimes_ends
      have hbounds : 2 ≤ d.generatedCount ∧ d.generatedCount ≤ 8 := by
        rcases d.generatedCount_cases with h | h | h
        all_goals
          rw [h]
          decide
      rw [← hcount] at hbounds hlast
      exact ⟨hbounds.1, hbounds.2, (htime 0).trans (congrArg _ hfirst),
        (htime _).trans (congrArg _ hlast)⟩
  | true =>
      obtain ⟨mem, hfrom, hvalid⟩ := d.provided_valid hprovided
      obtain ⟨hcount, htime⟩ := d.keyframes_provided hfrom hprovided
      have hpass := (Keyframes.integrityValid_iff.mp hvalid).1
      have hlast := hpass.last
      rw [← hcount] at hlast
      exact ⟨hcount ▸ hpass.two_le, hcount ▸ hpass.le_eight, (htime 0).trans hpass.first,
        (htime _).trans hlast⟩

/-- **The segment is one of the keyframes'.** -/
theorem currentSegment_lt (progress : ℚ) :
    d.currentSegment progress + 1 < d.keyframeCount := by
  have hlt := findSegment_lt d.keyframeTime (clampProgress progress) d.keyframesUsable.two_le
  rw [currentSegment, if_neg (Nat.not_le_of_lt hlt)]
  omega

/-- Generated times are numbers, and so are those of a block whose times have an order. -/
theorem keyframeTime_finite (h : d.detectKeyframes.1 = true → ∀ mem, d.fromValue = some mem →
    Keyframes.TimesOrdered mem) : ∀ i ≤ d.keyframeCount - 1, ∃ r, d.keyframeTime i = .finite r := by
  intro i hi
  cases hprovided : d.detectKeyframes.1 with
  | false => exact ⟨_, (d.keyframes_generated hprovided).2 i⟩
  | true =>
      obtain ⟨mem, hfrom, hvalid⟩ := d.provided_valid hprovided
      obtain ⟨hcount, htime⟩ := d.keyframes_provided hfrom hprovided
      have hpass := (Keyframes.integrityValid_iff.mp hvalid).1
      have htwo := hpass.two_le
      rw [htime]
      exact Double.finite_of_climbs hpass.climbs hpass.first hpass.last
        (fun i hi => h hprovided mem hfrom i (by omega)) i (by omega)

/-- **The segment has the progress in it**, if the times are numbers. -/
theorem currentSegment_spec (progress : ℚ)
    (h : ∀ i ≤ d.keyframeCount - 1, ∃ r, d.keyframeTime i = .finite r) :
    (d.keyframeTime (d.currentSegment progress)).le (.finite (clampProgress progress)) = true ∧
      (Double.finite (clampProgress progress)).le
        (d.keyframeTime (d.currentSegment progress + 1)) = true := by
  have husable := d.keyframesUsable
  obtain ⟨hnonneg, hle⟩ := clampProgress_mem progress
  have hlt := findSegment_lt d.keyframeTime (clampProgress progress) husable.two_le
  rw [currentSegment, if_neg (Nat.not_le_of_lt hlt)]
  refine findSegment_spec husable.two_le h ?_ ?_
  · rw [husable.first]
    exact decide_eq_true hnonneg
  · rw [husable.last]
    exact decide_eq_true hle

/-! ## The function -/

theorem within_valueAccesses {size type segment : Nat} (hsize : 168 ≤ size)
    (hsegment : segment + 1 < d.keyframeCount) :
    ∀ a ∈ d.valueAccesses type segment, a.Within size := by
  have hcount := d.keyframesUsable.le_eight
  have hends : ∀ a ∈ [KeyframeAccess.index segment, .index (segment + 1)], a.Within size := by
    rw [List.forall_mem_cons, List.forall_mem_singleton]
    show segment < 8 ∧ segment + 1 < 8
    omega
  unfold valueAccesses
  split
  · exact hends
  · split
    · exact List.forall_mem_nil _
    · rw [List.forall_mem_append, List.forall_mem_cons]
      refine ⟨⟨?_, fun a ha => ?_⟩, hends⟩
      · show 0 + 4 ≤ size
        omega
      · obtain ⟨i, hi, rfl⟩ := List.mem_map.mp ha
        exact Nat.lt_of_lt_of_le (List.mem_range.mp hi) hcount

theorem within_basicAccesses {size : Nat} (hsize : 168 ≤ size) (path : KeyPath) :
    ∀ a ∈ d.basicAccesses path, a.Within size := by
  unfold basicAccesses
  split
  · exact List.forall_mem_nil _
  · rw [List.forall_mem_singleton]
    show 0 + 4 ≤ size
    omega

theorem within_pathAccesses {size segment : Nat} (hsize : 168 ≤ size)
    (hsegment : segment + 1 < d.keyframeCount) (path : KeyPath) :
    ∀ a ∈ d.pathAccesses path segment, a.Within size := by
  cases path with
  | positionX | positionY | boundsWidth | boundsHeight | opacity | cornerRadius =>
      exact d.within_valueAccesses hsize hsegment
  | rotationZ => exact d.within_valueAccesses hsize hsegment
  | scaleX | scaleY | backgroundColor | other => exact d.within_basicAccesses hsize _

/-- Past the checks nothing is touched that is not there. -/
theorem within_turn {size : Nat} (hsize : 168 ≤ size) {progress : ℚ} {turn : KeyframeTurn}
    (hturn : turn ∈ d.interpolateKeyframeAnimation progress) :
    (∀ a ∈ turn.accesses, a.Within size) ↔ ∀ a ∈ d.detectKeyframes.2, a.Within size := by
  obtain ⟨path, -, rfl⟩ := Option.map_eq_some_iff.mp hturn
  have hsegment := d.currentSegment_lt progress
  have hcount := d.keyframesUsable.le_eight
  constructor
  · intro h a ha
    exact h a (List.mem_append_left _ (List.mem_append_left _ ha))
  · intro h
    rw [List.forall_mem_append, List.forall_mem_append, List.forall_mem_cons,
      List.forall_mem_singleton]
    refine ⟨⟨h, ?_⟩, d.within_pathAccesses hsize hsegment path⟩
    show d.currentSegment progress < 8 ∧ d.currentSegment progress + 1 < 8
    omega

end AnimationDescriptor

namespace KeyframeBlob
variable (b : KeyframeBlob)

theorem dataSize_bounds : 168 ≤ b.dataSize ∧ b.dataSize ≤ 184 := by
  have h := b.header
  simp only [Keyframes.headerValid, Bool.and_eq_true, decide_eq_true_eq] at h
  exact ⟨h.1.2, h.2⟩

variable {b}

/-- Without a turn nothing can go wrong but that the block is not used. -/
theorem right_none_iff : b.Right none ↔ ¬ Keyframes.Sound b.mem := by
  constructor
  · intro h hsound
    obtain ⟨_, hnone, _⟩ := h.used.mpr hsound
    exact Option.not_mem_none _ hnone
  · intro h
    refine ⟨nofun, ?_, nofun⟩
    exact iff_of_false (fun hex => Option.not_mem_none _ hex.choose_spec.1) h

theorem right_some_iff {path : KeyPath} {toValue : Option (Nat → UInt8)} {duration progress : ℚ}
    {timing : TimingFunction} :
    let d := b.animation (some path) toValue duration timing
    b.Right (d.interpolateKeyframeAnimation progress) ↔
      (∀ a ∈ d.detectKeyframes.2, a.Within b.dataSize) ∧
        (d.detectKeyframes.1 = true ↔ Keyframes.Sound b.mem) := by
  intro d
  obtain ⟨turn, hturn⟩ : ∃ turn, d.interpolateKeyframeAnimation progress = some turn := ⟨_, rfl⟩
  have hprovided : turn.provided = d.detectKeyframes.1 := by
    obtain rfl := Option.some.inj hturn
    rfl
  have hwithin := d.within_turn b.dataSize_bounds.1 hturn
  rw [hturn]
  constructor
  · intro h
    refine ⟨hwithin.mp (h.within turn rfl), ?_⟩
    rw [← h.used, ← hprovided]
    exact ⟨fun htrue => ⟨turn, rfl, htrue⟩, fun ⟨_, rfl, htrue⟩ => htrue⟩
  · rintro ⟨hall, hused⟩
    constructor
    · rintro t ht
      obtain rfl := Option.mem_some_iff.mp ht
      exact hwithin.mpr hall
    · rw [← hused, ← hprovided]
      exact ⟨fun ⟨_, rfl, htrue⟩ => htrue, fun htrue => ⟨turn, rfl, htrue⟩⟩
    · rintro t ht
      obtain rfl := Option.mem_some_iff.mp ht
      obtain rfl := Option.some.inj hturn
      refine d.currentSegment_spec progress (d.keyframeTime_finite fun htrue mem hmem => ?_)
      obtain rfl := Option.some.inj hmem
      exact (Keyframes.sound_iff.mp (hused.mp htrue)).2

/-- A keyframe that is not finite, and none before it. -/
theorem exists_first_bad {mem : Nat → UInt8} {n : Nat}
    (h : ¬ ∀ i < n, Keyframes.ValueFinite mem i) :
    ∃ j < n, (∀ k < j, Keyframes.ValueFinite mem k) ∧ ¬ Keyframes.ValueFinite mem j := by
  induction n with
  | zero => exact absurd (fun i hi => absurd hi (Nat.not_lt_zero i)) h
  | succ n ih =>
      by_cases hall : ∀ i < n, Keyframes.ValueFinite mem i
      · refine ⟨n, Nat.lt_succ_self n, hall, fun hlast => h fun i hi => ?_⟩
        rcases Nat.lt_succ_iff_lt_or_eq.mp hi with hlt | rfl
        · exact hall i hlt
        · exact hlast
      · obtain ⟨j, hj, hfirst⟩ := ih hall
        exact ⟨j, Nat.lt_succ_of_lt hj, hfirst⟩

theorem within_detect_iff :
    (∀ a ∈ (Keyframes.detect b.mem).2, a.Within b.dataSize) ↔
      1 ≤ Keyframes.count b.mem ∧ Keyframes.count b.mem ≤ 8 ∧
        (b.dataSize < 184 → Keyframes.TimesPass b.mem → b.StopsInside) := by
  obtain ⟨hge, hle⟩ := b.dataSize_bounds
  have hheader : (KeyframeAccess.bytes 0 16).Within b.dataSize := by
    show 0 + 16 ≤ b.dataSize
    omega
  rw [Keyframes.detect, if_pos b.header, List.forall_mem_cons, and_iff_right hheader,
    Keyframes.within_checkAccesses hge hle]
  refine and_congr_right fun _ => and_congr_right fun hcount => ?_
  constructor
  · rintro ⟨hvalues, hwhole⟩ hshort htimes
    have hbad : ¬ ∀ i < Keyframes.count b.mem, Keyframes.ValueFinite b.mem i := fun hall =>
      Nat.ne_of_lt hshort (hwhole htimes hall)
    obtain ⟨j, hj, hbefore, hnot⟩ := exists_first_bad hbad
    exact ⟨j, hj, hbefore, hnot, hvalues htimes j hj hbefore⟩
  · intro h
    constructor
    · intro htimes i hi hbefore htype
      rcases Nat.lt_or_ge b.dataSize 184 with hshort | hlong
      · obtain ⟨j, -, -, hnot, hinside⟩ := h hshort htimes
        have hij : i ≤ j := Nat.le_of_not_lt fun hji => hnot (hbefore j hji)
        have hfits := hinside htype
        omega
      · omega
    · intro htimes hall
      by_contra hne
      obtain ⟨j, hj, -, hnot, -⟩ := h (by omega) htimes
      exact hnot (hall j hj)

/-- A header and no keyframes. -/
def empty : KeyframeBlob where
  mem := fun a => [0x44, 0x46, 0x4B, 0x56, 1, 0, 0, 0, 184].getD a 0
  header := by decide

end KeyframeBlob

end VMQemuVGA
