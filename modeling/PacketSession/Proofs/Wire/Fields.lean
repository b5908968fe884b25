import PacketSession.Wire.Field
import PacketSession.Proofs.Wire.Reads

/-!
# Sequences of fields are read back

Every kind of field has a written form that says where it ends, if only to a reader who knows the
kind. So fields of any kinds, written one behind the other, are read back by their kinds whatever
comes next (`Field.decodeAll_encodeAll`), and the place that a reader has reached is the sum of the
widths of the fields before it.
-/

namespace PacketSession

open Decoder

variable {α ι : Type}

/-! ### One field -/

namespace Decoder.Reads

theorem u16 (n : UInt16) : Reads Decoder.u16 (Bytes.u16 n) n := by
  have h : Reads Decoder.u16 (Bytes.u16 n) (UInt16.ofNat n.toNat) :=
    (word_of_lt n.toNat_lt).bind_nil (.pure _)
  rwa [UInt16.ofNat_toNat] at h

theorem u32 (n : UInt32) : Reads Decoder.u32 (Bytes.u32 n) n := by
  have h : Reads Decoder.u32 (Bytes.u32 n) (UInt32.ofNat n.toNat) :=
    (word_of_lt n.toNat_lt).bind_nil (.pure _)
  rwa [UInt32.ofNat_toNat] at h

theorem u64 (n : UInt64) : Reads Decoder.u64 (Bytes.u64 n) n := by
  have h : Reads Decoder.u64 (Bytes.u64 n) (UInt64.ofNat n.toNat) :=
    (word_of_lt n.toNat_lt).bind_nil (.pure _)
  rwa [UInt64.ofNat_toNat] at h

theorem i32 (n : Int32) : Reads Decoder.i32 (Bytes.i32 n) n := by
  have h : Reads Decoder.i32 (Bytes.i32 n) n.toUInt32.toInt32 := (u32 _).bind_nil (.pure _)
  rwa [Int32.toInt32_toUInt32] at h

theorem i64 (n : Int64) : Reads Decoder.i64 (Bytes.i64 n) n := by
  have h : Reads Decoder.i64 (Bytes.i64 n) n.toUInt64.toInt64 := (u64 _).bind_nil (.pure _)
  rwa [Int64.toInt64_toUInt64] at h

/-- If each value is read back from its own form, all of them are from their forms in a row. -/
theorem mapM {d : ι → Decoder α} {kind : α → ι} {form : α → Bytes} {values : List α}
    (h : ∀ a ∈ values, Reads (d (kind a)) (form a) a) :
    Reads ((values.map kind).mapM d) (values.flatMap form) values := by
  induction values with
  | nil => exact .pure []
  | cons a values ih =>
    obtain ⟨ha, hvalues⟩ := List.forall_mem_cons.mp h
    rw [List.map_cons, List.mapM_cons, List.flatMap_cons]
    exact ha.bind ((ih hvalues).bind_nil (.pure _))

end Decoder.Reads

namespace Field

/-- The length of a field that carries one fits a 32-bit word. -/
def Fits : Field → Prop
  | bytes value => value.length < 2 ^ 32
  | text value => (Bytes.ofText value).length < 2 ^ 32
  | _ => True

instance : DecidablePred Fits
  | bytes value => inferInstanceAs (Decidable (value.length < 2 ^ 32))
  | text value => inferInstanceAs (Decidable ((Bytes.ofText value).length < 2 ^ 32))
  | u8 _ | bool _ | u16 _ | i32 _ | u32 _ | i64 _ | u64 _ | f32 _ | f64 _ | varint _ | raw _ =>
    inferInstanceAs (Decidable True)

/-- A field that fits is read back by its kind. -/
theorem Fits.reads {field : Field} (h : field.Fits) :
    Reads field.kind.decode field.encode field := by
  cases field with
  | u8 value => exact (Reads.byte value).bind_nil (.pure _)
  | bool value => exact (Reads.bool value).bind_nil (.pure _)
  | u16 value => exact (Reads.u16 value).bind_nil (.pure _)
  | i32 value => exact (Reads.i32 value).bind_nil (.pure _)
  | u32 value => exact (Reads.u32 value).bind_nil (.pure _)
  | i64 value => exact (Reads.i64 value).bind_nil (.pure _)
  | u64 value => exact (Reads.u64 value).bind_nil (.pure _)
  | f32 bits => exact (Reads.u32 bits).bind_nil (.pure _)
  | f64 bits => exact (Reads.u64 bits).bind_nil (.pure _)
  | varint value => exact (Reads.varint value).bind_nil (.pure _)
  | raw value => exact (Reads.take rfl).bind_nil (.pure _)
  | bytes value => exact (Reads.counted h).bind_nil (.pure _)
  | text value => exact (Reads.text h).bind_nil (.pure _)

theorem length_encode (field : Field) : field.encode.length = field.width := by
  cases field <;>
    simp [encode, width, Bytes.u8, Bytes.bool, Bytes.u16, Bytes.u32, Bytes.i32, Bytes.u64,
      Bytes.i64, Bytes.text, Bytes.counted, Varint.length_encode]

end Field

/-! ### Fields in a row -/

/-- Reads fields of these kinds, in order. -/
def FieldKind.decodeAll (kinds : List FieldKind) : Decoder (List Field) := kinds.mapM decode

namespace Field

/-- The written form of fields in a row. -/
def encodeAll (fields : List Field) : Bytes := fields.flatMap encode

private theorem length_encodeAll (fields : List Field) :
    (encodeAll fields).length = (fields.map width).sum := by
  rw [encodeAll, List.length_flatMap]
  exact congrArg List.sum (List.map_congr_left fun field _ => field.length_encode)

/-- Fields in a row are read back by their kinds, wherever they stand and whatever follows, and they
take as many bytes as the sum of their widths. -/
theorem decodeAll_encodeAll (fields : List Field) (h : ∀ field ∈ fields, field.Fits)
    (position : Nat) (suffix : Bytes) :
    (FieldKind.decodeAll (fields.map kind)).runAt ⟨position, encodeAll fields ++ suffix⟩ =
        (.ok fields, ⟨position + (encodeAll fields).length, suffix⟩) ∧
      (encodeAll fields).length = (fields.map width).sum :=
  ⟨Reads.mapM (fun field hf => (h field hf).reads) position suffix, length_encodeAll fields⟩

/-- A field of each kind: negative numbers, a float that is no number, a varint of two bytes, empty
bytes and a text of more bytes than characters. -/
def specimens : List Field :=
  [.u8 255, .bool true, .u16 0xABCD, .i32 (-1), .u32 0xFFFFFFFE, .i64 (-2), .u64 0xFFFFFFFFFFFFFFFF,
    .f32 0x7FC00001, .f64 0x8000000000000000, .varint 300, .raw [0x80, 0, 1], .bytes [], .text "hé"]

/-- The specimens are read back in front of a byte that would go on with a varint. -/
theorem decodeAll_encodeAll_specimens :
    (∀ field ∈ specimens, field.Fits) ∧
      (FieldKind.decodeAll (specimens.map kind)).runAt
          (.start (encodeAll specimens ++ [0x80])) = (.ok specimens, ⟨50, [0x80]⟩) := by
  have hfits : ∀ field ∈ specimens, field.Fits := by decide +kernel
  have hwidth : (specimens.map width).sum = 50 := by decide +kernel
  obtain ⟨hreads, hlength⟩ := decodeAll_encodeAll specimens hfits 0 [0x80]
  rw [hlength, hwidth] at hreads
  exact ⟨hfits, hreads⟩

end Field

end PacketSession
