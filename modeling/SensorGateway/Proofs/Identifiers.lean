import SensorGateway.ObjectId
import SensorGateway.Uuid
import Mathlib.Algebra.GroupWithZero.Nat

/-!
Written identifiers are read back. The identifier of a sensor is measured in bytes, which for
digits is the same as in characters; in the identifier of a user the hyphens have to be found
where they were put.
-/

namespace SensorGateway

namespace Text.Hex

theorem digit_ascii : ∀ n : Fin 16, (digit n).toNat < 128 := by
  decide

theorem encode_ascii {bytes : List UInt8} {c : Char} (h : c ∈ encode bytes) :
    c.toNat < 128 := by
  induction bytes with
  | nil => cases h
  | cons b bs ih =>
      have hb : b.toNat < 256 := UInt8.toNat_lt b
      rw [encode, List.mem_cons, List.mem_cons] at h
      rcases h with rfl | rfl | h
      · exact digit_ascii ⟨b.toNat / 16, by omega⟩
      · exact digit_ascii ⟨b.toNat % 16, by omega⟩
      · exact ih h

end Text.Hex

namespace ObjectId

theorem ofUInt8_utf8EncodeChar {c : Char} (h : c.toNat < 128) :
    (String.utf8EncodeChar c).map Char.ofUInt8 = [c] := by
  have hval : c.val.toNat < 128 := h
  have hle : c.val.toNat ≤ 127 := by omega
  simp only [String.utf8EncodeChar, hle, if_true, List.map_cons, List.map_nil]
  congr 1
  apply Char.ext
  apply UInt32.toNat_inj.1
  show (UInt8.ofNat c.val.toNat).toUInt32.toNat = c.val.toNat
  rw [UInt8.toNat_toUInt32, UInt8.toNat_ofNat']
  omega

theorem units_ofList {cs : List Char} (h : ∀ c ∈ cs, c.toNat < 128) :
    units (String.ofList cs) = cs := by
  rw [units, String.toList_ofList, List.map_flatMap]
  induction cs with
  | nil => rfl
  | cons c cs ih =>
      rw [List.forall_mem_cons] at h
      rw [List.flatMap_cons, ofUInt8_utf8EncodeChar h.1, ih h.2]
      rfl

@[simp] theorem parse_display (id : ObjectId) : parse id.display = .ok id := by
  have hunits : units id.display = Text.Hex.encode id.bytes :=
    units_ofList fun c hc => Text.Hex.encode_ascii hc
  have hlen : (units id.display).length = 24 := by
    rw [hunits, Text.Hex.length_encode, id.length_bytes]
  rw [parse, dif_pos hlen]
  split
  · rename_i bytes hdec
    rw [hunits, Text.Hex.decode_encode] at hdec
    cases hdec
    rfl
  · rename_i bad hdec
    rw [hunits, Text.Hex.decode_encode] at hdec
    cases hdec

end ObjectId

namespace Uuid

theorem length_hyphenate {ns : List Nat} {cs : List Char} (h : cs.length = ns.sum) :
    (hyphenate ns cs).length = cs.length + (ns.length - 1) := by
  fun_induction hyphenate ns cs with
  | case1 | case2 => rfl
  | case3 n ns cs hne ih =>
      rw [List.sum_cons] at h
      have hdrop := ih (by rw [List.length_drop]; omega)
      have hpos : 0 < ns.length := List.length_pos_iff.2 fun hnil => hne hnil
      simp only [List.length_append, List.length_cons, List.length_take, hdrop,
        List.length_drop]
      omega

/-- The hyphens are found again between groups of the same sizes. -/
theorem unhyphenate?_hyphenate {ns : List Nat} {cs : List Char} (h : cs.length = ns.sum) :
    unhyphenate? ns (hyphenate ns cs) = some cs := by
  fun_induction hyphenate ns cs with
  | case1 cs => simpa [unhyphenate?] using h
  | case2 cs n => simpa [unhyphenate?] using h
  | case3 n ns cs hne ih =>
      rw [List.sum_cons] at h
      have htake : (cs.take n).length = n := by rw [List.length_take]; omega
      have hrest := ih (by rw [List.length_drop]; omega)
      rw [unhyphenate?, List.drop_left' htake, List.take_left' htake]
      · simp [hrest]
      · exact hne

@[simp] theorem parse?_display (id : Uuid) : parse? id.display = some id := by
  have hcount : (Text.Hex.encode id.bytes).length = 32 := by
    rw [Text.Hex.length_encode, id.length_bytes]
  have hsum : (Text.Hex.encode id.bytes).length = groups.sum := hcount
  have hlen : (hyphenate groups (Text.Hex.encode id.bytes)).length = 36 := by
    rw [length_hyphenate hsum, hsum]
    rfl
  have hdigits : digits? (hyphenate groups (Text.Hex.encode id.bytes)) =
      some (Text.Hex.encode id.bytes) := by
    rw [digits?, if_neg (by omega), if_pos hlen, unhyphenate?_hyphenate hsum]
  rw [parse?, display, String.toList_ofList, hdigits, Option.bind_some, ofDigits?,
    dif_pos hcount]
  split
  · rename_i bytes hdec
    rw [Text.Hex.decode_encode] at hdec
    cases hdec
    rfl
  · rename_i bad hdec
    rw [Text.Hex.decode_encode] at hdec
    cases hdec

end Uuid

end SensorGateway
