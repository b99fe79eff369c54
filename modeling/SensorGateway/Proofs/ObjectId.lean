import SensorGateway.Measurement
import SensorGateway.Proofs.Identifiers
import SensorGateway.Proofs.Text.Hex

/-!
Which texts are identifiers. A text is one if it has twenty-four bytes and each of them is a
hexadecimal digit; since digits are single bytes, these are its characters. Any other text
is cited in the refusal, with its length or with the first byte that is no digit.
-/

namespace SensorGateway

namespace ObjectId

/-- The bytes of the encoded text, each as the character of its number. -/
def latin (text : String) : List Char :=
  text.toByteArray.data.toList.map Char.ofUInt8

theorem units_eq_latin (text : String) : units text = latin text := by
  have hbytes : text.toByteArray = (text.toList.flatMap String.utf8EncodeChar).toByteArray := by
    conv_lhs => rw [← String.ofList_toList (s := text)]
    exact String.toByteArray_ofList
  rw [units, latin, hbytes, List.toList_data_toByteArray]

theorem length_units (text : String) : (units text).length = text.utf8ByteSize := by
  rw [units_eq_latin, latin, List.length_map, Array.length_toList]
  rfl

/-- The number of the first byte of a longer encoding says how many bytes there are. -/
theorem not_ascii_of_le {n : Nat} (hle : 192 ≤ n) (hlt : n < 256) :
    ¬(Char.ofUInt8 (UInt8.ofNat n)).toNat < 128 := by
  have hn : (Char.ofUInt8 (UInt8.ofNat n)).toNat = n := by
    show (UInt8.ofNat n).toUInt32.toNat = n
    rw [UInt8.toNat_toUInt32, UInt8.toNat_ofNat', Nat.mod_eq_of_lt hlt]
  omega

/-- A character beyond ASCII has a byte beyond ASCII. -/
theorem toNat_lt_of_utf8EncodeChar {c : Char}
    (h : ∀ u ∈ (String.utf8EncodeChar c).map Char.ofUInt8, u.toNat < 128) : c.toNat < 128 := by
  unfold String.utf8EncodeChar at h
  by_contra hlarge
  have hval : ¬c.val.toNat ≤ 127 := fun hle => hlarge (Nat.lt_succ_of_le hle)
  simp only [hval, if_false] at h
  split at h
  · exact not_ascii_of_le (by omega) (by omega) (h _ List.mem_cons_self)
  · split at h
    · exact not_ascii_of_le (by omega) (by omega) (h _ List.mem_cons_self)
    · exact not_ascii_of_le (by omega) (by omega) (h _ List.mem_cons_self)

/-- A text whose bytes are ASCII has them as its characters. -/
theorem units_eq_toList {text : String} (h : ∀ u ∈ units text, u.toNat < 128) :
    units text = text.toList := by
  have hascii : ∀ c ∈ text.toList, c.toNat < 128 := by
    intro c hc
    refine toNat_lt_of_utf8EncodeChar fun u hu => h u ?_
    rw [units, List.map_flatMap]
    exact List.mem_flatMap.2 ⟨c, hc, hu⟩
  have hunits := units_ofList hascii
  rwa [String.ofList_toList] at hunits

/-! ### Reading -/

theorem parse_eq_ok_iff_decode {text : String} {id : ObjectId} :
    parse text = .ok id ↔
      (units text).length = 24 ∧ Text.Hex.decode 0 (units text) = .ok id.bytes := by
  rw [parse]
  split
  · rename_i hlen
    split
    · rename_i bytes hdec
      constructor
      · rintro ⟨rfl⟩
        exact ⟨hlen, hdec⟩
      · rintro ⟨-, hdec'⟩
        obtain ⟨bytes', hlength⟩ := id
        cases hdec.symm.trans hdec'
        rfl
    · rename_i bad hdec
      simp [hdec]
  · rename_i hlen
    simp [hlen]

theorem parse_eq_ok_iff {text : String} {id : ObjectId} :
    parse text = .ok id ↔ Text.Hex.Spells (units text) id.bytes := by
  rw [parse_eq_ok_iff_decode]
  constructor
  · rintro ⟨hlen, hdec⟩
    exact (Text.Hex.decode_eq_ok_iff (by rw [hlen])).1 hdec
  · intro h
    have hlen : (units text).length = 24 := by rw [h.length_eq, id.length_bytes]
    exact ⟨hlen, (Text.Hex.decode_eq_ok_iff (by rw [hlen])).2 h⟩

/-- The characters of an identifier spell its bytes. -/
theorem parse_eq_ok_iff_toList {text : String} {id : ObjectId} :
    parse text = .ok id ↔ Text.Hex.Spells text.toList id.bytes := by
  rw [parse_eq_ok_iff]
  constructor
  · intro h
    rwa [← units_eq_toList fun u hu => Text.Hex.toNat_lt_of_isDigit (h.isDigit u hu)]
  · intro h
    have hunits := units_ofList fun c hc => Text.Hex.toNat_lt_of_isDigit (h.isDigit c hc)
    rw [String.ofList_toList] at hunits
    rwa [hunits]

/-- Twenty-four digits. -/
def IsWritten (cs : List Char) : Prop :=
  cs.length = 24 ∧ ∀ c ∈ cs, Text.Hex.IsDigit c

theorem isWritten_iff {cs : List Char} :
    IsWritten cs ↔ ∃ id : ObjectId, Text.Hex.Spells cs id.bytes := by
  constructor
  · rintro ⟨hlength, hdigits⟩
    obtain ⟨bytes, hspells⟩ := Text.Hex.exists_spells (by rw [hlength]) hdigits
    have hbytes := hspells.length_eq
    exact ⟨⟨bytes, by omega⟩, hspells⟩
  · rintro ⟨id, hspells⟩
    exact ⟨by rw [hspells.length_eq, id.length_bytes], hspells.isDigit⟩

theorem display_of_parse {text : String} {id : ObjectId} (h : parse text = .ok id) :
    id.display = text.toLower := by
  rw [parse_eq_ok_iff_toList] at h
  rw [display, h.encode_eq, ← String.toList_map, String.ofList_toList]
  rfl

/-- A text is refused for its length or for the first byte that is no digit. -/
theorem parse_eq_error {text : String} {refusal : Refusal} (h : parse text = .error refusal) :
    (text.utf8ByteSize ≠ 24 ∧ refusal = .length text.utf8ByteSize) ∨
      text.utf8ByteSize = 24 ∧ ∃ before bad after, latin text = before ++ bad :: after ∧
        (∀ c ∈ before, Text.Hex.IsDigit c) ∧ ¬Text.Hex.IsDigit bad ∧
        refusal = .digit ⟨bad, before.length⟩ := by
  rw [parse] at h
  split at h
  · rename_i hlen
    rw [length_units] at hlen
    split at h
    · cases h
    · rename_i bad hdec
      cases h
      obtain ⟨before, after, hcs, hbefore, hbad, hplace⟩ := Text.Hex.exists_of_decode_eq_error hdec
      rw [units_eq_latin] at hcs
      refine .inr ⟨hlen, before, bad.found, after, hcs, hbefore, hbad, ?_⟩
      rw [← Nat.zero_add before.length, ← hplace]
  · rename_i hlen
    cases h
    rw [length_units] at hlen ⊢
    exact .inl ⟨hlen, rfl⟩

theorem head?_toList_append {s : String} {c : Char} (h : s.toList.head? = some c)
    (t : String) : (s ++ t).toList.head? = some c := by
  rw [String.toList_append, List.head?_append, h]
  rfl

/-- The two kinds of reasons are told apart by their first letters. -/
theorem reason_length_ne_digit (n : Nat) (bad : Text.Hex.BadDigit) :
    (Refusal.length n).reason ≠ (Refusal.digit bad).reason := by
  have hlength : (Refusal.length n).reason.toList.head? = some 'e' :=
    head?_toList_append (by decide) _
  have hdigit : (Refusal.digit bad).reason.toList.head? = some 'I' :=
    head?_toList_append (head?_toList_append (head?_toList_append (by decide) _) _) _
  intro h
  rw [h, hdigit] at hlength
  cases hlength

theorem identify_eq_ok_iff {text : String} {id : ObjectId} :
    identify text = .ok id ↔ parse text = .ok id := by
  rw [identify]
  cases parse text <;> simp [Except.mapError]

theorem identify_eq_error_iff {text : String} {err : IdentityError} :
    identify text = .error err ↔
      ∃ refusal, parse text = .error refusal ∧ err = .invalidObjectId text refusal.reason := by
  rw [identify]
  cases parse text <;> simp [Except.mapError, eq_comm]

/-! ### The text form -/

/-- How a text is read as an identifier: what is accepted, what it stands for, and what is
said about a text that is refused. -/
structure ReadExactly (text : String) : Prop where
  accepted : (∃ id, identify text = .ok id) ↔
    text.utf8ByteSize = 24 ∧ ∀ c ∈ latin text, Text.Hex.IsDigit c
  bytes : ∀ id, identify text = .ok id → ∀ i high low b, (latin text)[2 * i]? = some high →
    (latin text)[2 * i + 1]? = some low → id.bytes[i]? = some b →
    b.toNat = 16 * Text.Hex.value high + Text.Hex.value low
  display : ∀ id, identify text = .ok id → id.display = text.toLower
  refused : ∀ err, identify text = .error err → ∃ reason, err = .invalidObjectId text reason ∧
    ((∃ n : Nat, reason = "expected 24 hex characters, got " ++ toString n) ↔
      text.utf8ByteSize ≠ 24) ∧
    (text.utf8ByteSize ≠ 24 →
      reason = "expected 24 hex characters, got " ++ toString text.utf8ByteSize) ∧
    (text.utf8ByteSize = 24 → ∃ before bad after, latin text = before ++ bad :: after ∧
      (∀ c ∈ before, Text.Hex.IsDigit c) ∧ ¬Text.Hex.IsDigit bad ∧
      reason = "Invalid character " ++ Text.quotedChar bad ++ " at position " ++
        toString before.length)

theorem spells_of_identify {text : String} {id : ObjectId} (h : identify text = .ok id) :
    Text.Hex.Spells (latin text) id.bytes := by
  rw [← units_eq_latin]
  exact parse_eq_ok_iff.1 (identify_eq_ok_iff.1 h)

theorem exists_identify_iff {text : String} : (∃ id, identify text = .ok id) ↔
    text.utf8ByteSize = 24 ∧ ∀ c ∈ latin text, Text.Hex.IsDigit c := by
  constructor
  · rintro ⟨id, h⟩
    have hspells := spells_of_identify h
    refine ⟨?_, hspells.isDigit⟩
    rw [← length_units, units_eq_latin, hspells.length_eq, id.length_bytes]
  · rintro ⟨hsize, hdigits⟩
    cases h : parse text with
    | ok id => exact ⟨id, identify_eq_ok_iff.2 h⟩
    | error refusal =>
        rcases parse_eq_error h with ⟨hne, -⟩ | ⟨-, before, bad, after, htext, -, hbad, -⟩
        · exact absurd hsize hne
        · exact absurd (hdigits bad (by rw [htext]; simp)) hbad

/-- Every text is read exactly like this, and every identifier is read back from the text by
which it is displayed. -/
theorem identify_exactly :
    (∀ text, ReadExactly text) ∧ ∀ id : ObjectId, identify id.display = .ok id := by
  refine ⟨fun text => ?_, fun id => identify_eq_ok_iff.2 (parse_display id)⟩
  constructor
  · exact exists_identify_iff
  · intro id h i high low b hhigh hlow hb
    exact (spells_of_identify h).toNat_eq hhigh hlow hb
  · intro id h
    exact display_of_parse (identify_eq_ok_iff.1 h)
  · intro err h
    obtain ⟨refusal, hparse, rfl⟩ := identify_eq_error_iff.1 h
    refine ⟨_, rfl, ?_⟩
    rcases parse_eq_error hparse with
      ⟨hsize, rfl⟩ | ⟨hsize, before, bad, after, htext, hbefore, hbad, rfl⟩
    · exact ⟨⟨fun _ => hsize, fun _ => ⟨_, rfl⟩⟩, fun _ => rfl, fun h24 => absurd h24 hsize⟩
    · refine ⟨⟨?_, fun hne => absurd hsize hne⟩, fun hne => absurd hsize hne, fun _ => ?_⟩
      · rintro ⟨n, hreason⟩
        exact absurd hreason.symm (reason_length_ne_digit n _)
      · exact ⟨before, bad, after, htext, hbefore, hbad, rfl⟩

end ObjectId

end SensorGateway
