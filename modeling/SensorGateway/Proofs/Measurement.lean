import SensorGateway.Measurement
import SensorGateway.Proofs.Json.Reading
import SensorGateway.Proofs.ObjectId

/-!
Which texts are measurements. A text is malformed if no document is written like it, or only
documents that have no value. Otherwise the last member with the key of the sensor decides:
there has to be one, it has to be a text, and the text has to spell an identifier.
-/

namespace SensorGateway

namespace Json

/-- A document with this value is written like this. -/
def Means (text : List Char) (v : Value) : Prop :=
  ∃ d : Document, d.written = text ∧ d.value? = some v

/-- Of the members of an object with the key, the last one has the value. -/
def Value.LastMember (v : Value) (key : List Char) (x : Value) : Prop :=
  ∃ before after, v = .object (before ++ (key, x) :: after) ∧ ∀ m ∈ after, m.1 ≠ key

theorem parse_eq_ok_iff_means {text : List Char} {v : Value} :
    parse text = .ok v ↔ Means text v :=
  parse_eq_ok_iff

/-- Trees that are written alike have the same value, if they have one. -/
theorem Means.unique {text : List Char} {v w : Value} (hv : Means text v) (hw : Means text w) :
    v = w := by
  have h := (parse_eq_ok_iff_means.2 hv).symm.trans (parse_eq_ok_iff_means.2 hw)
  exact Except.ok.inj h

theorem exists_means_iff {text : List Char} :
    (∃ v, Means text v) ↔ ∃ d : Document, d.written = text ∧ d.InRange ∧ d.Paired := by
  constructor
  · rintro ⟨v, d, hd, hv⟩
    exact ⟨d, hd, (Tree.exists_value?_iff maxDepth d.content).1 ⟨v, hv⟩⟩
  · rintro ⟨d, hd, hreadable⟩
    obtain ⟨v, hv⟩ := (Tree.exists_value?_iff maxDepth d.content).2 hreadable
    exact ⟨v, d, hd, hv⟩

namespace Value

theorem member?_eq_some_iff {v x : Value} {key : List Char} :
    v.member? key = some x ↔ v.LastMember key x := by
  cases v with
  | object members =>
      simp only [member?, Option.map_eq_some_iff, List.find?_eq_some_iff_append]
      constructor
      · rintro ⟨⟨k, y⟩, ⟨hkey, after, before, hmembers, hafter⟩, rfl⟩
        obtain rfl : k = key := by simpa using hkey
        refine ⟨before.reverse, after.reverse, ?_, fun m hm => ?_⟩
        · rw [← List.reverse_reverse members, hmembers]
          simp
        · simpa using hafter m (List.mem_reverse.1 hm)
      · rintro ⟨before, after, hmembers, hafter⟩
        obtain rfl : members = before ++ (key, x) :: after := by simpa using hmembers
        refine ⟨(key, x), ⟨by simp, after.reverse, before.reverse, by simp, fun m hm => ?_⟩, rfl⟩
        simpa using hafter m (List.mem_reverse.1 hm)
  | _ => simp [member?, LastMember]

theorem member?_eq_none_iff {v : Value} {key : List Char} :
    v.member? key = none ↔ ∀ members, v = .object members → ∀ m ∈ members, m.1 ≠ key := by
  cases v with
  | object members => simp [member?, Option.map_eq_none_iff]
  | _ => simp [member?]

theorem text?_eq_some_iff {v : Value} {cs : List Char} : v.text? = some cs ↔ v = .text cs := by
  cases v <;> simp [text?]

theorem text_of_member_iff {v : Value} {key cs : List Char} :
    (v.member? key).bind text? = some cs ↔ v.LastMember key (.text cs) := by
  simp only [Option.bind_eq_some_iff, text?_eq_some_iff, exists_eq_right, member?_eq_some_iff]

theorem no_text_of_member_iff {v : Value} {key : List Char} :
    (v.member? key).bind text? = none ↔
      (∀ members, v ≠ .object members) ∨
      (∃ members, v = .object members ∧ ∀ m ∈ members, m.1 ≠ key) ∨
      ∃ x, v.LastMember key x ∧ ∀ cs, x ≠ .text cs := by
  cases hmember : v.member? key with
  | none =>
      refine ⟨fun _ => ?_, fun _ => rfl⟩
      have hkeys := member?_eq_none_iff.1 hmember
      cases v with
      | object members => exact .inr (.inl ⟨members, rfl, hkeys members rfl⟩)
      | _ => exact .inl (by simp)
  | some x =>
      have hlast := member?_eq_some_iff.1 hmember
      rw [Option.bind_some]
      constructor
      · intro h
        refine .inr (.inr ⟨x, hlast, fun cs hx => ?_⟩)
        rw [text?_eq_some_iff.2 hx] at h
        cases h
      · obtain ⟨before, after, rfl, -⟩ := hlast
        rintro (hvalue | ⟨members, hvalue, hkeys⟩ | ⟨y, hy, hno⟩)
        · exact absurd rfl (hvalue _)
        · cases hvalue
          exact absurd rfl (hkeys (key, x) (by simp))
        · -- a key has a single last member
          obtain rfl : x = y := by
            rw [← member?_eq_some_iff, hmember] at hy
            exact Option.some.inj hy
          cases htext : x.text? with
          | none => rfl
          | some cs => exact absurd (text?_eq_some_iff.1 htext) (hno cs)

end Value

end Json

namespace Measurement

variable {payload : String} {v : Json.Value}

/-! ### What a payload is read as -/

theorem ofDocument_of_malformed (h : ∀ v, ¬Json.Means payload.toList v) :
    ∃ reason, ofDocument payload = .error (.malformedPayload reason) := by
  cases hparse : Json.parse payload.toList with
  | ok v => exact absurd (Json.parse_eq_ok_iff_means.1 hparse) (h v)
  | error fault => exact ⟨fault.describe payload.toList, by simp only [ofDocument, hparse]⟩

theorem ofDocument_of_unnamed (h : Json.Means payload.toList v)
    (hname : (v.member? sensorIdKey).bind Json.Value.text? = none) :
    ofDocument payload = .error .missingSensorId := by
  simp only [ofDocument, Json.parse_eq_ok_iff_means.2 h, hname]

theorem ofDocument_of_named {cs : List Char} {id : ObjectId} (h : Json.Means payload.toList v)
    (hname : v.LastMember sensorIdKey (.text cs)) (hcs : Text.Hex.Spells cs id.bytes) :
    ofDocument payload = .ok ⟨id, payload⟩ := by
  have hid : ObjectId.identify (String.ofList cs) = .ok id := by
    rwa [ObjectId.identify_eq_ok_iff, ObjectId.parse_eq_ok_iff_toList, String.toList_ofList]
  simp only [ofDocument, Json.parse_eq_ok_iff_means.2 h, Json.Value.text_of_member_iff.2 hname,
    hid]

theorem ofDocument_of_misnamed {cs : List Char} (h : Json.Means payload.toList v)
    (hname : v.LastMember sensorIdKey (.text cs)) (hcs : ¬ObjectId.IsWritten cs) :
    ∃ reason, ofDocument payload = .error (.invalidObjectId (String.ofList cs) reason) := by
  cases hid : ObjectId.identify (String.ofList cs) with
  | ok id =>
      rw [ObjectId.identify_eq_ok_iff, ObjectId.parse_eq_ok_iff_toList, String.toList_ofList] at hid
      exact absurd (ObjectId.isWritten_iff.2 ⟨id, hid⟩) hcs
  | error err =>
      obtain ⟨refusal, -, rfl⟩ := ObjectId.identify_eq_error_iff.1 hid
      refine ⟨refusal.reason, ?_⟩
      simp only [ofDocument, Json.parse_eq_ok_iff_means.2 h, Json.Value.text_of_member_iff.2 hname,
        hid]

/-- A payload means nothing, or nothing that names a sensor by a text, or the text does or
does not spell an identifier; and what it is read as. -/
inductive Reading (payload : String) : Except IdentityError Measurement → Prop
  | malformed (reason : String) (h : ∀ v, ¬Json.Means payload.toList v) :
      Reading payload (.error (.malformedPayload reason))
  | unnamed (v : Json.Value) (h : Json.Means payload.toList v)
      (hname : (v.member? sensorIdKey).bind Json.Value.text? = none) :
      Reading payload (.error .missingSensorId)
  | misnamed (v : Json.Value) (cs : List Char) (reason : String)
      (h : Json.Means payload.toList v) (hname : v.LastMember sensorIdKey (.text cs))
      (hcs : ¬ObjectId.IsWritten cs) :
      Reading payload (.error (.invalidObjectId (String.ofList cs) reason))
  | named (v : Json.Value) (cs : List Char) (id : ObjectId) (h : Json.Means payload.toList v)
      (hname : v.LastMember sensorIdKey (.text cs)) (hcs : Text.Hex.Spells cs id.bytes) :
      Reading payload (.ok ⟨id, payload⟩)

theorem reading (payload : String) : Reading payload (ofDocument payload) := by
  by_cases hmeans : ∃ v, Json.Means payload.toList v
  · obtain ⟨v, hv⟩ := hmeans
    cases hname : (v.member? sensorIdKey).bind Json.Value.text? with
    | none =>
        rw [ofDocument_of_unnamed hv hname]
        exact .unnamed v hv hname
    | some cs =>
        rw [Json.Value.text_of_member_iff] at hname
        by_cases hcs : ObjectId.IsWritten cs
        · obtain ⟨id, hid⟩ := ObjectId.isWritten_iff.1 hcs
          rw [ofDocument_of_named hv hname hid]
          exact .named v cs id hv hname hid
        · obtain ⟨reason, h⟩ := ofDocument_of_misnamed hv hname hcs
          rw [h]
          exact .misnamed v cs reason hv hname hcs
  · obtain ⟨reason, h⟩ := ofDocument_of_malformed (not_exists.1 hmeans)
    rw [h]
    exact .malformed reason (not_exists.1 hmeans)

theorem Reading.of_eq {result : Except IdentityError Measurement}
    (h : ofDocument payload = result) : Reading payload result :=
  h ▸ reading payload

/-- How a payload is read: when it is refused and for which reason, and otherwise for which
sensor it is taken. -/
structure ReadExactly (payload : String) : Prop where
  malformed : (∃ reason, ofDocument payload = .error (.malformedPayload reason)) ↔
    ¬∃ d : Json.Document, d.written = payload.toList ∧ d.InRange ∧ d.Paired
  missing : ofDocument payload = .error .missingSensorId ↔
    ∃ v, Json.Means payload.toList v ∧
      ((∀ members, v ≠ .object members) ∨
        (∃ members, v = .object members ∧ ∀ m ∈ members, m.1 ≠ sensorIdKey) ∨
        ∃ x, v.LastMember sensorIdKey x ∧ ∀ cs, x ≠ .text cs)
  invalid : ∀ text, (∃ reason, ofDocument payload = .error (.invalidObjectId text reason)) ↔
    ∃ v cs, Json.Means payload.toList v ∧ v.LastMember sensorIdKey (.text cs) ∧
      ¬ObjectId.IsWritten cs ∧ text = String.ofList cs
  accepted : (∃ m, ofDocument payload = .ok m) ↔
    ∃ v cs, Json.Means payload.toList v ∧ v.LastMember sensorIdKey (.text cs) ∧
      ObjectId.IsWritten cs
  result : ∀ m, ofDocument payload = .ok m →
    m.payload = payload ∧ ∃ v cs, Json.Means payload.toList v ∧
      v.LastMember sensorIdKey (.text cs) ∧ Text.Hex.Spells cs m.sensorId.bytes

theorem readExactly (payload : String) : ReadExactly payload := by
  constructor
  · rw [← Json.exists_means_iff, not_exists]
    refine ⟨fun ⟨reason, h⟩ => ?_, ofDocument_of_malformed⟩
    cases Reading.of_eq h with
    | malformed _ hmeans => exact hmeans
  · refine ⟨fun h => ?_, fun ⟨v, hv, hname⟩ => ?_⟩
    · cases Reading.of_eq h with
      | unnamed v hv hname => exact ⟨v, hv, Json.Value.no_text_of_member_iff.1 hname⟩
    · exact ofDocument_of_unnamed hv (Json.Value.no_text_of_member_iff.2 hname)
  · refine fun text => ⟨fun ⟨reason, h⟩ => ?_, ?_⟩
    · cases Reading.of_eq h with
      | misnamed v cs _ hv hname hcs => exact ⟨v, cs, hv, hname, hcs, rfl⟩
    · rintro ⟨v, cs, hv, hname, hcs, rfl⟩
      exact ofDocument_of_misnamed hv hname hcs
  · refine ⟨fun ⟨m, h⟩ => ?_, fun ⟨v, cs, hv, hname, hcs⟩ => ?_⟩
    · cases Reading.of_eq h with
      | named v cs id hv hname hcs =>
          exact ⟨v, cs, hv, hname, ObjectId.isWritten_iff.2 ⟨id, hcs⟩⟩
    · obtain ⟨id, hid⟩ := ObjectId.isWritten_iff.1 hcs
      exact ⟨_, ofDocument_of_named hv hname hid⟩
  · intro m h
    cases Reading.of_eq h with
    | named v cs id hv hname hcs => exact ⟨rfl, v, cs, hv, hname, hcs⟩

/-- Every payload is read exactly like this. In particular, however an object is written whose
sensor is named by the text that displays an identifier, it is taken for that sensor. -/
theorem ofDocument_exactly :
    (∀ payload, ReadExactly payload) ∧
      ∀ (id : ObjectId) (v : Json.Value),
        v.LastMember sensorIdKey (.text id.display.toList) →
        ∀ d : Json.Document, d.value? = some v →
          ofDocument (String.ofList d.written) = .ok ⟨id, String.ofList d.written⟩ := by
  refine ⟨readExactly, fun id v hname d hd => ?_⟩
  have hmeans : Json.Means (String.ofList d.written).toList v :=
    ⟨d, String.toList_ofList.symm, hd⟩
  exact ofDocument_of_named hmeans hname
    (ObjectId.parse_eq_ok_iff_toList.1 (ObjectId.parse_display id))

/-- Characters that stand for themselves. -/
def plainly (cs : List Char) : List Json.Piece :=
  cs.filterMap fun c => if h : c ≠ '"' ∧ c ≠ '\\' ∧ ¬c < ' ' then some (.plain c h) else none

/-- The key of the sensor, one letter of it written as an escape. -/
def keySample : List Json.Piece :=
  plainly "Created".toList ++
    .unit ⟨'0', by decide⟩ ⟨'0', by decide⟩ ⟨'4', by decide⟩ ⟨'2', by decide⟩ ::
      plainly "yId".toList

/-- A member with this key, blanks around the colon and an identifier. -/
def memberSample : Json.Member (Json.Tree 126) :=
  let blank : Json.Blanks := ⟨[' '], by simp⟩
  let id : Json.Node (Json.Tree 125) := .scalar (.text (plainly ObjectId.zero.display.toList))
  ⟨keySample, blank, blank, id⟩

def namedSample : Json.Document :=
  let object : Json.Node (Json.Tree 126) := .object .none [⟨.none, memberSample, .none⟩]
  ⟨.none, object, .none⟩

theorem value?_namedSample : namedSample.value? =
    some (.object [(sensorIdKey, .text ObjectId.zero.display.toList)]) := by
  have hkey : Json.characters? keySample = some sensorIdKey := by decide +kernel
  have hid : Json.characters? (plainly ObjectId.zero.display.toList) =
      some ObjectId.zero.display.toList := by decide +kernel
  have hmember : memberSample.value? (Json.Tree.value? 126) =
      some (sensorIdKey, .text ObjectId.zero.display.toList) :=
    Json.Member.value?_eq_some_iff.2 ⟨hkey, congrArg (Option.map Json.Value.text) hid⟩
  have hmembers : [(⟨.none, memberSample, .none⟩ : Json.Padded _)].mapM
      (fun m => m.content.value? (Json.Tree.value? 126)) =
      some [(sensorIdKey, .text ObjectId.zero.display.toList)] :=
    Json.mapM_cons_eq_some_iff.2 ⟨_, [], hmember, rfl, rfl⟩
  exact congrArg (Option.map Json.Value.object) hmembers

theorem ofDocument_namedSample :
    ofDocument (String.ofList namedSample.written) =
      .ok ⟨ObjectId.zero, String.ofList namedSample.written⟩ :=
  ofDocument_exactly.2 ObjectId.zero _ ⟨[], [], rfl, by simp⟩ namedSample value?_namedSample

/-! ### Half of a pair -/

/-- An escape for the first half of a pair, and nothing else, between quotes. -/
def loneHalf : String := "\"\\ud800\""

def loneHalfDocument : Json.Document :=
  let half : Json.Piece :=
    .unit ⟨'d', by decide⟩ ⟨'8', by decide⟩ ⟨'0', by decide⟩ ⟨'0', by decide⟩
  let tree : Json.Node (Json.Tree 126) := .scalar (.text [half])
  ⟨.none, tree, .none⟩

/-- The grammar has escapes for halves of pairs wherever they stand, but a payload with a half
that stands alone is malformed. -/
theorem malformed_of_lone_half :
    (∃ d : Json.Document, d.written = loneHalf.toList ∧ d.InRange) ∧
      ∃ reason, ofDocument loneHalf = .error (.malformedPayload reason) := by
  refine ⟨⟨loneHalfDocument, by decide, trivial⟩, ?_⟩
  have hrefused : (Json.parse loneHalf.toList).isOk = false := by decide +kernel
  cases hparse : Json.parse loneHalf.toList with
  | ok v =>
      rw [hparse] at hrefused
      cases hrefused
  | error fault => exact ⟨fault.describe loneHalf.toList, by simp only [ofDocument, hparse]⟩

end Measurement

end SensorGateway
