import SensorGateway.Proofs.Wire.Layout
import SensorGateway.Wire.Records

/-!
All that the gateway writes is read back: `records_round_trip` goes through the records, the
settings and the counts. Where a record holds numbers, they have to fit their words; a span
may have been read from more nanoseconds than a second has, but is written with fewer.
-/

namespace SensorGateway.Wire

/-- Decoding is the inverse of writing, for the values that fit and for all that is decoded. -/
structure Codec.RoundTrips {α : Type} (codec : Codec α) (fits : α → Prop) : Prop where
  decode_write : ∀ a, fits a → codec.decode (codec.write a) = .ok a
  decode_again : ∀ document a, codec.decode document = .ok a →
    codec.decode (codec.write a) = .ok a

theorem Codec.RoundTrips.of_restores {α : Type} {codec : Codec α}
    (h : ∀ a, codec.Restores a) : codec.RoundTrips fun _ => True where
  decode_write a _ := (h a).decode_write
  decode_again _ a _ := (h a).decode_write

theorem Codec.RoundTrips.of_sound {α : Type} {codec : Codec α} {fits : α → Prop}
    (hfits : ∀ a, fits a → codec.Restores a) (hsound : codec.Sound) :
    codec.RoundTrips fits where
  decode_write a ha := (hfits a ha).decode_write
  decode_again _ _ h := hsound.decode_again h

theorem fullWord_restores {name : String} {n : Nat} (h : n ≤ maxWord) :
    (word name maxWord).Restores n :=
  word_restores (Nat.le_refl _) h

theorem fullWord_sound {name : String} : (word name maxWord).Sound :=
  word_sound (Nat.le_refl _)

theorem texts_restore (texts : List String) : (listOf text).Restores texts :=
  listOf_restores fun s _ => text_restores s

theorem ofParts?_seconds_nanos (span : Span) :
    Span.ofParts? span.seconds.toNat span.nanos.val = some span := by
  have hseconds : span.seconds.toNat < 2 ^ 64 := UInt64.toNat_lt span.seconds
  have hdiv : span.nanos.val / 1000000000 = 0 := Nat.div_eq_of_lt span.nanos.isLt
  have hmod : span.nanos.val % 1000000000 = span.nanos.val := Nat.mod_eq_of_lt span.nanos.isLt
  have hfits : span.seconds.toNat ≤ maxWord := by
    unfold maxWord
    omega
  have hnanos : Fin.ofNat 1000000000 span.nanos.val = span.nanos := Fin.ext hmod
  simp only [Span.ofParts?, hdiv, hmod, hnanos, Nat.add_zero, hfits, if_true,
    UInt64.ofNat_toNat]

theorem row_span_restores (a : Span) :
    Row.Restores spanLayout.fields (spanLayout.row a) := by
  have hseconds : a.seconds.toNat < 2 ^ 64 := UInt64.toNat_lt a.seconds
  have hnanos : a.nanos.val < 1000000000 := a.nanos.isLt
  refine ⟨fullWord_restores ?_, word_restores (by decide) ?_, trivial⟩
  · unfold maxWord
    omega
  · unfold maxHalfWord
    omega

theorem spanLayout_lawful : spanLayout.Lawful where
  names_nodup := by decide
  fields_lawful := by
    simp only [spanLayout, List.forall_mem_cons]
    exact ⟨.of_sound fullWord_sound, .of_sound (word_sound (by decide)),
      List.forall_mem_nil _⟩
  build_row a := by simp only [spanLayout, ofParts?_seconds_nanos]
  restores_row _ _ := row_span_restores _

theorem span_restores (a : Span) : span.Restores a :=
  spanLayout_lawful.restores (row_span_restores a)

theorem sensorLayout_total : sensorLayout.Total where
  names_nodup := by decide
  fields_restore := by
    simp only [sensorLayout, List.forall_mem_cons]
    exact ⟨objectId_restores, uuid_restores, text_restores, text_restores, flag_restores,
      texts_restore, List.forall_mem_nil _⟩
  build_row _ := rfl

theorem userLayout_total : userLayout.Total where
  names_nodup := by decide
  fields_restore := by
    simp only [userLayout, List.forall_mem_cons]
    exact ⟨uuid_restores, text_restores, flag_restores, List.forall_mem_nil _⟩
  build_row _ := rfl

theorem apiKeyLayout_total : apiKeyLayout.Total where
  names_nodup := by decide
  fields_restore := by
    have hnull : ∀ id r, objectId.write id ≠ 'n' :: r :=
      fun id r h => absurd (List.cons.inj h).1 (by decide)
    simp only [apiKeyLayout, List.forall_mem_cons]
    exact ⟨text_restores, uuid_restores, optional_restores objectId_restores hnull,
      flag_restores, List.forall_mem_nil _⟩
  build_row _ := rfl

theorem measurementLayout_total : measurementLayout.Total where
  names_nodup := by decide
  fields_restore := by
    simp only [measurementLayout, List.forall_mem_cons]
    exact ⟨objectId_restores, text_restores, List.forall_mem_nil _⟩
  build_row _ := rfl

theorem authorizationConfigLayout_total : authorizationConfigLayout.Total where
  names_nodup := by decide
  fields_restore := by
    simp only [authorizationConfigLayout, List.forall_mem_cons]
    exact ⟨span_restores, List.forall_mem_nil _⟩
  build_row _ := rfl

theorem telemetryConfigLayout_total : telemetryConfigLayout.Total where
  names_nodup := by decide
  fields_restore := by
    simp only [telemetryConfigLayout, List.forall_mem_cons]
    exact ⟨text_restores, text_restores, flag_restores, flag_restores, List.forall_mem_nil _⟩
  build_row _ := rfl

theorem statsLayout_lawful : statsLayout.Lawful where
  names_nodup := by decide
  fields_lawful := by
    simp only [statsLayout, List.forall_mem_cons]
    exact ⟨.of_sound fullWord_sound, .of_sound fullWord_sound, .of_sound fullWord_sound,
      .of_sound fullWord_sound, List.forall_mem_nil _⟩
  build_row _ := rfl
  restores_row hrow h := by
    cases h
    exact hrow

theorem summaryLayout_lawful : summaryLayout.Lawful where
  names_nodup := by decide
  fields_lawful := by
    simp only [summaryLayout, List.forall_mem_cons]
    exact ⟨.of_sound fullWord_sound, .of_sound fullWord_sound, .of_sound fullWord_sound,
      .of_sound fullWord_sound, List.forall_mem_nil _⟩
  build_row _ := rfl
  restores_row hrow h := by
    cases h
    exact hrow

theorem reloadSettingsLayout_lawful : reloadSettingsLayout.Lawful where
  names_nodup := by decide
  fields_lawful := by
    simp only [reloadSettingsLayout, List.forall_mem_cons]
    exact ⟨.of_restores span_restores, .of_restores span_restores, .of_restores span_restores,
      .of_sound fullWord_sound, List.forall_mem_nil _⟩
  build_row _ := rfl
  restores_row hrow h := by
    cases h
    exact hrow

theorem ingestionConfigLayout_lawful : ingestionConfigLayout.Lawful where
  names_nodup := by decide
  fields_lawful := by
    simp only [ingestionConfigLayout, List.forall_mem_cons]
    exact ⟨.of_sound fullWord_sound, List.forall_mem_nil _⟩
  build_row _ := rfl
  restores_row hrow h := by
    cases h
    exact hrow

theorem batchLayout_lawful : batchLayout.Lawful where
  names_nodup := by decide
  fields_lawful := by
    simp only [batchLayout, List.forall_mem_cons]
    exact ⟨.of_restores uuid_restores, .of_restores text_restores, .of_restores texts_restore,
      .of_sound fullWord_sound, List.forall_mem_nil _⟩
  build_row _ := rfl
  restores_row hrow h := by
    cases h
    exact hrow

/-- Whatever a record holds, decoding what was written of it gives the record back; and
whatever document a record was decoded from, it is decoded again from its written form. -/
theorem records_round_trip :
    objectId.RoundTrips (fun _ => True) ∧
    sensor.RoundTrips (fun _ => True) ∧
    user.RoundTrips (fun _ => True) ∧
    apiKey.RoundTrips (fun _ => True) ∧
    measurement.RoundTrips (fun _ => True) ∧
    status.RoundTrips (fun _ => True) ∧
    stats.RoundTrips (fun s => s.sensors ≤ maxWord ∧ s.users ≤ maxWord ∧ s.keys ≤ maxWord ∧
      s.blacklisted ≤ maxWord) ∧
    summary.RoundTrips (fun s => s.sensors ≤ maxWord ∧ s.users ≤ maxWord ∧ s.keys ≤ maxWord ∧
      s.flushed ≤ maxWord) ∧
    authorizationConfig.RoundTrips (fun _ => True) ∧
    reloadSettings.RoundTrips (fun s => s.pageSize ≤ maxWord) ∧
    ingestionConfig.RoundTrips (fun c => c.capacity ≤ maxWord) ∧
    telemetryConfig.RoundTrips (fun _ => True) ∧
    batch.RoundTrips (fun b => b.publishedAt ≤ maxWord) := by
  refine ⟨.of_restores objectId_restores, .of_restores sensorLayout_total.restores,
    .of_restores userLayout_total.restores, .of_restores apiKeyLayout_total.restores,
    .of_restores measurementLayout_total.restores, .of_restores status_restores,
    .of_sound ?_ statsLayout_lawful.sound, .of_sound ?_ summaryLayout_lawful.sound,
    .of_restores authorizationConfigLayout_total.restores,
    .of_sound ?_ reloadSettingsLayout_lawful.sound,
    .of_sound ?_ ingestionConfigLayout_lawful.sound,
    .of_restores telemetryConfigLayout_total.restores,
    .of_sound ?_ batchLayout_lawful.sound⟩
  · rintro s ⟨h1, h2, h3, h4⟩
    exact statsLayout_lawful.restores ⟨fullWord_restores h1, fullWord_restores h2,
      fullWord_restores h3, fullWord_restores h4, trivial⟩
  · rintro s ⟨h1, h2, h3, h4⟩
    exact summaryLayout_lawful.restores ⟨fullWord_restores h1, fullWord_restores h2,
      fullWord_restores h3, fullWord_restores h4, trivial⟩
  · intro s h
    exact reloadSettingsLayout_lawful.restores ⟨span_restores _, span_restores _,
      span_restores _, fullWord_restores h, trivial⟩
  · intro c h
    exact ingestionConfigLayout_lawful.restores ⟨fullWord_restores h, trivial⟩
  · intro b h
    exact batchLayout_lawful.restores ⟨uuid_restores _, text_restores _, texts_restore _,
      fullWord_restores h, trivial⟩

/-- Counts at the end of their range, and a document with blanks and with a span whose
nanoseconds carry. -/
theorem records_round_trip_carriedNanos :
    stats.decode (stats.write ⟨maxWord, 0, 1, maxWord⟩) = .ok ⟨maxWord, 0, 1, maxWord⟩ ∧
    authorizationConfig.decode "\x7b \"timeout\" : [1, 1500000000] \x7d".toList =
      .ok ⟨⟨2, 500000000⟩⟩ ∧
    authorizationConfig.decode (authorizationConfig.write ⟨⟨2, 500000000⟩⟩) =
      .ok ⟨⟨2, 500000000⟩⟩ := by
  obtain ⟨-, -, -, -, -, -, hstats, -, hconfig, -⟩ := records_round_trip
  have hdecode : authorizationConfig.decode
      "\x7b \"timeout\" : [1, 1500000000] \x7d".toList = .ok ⟨⟨2, 500000000⟩⟩ := by
    decide +kernel
  exact ⟨hstats.decode_write ⟨maxWord, 0, 1, maxWord⟩ (by decide), hdecode,
    hconfig.decode_again _ _ hdecode⟩

end SensorGateway.Wire
