import SensorGateway.Proofs.Runs
import SensorGateway.Proofs.Repository.Keyed

/-!
The order in which sensors are stored and served. What is stored is told by the changes so
far: of each sensor the record that was put last, in the order in which the sensors came,
where a sensor that was deleted comes anew. Served page by page, the sensors are found in
this order and each of them once, whatever the size of a page.
-/

namespace SensorGateway

namespace Memory

/-! ### Histories -/

def Change.Puts (id : ObjectId) : Change → Prop
  | .putSensor s => s.id = id
  | _ => False

def ofChanges (changes : List Change) : Memory :=
  changes.foldl apply {}

/-- The last change that has to do with the sensor of a record puts this record. -/
def LastPut (changes : List Change) (s : SensorRecord) : Prop :=
  SetLast (· = .putSensor s) (fun c => ¬c.Puts s.id ∧ c ≠ .deleteSensor s.id) changes

/-- A sensor was put and not deleted since. -/
def Present (changes : List Change) (id : ObjectId) : Prop :=
  SetLast (·.Puts id) (· ≠ .deleteSensor id) changes

/-- The change after the first `n` ones put a sensor that was not there, never before or not
since it was deleted, and it was not deleted later on. So this is when the sensor came. -/
def EnteredAt (changes : List Change) (id : ObjectId) (n : Nat) : Prop :=
  ∃ before s after, changes = before ++ .putSensor s :: after ∧ before.length = n ∧
    s.id = id ∧ ¬Present before id ∧ ∀ c ∈ after, c ≠ .deleteSensor id

theorem get?_apply_eq_some_iff (m : Memory) (c : Change) (s : SensorRecord) :
    (m.apply c).sensors.table.get? s.id = some s ↔
      c = .putSensor s ∨ (¬c.Puts s.id ∧ c ≠ .deleteSensor s.id) ∧
        m.sensors.table.get? s.id = some s := by
  cases c with
  | putSensor s' =>
      simp only [apply, SensorStore.upsert, Table.get?_insert, Change.Puts]
      by_cases h : s.id = s'.id
      · simp [h]
      · have hne : s' ≠ s := fun heq => h (congrArg SensorRecord.id heq.symm)
        simp [h, hne, Ne.symm h]
  | deleteSensor id =>
      simp only [apply, SensorStore.delete, Table.get?_erase, Change.Puts]
      by_cases h : s.id = id
      · simp [h]
      · simp [h, Ne.symm h]
  | setFailing part failing => cases part <;> simp [apply, Change.Puts]
  | _ => simp [apply, Change.Puts]

theorem contains_apply_iff (m : Memory) (c : Change) (id : ObjectId) :
    (m.apply c).sensors.table.contains id = true ↔
      c.Puts id ∨ c ≠ .deleteSensor id ∧ m.sensors.table.contains id = true := by
  cases c with
  | putSensor s =>
      simp only [apply, SensorStore.upsert, Table.contains, Table.get?_insert, Change.Puts]
      by_cases h : id = s.id
      · simp [h]
      · simp [h, Ne.symm h]
  | deleteSensor i =>
      simp only [apply, SensorStore.delete, Table.contains, Table.get?_erase, Change.Puts]
      by_cases h : id = i
      · simp [h]
      · simp [h, Ne.symm h]
  | setFailing part failing => cases part <;> simp [apply, Change.Puts]
  | _ => simp [apply, Change.Puts]

theorem get?_ofChanges_iff (changes : List Change) (s : SensorRecord) :
    (ofChanges changes).sensors.table.get? s.id = some s ↔ LastPut changes s :=
  holds_foldl_iff_setLast (I := fun _ => True)
    (P := fun m : Memory => m.sensors.table.get? s.id = some s) (fun _ _ _ => trivial)
    (fun m c _ => get?_apply_eq_some_iff m c s) trivial (by simp) changes

theorem contains_ofChanges_iff (changes : List Change) (id : ObjectId) :
    (ofChanges changes).sensors.table.contains id = true ↔ Present changes id :=
  holds_foldl_iff_setLast (I := fun _ => True)
    (P := fun m : Memory => m.sensors.table.contains id = true) (fun _ _ _ => trivial)
    (fun m c _ => contains_apply_iff m c id) trivial (by simp [Table.contains]) changes

theorem keyed_ofChanges (changes : List Change) : (ofChanges changes).Keyed :=
  (Built.empty.changedAll changes).keyed

theorem ofChanges_concat (changes : List Change) (c : Change) :
    ofChanges (changes ++ [c]) = (ofChanges changes).apply c :=
  List.foldl_append

/-! ### The order -/

namespace EnteredAt

variable {changes : List Change} {id : ObjectId} {n : Nat}

theorem lt_length (h : EnteredAt changes id n) : n < changes.length := by
  obtain ⟨before, s, after, rfl, rfl, -⟩ := h
  simp

/-- Only its deletion puts a sensor out of its place. -/
theorem concat (h : EnteredAt changes id n) {c : Change} (hc : c ≠ .deleteSensor id) :
    EnteredAt (changes ++ [c]) id n := by
  obtain ⟨before, s, after, rfl, hlength, hid, habsent, hstays⟩ := h
  refine ⟨before, s, after ++ [c], by simp, hlength, hid, habsent, ?_⟩
  intro later hlater
  rcases List.mem_append.1 hlater with hlater | hlater
  · exact hstays later hlater
  · obtain rfl := List.mem_singleton.1 hlater
    exact hc

theorem of_put {s : SensorRecord} (hid : s.id = id) (h : ¬Present changes id) :
    EnteredAt (changes ++ [.putSensor s]) id changes.length :=
  ⟨changes, s, [], rfl, rfl, hid, h, by simp⟩

/-- If a sensor came twice, then it was there already when it came the second time. -/
theorem not_lt {i j : Nat} (hi : EnteredAt changes id i) (hj : EnteredAt changes id j) :
    ¬i < j := by
  intro hlt
  obtain ⟨before, s, after, rfl, rfl, hid, -, hstays⟩ := hi
  obtain ⟨before', s', after', heq, rfl, -, habsent, -⟩ := hj
  rcases List.append_eq_append_iff.1 heq with ⟨mid, rfl, hrest⟩ | ⟨mid, rfl, -⟩
  · cases mid with
    | nil => simp at hlt
    | cons c mid =>
        obtain ⟨rfl, rfl⟩ := List.cons.inj hrest
        refine habsent ⟨before, .putSensor s, mid, rfl, hid, ?_⟩
        intro c hc
        exact hstays c (List.mem_append_left _ hc)
  · rw [List.length_append] at hlt
    omega

theorem unique {i j : Nat} (hi : EnteredAt changes id i) (hj : EnteredAt changes id j) :
    i = j :=
  Nat.le_antisymm (Nat.not_lt.1 (hj.not_lt hi)) (Nat.not_lt.1 (hi.not_lt hj))

end EnteredAt

def CameBefore (changes : List Change) (id id' : ObjectId) : Prop :=
  ∃ i j, EnteredAt changes id i ∧ EnteredAt changes id' j ∧ i < j

theorem CameBefore.concat {changes : List Change} {id id' : ObjectId}
    (h : CameBefore changes id id') {c : Change} (hc : c ≠ .deleteSensor id)
    (hc' : c ≠ .deleteSensor id') : CameBefore (changes ++ [c]) id id' := by
  obtain ⟨i, j, hi, hj, hlt⟩ := h
  exact ⟨i, j, hi.concat hc, hj.concat hc', hlt⟩

/-- The identifiers are in the order in which the sensors came. -/
structure Ordered (changes : List Change) (ids : List ObjectId) : Prop where
  entered : ∀ id ∈ ids, ∃ n, EnteredAt changes id n
  before : ids.Pairwise (CameBefore changes)

namespace Ordered

variable {changes : List Change} {ids : List ObjectId}

theorem concat (h : Ordered changes ids) {c : Change}
    (hc : ∀ id ∈ ids, c ≠ .deleteSensor id) : Ordered (changes ++ [c]) ids where
  entered id hid := by
    obtain ⟨n, hn⟩ := h.entered id hid
    exact ⟨n, hn.concat (hc id hid)⟩
  before := h.before.imp_of_mem fun hid hid' hbefore =>
    hbefore.concat (hc _ hid) (hc _ hid')

theorem put (h : Ordered changes ids) {s : SensorRecord} (hnew : ¬Present changes s.id) :
    Ordered (changes ++ [.putSensor s]) (ids ++ [s.id]) := by
  have hold := h.concat (c := .putSensor s) fun _ _ => nofun
  have hlast : EnteredAt (changes ++ [.putSensor s]) s.id changes.length := .of_put rfl hnew
  constructor
  · intro id hid
    rcases List.mem_append.1 hid with hid | hid
    · exact hold.entered id hid
    · obtain rfl := List.mem_singleton.1 hid
      exact ⟨_, hlast⟩
  · refine List.pairwise_append.2 ⟨hold.before, List.pairwise_singleton _ _, ?_⟩
    intro id hid id' hid'
    obtain rfl := List.mem_singleton.1 hid'
    obtain ⟨n, hn⟩ := h.entered id hid
    exact ⟨n, changes.length, hn.concat nofun, hlast, hn.lt_length⟩

theorem delete (h : Ordered changes ids) (id : ObjectId) :
    Ordered (changes ++ [.deleteSensor id]) (ids.filter (· ≠ id)) := by
  have hrest : Ordered changes (ids.filter (· ≠ id)) :=
    ⟨fun i hi => h.entered i (List.mem_of_mem_filter hi), h.before.filter _⟩
  refine hrest.concat fun i hi heq => ?_
  obtain ⟨-, hne⟩ := List.mem_filter.1 hi
  rw [Change.deleteSensor.inj heq] at hne
  simp at hne

end Ordered

theorem ordered_ofChanges (changes : List Change) :
    Ordered changes (ofChanges changes).sensors.table.keys := by
  induction changes using List.reverseRecOn with
  | nil => exact ⟨by simp [ofChanges, Table.keys, Table.empty], .nil⟩
  | append_singleton changes c ih =>
      have hplace : (∀ id, c ≠ .deleteSensor id) →
          Ordered (changes ++ [c]) (ofChanges changes).sensors.table.keys :=
        fun hc => ih.concat fun id _ => hc id
      rw [ofChanges_concat]
      cases c with
      | putSensor s =>
          simp only [apply, SensorStore.upsert, Table.keys_insert]
          split
          · exact hplace (by simp)
          · rename_i hnew
            exact ih.put fun hpresent => hnew ((contains_ofChanges_iff changes s.id).2 hpresent)
      | deleteSensor id =>
          simp only [apply, SensorStore.delete, Table.keys_erase]
          exact ih.delete id
      | setFailing part failing => cases part <;> exact hplace (by simp)
      | _ => exact hplace (by simp)

/-- What some changes leave of the sensors. -/
structure KeptInOrder (changes : List Change) (sensors : List SensorRecord) : Prop where
  distinct : (sensors.map SensorRecord.id).Nodup
  lastPut : ∀ s, s ∈ sensors ↔ LastPut changes s
  entered : ∀ s ∈ sensors, ∃ n, EnteredAt changes s.id n
  order : sensors.Pairwise fun s s' =>
    ∀ i j, EnteredAt changes s.id i → EnteredAt changes s'.id j → i < j

theorem keptInOrder (changes : List Change) :
    KeptInOrder changes (ofChanges changes).sensors.stored := by
  have hkeyed := (keyed_ofChanges changes).sensors
  have hids : (ofChanges changes).sensors.stored.map SensorRecord.id =
      (ofChanges changes).sensors.table.keys := hkeyed.map_values
  have hordered := ordered_ofChanges changes
  rw [← hids] at hordered
  constructor
  · rw [hids]
    exact (ofChanges changes).sensors.table.nodup_keys
  · intro s
    rw [← get?_ofChanges_iff]
    exact hkeyed.mem_values_iff
  · intro s hs
    exact hordered.entered s.id (List.mem_map_of_mem hs)
  · refine (List.pairwise_map.1 hordered.before).imp ?_
    rintro s s' ⟨i, j, hi, hj, hlt⟩ i' j' hi' hj'
    rwa [← hi.unique hi', ← hj.unique hj']

/-! ### Page by page -/

section Pages

variable (fetch : Nat → Memory → Answer Memory (List SensorRecord)) (limit : Nat)
  {ahead : Nat → Memory → Nat}
  (shrinks : ∀ {skip m page m'}, fetch skip m = (.ok page, m') → limit ≤ page.length →
    ahead (skip + page.length) m' < ahead skip m)

/-- A list of sensors is found page by page as it is, and going through the pages comes to an
end with it. One page more is asked for than there are full ones, and each is counted. -/
structure FoundByPages (m : Memory) (xs : List SensorRecord) : Prop where
  pages : ∃ pages, Reload.Pages fetch limit 0 m pages (m.servePages pages.length) ∧
    pages.flatten = xs ∧ pages.length = xs.length / limit + 1
  collected : Reload.collect fetch limit ahead shrinks 0 m =
    (.ok xs, m.servePages (xs.length / limit + 1))

variable {fetch limit}

theorem foundByPages (hlimit : 0 < limit) {m : Memory} {xs : List SensorRecord}
    (hworking : m.isFailing .sensors = false)
    (hfetch : ∀ skip n, fetch skip (m.servePages n) =
      ((m.servePages n).sensors.page xs skip limit).map id fun s => { m with sensors := s }) :
    FoundByPages fetch limit shrinks m xs := by
  obtain ⟨pages, hpages, hflatten, hlength⟩ :=
    Reload.exists_pages_memory hlimit hworking hfetch
  refine ⟨⟨pages, hpages, hflatten, hlength⟩, ?_⟩
  rw [Reload.collect_of_pages shrinks hpages, hflatten, hlength]

end Pages

theorem sensor_ofChanges {changes : List Change}
    (hworking : (ofChanges changes).isFailing .sensors = false) (id : ObjectId) :
    ∃ found, Directory.sensor id (ofChanges changes) = (.ok found, ofChanges changes) ∧
      ∀ s, found = some s ↔ s.id = id ∧ LastPut changes s := by
  have hanswer : Directory.sensor id (ofChanges changes) =
      (duringOutage ((ofChanges changes).isFailing .sensors)
        ((ofChanges changes).sensors.table.get? id), ofChanges changes) := rfl
  rw [hworking] at hanswer
  refine ⟨_, hanswer, fun s => ?_⟩
  constructor
  · intro h
    obtain rfl := (keyed_ofChanges changes).sensors id s h
    exact ⟨rfl, (get?_ofChanges_iff changes s).1 h⟩
  · rintro ⟨rfl, h⟩
    exact (get?_ofChanges_iff changes s).2 h

/-- Whatever was put and deleted, and unless there is an outage now, each sensor that is left is
found by its identifier, and it is found once on the pages, in the order in which the sensors
came. A list of identifiers selects among them and changes nothing else, whatever its own
order. -/
theorem sensors_paged_once (changes : List Change)
    (hworking : (ofChanges changes).isFailing .sensors = false) {limit : Nat}
    (hlimit : 0 < limit) :
    KeptInOrder changes (ofChanges changes).sensors.stored ∧
      (∀ id, ∃ found, Directory.sensor id (ofChanges changes) = (.ok found, ofChanges changes) ∧
        ∀ s, found = some s ↔ s.id = id ∧ LastPut changes s) ∧
      FoundByPages (fun skip => Directory.allSensors skip limit) limit
        (Directory.ahead_allSensors hlimit) (ofChanges changes)
        (ofChanges changes).sensors.stored ∧
      ∀ ids : List ObjectId, FoundByPages (fun skip => Directory.sensorsIn ids skip limit) limit
        (Directory.ahead_sensorsIn hlimit) (ofChanges changes)
        ((ofChanges changes).sensors.stored.filter fun s => ids.contains s.id) := by
  refine ⟨keptInOrder changes, sensor_ofChanges hworking, ?_, ?_⟩
  · exact foundByPages _ hlimit hworking fun _ _ => rfl
  · intro ids
    exact foundByPages _ hlimit hworking fun _ _ => rfl

/-- Three sensors are put, and the first of them is deleted and put again, so that it comes
last. Two of them are asked for, one of these twice; each fills a page of one sensor, and the
third page is empty. -/
theorem sensors_paged_once_putAgain :
    let sensor (n : UInt8) : SensorRecord :=
      { id := ⟨List.replicate 12 n, rfl⟩, owner := ⟨List.replicate 16 0, rfl⟩ }
    let changes : List Change := [.putSensor (sensor 1), .putSensor (sensor 2),
      .putSensor (sensor 3), .deleteSensor (sensor 1).id, .putSensor (sensor 1)]
    let m := ofChanges changes
    let ids := [(sensor 1).id, (sensor 3).id, (sensor 1).id]
    m.isFailing .sensors = false ∧ 0 < 1 ∧
      KeptInOrder changes [sensor 2, sensor 3, sensor 1] ∧
      (∃ pages, Reload.Pages (fun skip => Directory.sensorsIn ids skip 1) 1 0 m pages
        (m.servePages 3) ∧ pages.flatten = [sensor 3, sensor 1]) := by
  intro sensor changes m ids
  have hworking : m.isFailing .sensors = false := rfl
  obtain ⟨hkept, -, -, hpaged⟩ := sensors_paged_once changes hworking Nat.one_pos
  obtain ⟨pages, hpages, hflatten, hlength⟩ := (hpaged ids).pages
  have hthree : pages.length = 3 := by
    rw [hlength, Nat.div_one]
    rfl
  rw [hthree] at hpages
  exact ⟨hworking, Nat.one_pos, hkept, pages, hpages, hflatten⟩

end Memory

end SensorGateway
