import SensorGateway.Proofs.Reload.Paging

/-!
What a reload gathers from repositories held in memory. They are consulted in turn, so the
answer is the error of the first one that fails; if none does, it is made up of records
that are stored. Consulting them changes nothing but the count of pages.
-/

namespace SensorGateway

namespace SensorStore

variable {s : SensorStore} {xs : List SensorRecord} {skip limit : Nat}

theorem page_of_failing (h : s.failing = true) :
    s.page xs skip limit = (.error (.unavailable "simulated outage"), s) := by
  simp only [page, duringOutage, h, if_true]

theorem page_of_working (h : s.failing = false) :
    s.page xs skip limit =
      (.ok ((xs.drop skip).take limit), { s with pageRequests := s.pageRequests + 1 }) := by
  simp only [page, duringOutage, h, Bool.false_eq_true, if_false]

end SensorStore

def UserStore.known (s : UserStore) (ids : List Uuid) : List UserRecord :=
  s.table.values.filter fun u => ids.contains u.id

/-- The stored keys that are not revoked and satisfy a condition. -/
def KeyStore.live (s : KeyStore) (keep : ApiKeyRecord → Bool) : List ApiKeyRecord :=
  s.table.values.filter fun k => !k.revoked && keep k

namespace Memory

def servePages (m : Memory) (n : Nat) : Memory :=
  { m with sensors := { m.sensors with pageRequests := m.sensors.pageRequests + n } }

def isFailing (m : Memory) : Part → Bool
  | .sensors => m.sensors.failing
  | .keys => m.keys.failing
  | .users => m.users.failing

def Part.error : Part → ReloadError
  | .sensors => .sensors (.unavailable "simulated outage")
  | .keys => .keys (.unavailable "simulated outage")
  | .users => .users (.unavailable "simulated outage")

/-- What comes of consulting repositories in turn: the error of the first one that fails, or
a value if none does. -/
def consult {α : Type} (m : Memory) (parts : List Part) (value : α) : Except ReloadError α :=
  match parts.find? m.isFailing with
  | some part => .error part.error
  | none => .ok value

/-- All stored sensors, the owners of them who are known and the keys in force that are
bound to a sensor. -/
def harvest (m : Memory) : Harvest :=
  ⟨m.sensors.stored, m.users.known (owners m.sensors.stored),
    m.keys.live fun k => k.sensor.isSome⟩

/-- The stored sensors among the given ones, the owners of them who are known and the keys
in force of these owners. -/
def harvestOf (m : Memory) (ids : List ObjectId) : Harvest :=
  ⟨m.sensors.among ids, m.users.known (owners (m.sensors.among ids)),
    m.keys.live fun k => (owners (m.sensors.among ids)).contains k.owner⟩

/-- The number of pages served to someone who goes through a number of sensors. -/
def pagesServed (m : Memory) (count limit : Nat) : Nat :=
  if m.sensors.failing then 0 else count / limit + 1

section Consult

variable {α : Type} {m : Memory} {part : Part} {parts : List Part} {value : α}

theorem consult_cons_of_failing (h : m.isFailing part = true) :
    m.consult (part :: parts) value = .error part.error := by
  rw [consult, List.find?_cons_of_pos h]

theorem consult_cons_of_working (h : m.isFailing part = false) :
    m.consult (part :: parts) value = m.consult parts value := by
  rw [consult, List.find?_cons_of_neg (by simp [h]), consult]

theorem consult_eq_error_iff {e : ReloadError} :
    m.consult parts value = .error e ↔
      ∃ before part after, parts = before ++ part :: after ∧ m.isFailing part = true ∧
        (∀ p ∈ before, m.isFailing p = false) ∧ e = part.error := by
  constructor
  · intro h
    unfold consult at h
    split at h
    · rename_i part hfind
      obtain ⟨hfail, before, after, hparts, hbefore⟩ := List.find?_eq_some_iff_append.1 hfind
      refine ⟨before, part, after, hparts, hfail, ?_, (Except.error.inj h).symm⟩
      intro p hp
      simpa using hbefore p hp
    · cases h
  · rintro ⟨before, part, after, hparts, hfail, hbefore, rfl⟩
    have hfind : parts.find? m.isFailing = some part := by
      refine List.find?_eq_some_iff_append.2 ⟨hfail, before, after, hparts, ?_⟩
      intro p hp
      simpa using hbefore p hp
    rw [consult, hfind]

/-- Consulting repositories succeeds exactly if all of them work. -/
theorem consult_eq_ok_iff {v : α} :
    m.consult parts value = .ok v ↔ (∀ part ∈ parts, m.isFailing part = false) ∧ value = v := by
  unfold consult
  cases hfind : parts.find? m.isFailing with
  | some part =>
      have hfail : m.isFailing part = true := List.find?_some hfind
      have hmem : part ∈ parts := List.mem_of_find?_eq_some hfind
      simp only [reduceCtorEq, false_iff, not_and]
      intro h
      rw [h part hmem] at hfail
      cases hfail
  | none =>
      have hwork : ∀ part ∈ parts, m.isFailing part = false := by
        simpa using List.find?_eq_none.1 hfind
      simp only [Except.ok.injEq]
      exact ⟨fun h => ⟨hwork, h⟩, fun h => h.2⟩

theorem consult_of_working (h : ∀ part, m.isFailing part = false) :
    m.consult parts value = .ok value :=
  consult_eq_ok_iff.2 ⟨fun part _ => h part, rfl⟩

end Consult

end Memory

namespace Reload

open Memory

section Collect

variable {fetch : Nat → Memory → Answer Memory (List SensorRecord)} {limit : Nat}
  {m : Memory} {xs : List SensorRecord}

/-- If the pages come from a list of sensors and there is no outage, then they make up this
list. -/
theorem exists_pages_memory (hlimit : 0 < limit) (hworking : m.sensors.failing = false)
    (hfetch : ∀ skip n, fetch skip (m.servePages n) =
      ((m.servePages n).sensors.page xs skip limit).map id fun s => { m with sensors := s }) :
    ∃ pages, Pages fetch limit 0 m pages (m.servePages pages.length) ∧ pages.flatten = xs ∧
      pages.length = xs.length / limit + 1 := by
  have hpage : ∀ skip n, fetch skip (m.servePages n) =
      (.ok ((xs.drop skip).take limit), m.servePages (n + 1)) := by
    intro skip n
    rw [hfetch, SensorStore.page_of_working (s := (m.servePages n).sensors) hworking]
    rfl
  have hpages := exists_pages hlimit hpage 0 0
  simp only [List.drop_zero, Nat.sub_zero, Nat.zero_add] at hpages
  exact hpages

variable {ahead : Nat → Memory → Nat}
  {shrinks : ∀ {skip r page r'}, fetch skip r = (.ok page, r') → limit ≤ page.length →
    ahead (skip + page.length) r' < ahead skip r}

/-- If the pages come from a list of the stored sensors, going through them finds all of the
list. -/
theorem collect_memory (hlimit : 0 < limit) (m : Memory) (xs : List SensorRecord)
    (hfetch : ∀ skip n, fetch skip (m.servePages n) =
      ((m.servePages n).sensors.page xs skip limit).map id fun s => { m with sensors := s }) :
    collect fetch limit ahead shrinks 0 m =
      (duringOutage (m.isFailing .sensors) xs, m.servePages (m.pagesServed xs.length limit)) := by
  cases hfail : m.sensors.failing with
  | true =>
      -- The first page is refused, so none is served.
      have herror : fetch 0 m = (.error (.unavailable "simulated outage"), m) := by
        refine (hfetch 0 0).trans ?_
        rw [SensorStore.page_of_failing (s := (m.servePages 0).sensors) hfail]
        rfl
      rw [collect_of_error shrinks herror, pagesServed, if_pos hfail, isFailing, hfail]
      rfl
  | false =>
      obtain ⟨pages, hpages, hflatten, hlength⟩ := exists_pages_memory hlimit hfail hfetch
      rw [collect_of_pages shrinks hpages, hflatten, hlength, pagesServed,
        if_neg (by simp [hfail]), isFailing, hfail]
      rfl

end Collect

theorem withOwners_eq (sensors : List SensorRecord) (m : Memory)
    {askKeys : List Uuid → Memory → Answer Memory (List ApiKeyRecord)}
    {keep : ApiKeyRecord → Bool}
    (hkeys : askKeys (owners sensors) m =
      (duringOutage (m.isFailing .keys) (m.keys.live keep), m)) :
    withOwners sensors askKeys m =
      (m.consult [.users, .keys] ⟨sensors, m.users.known (owners sensors), m.keys.live keep⟩,
        m) := by
  have husers : Directory.users (owners sensors) m =
      (duringOutage (m.isFailing .users) (m.users.known (owners sensors)), m) := rfl
  rw [withOwners, husers]
  cases hu : m.isFailing .users with
  | true =>
      rw [consult_cons_of_failing hu]
      rfl
  | false =>
      rw [consult_cons_of_working hu]
      simp only [duringOutage, Bool.false_eq_true, if_false, hkeys]
      cases hk : m.isFailing .keys with
      | true =>
          rw [consult_cons_of_failing hk]
          rfl
      | false =>
          rw [consult_cons_of_working hk]
          rfl

theorem gatherAll_eq (limit : Nat) (hlimit : 0 < limit) (m : Memory) :
    gatherAll limit hlimit m =
      (m.consult [.sensors, .users, .keys] m.harvest,
        m.servePages (m.pagesServed m.sensors.stored.length limit)) := by
  rw [gatherAll, collect_memory hlimit m m.sensors.stored fun _ _ => rfl]
  cases hs : m.isFailing .sensors with
  | true =>
      rw [consult_cons_of_failing hs]
      rfl
  | false =>
      rw [consult_cons_of_working hs]
      exact withOwners_eq m.sensors.stored (m.servePages _) rfl

theorem gatherSome_eq (ids : List ObjectId) (limit : Nat) (hlimit : 0 < limit) (m : Memory) :
    gatherSome ids limit hlimit m =
      (m.consult [.sensors, .users, .keys] (m.harvestOf ids),
        m.servePages (m.pagesServed (m.sensors.among ids).length limit)) := by
  rw [gatherSome, collect_memory hlimit m (m.sensors.among ids) fun _ _ => rfl]
  cases hs : m.isFailing .sensors with
  | true =>
      rw [consult_cons_of_failing hs]
      rfl
  | false =>
      rw [consult_cons_of_working hs]
      exact withOwners_eq (m.sensors.among ids) (m.servePages _) rfl

/-- The users are consulted only if the sensor is stored. -/
theorem gatherOne_eq (id : ObjectId) (m : Memory) :
    gatherOne id m =
      (m.consult (if m.sensors.table.contains id then [.sensors, .users] else [.sensors])
        ((m.sensors.table.get? id).map fun s => (s, m.users.known [s.owner])),
        m.servePages 0) := by
  have hsensor : Directory.sensor id m =
      (duringOutage (m.isFailing .sensors) (m.sensors.table.get? id), m) := rfl
  rw [gatherOne, hsensor, Table.contains]
  cases m.sensors.table.get? id with
  | none =>
      rw [Option.isSome_none, if_neg Bool.false_ne_true]
      cases hs : m.isFailing .sensors with
      | true =>
          rw [consult_cons_of_failing hs]
          rfl
      | false =>
          rw [consult_cons_of_working hs]
          rfl
  | some sensor =>
      have husers : Directory.users [sensor.owner] m =
          (duringOutage (m.isFailing .users) (m.users.known [sensor.owner]), m) := rfl
      rw [Option.isSome_some, if_pos rfl]
      cases hs : m.isFailing .sensors with
      | true =>
          rw [consult_cons_of_failing hs]
          rfl
      | false =>
          rw [consult_cons_of_working hs]
          simp only [duringOutage, Bool.false_eq_true, if_false, husers]
          cases hu : m.isFailing .users with
          | true =>
              rw [consult_cons_of_failing hu]
              rfl
          | false =>
              rw [consult_cons_of_working hu]
              rfl

end Reload

end SensorGateway
