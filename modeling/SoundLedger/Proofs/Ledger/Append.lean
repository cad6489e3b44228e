import SoundLedger.Proofs.Ledger.Runs

/-!
# Taking in measurements

What `append` does, whether it succeeds or refuses, and what any number of calls of it do. A ledger
has room for as many records as its limit and the identities that are left allow: so many
measurements of a sequence are taken in, with consecutive identities, and all others are refused.
-/

namespace SoundLedger.Ledger

/-! ## Room -/

/-- Whether the limit of the settings, if there is any, has not been reached. -/
def BelowLimit (l : Ledger) : Prop :=
  ∀ limit, l.settings.maxRecords = some limit → l.records.size < limit

/-- How many identities are left, given the next one. -/
def identitiesLeft : Option UInt64 → Nat
  | none => 0
  | some id => UInt64.size - id.toNat

/-- How many more records a ledger takes in. -/
def capacity (l : Ledger) : Nat :=
  match l.settings.maxRecords with
  | none => identitiesLeft l.nextId
  | some limit => min (limit - l.records.size) (identitiesLeft l.nextId)

/-- The number that a refusal carries: the limit if it has been reached, and else the number of
records. -/
def refusal (l : Ledger) : Nat :=
  match l.settings.maxRecords with
  | none => l.records.size
  | some limit => if limit ≤ l.records.size then limit else l.records.size

theorem identitiesLeft_pos_iff {next : Option UInt64} :
    0 < identitiesLeft next ↔ next.isSome := by
  cases next with
  | none => simp [identitiesLeft]
  | some id =>
    have hlt : id.toNat < UInt64.size := id.toNat_lt
    simp only [identitiesLeft, Option.isSome_some, iff_true]
    omega

/-- Giving out an identity leaves one less, the last one included. -/
theorem identitiesLeft_idAfter (id : UInt64) :
    identitiesLeft (idAfter id) + 1 = identitiesLeft (some id) := by
  have hlt : id.toNat < UInt64.size := id.toNat_lt
  cases hafter : idAfter id with
  | none =>
    rw [idAfter_eq_none_iff] at hafter
    subst hafter
    rfl
  | some after =>
    have hsucc := idAfter_eq_some hafter
    have hafterlt : after.toNat < UInt64.size := after.toNat_lt
    simp only [identitiesLeft]
    omega

theorem capacity_pos_iff {l : Ledger} : 0 < l.capacity ↔ l.BelowLimit ∧ l.nextId.isSome := by
  rw [capacity, BelowLimit]
  cases l.settings.maxRecords with
  | none => simp [identitiesLeft_pos_iff]
  | some limit =>
    show 0 < min (limit - l.records.size) (identitiesLeft l.nextId) ↔ _
    rw [Nat.lt_min, Nat.sub_pos_iff_lt, identitiesLeft_pos_iff]
    simp

theorem capacity_of_exhausted {l : Ledger} (h : l.nextId = none) : l.capacity = 0 := by
  have hzero : ¬ 0 < l.capacity := by simp [capacity_pos_iff, h]
  exact Nat.eq_zero_of_not_pos hzero

/-- The ledger after a measurement has been taken in under an identity. -/
def taking (l : Ledger) (id : UInt64) (measurement : Measurement) (time : Instant) : Ledger :=
  { l with nextId := idAfter id, records := l.records.push (.stored id measurement time) }

theorem capacity_taking {l : Ledger} {id : UInt64} (hbelow : l.BelowLimit)
    (hnext : l.nextId = some id) (measurement : Measurement) (time : Instant) :
    (l.taking id measurement time).capacity + 1 = l.capacity := by
  have hleft := identitiesLeft_idAfter id
  rw [BelowLimit] at hbelow
  simp only [capacity, taking, hnext, Array.size_push]
  cases hlimit : l.settings.maxRecords with
  | none => exact hleft
  | some limit =>
    have hroom := hbelow limit hlimit
    simp only
    omega

/-! ## One measurement -/

theorem append_eq_taking {l : Ledger} {id : UInt64} (hbelow : l.BelowLimit)
    (hnext : l.nextId = some id) (measurement : Measurement) (time : Instant) :
    (l.append measurement time).result =
      .ok (.stored id measurement time, l.taking id measurement time) :=
  append_eq_ok_iff.mpr ⟨hbelow, id, hnext, rfl, rfl⟩

theorem exists_append_eq_ok_iff {l : Ledger} {measurement : Measurement} {time : Instant} :
    (∃ taken, (l.append measurement time).result = .ok taken) ↔
      l.BelowLimit ∧ l.nextId.isSome := by
  constructor
  · rintro ⟨⟨r, l'⟩, happend⟩
    obtain ⟨hbelow, id, hnext, -, -⟩ := append_eq_ok_iff.mp happend
    exact ⟨hbelow, by simp [hnext]⟩
  · rintro ⟨hbelow, hsome⟩
    obtain ⟨id, hnext⟩ := Option.isSome_iff_exists.mp hsome
    exact ⟨_, append_eq_taking hbelow hnext measurement time⟩

/-- A refusal always says that the ledger is full. -/
theorem append_of_full {l : Ledger} (hfull : ¬ (l.BelowLimit ∧ l.nextId.isSome))
    (measurement : Measurement) (time : Instant) :
    (l.append measurement time).result = .error (.ledgerFull l.refusal) := by
  rw [refusal]
  rw [BelowLimit] at hfull
  cases hlimit : l.settings.maxRecords with
  | none =>
    -- without a limit it is the identities that are used up
    have hnext : l.nextId = none := by simpa [hlimit] using hfull
    simp [append, hlimit, hnext]
  | some limit =>
    by_cases hreached : limit ≤ l.records.size
    · simp only [append_of_limit_le hlimit hreached, if_pos hreached]
    · have hnext : l.nextId = none := by
        simpa [hlimit, Nat.not_le.mp hreached] using hfull
      simp [append, hlimit, Option.filter, hreached, hnext]

/-! ## Any number of measurements -/

/-- The answers to several measurements, one after the other, and the ledger after them. What is
refused leaves the ledger as it is. -/
def appendAll : List (Measurement × Instant) → Ledger → List (Except Failure Record) × Ledger
  | [], l => ([], l)
  | (measurement, time) :: rest, l =>
    match (l.append measurement time).result with
    | .ok (r, l') => ((appendAll rest l').1.cons (.ok r), (appendAll rest l').2)
    | .error failure => ((appendAll rest l).1.cons (.error failure), (appendAll rest l).2)

/-- The records of measurements with consecutive identities. -/
def consecutive (first : Nat) : List (Measurement × Instant) → List Record
  | [] => []
  | (measurement, time) :: rest =>
    .stored (UInt64.ofNat first) measurement time :: consecutive (first + 1) rest

/-- The next identity as a number. -/
def nextNumber (l : Ledger) : Nat := (l.nextId.map UInt64.toNat).getD 0

/-- The next identity after some more have been given out. -/
def nextIdBeyond (next : Option UInt64) (count : Nat) : Option UInt64 :=
  next.bind fun id =>
    if id.toNat + count < UInt64.size then some (UInt64.ofNat (id.toNat + count)) else none

/-- The ledger with more records behind the others. -/
def extended (l : Ledger) (taken : List Record) : Ledger :=
  { l with
    nextId := nextIdBeyond l.nextId taken.length
    records := l.records ++ taken.toArray }

theorem length_consecutive (first : Nat) (entries : List (Measurement × Instant)) :
    (consecutive first entries).length = entries.length := by
  induction entries generalizing first with
  | nil => rfl
  | cons entry rest ih => rw [consecutive, List.length_cons, List.length_cons, ih]

theorem nextIdBeyond_zero (next : Option UInt64) : nextIdBeyond next 0 = next := by
  cases next with
  | none => rfl
  | some id =>
    have hlt : id.toNat < UInt64.size := id.toNat_lt
    simp [nextIdBeyond, hlt]

/-- Giving out one identity and then some more is giving out one more than these. -/
theorem nextIdBeyond_idAfter (id : UInt64) (count : Nat) :
    nextIdBeyond (idAfter id) count = nextIdBeyond (some id) (count + 1) := by
  have hlt : id.toNat < UInt64.size := id.toNat_lt
  cases hafter : idAfter id with
  | none =>
    rw [idAfter_eq_none_iff] at hafter
    subst hafter
    have hover : ¬ lastId.toNat + (count + 1) < UInt64.size := by
      simp only [lastId, UInt64.reduceToNat, UInt64.size]
      omega
    simp [nextIdBeyond, hover]
  | some after =>
    have hsucc := idAfter_eq_some hafter
    have hsum : after.toNat + count = id.toNat + (count + 1) := by omega
    simp only [nextIdBeyond, Option.bind_some, hsum]

theorem extended_nil (l : Ledger) : l.extended [] = l := by
  simp [extended, nextIdBeyond_zero]

theorem extended_taking {l : Ledger} {id : UInt64} (hnext : l.nextId = some id)
    (measurement : Measurement) (time : Instant) (taken : List Record) :
    (l.taking id measurement time).extended taken =
      l.extended (.stored id measurement time :: taken) := by
  simp [extended, taking, hnext, nextIdBeyond_idAfter]

/-- The identities behind the next one are numbered on, as far as there is room for any. -/
theorem consecutive_taking {l : Ledger} {id : UInt64} (measurement : Measurement) (time : Instant)
    (entries : List (Measurement × Instant)) :
    consecutive (l.taking id measurement time).nextNumber
        (entries.take (l.taking id measurement time).capacity) =
      consecutive (id.toNat + 1) (entries.take (l.taking id measurement time).capacity) := by
  cases hafter : idAfter id with
  | none =>
    rw [capacity_of_exhausted (l := l.taking id measurement time) hafter]
    rfl
  | some after =>
    have hsucc := idAfter_eq_some hafter
    have hnumber : (l.taking id measurement time).nextNumber = id.toNat + 1 := by
      simp [nextNumber, taking, hafter, hsucc]
    rw [hnumber]

/-- Of several measurements, as many as there is room for are taken in, with consecutive
identities. All others are refused. -/
theorem appendAll_eq (entries : List (Measurement × Instant)) (l : Ledger) :
    let taken := consecutive l.nextNumber (entries.take l.capacity)
    appendAll entries l =
      (taken.map .ok ++
          List.replicate (entries.length - l.capacity)
            (.error (.ledgerFull (l.extended taken).refusal)),
        l.extended taken) := by
  induction entries generalizing l with
  | nil => simp [appendAll, consecutive, extended_nil]
  | cons entry rest ih =>
    obtain ⟨measurement, time⟩ := entry
    by_cases hroom : l.BelowLimit ∧ l.nextId.isSome
    · obtain ⟨hbelow, hsome⟩ := hroom
      obtain ⟨id, hnext⟩ := Option.isSome_iff_exists.mp hsome
      have happend := append_eq_taking hbelow hnext measurement time
      have hcapacity := capacity_taking hbelow hnext measurement time
      have hrest := ih (l.taking id measurement time)
      have hnumber : l.nextNumber = id.toNat := by simp [nextNumber, hnext]
      rw [consecutive_taking] at hrest
      simp only [extended_taking hnext] at hrest
      simp only [← hcapacity, List.take_succ_cons, consecutive, hnumber, UInt64.ofNat_toNat,
        List.length_cons, Nat.add_sub_add_right, List.map_cons, List.cons_append]
      simp only [appendAll, happend, hrest]
    · have happend := append_of_full hroom measurement time
      have hcapacity : l.capacity = 0 := by
        rw [← capacity_pos_iff] at hroom
        omega
      have hrest := ih l
      simp only [hcapacity, List.take_zero, consecutive, extended_nil, List.map_nil,
        List.nil_append, Nat.sub_zero] at hrest ⊢
      simp only [appendAll, happend, hrest, List.length_cons, List.replicate_succ]

/-- No identity that is given out lies past the last one. -/
theorem nextNumber_add_capacity_le (l : Ledger) : l.nextNumber + l.capacity ≤ UInt64.size := by
  cases hnext : l.nextId with
  | none =>
    rw [capacity_of_exhausted hnext, nextNumber, hnext]
    exact Nat.zero_le _
  | some id =>
    have hlt : id.toNat < UInt64.size := id.toNat_lt
    have hle : l.capacity ≤ identitiesLeft (some id) := by
      rw [capacity, hnext]
      cases l.settings.maxRecords with
      | none => exact Nat.le_refl _
      | some limit => exact Nat.min_le_right ..
    simp only [nextNumber, hnext, Option.map_some, Option.getD_some]
    simp only [identitiesLeft] at hle
    omega

/-! ## What taking in does, in full -/

/-- What a ledger is after it has taken a measurement in. -/
structure Appended (l : Ledger) (measurement : Measurement) (time : Instant) (r : Record)
    (l' : Ledger) : Prop where
  /-- The record has the next identity, the measurement as it was given, and the time. -/
  record : ∃ id, l.nextId = some id ∧ r.id = some id ∧ r.measurement = measurement ∧
    r.admittedAt = some time
  /-- It stands behind all others, and these are as they were. -/
  records : l'.records.toList = l.records.toList ++ [r]
  /-- There is no identity after the last one. -/
  exhausted : l.nextId = some lastId → l'.nextId = none
  /-- The next identity is the one after, as a number. -/
  next : ∀ id, l.nextId = some id → id ≠ lastId →
    ∃ after, l'.nextId = some after ∧ after.toNat = id.toNat + 1
  id : l'.id = l.id
  settings : l'.settings = l.settings

/-- Why a ledger refuses a measurement: its limit has been reached, and else its identities are used
up. -/
structure Refused (l : Ledger) (failure : Failure) : Prop where
  reached : ∀ limit, l.settings.maxRecords = some limit → limit ≤ l.records.size →
    failure = .ledgerFull limit
  usedUp : l.BelowLimit → l.nextId = none ∧ failure = .ledgerFull l.records.size

theorem appended_of_append {l l' : Ledger} {measurement : Measurement} {time : Instant}
    {r : Record} (h : (l.append measurement time).result = .ok (r, l')) :
    Appended l measurement time r l' := by
  obtain ⟨-, id, hnext, rfl, rfl⟩ := append_eq_ok_iff.mp h
  constructor
  case record => exact ⟨id, hnext, rfl, rfl, rfl⟩
  case records => exact Array.toList_push
  case exhausted =>
    intro hlast
    obtain rfl := Option.some.inj (hnext.symm.trans hlast)
    exact idAfter_eq_none_iff.mpr rfl
  case next =>
    intro id' hnext' hne
    obtain rfl := Option.some.inj (hnext.symm.trans hnext')
    obtain ⟨after, hafter⟩ := Option.ne_none_iff_exists'.mp (mt idAfter_eq_none_iff.mp hne)
    exact ⟨after, hafter, idAfter_eq_some hafter⟩
  case id => rfl
  case settings => rfl

theorem refused_of_append {l : Ledger} {measurement : Measurement} {time : Instant}
    {failure : Failure} (h : (l.append measurement time).result = .error failure) :
    Refused l failure := by
  have hnot : ¬ ∃ taken, (l.append measurement time).result = .ok taken := by simp [h]
  have hfull := mt exists_append_eq_ok_iff.mpr hnot
  rw [append_of_full hfull] at h
  obtain rfl := Except.error.inj h
  constructor
  case reached =>
    intro limit hlimit hreached
    simp [refusal, hlimit, hreached]
  case usedUp =>
    intro hbelow
    refine ⟨by simpa [hbelow] using hfull, ?_⟩
    rw [refusal]
    cases hlimit : l.settings.maxRecords with
    | none => rfl
    | some limit => simp [Nat.not_le.mpr (hbelow limit hlimit)]

/-- **What taking in measurements does, in full.** One measurement is taken in exactly if the limit
has not been reached and there is an identity left; a refusal says that the ledger is full and
leaves it as it is. Of a sequence of any length, as many as there is room for are taken in, with
consecutive identities that all fit 64 bits, and the others are refused; no other failure ever
occurs. All of this holds of any ledger, however it came about. -/
theorem append_outcomes (l : Ledger) :
    (∀ measurement time,
      ((∃ taken, (l.append measurement time).result = .ok taken) ↔
        l.BelowLimit ∧ l.nextId.isSome) ∧
      (∀ r l', (l.append measurement time).result = .ok (r, l') →
        Appended l measurement time r l') ∧
      ∀ failure, (l.append measurement time).result = .error failure →
        Refused l failure ∧ ∀ d, (Call.append measurement time).perform (l, d) = (l, d)) ∧
    ∀ entries : List (Measurement × Instant),
      let taken := consecutive l.nextNumber (entries.take l.capacity)
      l.nextNumber + taken.length ≤ UInt64.size ∧
        appendAll entries l =
          (taken.map .ok ++
              List.replicate (entries.length - l.capacity)
                (.error (.ledgerFull (l.extended taken).refusal)),
            l.extended taken) := by
  constructor
  · intro measurement time
    refine ⟨exists_append_eq_ok_iff, fun r l' => appended_of_append, fun failure hfailure => ?_⟩
    refine ⟨refused_of_append hfailure, fun d => ?_⟩
    simp only [Call.perform, hfailure]
  · intro entries taken
    refine ⟨?_, appendAll_eq entries l⟩
    have hle := nextNumber_add_capacity_le l
    have hlength : taken.length ≤ l.capacity := by
      rw [length_consecutive, List.length_take]
      exact Nat.min_le_left ..
    omega

/-- A ledger that has two identities left and room for five records. -/
def lastTwoLedger : Ledger := ⟨{ maxRecords := some 5 }, editedArchive.id, some (lastId - 1), #[]⟩

/-- Of three measurements the third one is refused, with the number of records. -/
theorem append_outcomes_lastTwo :
    (appendAll (List.replicate 3 (quietMeasurement, newYear)) lastTwoLedger).1 =
      [.ok (.stored (lastId - 1) quietMeasurement newYear),
        .ok (.stored lastId quietMeasurement newYear), .error (.ledgerFull 2)] := by
  have hall := ((append_outcomes lastTwoLedger).2
    (List.replicate 3 (quietMeasurement, newYear))).2
  rw [hall]
  rfl

end SoundLedger.Ledger
