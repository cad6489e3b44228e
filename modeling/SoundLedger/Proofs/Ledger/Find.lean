import SoundLedger.Proofs.Ledger.Reopen

/-!
# Finding records

Halving a stretch of records finds a record only where there is one, whatever their order, and
finds it wherever there is one, because identities grow along a ledger. They need not be
consecutive for that.
-/

namespace SoundLedger.Ledger

/-! ## Halving -/

/-- What is found has the identity that was looked for. -/
theorem bisect_sound {records : Array Record} {id : UInt64} {low high : Nat} {r : Record}
    (h : bisect records id low high = some r) : r ∈ records ∧ r.id = some id := by
  fun_induction bisect records id low high with
  | case1 low high hstretch middle record heq =>
    obtain rfl := Option.some.inj h
    exact ⟨Array.getElem_mem _, Archive.rank_inj.mp heq⟩
  | case2 low high hstretch middle record hne hless ih => exact ih h
  | case3 low high hstretch middle record hne hmore ih => exact ih h
  | case4 low high hstretch => cases h

/-- In records with growing identities, places are in the order of their identities. -/
theorem rank_lt_iff_lt {records : Array Record}
    (hsorted : records.toList.Pairwise fun x y => rank x.id < rank y.id) {i j : Nat}
    (hi : i < records.size) (hj : j < records.size) :
    rank records[i].id < rank records[j].id ↔ i < j := by
  have hplaces := List.pairwise_iff_getElem.mp hsorted
  rcases Nat.lt_trichotomy i j with hlt | rfl | hgt
  · simpa [hlt] using hplaces i j hi hj hlt
  · simp
  · have hmore : rank records[j].id < rank records[i].id := hplaces j i hj hi hgt
    omega

/-- In records with growing identities, whatever stands in a stretch is found there. -/
theorem bisect_complete {records : Array Record}
    (hsorted : records.toList.Pairwise fun x y => rank x.id < rank y.id) {id : UInt64}
    {low high k : Nat} (hk : k < records.size) (hid : records[k].id = some id) (hlow : low ≤ k)
    (hhigh : k < high) (hsize : high ≤ records.size) :
    bisect records id low high = some records[k] := by
  fun_induction bisect records id low high with
  | case1 low high hstretch middle record heq =>
    have hmiddle : middle < records.size := by omega
    -- of two places with one identity, neither comes before the other
    have hbefore := rank_lt_iff_lt hsorted hmiddle hk
    have hbehind := rank_lt_iff_lt hsorted hk hmiddle
    have hsame : rank records[middle].id = rank records[k].id := by rwa [hid]
    obtain rfl : middle = k := by omega
    rfl
  | case2 low high hstretch middle record hne hless ih =>
    have hmiddle : middle < records.size := by omega
    have hbefore := rank_lt_iff_lt hsorted hmiddle hk
    rw [hid] at hbefore
    exact ih (hbefore.mp hless) hhigh hsize
  | case3 low high hstretch middle record hne hmore ih =>
    have hmiddle : middle < records.size := by omega
    have hbehind := rank_lt_iff_lt hsorted hk hmiddle
    rw [hid] at hbehind
    have hgreater := Nat.lt_of_le_of_ne (Nat.le_of_not_lt hmore) (Ne.symm hne)
    exact ih hlow (hbehind.mp hgreater) (by omega)
  | case4 low high hstretch => exact absurd ⟨by omega, hsize⟩ hstretch

/-! ## Finding and requiring -/

/-- What is found are the records of the ledger, by their identities. -/
theorem get?_eq_some_iff {l : Ledger} (h : l.Invariant) {id : UInt64} {r : Record} :
    l.get? id = some r ↔ r ∈ l.records ∧ r.id = some id := by
  constructor
  · exact bisect_sound
  · rintro ⟨hr, hid⟩
    obtain ⟨k, hk, rfl⟩ := Array.mem_iff_getElem.mp hr
    exact bisect_complete h.pairwise_rank hk hid (Nat.zero_le k) hk (Nat.le_refl _)

theorem get?_eq_none_iff {l : Ledger} (h : l.Invariant) {id : UInt64} :
    l.get? id = none ↔ ∀ r ∈ l.records, r.id ≠ some id := by
  rw [Option.eq_none_iff_forall_ne_some]
  simp only [ne_eq, get?_eq_some_iff h, not_and]

/-- The records with one identity are one record at most. -/
theorem filter_id_eq_singleton_iff {l : Ledger} (h : l.Invariant) {id : UInt64} {r : Record} :
    l.records.toList.filter (fun x => x.id = some id) = [r] ↔ r ∈ l.records ∧ r.id = some id := by
  have hsorted := h.pairwise_rank.filter (fun x => x.id = some id)
  have hmem : ∀ x, x ∈ l.records.toList.filter (fun x => x.id = some id) ↔
      x ∈ l.records ∧ x.id = some id := by simp
  rw [← hmem]
  constructor
  · intro hone
    simp [hone]
  · intro hr
    cases hfound : l.records.toList.filter (fun x => x.id = some id) with
    | nil =>
      rw [hfound] at hr
      cases hr
    | cons first rest =>
      rw [hfound] at hsorted hmem hr
      cases rest with
      | nil => rw [List.mem_singleton.mp hr]
      | cons second rest =>
        -- two of them would have identities one above the other
        have hlt := (List.pairwise_cons.mp hsorted).1 second (by simp)
        rw [((hmem first).mp (by simp)).2, ((hmem second).mp (by simp)).2] at hlt
        exact absurd hlt (Nat.lt_irrefl _)

theorem get?_zero {l : Ledger} (h : l.Invariant) : l.get? 0 = none := by
  rw [get?_eq_none_iff h]
  intro r hr hzero
  obtain ⟨id, hid, hpos⟩ := h.identified r hr
  exact hpos (Option.some.inj (hid.symm.trans hzero))

theorem require_eq_ok_iff {l : Ledger} {id : UInt64} {r : Record} :
    l.require id = .ok r ↔ l.get? id = some r := by
  rw [require]
  cases l.get? id <;> simp

theorem require_eq_error_iff {l : Ledger} {id : UInt64} {failure : Failure} :
    l.require id = .error failure ↔ l.get? id = none ∧ failure = .recordNotFound id := by
  rw [require]
  cases l.get? id <;> simp [eq_comm]

/-- What it means that exactly the records of a ledger are found. -/
structure FindsRecords (l : Ledger) : Prop where
  /-- A record is found exactly if it is the only one with its identity. -/
  found : ∀ id r, l.get? id = some r ↔ l.records.toList.filter (fun x => x.id = some id) = [r]
  missing : ∀ id, l.get? id = none ↔ ∀ r ∈ l.records, r.id ≠ some id
  /-- The identity that stands for none is never found. -/
  zero : l.get? 0 = none
  required : ∀ id r, l.require id = .ok r ↔ l.get? id = some r
  refused : ∀ id failure,
    l.require id = .error failure ↔ l.get? id = none ∧ failure = .recordNotFound id

theorem Invariant.findsRecords {l : Ledger} (h : l.Invariant) : l.FindsRecords where
  found := fun _ _ => (get?_eq_some_iff h).trans (filter_id_eq_singleton_iff h).symm
  missing := fun _ => get?_eq_none_iff h
  zero := get?_zero h
  required := fun _ _ => require_eq_ok_iff
  refused := fun _ _ => require_eq_error_iff

end SoundLedger.Ledger
