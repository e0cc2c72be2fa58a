import StellarDidCredit.CreditOracle.Migration

/-!
# Migrating again

`migrate` does not look at the version that it writes, and it decodes every listed record in the old
layout. A record that an earlier element of the list, an earlier migration or a later repayment has
written in the new layout traps the call, so repeating a subject or the whole call is harmless only
where there is no record to convert.
-/

namespace StellarDidCredit.CreditOracle

variable {env : Env} {s s' : State} {subjects again once : List Address}
  {entries entries' : Storage Address StoredRepayment}

/-! ## The loop -/

/-- Every listed record is in the old layout. -/
def ListsOld (subjects : List Address) (entries : Storage Address StoredRepayment) : Prop :=
  ∀ x ∈ subjects, ∀ entry, entries x = some entry → entry.layout = .v1

/-- No subject with a record is listed twice. -/
def ListsOnce (subjects : List Address) (entries : Storage Address StoredRepayment) : Prop :=
  ∀ x, entries x ≠ none → subjects.count x ≤ 1

/-- None of the subjects has a record. -/
def ListsNoRecord (subjects : List Address) (entries : Storage Address StoredRepayment) : Prop :=
  ∀ x ∈ subjects, entries x = none

/-- The loop has no typed errors. -/
theorem onlyTraps_migrateLoop (subjects : List Address) (entries : Storage Address StoredRepayment) :
    Outcome.OnlyTraps (migrateLoop subjects entries) := by
  induction subjects generalizing entries with
  | nil => exact Outcome.onlyTraps_ok entries
  | cons subject rest ih =>
    unfold migrateLoop
    split
    · exact ih entries
    · exact ih _
    · exact Outcome.onlyTraps_trap

/-- A subject without a record is skipped. -/
theorem migrateLoop_cons_none {x : Address} {rest : List Address} (h : entries x = none) :
    migrateLoop (x :: rest) entries = migrateLoop rest entries := by
  rw [migrateLoop, h]

/-- A record in the old layout is upgraded before the rest. -/
theorem migrateLoop_cons_old {x : Address} {rest : List Address} {entry : StoredRepayment}
    (h : entries x = some entry) (hold : entry.layout = .v1) :
    migrateLoop (x :: rest) entries = migrateLoop rest (entries.set x entry.upgraded) := by
  cases entry with
  | v1 record => rw [migrateLoop, h, StoredRepayment.upgraded]
  | v2 record => cases hold

/-- A record in the new layout traps. -/
theorem migrateLoop_cons_new {x : Address} {rest : List Address} {entry : StoredRepayment}
    (h : entries x = some entry) (hnew : entry.layout = .v2) :
    migrateLoop (x :: rest) entries = .error .trap := by
  cases entry with
  | v1 record => cases hnew
  | v2 record => rw [migrateLoop, h]

/-- The loop succeeds when the listed records are in the old layout and each is listed once. -/
theorem migrateLoop_succeeds_iff :
    (∃ entries', migrateLoop subjects entries = .ok entries') ↔
      ListsOld subjects entries ∧ ListsOnce subjects entries := by
  induction subjects generalizing entries with
  | nil => exact iff_of_true ⟨entries, rfl⟩ ⟨fun x hx => (List.not_mem_nil hx).elim, fun x _ => by simp⟩
  | cons x rest ih =>
    cases hentry : entries x with
    | none =>
      rw [migrateLoop_cons_none hentry, ih]
      refine and_congr ?_ ?_
      · simp [ListsOld, hentry]
      · refine forall_congr' fun y => forall_congr' fun hy => ?_
        have hne : x ≠ y := fun heq => hy (heq ▸ hentry)
        rw [List.count_cons_of_ne hne]
    | some entry =>
      cases hlayout : entry.layout with
      | v2 =>
        rw [migrateLoop_cons_new hentry hlayout]
        refine iff_of_false (fun h => nomatch h) fun h => ?_
        cases hlayout.symm.trans (h.1 x List.mem_cons_self entry hentry)
      | v1 =>
        rw [migrateLoop_cons_old hentry hlayout, ih]
        constructor
        · rintro ⟨hold, honce⟩
          -- the upgraded record may not be listed again
          have hnot : x ∉ rest := by
            intro hmem
            cases (hold x hmem entry.upgraded (Storage.set_self _ _ _)).symm.trans entry.upgraded_layout
          constructor
          · intro y hy found hfound
            rcases List.mem_cons.mp hy with rfl | hmem
            · obtain rfl := Option.some.inj (hentry.symm.trans hfound)
              exact hlayout
            · have hne : y ≠ x := fun heq => hnot (heq ▸ hmem)
              exact hold y hmem found ((Storage.set_of_ne _ _ hne).trans hfound)
          · intro y hy
            by_cases hyx : y = x
            · rw [hyx, List.count_cons_self, List.count_eq_zero_of_not_mem hnot]
            · rw [List.count_cons_of_ne (Ne.symm hyx)]
              exact honce y (by rwa [Storage.set_of_ne _ _ hyx])
        · rintro ⟨hold, honce⟩
          have hcount := honce x (by simp [hentry])
          rw [List.count_cons_self] at hcount
          have hnot : x ∉ rest := List.count_eq_zero.mp (by omega)
          constructor
          · intro y hy found hfound
            have hne : y ≠ x := fun heq => hnot (heq ▸ hy)
            rw [Storage.set_of_ne _ _ hne] at hfound
            exact hold y (List.mem_cons_of_mem _ hy) found hfound
          · intro y hy
            by_cases hyx : y = x
            · rw [hyx, List.count_eq_zero_of_not_mem hnot]
              exact Nat.zero_le 1
            · rw [Storage.set_of_ne _ _ hyx] at hy
              have hlisted := honce y hy
              rwa [List.count_cons_of_ne (Ne.symm hyx)] at hlisted

/-- The loop changes nothing exactly when there is no listed record. -/
theorem migrateLoop_eq_self_iff : migrateLoop subjects entries = .ok entries ↔ ListsNoRecord subjects entries := by
  constructor
  · intro h x hx
    have hupgraded := migrateLoop_spec h x
    rw [if_pos hx] at hupgraded
    cases hentry : entries x with
    | none => rfl
    | some entry =>
      have hold := (migrateLoop_succeeds_iff.mp ⟨entries, h⟩).1 x hx entry hentry
      rw [hentry, Option.map_some] at hupgraded
      rw [Option.some.inj hupgraded] at hold
      cases hold.symm.trans entry.upgraded_layout
  · intro hnone
    induction subjects with
    | nil => rfl
    | cons x rest ih =>
      rw [migrateLoop_cons_none (hnone x List.mem_cons_self)]
      exact ih fun y hy => hnone y (List.mem_cons_of_mem _ hy)

/-- Lists of the same subjects that both succeed write the same records. -/
theorem migrateLoop_congr {entries₁ entries₂ : Storage Address StoredRepayment}
    (hsame : ∀ x, x ∈ once ↔ x ∈ subjects) (h₁ : migrateLoop subjects entries = .ok entries₁)
    (h₂ : migrateLoop once entries = .ok entries₂) : entries₁ = entries₂ := by
  funext x
  rw [migrateLoop_spec h₁ x, migrateLoop_spec h₂ x]
  simp only [hsame x]

/-! ## The call -/

/-- The call of the admin is its loop and the write of the version. -/
theorem migrate_eq {admin : Address} (hadmin : s.admin = some admin) (hauth : env.Authorized admin)
    (subjects : List Address) :
    migrate env subjects s = (migrateLoop subjects s.repaymentRecord).map fun entries =>
      { s with repaymentRecord := entries, storageVersion := some 2 } := by
  have hgate : requireStoredAdmin (.error .notInitialized) env s = .ok () := by
    rw [requireStoredAdmin_eq_ok]
    exact ⟨admin, hadmin, hauth⟩
  rw [migrate, hgate]
  cases migrateLoop subjects s.repaymentRecord <;> rfl

/-- A migration changes nothing exactly when the version is the new one and no listed subject has a
record. -/
theorem migrate_eq_self_iff {admin : Address} (hadmin : s.admin = some admin) (hauth : env.Authorized admin) :
    migrate env subjects s = .ok s ↔ s.storageVersion = some 2 ∧ ListsNoRecord subjects s.repaymentRecord := by
  rw [migrate_eq hadmin hauth, Outcome.map_eq_ok, ← migrateLoop_eq_self_iff]
  constructor
  · rintro ⟨entries, hloop, hsame⟩
    have hentries : entries = s.repaymentRecord := congrArg State.repaymentRecord hsame
    exact ⟨(congrArg State.storageVersion hsame).symm, hentries ▸ hloop⟩
  · rintro ⟨hversion, hloop⟩
    refine ⟨_, hloop, ?_⟩
    rw [← hversion]

/-! ## Idempotence -/

/-- The list names the same subjects, each once. -/
def Deduplicates (once subjects : List Address) : Prop := once.Nodup ∧ ∀ x, x ∈ once ↔ x ∈ subjects

/-- Migrating is idempotent: on the new version it does nothing, a repeated subject counts once, and
after a migration another one does nothing. -/
structure Idempotent (env : Env) (subjects again : List Address) (s : State) : Prop where
  upgraded : 2 ≤ s.storageVersion.getD 1 → migrate env subjects s = .ok s
  repeated : ∀ once, Deduplicates once subjects → migrate env subjects s = migrate env once s
  twice : ∀ once s', Deduplicates once subjects → migrate env once s = .ok s' → migrate env again s' = .ok s'

/-- Listed once, the subjects are migrated if their records are in the old layout. -/
theorem Deduplicates.succeeds_iff (h : Deduplicates once subjects) :
    (∃ entries', migrateLoop once entries = .ok entries') ↔ ListsOld subjects entries := by
  rw [migrateLoop_succeeds_iff]
  have hcount : ListsOnce once entries := fun x _ => List.nodup_iff_count_le_one.mp h.1 x
  rw [and_iff_left hcount]
  exact forall_congr' fun x => by rw [h.2 x]

/-- A list and its subjects listed once are migrated alike unless only the repetitions trap. -/
theorem migrateLoop_eq_once_iff (h : Deduplicates once subjects) :
    migrateLoop subjects entries = migrateLoop once entries ↔
      ¬ListsOld subjects entries ∨ ListsOnce subjects entries := by
  by_cases hold : ListsOld subjects entries
  · obtain ⟨converted, hconverted⟩ := h.succeeds_iff.mpr hold
    rw [hconverted, or_iff_right (not_not_intro hold)]
    constructor
    · exact fun hsame => (migrateLoop_succeeds_iff.mp ⟨converted, hsame⟩).2
    · intro honce
      obtain ⟨entries', hloop⟩ := migrateLoop_succeeds_iff.mpr ⟨hold, honce⟩
      rw [hloop, migrateLoop_congr h.2 hloop hconverted]
  · refine iff_of_true ?_ (Or.inl hold)
    have hfails : ∀ list, ¬(∃ entries', migrateLoop list entries = .ok entries') →
        migrateLoop list entries = .error .trap := by
      intro list hnone
      cases hloop : migrateLoop list entries with
      | error fault => rw [onlyTraps_migrateLoop list entries fault hloop]
      | ok entries' => exact absurd ⟨entries', hloop⟩ hnone
    rw [hfails subjects fun hsome => hold (migrateLoop_succeeds_iff.mp hsome).1,
      hfails once fun hsome => hold (h.succeeds_iff.mp hsome)]

/-- After a loop the same subjects have records. -/
theorem migrateLoop_records (h : migrateLoop subjects entries = .ok entries') (x : Address) :
    entries' x = none ↔ entries x = none := by
  rw [migrateLoop_spec h x]
  split
  · exact Option.map_eq_none_iff
  · exact Iff.rfl

/-- For the admin a migration is idempotent exactly when (1) on a version past the first one it is the
second and no listed subject has a record, and (2) a listed record in the new layout traps already
the single call, or no recorded subject is listed twice or in the later call. -/
theorem idempotent_iff (env : Env) (admin : Address) (subjects again : List Address) (s : State)
    (hadmin : s.admin = some admin) (hauth : env.Authorized admin) :
    Idempotent env subjects again s ↔
      (2 ≤ s.storageVersion.getD 1 → s.storageVersion = some 2 ∧ ListsNoRecord subjects s.repaymentRecord) ∧
      (¬ListsOld subjects s.repaymentRecord ∨
        ListsOnce subjects s.repaymentRecord ∧ ListsNoRecord again s.repaymentRecord) := by
  have honce : Deduplicates subjects.dedup subjects := ⟨subjects.nodup_dedup, fun x => List.mem_dedup⟩
  have hwritten (entries : Storage Address StoredRepayment) :
      ({ s with repaymentRecord := entries, storageVersion := some 2 } : State).admin = some admin := hadmin
  constructor
  · rintro ⟨hupgraded, hrepeated, htwice⟩
    refine ⟨fun hversion => (migrate_eq_self_iff hadmin hauth).mp (hupgraded hversion), ?_⟩
    by_cases hold : ListsOld subjects s.repaymentRecord
    · obtain ⟨entries, hloop⟩ := honce.succeeds_iff.mpr hold
      have hsingle : migrate env subjects.dedup s =
          .ok { s with repaymentRecord := entries, storageVersion := some 2 } := by
        rw [migrate_eq hadmin hauth, hloop]
        rfl
      have hboth := hrepeated _ honce
      have hagain := htwice _ _ honce hsingle
      rw [migrate_eq_self_iff (hwritten entries) hauth] at hagain
      refine Or.inr ⟨?_, fun x hx => (migrateLoop_records hloop x).mp (hagain.2 x hx)⟩
      rw [hsingle, migrate_eq hadmin hauth, Outcome.map_eq_ok] at hboth
      obtain ⟨entries', hloop', -⟩ := hboth
      exact (migrateLoop_succeeds_iff.mp ⟨entries', hloop'⟩).2
    · exact Or.inl hold
  · rintro ⟨hversion, hlisted⟩
    constructor
    case upgraded => exact fun hnew => (migrate_eq_self_iff hadmin hauth).mpr (hversion hnew)
    case repeated =>
      intro once hdedup
      rw [migrate_eq hadmin hauth, migrate_eq hadmin hauth,
        (migrateLoop_eq_once_iff hdedup).mpr (hlisted.imp id And.left)]
    case twice =>
      intro once s' hdedup hsingle
      rw [migrate_eq hadmin hauth, Outcome.map_eq_ok] at hsingle
      obtain ⟨entries, hloop, rfl⟩ := hsingle
      rw [migrate_eq_self_iff (hwritten entries) hauth]
      have hold := hdedup.succeeds_iff.mp ⟨entries, hloop⟩
      rcases hlisted with hnew | ⟨-, hnone⟩
      · exact absurd hold hnew
      · exact ⟨rfl, fun x hx => (migrateLoop_records hloop x).mpr (hnone x hx)⟩

/-- A subject without a record may be listed twice and again. -/
theorem idempotent_iff_unrecorded : Idempotent legacyEnv [.account 4, .account 4] [.account 4] legacyState := by
  have hnone : legacyState.repaymentRecord (.account 4) = none := rfl
  refine (idempotent_iff legacyEnv (.account 1) [.account 4, .account 4] [.account 4] legacyState rfl
    (by decide)).mpr ⟨fun hversion => absurd hversion (by decide), Or.inr ⟨?_, ?_⟩⟩
  · intro x hx
    have hne : x ≠ .account 4 := fun heq => hx (heq ▸ hnone)
    rw [List.count_eq_zero_of_not_mem (by simpa using hne)]
    exact Nat.zero_le 1
  · intro x hx
    rw [List.mem_singleton.mp hx, hnone]

/-- A subject with a record, listed twice, traps the migration; listed once it is migrated, and then
traps every later one. -/
theorem not_idempotent_repeated :
    ∃ s', migrate legacyEnv [.account 3, .account 3] legacyState = .error .trap ∧
      migrate legacyEnv [.account 3] legacyState = .ok s' ∧ s'.storageVersion = some 2 ∧
      migrate legacyEnv [.account 3] s' = .error .trap ∧
      ¬Idempotent legacyEnv [.account 3, .account 3] [.account 3] legacyState := by
  refine ⟨_, rfl, rfl, rfl, rfl, fun hidempotent => ?_⟩
  have honce : Deduplicates [.account 3] [.account 3, .account 3] := by
    refine ⟨List.nodup_singleton _, fun x => ?_⟩
    simp
  cases hidempotent.repeated _ honce

end StellarDidCredit.CreditOracle
