import StellarDidCredit.CreditOracle.Repayments

/-!
# Migration of the repayment records

`migrate` converts the records of the subjects it is given before it raises the version. After
a migration that was given every subject with a record, all records are in the new layout and
stay in it.
-/

namespace StellarDidCredit.CreditOracle

variable {κ : Type} {host : Host κ} {env : Env} {call : Call} {s s' : State} {world world' : κ}

/-! ## After a migration -/

/-- An initialised contract on the new layout, with all records in it. -/
structure Migrated (s : State) : Prop where
  admin : s.admin ≠ none
  version : s.storageVersion = some 2
  layout : ∀ x entry, s.repaymentRecord x = some entry → entry.layout = .v2

/-- From version 2 on, records have the new layout. -/
theorem layoutInForce_of_version (h : s.storageVersion = some 2) : s.layoutInForce = .v2 := by
  simp [State.layoutInForce, h]

/-- An admin is replaced but never removed. -/
theorem Effect.admin_isSome (heffect : Effect host env s world call s') (hadmin : s.admin ≠ none) :
    s'.admin ≠ none := by
  cases heffect with
  | initialized => exact Option.some_ne_none _
  | adminAccepted => exact Option.some_ne_none _
  | scoreComputed hcompute =>
    have hsame := congrArg Core.admin (computeScore_core hcompute)
    exact fun hnone => hadmin (hsame.symm.trans hnone)
  | other hcall hcore =>
    have hsame := congrArg Core.admin hcore
    exact fun hnone => hadmin (hsame.symm.trans hnone)
  | _ => exact hadmin

/-- No call leaves the new layout, nor brings a record in the old one back. -/
theorem Migrated.step (hs : Migrated s) (h : exec host env call s world = .ok (s', world')) : Migrated s' := by
  have hadmin := (exec_effect h).admin_isSome hs.admin
  rcases exec_repayments h with hsame | ⟨hnone, -⟩ | ⟨subject, amount, onTime, entry, -, hadd, hset⟩ |
    ⟨subjects, entries, hloop, hmigrated⟩
  · obtain ⟨hrecords, hversion⟩ := Prod.mk.inj hsame
    exact ⟨hadmin, hversion.trans hs.version, hrecords ▸ hs.layout⟩
  · exact absurd hnone hs.admin
  · obtain ⟨hrecords, hversion⟩ := Prod.mk.inj hset
    refine ⟨hadmin, hversion.trans hs.version, ?_⟩
    intro x stored hstored
    rw [hrecords, Storage.set_apply] at hstored
    split at hstored
    · obtain rfl := Option.some.inj hstored
      exact (addRepayment_layout hadd).trans (layoutInForce_of_version hs.version)
    · exact hs.layout x stored hstored
  · obtain ⟨hrecords, hversion⟩ := Prod.mk.inj hmigrated
    refine ⟨hadmin, hversion, ?_⟩
    intro x stored hstored
    rw [hrecords, migrateLoop_spec hloop x] at hstored
    split at hstored
    · obtain ⟨entry, -, rfl⟩ := Option.map_eq_some_iff.mp hstored
      exact entry.upgraded_layout
    · exact hs.layout x stored hstored

variable {ledger : Ledger} {history : List Move} {final : Config}

/-- Once migrated, every record stays readable. -/
theorem Migrated.readable (hs : Migrated s) (hrun : Run (StepOf Config.next) ⟨s, ledger⟩ history final)
    (x : Address) : Readable final.state x := by
  have hfinal : Migrated final.state := by
    refine hrun.invariant (fun c => Migrated c.state) ?_ hs
    intro c e c' hc hstep
    exact hc.step (Config.step_iff.mp hstep).2.2
  rw [readable_iff, layoutInForce_of_version hfinal.version]
  exact hfinal.layout x

/-! ## One layout -/

/-- The migration from `s` to `s'` leaves one layout: every record that is stored afterwards is
in the layout in force, with the counters it had before, no record is lost, and no later read
traps, whatever the calls that follow. -/
structure OneLayout (s s' : State) : Prop where
  decodes : ∀ x entry', s'.repaymentRecord x = some entry' → entry'.layout = s'.layoutInForce ∧
    ∃ entry, s.repaymentRecord x = some entry ∧ entry'.onTimeCount = entry.onTimeCount ∧
      entry'.totalCount = entry.totalCount
  kept : ∀ x, s.repaymentRecord x ≠ none → s'.repaymentRecord x ≠ none
  readable : ∀ ledger history final, Run (StepOf Config.next) ⟨s', ledger⟩ history final →
    ∀ x, Readable final.state x

/-- A migration of records that are all in the old layout leaves one layout exactly when every
subject with a record was listed. -/
theorem migrate_oneLayout_iff {subjects : List Address}
    (hv1 : ∀ x entry, s.repaymentRecord x = some entry → entry.layout = .v1)
    (h : migrate env subjects s = .ok s') :
    OneLayout s s' ↔ ∀ x, s.repaymentRecord x ≠ none → x ∈ subjects := by
  obtain ⟨hadmin, entries, hloop, rfl⟩ := migrate_spec h
  have hentries := migrateLoop_spec hloop
  constructor
  · intro hone x hstored
    by_contra hx
    obtain ⟨entry, hentry⟩ := Option.ne_none_iff_exists'.mp hstored
    have hkept : entries x = some entry := by rw [hentries x, if_neg hx, hentry]
    -- an unlisted record stays in the old layout, which the raised version no longer selects
    have hnew := (hone.decodes x entry hkept).1
    rw [hv1 x entry hentry, layoutInForce_of_version rfl] at hnew
    cases hnew
  · intro hlisted
    have hupgraded (x : Address) : entries x = (s.repaymentRecord x).map StoredRepayment.upgraded := by
      rw [hentries x]
      split
      · rfl
      · rename_i hx
        have hnone : s.repaymentRecord x = none := by
          by_contra hstored
          exact hx (hlisted x hstored)
        rw [hnone, Option.map_none]
    have hlayout (x : Address) (entry' : StoredRepayment) (hentry' : entries x = some entry') :
        entry'.layout = .v2 := by
      rw [hupgraded x] at hentry'
      obtain ⟨entry, -, rfl⟩ := Option.map_eq_some_iff.mp hentry'
      exact entry.upgraded_layout
    refine ⟨?_, ?_, ?_⟩
    · intro x entry' hentry'
      refine ⟨(hlayout x entry' hentry').trans (layoutInForce_of_version rfl).symm, ?_⟩
      obtain ⟨entry, hentry, rfl⟩ := Option.map_eq_some_iff.mp ((hupgraded x).symm.trans hentry')
      exact ⟨entry, hentry, entry.upgraded_onTimeCount, entry.upgraded_totalCount⟩
    · intro x hstored hlost
      have hnone := (hupgraded x).symm.trans hlost
      exact hstored (Option.map_eq_none_iff.mp hnone)
    · intro ledger history final hrun x
      have hmigrated : Migrated { s with repaymentRecord := entries, storageVersion := some 2 } :=
        ⟨hadmin, rfl, hlayout⟩
      exact hmigrated.readable hrun x

/-- A contract whose code was just replaced: a trusted lender and one record in the old layout. -/
def legacyState : State :=
  { admin := some (.account 1)
    config := some ⟨40, 30, 30⟩
    trustedLender := Storage.empty.set (.account 2) true
    repaymentRecord := Storage.empty.set (.account 3) (.v1 ⟨4, 5⟩) }

/-- Every record of the sample is an old one. -/
theorem legacyState_layout (x : Address) (entry : StoredRepayment)
    (h : legacyState.repaymentRecord x = some entry) : entry.layout = .v1 := by
  by_cases hx : x = .account 3
  · subst hx
    cases h
    rfl
  · have hnone : legacyState.repaymentRecord x = none := Storage.set_of_ne _ _ hx
    cases hnone.symm.trans h

/-- A call in ledger 9, signed by the admin and the lender. -/
def legacyEnv : Env := .signedBy (.numbered 9) (.contract 11) [.account 1, .account 2]

/-- The one record is listed, and is migrated. -/
theorem migrate_oneLayout_iff_listed :
    ∃ s', migrate legacyEnv [.account 3] legacyState = .ok s' ∧ OneLayout legacyState s' := by
  refine ⟨_, rfl, (migrate_oneLayout_iff legacyState_layout
    (show migrate legacyEnv [.account 3] legacyState = .ok _ from rfl)).mpr ?_⟩
  intro x hstored
  by_contra hx
  exact hstored (Storage.set_of_ne _ _ (fun heq => hx (heq ▸ List.mem_singleton_self x)))

/-- A migration with an empty list raises the version, and the old record can then neither be
scored nor added to. -/
theorem not_oneLayout_empty_list :
    ∃ s', legacyState.storageVersion.getD 1 < 2 ∧
      (∀ x entry, legacyState.repaymentRecord x = some entry → entry.layout = .v1) ∧
      migrate legacyEnv [] legacyState = .ok s' ∧ ¬OneLayout legacyState s' ∧
      computeScore silentHost legacyEnv (.account 3) s' () = .error .trap ∧
      recordRepayment legacyEnv (.account 2) (.account 3) 100 true s' = .error .trap := by
  refine ⟨_, by decide, legacyState_layout, rfl, ?_, rfl, rfl⟩
  intro hone
  have hlayout := (hone.decodes (.account 3) (.v1 ⟨4, 5⟩) rfl).1
  cases hlayout

end StellarDidCredit.CreditOracle
