import StellarDidCredit.Lib.Run
import StellarDidCredit.Lib.Storage

/-!
# Indexes with flags

A set that is kept as a list of names and a flag for each name, because the flags alone cannot be
enumerated. The members are the listed names with their flag set. Names enter and leave in two
ways: an index with tombstones keeps every name that ever entered, and a compacted index keeps
the members only. In both the members are the names of which the latest operation was a
registration.
-/

namespace StellarDidCredit

/-! ## Lists without repetitions -/

section Enlist

variable {α : Type}

/-- A new element at the end is no repetition. -/
theorem nodup_append_singleton {list : List α} {a : α} (h : list.Nodup) (hnew : a ∉ list) :
    (list ++ [a]).Nodup := by
  refine List.nodup_append.mpr ⟨h, List.nodup_singleton a, ?_⟩
  rintro b hb c hc rfl
  exact hnew (List.mem_singleton.mp hc ▸ hb)

variable [DecidableEq α]

/-- Put an element at the end of a list, once. -/
def enlist (list : List α) (a : α) : List α := if a ∈ list then list else list ++ [a]

/-- The list has one element more, at most. -/
theorem mem_enlist {list : List α} {a b : α} : b ∈ enlist list a ↔ b ∈ list ∨ b = a := by
  unfold enlist
  split
  case isTrue hmem =>
    constructor
    · exact Or.inl
    · rintro (hb | rfl)
      · exact hb
      · exact hmem
  case isFalse => rw [List.mem_append, List.mem_singleton]

/-- Enlisting repeats nothing. -/
theorem nodup_enlist {list : List α} (a : α) (h : list.Nodup) : (enlist list a).Nodup := by
  unfold enlist
  split
  case isTrue => exact h
  case isFalse hnew => exact nodup_append_singleton h hnew

/-- Enlisting keeps the order. -/
theorem prefix_enlist (list : List α) (a : α) : list <+: enlist list a := by
  unfold enlist
  split
  case isTrue => exact List.prefix_rfl
  case isFalse => exact List.prefix_append list [a]

/-- The elements of both lists are enlisted. -/
theorem mem_foldl_enlist {list elements : List α} {b : α} :
    b ∈ elements.foldl enlist list ↔ b ∈ list ∨ b ∈ elements := by
  induction elements generalizing list with
  | nil => simp
  | cons a elements ih => rw [List.foldl_cons, ih, mem_enlist, List.mem_cons, or_assoc]

/-- Enlisting many repeats nothing either. -/
theorem nodup_foldl_enlist {list : List α} (elements : List α) (h : list.Nodup) :
    (elements.foldl enlist list).Nodup := by
  induction elements generalizing list with
  | nil => exact h
  | cons a elements ih => exact ih (nodup_enlist a h)

end Enlist

/-! ## Operations -/

/-- A name is registered, or it is deregistered. -/
structure RegistryOp (α : Type) where
  name : α
  registers : Bool

/-- The latest operation on the name registered it. -/
def Registered {α : Type} (log : List (RegistryOp α)) (a : α) : Prop :=
  ∃ earlier since, log = earlier ++ ⟨a, true⟩ :: since ∧ ∀ op ∈ since, op.name ≠ a

variable {α : Type}

/-- Nobody is registered at first. -/
theorem not_registered_nil (a : α) : ¬Registered [] a := by
  rintro ⟨earlier, since, hnil, -⟩
  simp at hnil

/-- The last operation decides about its own name. -/
theorem registered_snoc_self (log : List (RegistryOp α)) (a : α) (registers : Bool) :
    Registered (log ++ [⟨a, registers⟩]) a ↔ registers = true := by
  constructor
  · rintro ⟨earlier, since, hlog, hlatest⟩
    induction since using List.reverseRecOn with
    | nil =>
      obtain ⟨-, hlast⟩ := List.append_inj' hlog rfl
      exact (RegistryOp.mk.inj (List.cons.inj hlast).1).2
    | append_singleton since op =>
      rw [← List.cons_append, ← List.append_assoc] at hlog
      obtain ⟨-, hlast⟩ := List.append_inj' hlog rfl
      exact absurd (congrArg RegistryOp.name (List.cons.inj hlast).1.symm) (hlatest op (by simp))
  · rintro rfl
    exact ⟨log, [], rfl, by simp⟩

/-- The last operation decides about no other name. -/
theorem registered_snoc_of_ne (log : List (RegistryOp α)) {a b : α} (registers : Bool) (hne : b ≠ a) :
    Registered (log ++ [⟨b, registers⟩]) a ↔ Registered log a := by
  constructor
  · rintro ⟨earlier, since, hlog, hlatest⟩
    induction since using List.reverseRecOn with
    | nil =>
      obtain ⟨-, hlast⟩ := List.append_inj' hlog rfl
      exact absurd (RegistryOp.mk.inj (List.cons.inj hlast).1).1 hne
    | append_singleton since op =>
      rw [← List.cons_append, ← List.append_assoc] at hlog
      obtain ⟨hrest, -⟩ := List.append_inj' hlog rfl
      exact ⟨earlier, since, hrest, fun other hother => hlatest other (List.mem_append_left _ hother)⟩
  · rintro ⟨earlier, since, rfl, hlatest⟩
    refine ⟨earlier, since ++ [⟨b, registers⟩], by simp, ?_⟩
    exact List.forall_mem_append.mpr ⟨hlatest, List.forall_mem_singleton.mpr hne⟩

/-! ## The index and the flags -/

/-- A list of names with a flag for each. -/
structure FlagIndex (α : Type) where
  flags : Storage α Bool
  index : List α

namespace FlagIndex

/-- A name whose flag was never set is not flagged. -/
def flagged (r : FlagIndex α) (a : α) : Bool := (r.flags a).getD false

/-- The members, in the order of the list. -/
def listed (r : FlagIndex α) : List α := r.index.filter r.flagged

/-- The flags are those of the latest operations, and the list has every flagged name once. -/
structure Reflects (r : FlagIndex α) (log : List (RegistryOp α)) : Prop where
  nodup : r.index.Nodup
  flagged_iff : ∀ a, r.flagged a = true ↔ Registered log a
  mem_index : ∀ a, r.flagged a = true → a ∈ r.index

variable {r : FlagIndex α} {log : List (RegistryOp α)} {a b : α}

/-- The list has flagged names only, so that it is the list of members. -/
def Tight (r : FlagIndex α) : Prop := ∀ a ∈ r.index, r.flagged a = true

/-- A tight index is its list. -/
theorem Tight.listed_eq (h : r.Tight) : r.listed = r.index := List.filter_eq_self.mpr h

/-- The list repeats nobody. -/
theorem Reflects.nodup_listed (h : r.Reflects log) : r.listed.Nodup := h.nodup.filter _

/-- The members are the names of which the latest operation was a registration. -/
theorem Reflects.mem_listed (h : r.Reflects log) : a ∈ r.listed ↔ Registered log a := by
  rw [listed, List.mem_filter, ← h.flagged_iff]
  exact ⟨And.right, fun hflagged => ⟨h.mem_index a hflagged, hflagged⟩⟩

/-- The empty index reflects the empty log. -/
theorem reflects_nil : (⟨Storage.empty, []⟩ : FlagIndex α).Reflects [] where
  nodup := List.nodup_nil
  flagged_iff a := ⟨fun hflagged => by simp [flagged] at hflagged, fun h => absurd h (not_registered_nil a)⟩
  mem_index a hflagged := by simp [flagged] at hflagged

variable [DecidableEq α]

/-- Setting a flag changes one flag. -/
theorem flagged_mk_set (r : FlagIndex α) (index : List α) (a b : α) (registers : Bool) :
    (⟨r.flags.set a registers, index⟩ : FlagIndex α).flagged b = if b = a then registers else r.flagged b := by
  by_cases hb : b = a
  · simp [flagged, hb]
  · simp [flagged, hb, Storage.set_of_ne _ _ hb]

/-- Setting a flag is what the operation on the name says. -/
theorem flagged_set {index : List α} {registers : Bool} (h : ∀ b, r.flagged b = true ↔ Registered log b) (b : α) :
    (⟨r.flags.set a registers, index⟩ : FlagIndex α).flagged b = true ↔
      Registered (log ++ [⟨a, registers⟩]) b := by
  rw [flagged_mk_set]
  by_cases hb : b = a
  · rw [if_pos hb, hb, registered_snoc_self]
  · rw [if_neg hb, registered_snoc_of_ne log registers (Ne.symm hb), h b]

/-- A flagged name after a registration is the new one or was flagged. -/
theorem flagged_set_true {index : List α} (h : (⟨r.flags.set a true, index⟩ : FlagIndex α).flagged b = true) :
    b = a ∨ r.flagged b = true := by
  rw [flagged_mk_set] at h
  split at h
  case isTrue hb => exact Or.inl hb
  case isFalse => exact Or.inr h

/-- A flagged name after a deregistration was flagged. -/
theorem flagged_set_false {index : List α} (h : (⟨r.flags.set a false, index⟩ : FlagIndex α).flagged b = true) :
    r.flagged b = true := by
  rw [flagged_mk_set] at h
  split at h
  case isTrue => cases h
  case isFalse => exact h

/-! ## An index with tombstones -/

/-- A name enters the list once, and leaves by its flag only. -/
def tombstoned (r : FlagIndex α) : Option (RegistryOp α) → FlagIndex α
  | none => r
  | some ⟨a, true⟩ => ⟨r.flags.set a true, enlist r.index a⟩
  | some ⟨a, false⟩ => ⟨r.flags.set a false, r.index⟩

/-- An index with tombstones only grows. -/
theorem prefix_tombstoned (r : FlagIndex α) (op : Option (RegistryOp α)) :
    r.index <+: (r.tombstoned op).index := by
  match op with
  | none => exact List.prefix_rfl
  | some ⟨a, true⟩ => exact prefix_enlist r.index a
  | some ⟨a, false⟩ => exact List.prefix_rfl

/-- The list has the names that were ever registered. -/
theorem mem_tombstoned_index (op : Option (RegistryOp α)) :
    b ∈ (r.tombstoned op).index ↔ b ∈ r.index ∨ op = some ⟨b, true⟩ := by
  match op with
  | none => simp [tombstoned]
  | some ⟨a, true⟩ => simp [tombstoned, mem_enlist, eq_comm]
  | some ⟨a, false⟩ => simp [tombstoned]

/-- An operation that leaves a tombstone is reflected. -/
theorem Reflects.tombstoned (h : r.Reflects log) (op : Option (RegistryOp α)) :
    (r.tombstoned op).Reflects (log ++ op.toList) := by
  match op with
  | none => simpa [FlagIndex.tombstoned] using h
  | some ⟨a, true⟩ =>
    refine ⟨nodup_enlist a h.nodup, flagged_set h.flagged_iff, ?_⟩
    intro b hb
    rcases flagged_set_true hb with rfl | hflagged
    · exact mem_enlist.mpr (Or.inr rfl)
    · exact mem_enlist.mpr (Or.inl (h.mem_index b hflagged))
  | some ⟨a, false⟩ =>
    exact ⟨h.nodup, flagged_set h.flagged_iff, fun b hb => h.mem_index b (flagged_set_false hb)⟩

/-! ## A compacted index -/

/-- A name enters the list unless it is flagged, and the list is rebuilt when one leaves. -/
def compacted (r : FlagIndex α) : Option (RegistryOp α) → FlagIndex α
  | none => r
  | some ⟨a, true⟩ => ⟨r.flags.set a true, if r.flagged a then r.index else r.index ++ [a]⟩
  | some ⟨a, false⟩ =>
    ⟨r.flags.set a false, (⟨r.flags.set a false, r.index⟩ : FlagIndex α).listed⟩

/-- Whoever is flagged already is not entered again. -/
theorem compacted_of_flagged (h : r.flagged a = true) :
    r.compacted (some ⟨a, true⟩) = ⟨r.flags.set a true, r.index⟩ := by
  simp [compacted, h]

/-- Whoever is not is entered at the end. -/
theorem compacted_of_not_flagged (h : r.flagged a = false) :
    r.compacted (some ⟨a, true⟩) = ⟨r.flags.set a true, r.index ++ [a]⟩ := by
  simp [compacted, h]

/-- An operation that removes the entry keeps the index tight. -/
theorem Tight.compacted (h : r.Tight) (op : Option (RegistryOp α)) : (r.compacted op).Tight := by
  match op with
  | none => exact h
  | some ⟨a, true⟩ =>
    intro b hb
    by_cases hba : b = a
    · simp [FlagIndex.compacted, flagged_mk_set, hba]
    · have hold : b ∈ r.index := by
        simp only [FlagIndex.compacted] at hb
        split at hb
        · exact hb
        · simpa [hba] using hb
      simpa only [FlagIndex.compacted, flagged_mk_set, if_neg hba] using h b hold
  | some ⟨a, false⟩ =>
    intro b hb
    exact (List.mem_filter.mp hb).2

/-- The two strategies fit together: a name that is not flagged is not in the list. -/
theorem Reflects.compacted (h : r.Reflects log) (htight : r.Tight) (op : Option (RegistryOp α)) :
    (r.compacted op).Reflects (log ++ op.toList) := by
  match op with
  | none => simpa [FlagIndex.compacted] using h
  | some ⟨a, true⟩ =>
    refine ⟨?_, flagged_set h.flagged_iff, ?_⟩
    · simp only [FlagIndex.compacted]
      split
      case isTrue => exact h.nodup
      case isFalse hnot => exact nodup_append_singleton h.nodup fun hmem => hnot (htight a hmem)
    · intro b hb
      simp only [FlagIndex.compacted]
      split
      case isTrue hflagged =>
        rcases flagged_set_true hb with rfl | hold
        · exact h.mem_index b hflagged
        · exact h.mem_index b hold
      case isFalse =>
        rcases flagged_set_true hb with rfl | hold
        · exact List.mem_append_right _ List.mem_cons_self
        · exact List.mem_append_left _ (h.mem_index b hold)
  | some ⟨a, false⟩ =>
    refine ⟨h.nodup.filter _, flagged_set h.flagged_iff, ?_⟩
    intro b hb
    exact List.mem_filter.mpr ⟨h.mem_index b (flagged_set_false hb), hb⟩

/-- A registration enlists the name among the members. -/
theorem Reflects.listed_compacted_true (h : r.Reflects log) (htight : r.Tight) (a : α) :
    (r.compacted (some ⟨a, true⟩)).listed = enlist r.listed a := by
  have hmem : r.flagged a = true ↔ a ∈ r.index := ⟨h.mem_index a, htight a⟩
  rw [(htight.compacted _).listed_eq, enlist, htight.listed_eq, FlagIndex.compacted]
  simp only [hmem]

/-- A deregistration takes it out. -/
theorem Tight.listed_compacted_false (htight : r.Tight) (a : α) :
    (r.compacted (some ⟨a, false⟩)).listed = r.listed.filter fun b => b ≠ a := by
  rw [(htight.compacted _).listed_eq, htight.listed_eq]
  refine List.filter_congr fun b hb => ?_
  rw [flagged_mk_set, htight b hb]
  by_cases hba : b = a <;> simp [hba]

end FlagIndex

/-! ## Runs -/

section Runs

variable {σ ε : Type} {step : σ → ε → σ → Prop} {start final : σ} {history : List (Transition σ ε)}
  {op : ε → Option (RegistryOp α)}

/-- The operations of a history. -/
def registryLog (op : ε → Option (RegistryOp α)) (history : List (Transition σ ε)) : List (RegistryOp α) :=
  history.filterMap fun t => op t.event

/-- One more step enters its operation, if it has one. -/
theorem registryLog_snoc (history : List (Transition σ ε)) (t : Transition σ ε) :
    registryLog op (history ++ [t]) = registryLog op history ++ (op t.event).toList := by
  unfold registryLog
  rw [List.filterMap_append]
  cases hop : op t.event <;> simp [hop]

variable [DecidableEq α]

/-- An index with tombstones reflects the operations, and has every name that ever entered. -/
theorem Run.tombstoned (view : σ → FlagIndex α) (hrun : Run step start history final)
    (hstart : view start = ⟨Storage.empty, []⟩)
    (hstep : ∀ s e s', step s e s' → view s' = (view s).tombstoned (op e)) :
    (view final).Reflects (registryLog op history) ∧
      ∀ a, a ∈ (view final).index ↔ ⟨a, true⟩ ∈ registryLog op history := by
  induction hrun with
  | nil =>
    rw [hstart]
    exact ⟨FlagIndex.reflects_nil, fun a => ⟨fun h => absurd h List.not_mem_nil,
      fun h => absurd h List.not_mem_nil⟩⟩
  | @snoc history s e s' _ hlast ih =>
    obtain ⟨hreflects, hmem⟩ := ih
    rw [registryLog_snoc, hstep s e s' hlast]
    refine ⟨hreflects.tombstoned (op e), fun a => ?_⟩
    rw [FlagIndex.mem_tombstoned_index, hmem, List.mem_append, Option.mem_toList]

/-- The list of an index with tombstones only grows at its end. -/
theorem Run.prefix_tombstoned (view : σ → FlagIndex α) (hrun : Run step start history final)
    (hstep : ∀ s e s', step s e s' → view s' = (view s).tombstoned (op e)) {t : Transition σ ε}
    (ht : t ∈ history) :
    (view t.before).index <+: (view t.after).index ∧ (view t.after).index <+: (view final).index := by
  refine hrun.related_of_mem (fun s s' => (view s).index <+: (view s').index) (fun _ => List.prefix_rfl)
    (fun _ _ _ => List.IsPrefix.trans) ?_ ht
  intro s e s' h
  rw [hstep s e s' h]
  exact FlagIndex.prefix_tombstoned (view s) (op e)

/-- A compacted index reflects the operations, and is the list of members. -/
theorem Run.compacted (view : σ → FlagIndex α) (hrun : Run step start history final)
    (hstart : view start = ⟨Storage.empty, []⟩)
    (hstep : ∀ s e s', step s e s' → view s' = (view s).compacted (op e)) :
    (view final).Reflects (registryLog op history) ∧ (view final).Tight := by
  induction hrun with
  | nil =>
    rw [hstart]
    exact ⟨FlagIndex.reflects_nil, fun a h => absurd h List.not_mem_nil⟩
  | @snoc history s e s' _ hlast ih =>
    obtain ⟨hreflects, htight⟩ := ih
    rw [registryLog_snoc, hstep s e s' hlast]
    exact ⟨hreflects.compacted htight (op e), htight.compacted (op e)⟩

end Runs

end StellarDidCredit
