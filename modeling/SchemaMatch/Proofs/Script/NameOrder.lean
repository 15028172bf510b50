import Mathlib.Data.List.Forall2
import Mathlib.Data.List.Perm.Basic
import SchemaMatch.Proofs.Value.Reordering
import SchemaMatch.Script.Value

/-!
Contract: fields in the order of their names.

Owns:
- the order of fields by name, which sorts them as they stand;
- that insertion into sorted entries, which scripts build maps by, comes to the same if no name
  occurs twice;
- the reading of all fields of a row, which does not see their order.

Does not own: what the fields hold.
-/

namespace SchemaMatch.Fields

variable {α : Type}

/-- The fields in the order of their names. -/
def inOrder (fields : List (String × α)) : List (String × α) :=
  fields.mergeSort fun field other => decide (field.1 ≤ other.1)

/-- The names ascend, so none of them occurs twice. -/
def Ascending (fields : List (String × α)) : Prop :=
  fields.Pairwise fun field other => field.1 < other.1

theorem inOrder_perm (fields : List (String × α)) : (inOrder fields).Perm fields :=
  List.mergeSort_perm _ _

theorem nodup_keys_inOrder {fields : List (String × α)} (unique : (keys fields).Nodup) :
    (keys (inOrder fields)).Nodup :=
  ((inOrder_perm fields).map Prod.fst).nodup_iff.mpr unique

theorem lt_of_le_of_ne {left right : String} (le : left ≤ right) (different : left ≠ right) :
    left < right := by
  apply Decidable.byContradiction
  intro notLess
  exact different (String.le_antisymm le (String.not_lt.mp notLess))

theorem ascending_inOrder {fields : List (String × α)} (unique : (keys fields).Nodup) :
    Ascending (inOrder fields) := by
  have sorted : (inOrder fields).Pairwise fun field other => field.1 ≤ other.1 := by
    refine (List.pairwise_mergeSort ?_ ?_ fields).imp of_decide_eq_true
    · intro first second third
      simp only [decide_eq_true_eq]
      exact String.le_trans
    · intro field other
      rw [Bool.or_eq_true, decide_eq_true_eq, decide_eq_true_eq]
      exact String.le_total field.1 other.1
  have different : (inOrder fields).Pairwise fun field other => field.1 ≠ other.1 :=
    List.pairwise_map.mp (nodup_keys_inOrder unique)
  exact (sorted.and different).imp fun both => lt_of_le_of_ne both.1 both.2

/-- There is one way to put fields in order. -/
theorem eq_inOrder_of_perm {entries fields : List (String × α)} (unique : (keys fields).Nodup)
    (ascending : Ascending entries) (perm : entries.Perm fields) : entries = inOrder fields := by
  refine List.Perm.eq_of_pairwise ?_ ascending (ascending_inOrder unique)
    (perm.trans (inOrder_perm fields).symm)
  intro field other _ _ less greater
  exact absurd (String.lt_trans less greater) (String.lt_irrefl field.1)

theorem inOrder_inOrder {fields : List (String × α)} (unique : (keys fields).Nodup) :
    inOrder (inOrder fields) = inOrder fields :=
  (eq_inOrder_of_perm (nodup_keys_inOrder unique) (ascending_inOrder unique) (.refl _)).symm

/-! ## Sorted insertion -/

open ScriptValue (insertSorted)

/-- A new name goes in front of the first greater one. -/
theorem insertSorted_perm {key : String} {entries : List (String × α)} (value : α)
    (isNew : key ∉ keys entries) :
    (insertSorted key value entries).Perm ((key, value) :: entries) := by
  induction entries with
  | nil => exact .refl _
  | cons entry rest inductionHypothesis =>
      rw [keys_cons, List.mem_cons, not_or] at isNew
      rw [insertSorted, if_neg isNew.1]
      split
      · exact .refl _
      · exact ((inductionHypothesis isNew.2).cons entry).trans (.swap _ _ _)

theorem ascending_insertSorted {key : String} {entries : List (String × α)} (value : α)
    (isNew : key ∉ keys entries) (ascending : Ascending entries) :
    Ascending (insertSorted key value entries) := by
  induction entries with
  | nil => exact List.pairwise_singleton _ _
  | cons entry rest inductionHypothesis =>
      obtain ⟨before, ascendingRest⟩ := List.pairwise_cons.mp ascending
      rw [keys_cons, List.mem_cons, not_or] at isNew
      rw [insertSorted, if_neg isNew.1]
      split
      next less =>
        refine List.pairwise_cons.mpr ⟨?_, ascending⟩
        intro other member
        rcases List.mem_cons.mp member with rfl | later
        · exact less
        · exact String.lt_trans less (before other later)
      next notLess =>
        have greater : entry.1 < key :=
          lt_of_le_of_ne (String.not_lt.mp notLess) (Ne.symm isNew.1)
        refine List.pairwise_cons.mpr ⟨?_, inductionHypothesis isNew.2 ascendingRest⟩
        intro other member
        rcases List.mem_cons.mp ((insertSorted_perm value isNew.2).mem_iff.mp member) with
          rfl | later
        · exact greater
        · exact before other later

/-- Inserting fields one after the other puts them in order. -/
theorem foldl_insertSorted {fields : List (String × α)} (unique : (keys fields).Nodup) :
    fields.foldl (fun entries field => insertSorted field.1 field.2 entries) [] =
      inOrder fields := by
  have collect : ∀ entries rest : List (String × α), Ascending entries →
      (keys (entries ++ rest)).Nodup →
      Ascending (rest.foldl (fun entries field => insertSorted field.1 field.2 entries) entries) ∧
        (rest.foldl (fun entries field => insertSorted field.1 field.2 entries) entries).Perm
          (entries ++ rest) := by
    intro entries rest
    induction rest generalizing entries with
    | nil => exact fun ascending _ => ⟨ascending, by simp⟩
    | cons field rest inductionHypothesis =>
        intro ascending unique
        have isNew : field.1 ∉ keys entries := by
          rw [keys, List.map_append, List.nodup_append] at unique
          exact fun isOld => unique.2.2 field.1 isOld field.1 List.mem_cons_self rfl
        have moved : (insertSorted field.1 field.2 entries ++ rest).Perm
            (entries ++ field :: rest) :=
          ((insertSorted_perm field.2 isNew).append_right rest).trans List.perm_middle.symm
        obtain ⟨ascendingLater, perm⟩ :=
          inductionHypothesis (insertSorted field.1 field.2 entries)
            (ascending_insertSorted field.2 isNew ascending)
            ((moved.map Prod.fst).nodup_iff.mpr unique)
        exact ⟨ascendingLater, perm.trans moved⟩
  obtain ⟨ascending, perm⟩ := collect [] fields List.Pairwise.nil unique
  exact eq_inOrder_of_perm unique ascending perm

/-! ## Reading fields -/

section Reading

variable {β ε : Type}

/-- Read what is under each name. -/
def readAll (read : α → Except ε β) : List (String × α) → Except ε (List (String × β))
  | [] => .ok []
  | (key, value) :: rest => do
      let result ← read value
      return (key, result) :: (← readAll read rest)

/-- A field is read as a result under the same name. -/
def ReadAs (read : α → Except ε β) (field : String × α) (result : String × β) : Prop :=
  field.1 = result.1 ∧ read field.2 = .ok result.2

variable {read : α → Except ε β} {fields : List (String × α)} {results : List (String × β)}

theorem keys_of_readAs (pairs : List.Forall₂ (ReadAs read) fields results) :
    keys fields = keys results := by
  induction pairs with
  | nil => rfl
  | cons isRead _ inductionHypothesis =>
      rw [keys_cons, keys_cons, isRead.1, inductionHypothesis]

theorem readAll_eq_ok_iff :
    readAll read fields = .ok results ↔ List.Forall₂ (ReadAs read) fields results := by
  induction fields generalizing results with
  | nil =>
      constructor
      · intro isRead
        cases isRead
        exact .nil
      · rintro ⟨⟩
        rfl
  | cons field rest inductionHypothesis =>
      obtain ⟨key, value⟩ := field
      rw [readAll, bind_eq_ok_iff]
      constructor
      · rintro ⟨result, isRead, finish⟩
        obtain ⟨others, restRead, same⟩ := bind_eq_ok_iff.mp finish
        cases same
        exact .cons ⟨rfl, isRead⟩ (inductionHypothesis.mp restRead)
      · intro pairs
        cases pairs with
        | @cons _ result _ others isRead restRead =>
            obtain ⟨name, result⟩ := result
            obtain ⟨rfl, isRead⟩ := isRead
            exact ⟨result, isRead,
              bind_eq_ok_iff.mpr ⟨others, inductionHypothesis.mpr restRead, rfl⟩⟩

/-- Fields in order are read as the results in order. -/
theorem readAll_inOrder (unique : (keys fields).Nodup)
    (isRead : readAll read fields = .ok results) :
    readAll read (inOrder fields) = .ok (inOrder results) := by
  have pairs := readAll_eq_ok_iff.mp isRead
  obtain ⟨sorted, sortedPairs, perm⟩ := List.perm_comp_forall₂ (inOrder_perm fields) pairs
  have uniqueResults : (keys results).Nodup := by rwa [← keys_of_readAs pairs]
  have ascending : Ascending sorted := by
    have names : (keys (inOrder fields)).Pairwise (· < ·) :=
      List.pairwise_map.mpr (ascending_inOrder unique)
    rw [keys_of_readAs sortedPairs] at names
    exact List.pairwise_map.mp names
  rw [← eq_inOrder_of_perm uniqueResults ascending perm]
  exact readAll_eq_ok_iff.mpr sortedPairs

end Reading

end SchemaMatch.Fields
