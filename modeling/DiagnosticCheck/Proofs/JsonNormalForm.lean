import DiagnosticCheck.Discrepancy
import Mathlib

/-!
# The normal form of a JSON witness

A discrepancy keeps its witness normalised: the members of every object sorted by key. Normalising
keeps the value. It only reorders the members of objects, at any depth (`Json.Rearranged`), and
its result has the keys of every object in ascending code point order (`Json.KeysSorted`). A
value whose keys are sorted so is its own normal form, hence normalising twice is normalising
once. Every JSON value, given as loaded data, passes the check that a witness is JSON, so a
discrepancy accepts any JSON witness and stores its normal form (`normalize_keeps_value`).

The sort is stable and compares keys only; the proofs rest on the library's facts about merge
sort: it permutes, its result is sorted, and it leaves a sorted list alone.
-/

namespace DiagnosticCheck

namespace Json

mutual

def KeysSorted : Json → Prop
  | .arr items => KeysSortedList items
  | .obj members => (members.map Prod.fst).Pairwise (· ≤ ·) ∧ KeysSortedMembers members
  | _ => True

def KeysSortedList : List Json → Prop
  | [] => True
  | v :: vs => KeysSorted v ∧ KeysSortedList vs

def KeysSortedMembers : List (String × Json) → Prop
  | [] => True
  | (_, v) :: rest => KeysSorted v ∧ KeysSortedMembers rest

end

mutual

def Rearranged : Json → Json → Prop
  | .arr xs, .arr ys => RearrangedList xs ys
  | .obj ms, .obj ns => ∃ ms', RearrangedMembers ms ms' ∧ ms'.Perm ns
  | v, w => v = w

def RearrangedList : List Json → List Json → Prop
  | [], [] => True
  | x :: xs, y :: ys => Rearranged x y ∧ RearrangedList xs ys
  | _, _ => False

/-- Two lists of members with the same keys in the same order, each value rearranged from the
other's. -/
def RearrangedMembers : List (String × Json) → List (String × Json) → Prop
  | [], [] => True
  | (k, v) :: ms, (k', w) :: ns => k = k' ∧ Rearranged v w ∧ RearrangedMembers ms ns
  | _, _ => False

end

mutual

/-- A JSON value as loaded data: arrays as lists, objects as mappings with text keys. -/
def toData : Json → Data
  | .null => .null
  | .bool b => .bool b
  | .int n => .int n
  | .float f => .float f
  | .str s => .str s
  | .arr items => .list (listToData items)
  | .obj members => .map (membersToData members)

def listToData : List Json → List Data
  | [] => []
  | v :: vs => v.toData :: listToData vs

def membersToData : List (String × Json) → List (Data × Data)
  | [] => []
  | (k, v) :: rest => (.str k, v.toData) :: membersToData rest

end

section Lists

@[simp] lemma keysSortedList_iff (vs : List Json) :
    KeysSortedList vs ↔ ∀ v ∈ vs, KeysSorted v := by
  induction vs with
  | nil => simp [KeysSortedList]
  | cons v vs ih => simp [KeysSortedList, ih]

@[simp] lemma keysSortedMembers_iff (ms : List (String × Json)) :
    KeysSortedMembers ms ↔ ∀ m ∈ ms, KeysSorted m.2 := by
  induction ms with
  | nil => simp [KeysSortedMembers]
  | cons m ms ih => simp [KeysSortedMembers, ih]

end Lists

section Sorting

/-- Sorting only reorders the members. -/
lemma sortMembers_perm (ms : List (String × Json)) : (sortMembers ms).Perm ms :=
  List.mergeSort_perm _ _

lemma keys_sortMembers (ms : List (String × Json)) :
    ((sortMembers ms).map Prod.fst).Pairwise (· ≤ ·) := by
  have hsorted : (sortMembers ms).Pairwise fun a b => decide (a.1 ≤ b.1) = true :=
    List.pairwise_mergeSort
      (fun a b c hab hbc => by simpa using String.le_trans (by simpa using hab) (by simpa using hbc))
      (fun a b => by simpa using String.le_total a.1 b.1) ms
  rw [List.pairwise_map]
  exact hsorted.imp fun h => by simpa using h

lemma sortMembers_of_keys {ms : List (String × Json)} (h : (ms.map Prod.fst).Pairwise (· ≤ ·)) :
    sortMembers ms = ms :=
  List.mergeSort_of_pairwise ((List.pairwise_map.1 h).imp fun h => by simpa using h)

end Sorting

/-! The recursions below run over a value, its items and its members together, as `normalize`
does. -/

mutual

/-- A normal form has the keys of every object sorted. -/
theorem keysSorted_normalize : (v : Json) → (normalize v).KeysSorted
  | .null | .bool _ | .int _ | .float _ | .str _ => trivial
  | .arr items => by
    have h := keysSortedList_normalizeList items
    simpa [normalize, KeysSorted] using h
  | .obj members => by
    have h := keysSortedMembers_normalizeMembers members
    rw [keysSortedMembers_iff] at h
    simp only [normalize, KeysSorted, keysSortedMembers_iff]
    exact ⟨keys_sortMembers _, fun m hm => h m ((sortMembers_perm _).subset hm)⟩

theorem keysSortedList_normalizeList : (vs : List Json) → KeysSortedList (normalizeList vs)
  | [] => trivial
  | v :: vs => ⟨keysSorted_normalize v, keysSortedList_normalizeList vs⟩

theorem keysSortedMembers_normalizeMembers :
    (ms : List (String × Json)) → KeysSortedMembers (normalizeMembers ms)
  | [] => trivial
  | (_, v) :: rest => ⟨keysSorted_normalize v, keysSortedMembers_normalizeMembers rest⟩

end

mutual

/-- A value with the keys of every object sorted is its own normal form. -/
theorem normalize_of_keysSorted : (v : Json) → v.KeysSorted → normalize v = v
  | .null, _ | .bool _, _ | .int _, _ | .float _, _ | .str _, _ => rfl
  | .arr items, h => by
    rw [normalize, normalizeList_of_keysSorted items h]
  | .obj members, ⟨hkeys, h⟩ => by
    rw [normalize, normalizeMembers_of_keysSorted members h, sortMembers_of_keys hkeys]

theorem normalizeList_of_keysSorted :
    (vs : List Json) → KeysSortedList vs → normalizeList vs = vs
  | [], _ => rfl
  | v :: vs, ⟨hv, hvs⟩ => by
    rw [normalizeList, normalize_of_keysSorted v hv, normalizeList_of_keysSorted vs hvs]

theorem normalizeMembers_of_keysSorted :
    (ms : List (String × Json)) → KeysSortedMembers ms → normalizeMembers ms = ms
  | [], _ => rfl
  | (k, v) :: rest, ⟨hv, hrest⟩ => by
    rw [normalizeMembers, normalize_of_keysSorted v hv, normalizeMembers_of_keysSorted rest hrest]

end

/-- Normalising twice is normalising once. -/
theorem normalize_normalize (v : Json) : normalize (normalize v) = normalize v :=
  normalize_of_keysSorted _ (keysSorted_normalize v)

mutual

/-- Normalising only reorders the members of objects. -/
theorem rearranged_normalize : (v : Json) → Rearranged v (normalize v)
  | .null | .bool _ | .int _ | .float _ | .str _ => rfl
  | .arr items => by
    rw [normalize, Rearranged]
    exact rearrangedList_normalizeList items
  | .obj members => by
    rw [normalize, Rearranged]
    exact ⟨_, rearrangedMembers_normalizeMembers members, (sortMembers_perm _).symm⟩

theorem rearrangedList_normalizeList : (vs : List Json) → RearrangedList vs (normalizeList vs)
  | [] => trivial
  | v :: vs => ⟨rearranged_normalize v, rearrangedList_normalizeList vs⟩

theorem rearrangedMembers_normalizeMembers :
    (ms : List (String × Json)) → RearrangedMembers ms (normalizeMembers ms)
  | [] => trivial
  | (_, v) :: rest => ⟨rfl, rearranged_normalize v, rearrangedMembers_normalizeMembers rest⟩

end

mutual

/-- A JSON value given as loaded data passes the check that a witness is JSON, unchanged. -/
theorem toJson?_toData : (v : Json) → v.toData.toJson? = .ok v
  | .null | .bool _ | .int _ | .float _ | .str _ => rfl
  | .arr items => by
    rw [toData, Data.toJson?, listToJson?_listToData items]
    rfl
  | .obj members => by
    rw [toData, Data.toJson?, membersToJson?_membersToData members]
    rfl

theorem listToJson?_listToData : (vs : List Json) → Data.listToJson? (listToData vs) = .ok vs
  | [] => rfl
  | v :: vs => by
    rw [listToData, Data.listToJson?, toJson?_toData v, listToJson?_listToData vs]
    rfl

theorem membersToJson?_membersToData :
    (ms : List (String × Json)) → Data.membersToJson? (membersToData ms) = .ok ms
  | [] => rfl
  | (k, v) :: rest => by
    rw [membersToData, Data.membersToJson?, toJson?_toData v, membersToJson?_membersToData rest]
    rfl

end

end Json

namespace Discrepancy

/-- The witness never decides whether a discrepancy is made: one made with a witness is the one
made without, holding the witness's normal form. -/
lemma make?_some_witness (kind : Kind) (message : String) (file : Option String)
    (line : Option Nat) (w : Json) :
    make? kind message file line (some w) =
      (make? kind message file line none).map fun d => { d with witness := some w.normalize } := by
  unfold make?
  split_ifs <;> rfl

end Discrepancy

/-- Every JSON value, given as loaded data, passes the check that a witness is JSON and normalises
to the same value with the members of its objects, at any depth, only reordered, and with the
keys of every object ascending. Normalising again changes nothing, and a discrepancy made with
the value as witness is the one made without, holding the normal form. -/
theorem normalize_keeps_value (v : Json) :
    v.toData.toJson?.map Json.normalize = .ok v.normalize ∧
    v.Rearranged v.normalize ∧ v.normalize.KeysSorted ∧ v.normalize.normalize = v.normalize ∧
    ∀ kind message file line, Discrepancy.make? kind message file line (some v) =
      (Discrepancy.make? kind message file line none).map
        fun d => { d with witness := some v.normalize } := by
  refine ⟨?_, Json.rearranged_normalize v, Json.keysSorted_normalize v,
    Json.normalize_normalize v,
    fun kind message file line => Discrepancy.make?_some_witness kind message file line v⟩
  rw [Json.toJson?_toData]
  rfl

end DiagnosticCheck
