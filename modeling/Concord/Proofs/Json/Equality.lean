import Mathlib
import Concord.Json.Basic

/-!
# Equality of values

Values are compared as numbers, texts and containers. The comparison is an equivalence; it is not
identity, as the two zeros are equal.
-/

namespace Concord

theorem Binary64.same_self (x : Binary64) : x.same x = true := by
  simp [same]

theorem Binary64.same_comm (x y : Binary64) : x.same y = y.same x := by
  rw [Bool.eq_iff_iff]
  simp only [same, Bool.and_eq_true, Bool.or_eq_true, beq_iff_eq]
  grind

theorem Binary64.same_trans {x y z : Binary64} (hxy : x.same y) (hyz : y.same z) : x.same z := by
  simp only [same, Bool.and_eq_true, Bool.or_eq_true, beq_iff_eq] at *
  grind

theorem Number.same_self (number : Number) : number.same number = true := by
  cases number with
  | int value => exact beq_self_eq_true value
  | float x => exact x.same_self

theorem Number.same_comm (a b : Number) : a.same b = b.same a := by
  cases a <;> cases b <;> simp [same, Binary64.same_comm, Bool.beq_comm]

theorem Number.same_trans {a b c : Number} (hab : a.same b) (hbc : b.same c) : a.same c := by
  cases a with
  | int a =>
      cases b with
      | float b => cases hab
      | int b =>
          rw [eq_of_beq hab]
          exact hbc
  | float a =>
      cases b with
      | int b => cases hab
      | float b =>
          cases c with
          | int c => cases hbc
          | float c => exact Binary64.same_trans hab hbc

namespace Json

mutual

theorem same_self (value : Json) : value.same value = true := by
  match value with
  | .null => rfl
  | .bool b => exact beq_self_eq_true b
  | .number n => exact n.same_self
  | .str s => exact beq_self_eq_true s
  | .arr items => exact sameItems_self items
  | .obj fields => exact sameFields_self fields

theorem sameItems_self (items : List Json) : sameItems items items = true := by
  match items with
  | [] => rfl
  | item :: items => rw [sameItems, same_self item, sameItems_self items, Bool.true_and]

theorem sameFields_self (fields : List (String × Json)) : sameFields fields fields = true := by
  match fields with
  | [] => rfl
  | (name, value) :: fields =>
      rw [sameFields, same_self value, sameFields_self fields, beq_self_eq_true, Bool.true_and,
        Bool.true_and]

end

mutual

theorem same_comm (a b : Json) : a.same b = b.same a := by
  match a, b with
  | .null, b => cases b <;> rfl
  | .bool a, b =>
      cases b with
      | bool b => exact Bool.beq_comm
      | _ => rfl
  | .number a, b =>
      cases b with
      | number b => exact Number.same_comm a b
      | _ => rfl
  | .str a, b =>
      cases b with
      | str b => exact Bool.beq_comm
      | _ => rfl
  | .arr as, .arr bs => exact sameItems_comm as bs
  | .obj as, .obj bs => exact sameFields_comm as bs
  | .arr _, .null | .arr _, .bool _ | .arr _, .number _ | .arr _, .str _ | .arr _, .obj _ => rfl
  | .obj _, .null | .obj _, .bool _ | .obj _, .number _ | .obj _, .str _ | .obj _, .arr _ => rfl

theorem sameItems_comm (as bs : List Json) : sameItems as bs = sameItems bs as := by
  match as, bs with
  | [], [] => rfl
  | [], _ :: _ => rfl
  | _ :: _, [] => rfl
  | a :: as, b :: bs => rw [sameItems, sameItems, same_comm a b, sameItems_comm as bs]

theorem sameFields_comm (as bs : List (String × Json)) : sameFields as bs = sameFields bs as := by
  match as, bs with
  | [], [] => rfl
  | [], _ :: _ => rfl
  | _ :: _, [] => rfl
  | (i, a) :: as, (j, b) :: bs =>
      rw [sameFields, sameFields, same_comm a b, sameFields_comm as bs, @Bool.beq_comm _ _ _ i j]

end

mutual

theorem same_trans {a b c : Json} (hab : a.same b) (hbc : b.same c) : a.same c := by
  match a, b, c with
  | .null, .null, _ => exact hbc
  | .bool a, .bool b, _ =>
      rw [eq_of_beq (show (a == b) = true from hab)]
      exact hbc
  | .number a, .number b, .number c => exact Number.same_trans hab hbc
  | .str a, .str b, _ =>
      rw [eq_of_beq (show (a == b) = true from hab)]
      exact hbc
  | .arr as, .arr bs, .arr cs => exact sameItems_trans hab hbc
  | .obj as, .obj bs, .obj cs => exact sameFields_trans hab hbc

theorem sameItems_trans {as bs cs : List Json} (hab : sameItems as bs) (hbc : sameItems bs cs) :
    sameItems as cs := by
  match as, bs, cs with
  | [], [], _ => exact hbc
  | a :: as, b :: bs, c :: cs =>
      rw [sameItems, Bool.and_eq_true] at hab hbc ⊢
      exact ⟨same_trans hab.1 hbc.1, sameItems_trans hab.2 hbc.2⟩

theorem sameFields_trans {as bs cs : List (String × Json)} (hab : sameFields as bs)
    (hbc : sameFields bs cs) : sameFields as cs := by
  match as, bs, cs with
  | [], [], _ => exact hbc
  | (i, a) :: as, (j, b) :: bs, (k, c) :: cs =>
      rw [sameFields, Bool.and_eq_true, Bool.and_eq_true, beq_iff_eq] at hab hbc ⊢
      exact ⟨⟨hab.1.1.trans hbc.1.1, same_trans hab.1.2 hbc.1.2⟩, sameFields_trans hab.2 hbc.2⟩

end

end Json

end Concord
