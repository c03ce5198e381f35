import DualToolchain.Receipt.Reader
import Mathlib.Tactic.Common

/-! A receipt is read back from its own fields: every value that a receipt holds is already in the
form that its kind gives, and no default takes the place of a field. -/

namespace DualToolchain

namespace Checked

variable {α β : Type}

@[simp] theorem map_valid (f : α → β) (a : α) : f <$> (valid a : Checked α) = valid (f a) := rfl

@[simp] theorem seq_valid (f : α → β) (a : α) :
    (valid f : Checked (α → β)) <*> valid a = valid (f a) := rfl

@[simp] theorem below_valid (step : FieldStep) (a : α) : (valid a).below step = valid a := rfl

theorem items_map {kind : Json → Checked α} {write : α → Json}
    (h : ∀ a, kind (write a) = valid a) (i : Nat) (as : List α) :
    items kind i (as.map write) = valid as := by
  induction as generalizing i with
  | nil => rfl
  | cons a as ih => rw [List.map_cons, items, h, ih, below_valid, map_valid, seq_valid]

theorem list_map {kind : Json → Checked α} {write : α → Json}
    (h : ∀ a, kind (write a) = valid a) (as : List α) :
    list kind (.arr (as.map write)) = valid as :=
  items_map h 0 as

@[simp] theorem list_text_strings (ss : List String) : list text (.strings ss) = valid ss :=
  have h : ∀ s, text (.str s) = valid s := fun _ => rfl
  list_map h ss

@[simp] theorem orNull_text_ofText? (s : Option String) : orNull text (.ofText? s) = valid s := by
  cases s <;> rfl

@[simp] theorem orNull_int_ofInt? (n : Option Int) : orNull int (.ofInt? n) = valid n := by
  cases n <;> rfl

end Checked

open Checked

theorem InvocationRecord.ofJson_toJson (r : InvocationRecord) : ofJson r.toJson = .valid r := by
  simp [toJson, ofJson, required, Checked.optional, Json.get?, List.lookup_cons, int, text]

/-- A receipt is read back from its own object; no clock is read. -/
theorem Receipt.ofJson_toJson (now : String) (r : Receipt) : ofJson now r.toJson = .valid r := by
  simp [toJson, ofJson, required, Checked.optional, Json.get?, List.lookup_cons, int, text,
    Checked.bool, list_map InvocationRecord.ofJson_toJson]

end DualToolchain
