import Mathlib.Logic.Basic
import RouteDoc.Text.Percent

namespace RouteDoc.Text.Percent

/-- An encoded byte stands in the text. -/
def HasByte (text : List Char) : Prop :=
  ∃ high low, isHex high ∧ isHex low ∧ ['%', high, low] <:+: text

/-- The text begins with an encoded byte. -/
def beginsWithByte : List Char → Bool
  | '%' :: high :: low :: _ => isHex high && isHex low
  | _ => false

theorem beginsWithByte_iff {text : List Char} : beginsWithByte text = true ↔
    ∃ high low, isHex high ∧ isHex low ∧ ['%', high, low] <+: text := by
  constructor
  · intro h
    unfold beginsWithByte at h
    split at h
    · rename_i high low rest
      obtain ⟨hh, hl⟩ := (Bool.and_eq_true _ _).mp h
      exact ⟨high, low, hh, hl, List.prefix_append _ rest⟩
    · cases h
  · rintro ⟨high, low, hh, hl, rest, rfl⟩
    exact (Bool.and_eq_true _ _).mpr ⟨hh, hl⟩

theorem hasByte_cons {c : Char} {rest : List Char} :
    HasByte (c :: rest) ↔ beginsWithByte (c :: rest) = true ∨ HasByte rest := by
  rw [beginsWithByte_iff]
  simp only [HasByte, List.infix_cons_iff, and_or_left, exists_or]

instance decidableHasByte : (text : List Char) → Decidable (HasByte text)
  | [] => isFalse fun ⟨_, _, _, _, h⟩ => List.cons_ne_nil _ _ (List.infix_nil.mp h)
  | _ :: rest =>
    have := decidableHasByte rest
    decidable_of_iff _ hasByte_cons.symm

/-- A character that begins no encoded byte stands for itself. -/
theorem decodeFrom_cons {c : Char} {rest : List Char} (h : beginsWithByte (c :: rest) = false) :
    decodeFrom [] (c :: rest) = c :: decodeFrom [] rest := by
  rw [decodeFrom.eq_def [] (c :: rest)]
  split
  · rename_i high low tail he
    cases he
    have hnone : byte? high low = none := by
      cases hh : hexValue? high <;> cases hl : hexValue? low <;>
        simp_all [beginsWithByte, isHex, byte?]
    rw [hnone]
    rfl
  · rename_i he
    cases he
    rfl
  · rename_i he
    cases he

/-- A text without encoded bytes is read as it is written. -/
theorem decodeFrom_of_not_hasByte {text : List Char} (h : ¬HasByte text) :
    decodeFrom [] text = text := by
  induction text with
  | nil => rfl
  | cons c rest ih =>
    rw [hasByte_cons, not_or, Bool.not_eq_true] at h
    rw [decodeFrom_cons h.1, ih h.2]

end RouteDoc.Text.Percent
