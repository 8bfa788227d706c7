import RouteDoc.Text.Lowercase
import RouteDoc.Text.Percent

namespace RouteDoc.Text

theorem lowerFrom_of_ascii (before : List Char) {text : List Char}
    (h : ∀ c ∈ text, c.toNat < 128) : lowerFrom before text = text.map Char.toLower := by
  induction text generalizing before with
  | nil => rfl
  | cons c rest ih =>
    have hc : c.toNat < 128 := h c List.mem_cons_self
    have hsigma : c ≠ 'Σ' := by
      rintro rfl
      exact absurd hc (by decide)
    rw [lowerFrom, if_neg hsigma, lowerChar, if_pos hc,
      ih (c :: before) fun d hd => h d (List.mem_cons_of_mem _ hd)]
    rfl

/-- Only ASCII characters have an ASCII lower case. -/
theorem ascii_of_toLower {c : Char} (h : c.toLower.toNat < 128) : c.toNat < 128 := by
  unfold Char.toLower at h
  split at h
  · rename_i hr
    have hz : c.toNat ≤ 90 := hr.2
    omega
  · exact h

theorem toList_toLower (text : String) : text.toLower.toList = text.toList.map Char.toLower :=
  String.toList_map

/-- A text that is an ASCII word up to ASCII case has this word as its lower case. -/
theorem lower_eq_of_toLower {text word : String} (hw : ∀ c ∈ word.toList, c.toNat < 128)
    (h : text.toLower = word) : lower text = word := by
  have hmap : word.toList = text.toList.map Char.toLower := by
    rw [← h, toList_toLower]
  have htext : ∀ c ∈ text.toList, c.toNat < 128 := by
    intro c hc
    refine ascii_of_toLower (hw c.toLower ?_)
    rw [hmap]
    exact List.mem_map_of_mem hc
  rw [lower, lowerFrom_of_ascii [] htext, ← hmap, String.ofList_toList]

theorem toNat_of_isUpper {c : Char} (h : c.isUpper) : 65 ≤ c.toNat ∧ c.toNat ≤ 90 :=
  of_decide_eq_true h

theorem toNat_of_isLower {c : Char} (h : c.isLower) : 97 ≤ c.toNat ∧ c.toNat ≤ 122 := by
  obtain ⟨hlow, hhigh⟩ := (Bool.and_eq_true _ _).mp h
  exact ⟨of_decide_eq_true hlow, of_decide_eq_true hhigh⟩

theorem toNat_of_isDigit {c : Char} (h : c.isDigit) : 48 ≤ c.toNat ∧ c.toNat ≤ 57 := by
  obtain ⟨hlow, hhigh⟩ := (Bool.and_eq_true _ _).mp h
  exact ⟨of_decide_eq_true hlow, of_decide_eq_true hhigh⟩

/-- A number is written in digits. -/
theorem isDigit_of_mem_toString {index : Nat} {c : Char} (h : c ∈ (toString index).toList) :
    c.isDigit := by
  refine Nat.isDigit_of_mem_toDigits (b := 10) (n := index) (by decide) (by decide) ?_
  simpa using h

/-- The digits of a number stand for it. -/
theorem natOfDigits_toString (index : Nat) : natOfDigits (toString index).toList = index := by
  have hdigits : (toString index).toList = Nat.toDigits 10 index := by simp
  rw [hdigits]
  exact Nat.ofDigitChars_ten_toDigits

/-- An ASCII character is encoded as the one byte of its code. -/
theorem bytes_singleton {c : Char} (h : c.toNat < 128) :
    (String.singleton c).toUTF8.toList.map UInt8.toNat = [c.toNat] := by
  have hsize : c.utf8Size = 1 := Char.utf8Size_eq_one_iff.mpr (Nat.le_of_lt_succ h)
  have hbytes : (String.singleton c).toUTF8 = ⟨#[c.val.toUInt8]⟩ := by
    rw [String.singleton_eq_ofList, String.toUTF8, String.toByteArray_ofList, List.utf8Encode,
      List.flatMap_singleton, String.utf8EncodeChar_eq_singleton hsize]
    rfl
  have hcode : c.val.toUInt8.toNat = c.toNat := by
    rw [UInt32.toNat_toUInt8]
    exact Nat.mod_eq_of_lt (Nat.lt_trans h (by decide))
  rw [hbytes]
  simpa [ByteArray.toList, ByteArray.toList.loop, ByteArray.size, ByteArray.get!] using hcode

theorem Percent.bytesFrom_of_ascii {text : List Char} (h : ∀ c ∈ text, c.toNat < 128 ∧ c ≠ '%') :
    bytesFrom text = text.map Char.toNat := by
  induction text with
  | nil => rfl
  | cons c rest ih =>
    obtain ⟨hc, hp⟩ := h c List.mem_cons_self
    have hstep : bytesFrom (c :: rest) =
        (String.singleton c).toUTF8.toList.map UInt8.toNat ++ bytesFrom rest := by
      rw [bytesFrom.eq_2]
      rintro high low tail he
      cases he
      exact absurd rfl hp
    rw [hstep, bytes_singleton hc, ih fun d hd => h d (List.mem_cons_of_mem _ hd)]
    rfl

theorem Utf8.chars_of_ascii {text : List Char} (h : ∀ c ∈ text, c.toNat < 128) :
    chars text.length (text.map Char.toNat) = text.map some := by
  induction text with
  | nil => rfl
  | cons c rest ih =>
    have hc : step c.toNat (rest.map Char.toNat) = (some c, rest.map Char.toNat) := by
      unfold step
      rw [if_pos (h c List.mem_cons_self), Char.ofNat_toNat]
    rw [List.map_cons, List.length_cons, chars, hc]
    dsimp only
    rw [ih fun d hd => h d (List.mem_cons_of_mem _ hd)]
    rfl

/-- Codes of ASCII characters are read as these characters. -/
theorem Utf8.decode?_of_ascii {text : List Char} (h : ∀ c ∈ text, c.toNat < 128) :
    decode? (text.map Char.toNat) = some (String.ofList text) := by
  have hall : (text.map some).mapM id = some text := by
    clear h
    induction text with
    | nil => rfl
    | cons c rest ih => simp [ih]
  rw [decode?, List.length_map, chars_of_ascii h, hall]
  rfl

end RouteDoc.Text
