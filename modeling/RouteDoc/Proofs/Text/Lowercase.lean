import RouteDoc.Text.Lowercase

namespace RouteDoc.Text

/-- All runs of the case table lead to codes beyond that of the dot. -/
theorem dot_lt_of_mem_lowerRuns : ∀ run ∈ lowerRuns, (46 : Int) < run.first + run.offset := by
  decide +kernel

theorem ofNat_ne_dot {code : Nat} (h : code ≠ 46) : Char.ofNat code ≠ '.' := by
  intro he
  by_cases hv : code.isValidChar
  · rw [Char.ofNat, dif_pos hv] at he
    exact h (congrArg Char.toNat he)
  · rw [Char.ofNat, dif_neg hv] at he
    exact absurd he (by decide)

theorem dot_of_mem_lowerChar {c : Char} (h : '.' ∈ lowerChar c) : c = '.' := by
  unfold lowerChar at h
  split at h
  · have hlower : c.toLower = '.' := (List.mem_singleton.mp h).symm
    unfold Char.toLower at hlower
    split at hlower
    · rename_i hrange
      have hlow : 65 ≤ c.val.toNat := hrange.1
      have hhigh : c.val.toNat ≤ 90 := hrange.2
      have hcode : (c.val + 32).toNat = 46 := congrArg Char.toNat hlower
      rw [UInt32.toNat_add, show (32 : UInt32).toNat = 32 from rfl] at hcode
      omega
    · exact hlower
  split at h
  · exact absurd h (by decide)
  split at h
  · rename_i run hfind
    have hrun := dot_lt_of_mem_lowerRuns run (List.mem_of_find?_eq_some hfind)
    have hcontains := List.find?_some hfind
    have hfirst : run.first ≤ c.toNat := (of_decide_eq_true hcontains).1
    refine absurd (List.mem_singleton.mp h).symm (ofNat_ne_dot ?_)
    omega
  · exact (List.mem_singleton.mp h).symm

theorem dot_mem_of_lowerFrom {before text : List Char} (h : '.' ∈ lowerFrom before text) :
    '.' ∈ text := by
  induction text generalizing before with
  | nil => cases h
  | cons c rest ih =>
    rw [lowerFrom] at h
    rcases List.mem_append.mp h with h | h
    · refine List.mem_cons.mpr (Or.inl ?_)
      split at h
      · split at h <;> cases List.mem_singleton.mp h
      · exact (dot_of_mem_lowerChar h).symm
    · exact List.mem_cons_of_mem _ (ih h)

theorem dot_not_mem_lower {text : String} (h : '.' ∉ text.toList) :
    '.' ∉ (lower text).toList := by
  rw [lower, String.toList_ofList]
  exact fun hm => h (dot_mem_of_lowerFrom hm)

end RouteDoc.Text
