import RouteDoc.Proofs.Json.Order
import RouteDoc.Proofs.Schema.Relaxation

namespace RouteDoc.Schema

open Downgrade

/-- The keywords that bound a number. -/
def boundKeys : List String := sides.flatMap fun (flag, bound) => [flag, bound]

/-- The number satisfies the bounds of a schema. -/
def within (version : Version) (schema : Json) (n : Number) : Bool :=
  boundKeys.all fun key => (schema.get? key).all fun keyword =>
    holds version (membersOf schema) key keyword (.number n)

theorem within_iff {version : Version} {schema : Json} {n : Number} :
    within version schema n = true ↔ ∀ key ∈ boundKeys, ∀ keyword, schema.get? key = some keyword →
      holds version (membersOf schema) key keyword (.number n) = true := by
  simp only [within, List.all_eq_true, Option.all_eq_true]

/-- A plain bound admits less than the exclusive bound beside it. -/
inductive Outweighs (members : Entries Json) : String → Prop
  | minimum {bound limit : Number} : members.get? "minimum" = some (.number bound) →
      members.get? "exclusiveMinimum" = some (.number limit) → bound.order limit = .gt →
      Outweighs members "minimum"
  | maximum {bound limit : Number} : members.get? "maximum" = some (.number bound) →
      members.get? "exclusiveMaximum" = some (.number limit) → bound.order limit = .lt →
      Outweighs members "maximum"

section Side

variable {members : Entries Json} {n : Number} {flag bound : String} {strict : Ordering}
  {keyword : Json}

theorem side_minimum : Side "exclusiveMinimum" "minimum" .gt := ⟨rfl, rfl⟩

theorem side_maximum : Side "exclusiveMaximum" "maximum" .lt := ⟨rfl, rfl⟩

theorem holds_bound_iff {version : Version} {siblings : Entries Json} {limit : Number}
    (hside : Side flag bound strict) :
    holds version siblings bound (.number limit) (.number n) = true ↔
      n.order limit = strict ∨ n.order limit = .eq ∧ version.excludes siblings flag = false := by
  rw [hside.plain, bounded]
  cases version.excludes siblings flag <;> simp

theorem bound_mem_boundKeys (hs : (flag, bound) ∈ sides) : bound ∈ boundKeys :=
  List.mem_flatMap.mpr ⟨(flag, bound), hs, List.mem_cons_of_mem _ List.mem_cons_self⟩

/-- An exclusive bound is lowered to a plain one with a flag, which asks the same. -/
theorem order_of_lowered {limit : Number} (hs : (flag, bound) ∈ sides)
    (hside : Side flag bound strict) (hn : members.keys.Nodup)
    (h : within .openApi30 (downgrade (.object members)) n = true)
    (hf : members.get? flag = some (.number limit)) : n.order limit = strict := by
  have hbound : (downgrade (.object members)).get? bound = some (.number limit) := by
    have hafter : boundAfter members flag bound = some (.number limit) := by
      rw [boundAfter, hf]
      rfl
    exact (get?_bound_lowered hn hs).trans hafter
  have hflag : Version.excludes .openApi30 (membersOf (downgrade (.object members))) flag =
      true := by
    have hget : (membersOf (downgrade (.object members))).get? flag = some (.bool true) := by
      have hlowered := get?_flag_lowered hn hs
      rwa [hf] at hlowered
    rw [Version.excludes, hget]
    rfl
  have hheld := within_iff.mp h bound (bound_mem_boundKeys hs) _ hbound
  rcases (holds_bound_iff hside).mp hheld with hstrict | ⟨_, hnot⟩
  · exact hstrict
  · rw [hflag] at hnot
    cases hnot

theorem flag_of_lowered (hs : (flag, bound) ∈ sides) (hside : Side flag bound strict)
    (hn : members.keys.Nodup) (h : within .openApi30 (downgrade (.object members)) n = true)
    (hg : members.get? flag = some keyword) :
    holds .draft7 members flag keyword (.number n) = true := by
  rw [hside.flagged]
  cases keyword with
  | number limit =>
    rw [bounded, order_of_lowered hs hside hn h hg]
    exact List.contains_iff_mem.mpr List.mem_cons_self
  | _ => rfl

/-- A plain bound is kept, or an exclusive one that asks as much stands in its place. -/
theorem bound_of_lowered (hs : (flag, bound) ∈ sides) (hside : Side flag bound strict)
    (hstrict : strict ≠ .eq) (hn : members.keys.Nodup)
    (h : within .openApi30 (downgrade (.object members)) n = true)
    (hg : members.get? bound = some keyword)
    (hweak : ∀ limit plain, members.get? flag = some (.number limit) → keyword = .number plain →
      plain.order limit ≠ strict) :
    holds .draft7 members bound keyword (.number n) = true := by
  cases keyword with
  | number plain =>
    rw [holds_bound_iff hside]
    by_cases hlimit : ∃ limit, members.get? flag = some (.number limit)
    · obtain ⟨limit, hf⟩ := hlimit
      have horder := order_of_lowered hs hside hn h hf
      exact .inl (Number.order_eq_of_strict hstrict horder (hweak limit plain hf rfl))
    · have hnone : (members.get? flag).filter Json.isNumber = none := by
        cases hf : members.get? flag with
        | none => rfl
        | some value =>
          cases value with
          | number limit => exact absurd ⟨limit, hf⟩ hlimit
          | _ => rfl
      have hbound : (downgrade (.object members)).get? bound = some (.number plain) := by
        have hafter : boundAfter members flag bound = some (.number plain) := by
          rw [boundAfter, hnone, Option.none_or, hg]
        exact (get?_bound_lowered hn hs).trans hafter
      have hheld := within_iff.mp h bound (bound_mem_boundKeys hs) _ hbound
      rcases (holds_bound_iff hside).mp hheld with horder | ⟨horder, _⟩
      · exact .inl horder
      · exact .inr ⟨horder, rfl⟩
  | _ =>
    rw [hside.plain]
    rfl

/-- A number within the bounds of a lowered schema satisfies every bound of the schema, apart from a
plain bound that is stricter than the exclusive one on its side. -/
theorem holds_of_within_lowered {key : String} (hn : members.keys.Nodup)
    (h : within .openApi30 (downgrade (.object members)) n = true) (hk : key ∈ boundKeys)
    (hw : ¬Outweighs members key) (hg : members.get? key = some keyword) :
    holds .draft7 members key keyword (.number n) = true := by
  have hmin : ("exclusiveMinimum", "minimum") ∈ sides := by decide
  have hmax : ("exclusiveMaximum", "maximum") ∈ sides := by decide
  simp only [boundKeys, sides, List.flatMap_cons, List.flatMap_nil, List.cons_append,
    List.nil_append, List.mem_cons, List.not_mem_nil, or_false] at hk
  rcases hk with rfl | rfl | rfl | rfl
  · exact flag_of_lowered hmin side_minimum hn h hg
  · refine bound_of_lowered hmin side_minimum (by decide) hn h hg fun limit plain hf hplain ho => ?_
    exact hw (.minimum (hplain ▸ hg) hf ho)
  · exact flag_of_lowered hmax side_maximum hn h hg
  · refine bound_of_lowered hmax side_maximum (by decide) hn h hg fun limit plain hf hplain ho => ?_
    exact hw (.maximum (hplain ▸ hg) hf ho)

end Side

/-- The exclusive bound below is the stricter one, and only a plain one stands above. -/
def shareMembers : Entries Json := [
  ("minimum", .ofNat 0),
  ("exclusiveMinimum", .ofNat 0),
  ("maximum", .ofNat 100)]

theorem holds_of_within_lowered_share : shareMembers.keys.Nodup ∧
    within .openApi30 (downgrade (.object shareMembers)) (.integer 40) = true ∧
      "minimum" ∈ boundKeys ∧ ¬Outweighs shareMembers "minimum" ∧
        shareMembers.get? "minimum" = some (.ofNat 0) ∧
          holds .draft7 shareMembers "minimum" (.ofNat 0) (.number (.integer 40)) = true := by
  have hnot : ¬Outweighs shareMembers "minimum" := by
    intro h
    generalize hkey : "minimum" = key at h
    cases h with
    | minimum hbound hlimit horder =>
      cases hbound
      cases hlimit
      revert horder
      decide
    | maximum => exact absurd hkey (by decide)
  exact ⟨by decide, by decide, by decide, hnot, rfl,
    holds_of_within_lowered (by decide) (by decide) (by decide) hnot rfl⟩

/-- The plain bound below is the stricter one. -/
def priceMembers : Entries Json := [
  ("type", .string "integer"),
  ("minimum", .ofNat 5),
  ("exclusiveMinimum", .ofNat 1)]

/-- Lowering drops it, and the lowered schema takes numbers that the schema refused. -/
theorem within_lowered_price : priceMembers.keys.Nodup ∧
    (∀ key ∈ boundKeys, (priceMembers.get? key).all Json.isNumber = true) ∧
      within .openApi30 (downgrade (.object priceMembers)) (.integer 2) = true ∧
        within .draft7 (.object priceMembers) (.integer 2) = false := by
  decide

end RouteDoc.Schema
