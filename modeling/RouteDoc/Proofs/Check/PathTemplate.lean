import Mathlib.Data.List.Forall2
import Mathlib.Data.List.TakeDrop
import Mathlib.Data.List.TakeWhile
import RouteDoc.Check.PathTemplate

namespace RouteDoc.Check

/-- A name in braces and the literal behind it. A literal may close braces, but opens none. -/
structure TemplateGroup where
  name : String
  literal : String
  not_opening_mem_name : '\x7b' ∉ name.toList
  not_closing_mem_name : '\x7d' ∉ name.toList
  not_opening_mem_literal : '\x7b' ∉ literal.toList

/-- A literal and the groups behind it. -/
structure PathTemplate where
  lead : String
  groups : List TemplateGroup
  not_opening_mem_lead : '\x7b' ∉ lead.toList

def TemplateGroup.text (group : TemplateGroup) : String :=
  "\x7b" ++ group.name ++ "\x7d" ++ group.literal

namespace PathTemplate

def path (template : PathTemplate) : String :=
  template.lead ++ String.join (template.groups.map TemplateGroup.text)

/-- The names in their order, as often as they stand in the path. -/
def names (template : PathTemplate) : List String := template.groups.map TemplateGroup.name

end PathTemplate

/-- The text begins with the name and a closing brace, the first of its braces. -/
def Closes (text name : List Char) : Prop :=
  '\x7b' ∉ name ∧ '\x7d' ∉ name ∧ ∃ after, text = name ++ '\x7d' :: after

/-- At this place of the path a brace opens that is closed before the next one opens, and the name
is the text up to the first closing brace. -/
def NamedAt (path : List Char) (place : Nat) (name : List Char) : Prop :=
  ∃ before text, path = before ++ '\x7b' :: text ∧ before.length = place ∧ Closes text name

section Reading

variable {c : Char} {text name literal : List Char} {place : Nat}

theorem ne_of_mem_text {mark : Char} (h : mark ∉ text) :
    ∀ c ∈ text, decide (c ≠ mark) = true := by
  intro c hc
  apply decide_eq_true
  exact ne_of_mem_of_not_mem hc h

theorem upToBrace?_append (h : '\x7d' ∉ name) (after : List Char) :
    upToBrace? (name ++ '\x7d' :: after) = some name := by
  have hname := ne_of_mem_text h
  rw [upToBrace?, List.span_eq_takeWhile_dropWhile, List.takeWhile_append_of_pos hname,
    List.dropWhile_append_of_pos hname]
  simp

theorem upToBrace?_eq_none (h : '\x7d' ∉ text) : upToBrace? text = none := by
  rw [upToBrace?, List.span_eq_takeWhile_dropWhile,
    List.dropWhile_eq_nil_iff.mpr (ne_of_mem_text h)]

theorem upToBrace?_eq_some_iff :
    upToBrace? text = some name ↔ '\x7d' ∉ name ∧ ∃ after, text = name ++ '\x7d' :: after := by
  constructor
  · intro h
    by_cases hm : '\x7d' ∈ text
    · obtain ⟨first, after, rfl, hf⟩ := List.eq_append_cons_of_mem hm
      rw [upToBrace?_append hf, Option.some.injEq] at h
      subst h
      exact ⟨hf, after, rfl⟩
    · rw [upToBrace?_eq_none hm] at h
      cases h
  · rintro ⟨h, after, rfl⟩
    exact upToBrace?_append h after

theorem not_mem_upToOpening (text : List Char) : '\x7b' ∉ upToOpening text := by
  intro hm
  have hkept := List.mem_takeWhile_imp hm
  simp at hkept

theorem upToOpening_append (h : '\x7b' ∉ literal) (rest : List Char) :
    upToOpening (literal ++ rest) = literal ++ upToOpening rest :=
  List.takeWhile_append_of_pos (ne_of_mem_text h)

/-- An opening brace gives a name exactly if it is closed before the next one opens. -/
theorem upToBrace?_upToOpening :
    upToBrace? (upToOpening text) = some name ↔ Closes text name := by
  constructor
  · intro h
    obtain ⟨hc, front, hf⟩ := upToBrace?_eq_some_iff.mp h
    have ho := not_mem_upToOpening text
    rw [hf, List.mem_append, not_or] at ho
    refine ⟨ho.1, hc, front ++ text.dropWhile (· ≠ '\x7b'), ?_⟩
    calc text = upToOpening text ++ text.dropWhile (· ≠ '\x7b') :=
          (List.takeWhile_append_dropWhile).symm
      _ = name ++ '\x7d' :: (front ++ text.dropWhile (· ≠ '\x7b')) := by simp [hf]
  · rintro ⟨ho, hc, after, rfl⟩
    have hclosing : upToOpening ('\x7d' :: after) = '\x7d' :: upToOpening after :=
      List.takeWhile_cons_of_pos (by decide)
    rw [upToOpening_append ho, hclosing]
    exact upToBrace?_append hc _

/-- A text without opening braces brings no names. -/
theorem templateNames_append (h : '\x7b' ∉ literal) (rest : List Char) :
    templateNames (literal ++ rest) = templateNames rest := by
  induction literal with
  | nil => rfl
  | cons c literal ih =>
    have hc : c ≠ '\x7b' := (List.ne_of_not_mem_cons h).symm
    rw [List.cons_append, templateNames, if_neg hc]
    exact ih (List.not_mem_of_not_mem_cons h)

theorem templateNames_of_closes (h : Closes text name) :
    templateNames ('\x7b' :: text) = name :: templateNames text := by
  rw [templateNames, if_pos rfl, upToBrace?_upToOpening.mpr h]
  rfl

theorem templateNames_of_not_closes (h : c = '\x7b' → ∀ name, ¬Closes text name) :
    templateNames (c :: text) = templateNames text := by
  rw [templateNames]
  split
  · rename_i hc
    have hnone : upToBrace? (upToOpening text) = none := by
      apply Option.eq_none_iff_forall_ne_some.mpr
      intro name hs
      exact h hc name (upToBrace?_upToOpening.mp hs)
    rw [hnone]
    rfl
  · rfl

theorem namedAt_zero : NamedAt (c :: text) 0 name ↔ c = '\x7b' ∧ Closes text name := by
  constructor
  · rintro ⟨before, after, he, hl, hc⟩
    obtain rfl := List.length_eq_zero_iff.mp hl
    obtain ⟨rfl, rfl⟩ := List.cons_eq_cons.mp he
    exact ⟨rfl, hc⟩
  · rintro ⟨rfl, hc⟩
    exact ⟨[], text, rfl, rfl, hc⟩

/-- What stands in front of a text only moves its names. -/
theorem namedAt_succ : NamedAt (c :: text) (place + 1) name ↔ NamedAt text place name := by
  constructor
  · rintro ⟨before, after, he, hl, hc⟩
    obtain ⟨first, before, rfl⟩ := List.exists_cons_of_length_eq_add_one hl
    obtain ⟨rfl, rfl⟩ := List.cons_eq_cons.mp he
    exact ⟨before, after, rfl, by simpa using hl, hc⟩
  · rintro ⟨before, after, rfl, rfl, hc⟩
    exact ⟨c :: before, after, rfl, rfl, hc⟩

theorem not_namedAt_nil : ¬NamedAt [] place name := by
  rintro ⟨before, after, he, _⟩
  simp at he

end Reading

/-- The places of a path at which names stand, in ascending order, and the names in the same
order. -/
structure Listed (path : List Char) (places : List Nat) (names : List (List Char)) : Prop where
  ascending : places.Pairwise (· < ·)
  mem_iff : ∀ place, place ∈ places ↔ ∃ name, NamedAt path place name
  named : List.Forall₂ (NamedAt path) places names

section Listing

variable {c : Char} {text name : List Char} {places : List Nat} {names : List (List Char)}

theorem listed_nil : Listed [] [] [] where
  ascending := .nil
  mem_iff := by simp [not_namedAt_nil]
  named := .nil

theorem pairwise_succ (h : places.Pairwise (· < ·)) :
    (places.map (· + 1)).Pairwise (· < ·) := by
  apply List.Pairwise.map (· + 1) _ h
  intro first second hlt
  omega

theorem forall₂_namedAt_succ (h : List.Forall₂ (NamedAt text) places names) :
    List.Forall₂ (NamedAt (c :: text)) (places.map (· + 1)) names := by
  rw [List.forall₂_map_left_iff]
  exact h.imp fun _ _ hn => namedAt_succ.mpr hn

/-- A character that opens no name moves the others by one. -/
theorem Listed.skip (h : Listed text places names) (hc : ∀ name, ¬NamedAt (c :: text) 0 name) :
    Listed (c :: text) (places.map (· + 1)) names where
  ascending := pairwise_succ h.ascending
  mem_iff := by
    intro place
    cases place with
    | zero => simp [hc]
    | succ place => simp [namedAt_succ, h.mem_iff]
  named := forall₂_namedAt_succ h.named

/-- An opening brace that is closed brings its name in front of the others. -/
theorem Listed.add (h : Listed text places names) (hc : NamedAt (c :: text) 0 name) :
    Listed (c :: text) (0 :: places.map (· + 1)) (name :: names) where
  ascending := by
    refine List.pairwise_cons.mpr ⟨?_, pairwise_succ h.ascending⟩
    intro place hm
    obtain ⟨before, _, rfl⟩ := List.mem_map.mp hm
    omega
  mem_iff := by
    intro place
    cases place with
    | zero => simpa using ⟨name, hc⟩
    | succ place => simp [namedAt_succ, h.mem_iff]
  named := .cons hc (forall₂_namedAt_succ h.named)

/-- The names that are read from a path are those that stand in it. -/
theorem exists_listed (path : List Char) : ∃ places, Listed path places (templateNames path) := by
  induction path with
  | nil => exact ⟨[], listed_nil⟩
  | cons c text ih =>
    obtain ⟨places, h⟩ := ih
    by_cases hn : ∃ name, NamedAt (c :: text) 0 name
    · obtain ⟨name, hn⟩ := hn
      obtain ⟨rfl, hc⟩ := namedAt_zero.mp hn
      rw [templateNames_of_closes hc]
      exact ⟨_, h.add hn⟩
    · rw [not_exists] at hn
      have hskip : templateNames (c :: text) = templateNames text := by
        apply templateNames_of_not_closes
        intro hc name hcloses
        exact hn name (namedAt_zero.mpr ⟨hc, hcloses⟩)
      rw [hskip]
      exact ⟨_, h.skip hn⟩

end Listing

namespace PathTemplate

/-- A group brings its name in front of those of the rest. -/
theorem templateNames_group (group : TemplateGroup) (rest : List Char) :
    templateNames (group.text.toList ++ rest) = group.name.toList :: templateNames rest := by
  have htext : group.text.toList ++ rest =
      '\x7b' :: (group.name.toList ++ '\x7d' :: (group.literal.toList ++ rest)) := by
    simp [TemplateGroup.text]
  have hcloses : Closes (group.name.toList ++ '\x7d' :: (group.literal.toList ++ rest))
      group.name.toList :=
    ⟨group.not_opening_mem_name, group.not_closing_mem_name, _, rfl⟩
  have hclosing : '\x7b' ∉ '\x7d' :: group.literal.toList := by
    simp [group.not_opening_mem_literal]
  calc templateNames (group.text.toList ++ rest)
      = group.name.toList ::
          templateNames (group.name.toList ++ ('\x7d' :: group.literal.toList ++ rest)) := by
        rw [htext, templateNames_of_closes hcloses]
        rfl
    _ = group.name.toList :: templateNames rest := by
        rw [templateNames_append group.not_opening_mem_name, templateNames_append hclosing]

theorem templateNames_groups (groups : List TemplateGroup) :
    templateNames (String.join (groups.map TemplateGroup.text)).toList =
      groups.map fun group => group.name.toList := by
  induction groups with
  | nil => rfl
  | cons group rest ih =>
    rw [List.map_cons, String.join_cons, String.toList_append, templateNames_group, ih,
      List.map_cons]

theorem templateParameters_path (template : PathTemplate) :
    templateParameters template.path = template.names := by
  rw [templateParameters, path, String.toList_append,
    templateNames_append template.not_opening_mem_lead, templateNames_groups, names, List.map_map]
  simp [Function.comp_def]

end PathTemplate

/-- The names of a template are read from its path, in their order and as often as they stand there.
From any path one name is read for each opening brace that is closed before the next one opens, from
left to right, and it is the text up to the first closing brace. -/
theorem templateParameters_exact :
    (∀ template : PathTemplate, templateParameters template.path = template.names) ∧
    ∀ path : String, ∃ places : List Nat, places.Pairwise (· < ·) ∧
      (∀ place, place ∈ places ↔ ∃ name, NamedAt path.toList place name) ∧
      List.Forall₂ (fun place name => NamedAt path.toList place name.toList) places
        (templateParameters path) := by
  refine ⟨PathTemplate.templateParameters_path, ?_⟩
  intro path
  obtain ⟨places, h⟩ := exists_listed path.toList
  refine ⟨places, h.ascending, h.mem_iff, ?_⟩
  rw [templateParameters, List.forall₂_map_right_iff]
  simpa using h.named

/-- A closing brace in a literal, an empty name and a name that stands twice. -/
def shopsTemplate : PathTemplate where
  lead := "/shops\x7d/"
  groups := [
    ⟨"id", "/\x7d", by decide, by decide, by decide⟩,
    ⟨"", "", by decide, by decide, by decide⟩,
    ⟨"id", "/", by decide, by decide, by decide⟩]
  not_opening_mem_lead := by decide

theorem templateParameters_exact_shops :
    shopsTemplate.path = "/shops\x7d/\x7bid\x7d/\x7d\x7b\x7d\x7bid\x7d/" ∧
    templateParameters shopsTemplate.path = ["id", "", "id"] ∧
    ∃ places : List Nat, places.Pairwise (· < ·) ∧
      List.Forall₂ (fun place name => NamedAt shopsTemplate.path.toList place name.toList) places
        ["id", "", "id"] := by
  obtain ⟨htemplates, hpaths⟩ := templateParameters_exact
  obtain ⟨places, hascending, _, hnamed⟩ := hpaths shopsTemplate.path
  have hnames : templateParameters shopsTemplate.path = ["id", "", "id"] :=
    htemplates shopsTemplate
  rw [hnames] at hnamed
  exact ⟨by decide +kernel, hnames, places, hascending, hnamed⟩

/-- A brace that opens again before it closes names nothing, nor does one that never closes. -/
example : templateParameters "/\x7bshop/\x7bid\x7d/\x7bitem" = ["id"] := by decide

end RouteDoc.Check
