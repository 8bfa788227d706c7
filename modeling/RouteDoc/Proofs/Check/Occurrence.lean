import RouteDoc.Proofs.Check.Walk
import RouteDoc.Proofs.Json.Precedence

namespace RouteDoc.Check

open Json (LeadsTo follow leadsTo_cons_iff)
open Json.Pointer (child ofPath read? read?_ofPath)
open Schema (nesting nesting_induction nesting_lt_items nesting_lt_members)

/-- An index is not the key of references. -/
theorem toString_ne_ref (index : Nat) : toString index ≠ "$ref" := by
  intro he
  have hdollar : '$' ∈ (toString index).toList := by
    rw [he]
    decide
  exact absurd (Text.isDigit_of_mem_toString hdollar) (by decide)

/-- What the walk meets in a child of the value at a location. -/
def referencesBelow (location : String) (entry : String × Json) : List (String × String) :=
  if entry.1 = "$ref" then
    (entry.2.asString?.map fun target => (child location entry.1, target)).toList
  else referencesAt (child location entry.1) entry.2

theorem referencesAt_eq (location : String) (value : Json) :
    referencesAt location value = value.children.flatMap (referencesBelow location) := by
  cases value with
  | object members =>
    rw [referencesAt, referencesInMembers_eq]
    refine List.flatMap_congr fun member _ => ?_
    obtain ⟨key, inner⟩ := member
    cases inner <;> rfl
  | array items =>
    rw [referencesAt, referencesInItems_eq, Json.children, List.flatMap_map]
    refine List.flatMap_congr fun indexed _ => ?_
    obtain ⟨item, index⟩ := indexed
    dsimp only
    rw [Json.Pointer.append_index]
    exact (if_neg (toString_ne_ref index)).symm
  | _ => rfl

theorem nesting_lt_children {value inner : Json} {key : String}
    (h : (key, inner) ∈ value.children) : nesting inner < nesting value := by
  cases value with
  | object members => exact nesting_lt_members h
  | array items =>
    obtain ⟨⟨item, index⟩, hm, he⟩ := List.mem_map.mp h
    cases he
    exact nesting_lt_items (List.fst_mem_of_mem_zipIdx hm)
  | _ => cases h

variable {location key : String} {value inner : Json} {found : String × String}

theorem mem_referencesBelow : found ∈ referencesBelow location (key, inner) ↔
    key = "$ref" ∧ inner = .string found.2 ∧ found.1 = child location key ∨
      key ≠ "$ref" ∧ found ∈ referencesAt (child location key) inner := by
  obtain ⟨place, target⟩ := found
  by_cases hkey : key = "$ref"
  · cases inner <;> simp [referencesBelow, hkey, Json.asString?, and_comm, eq_comm]
  · simp [referencesBelow, hkey]

/-- The path leads to a text below the key of references and does not pass this key before. -/
def Occurs (value : Json) (path : List String) (target : String) : Prop :=
  ∃ before, path = before ++ ["$ref"] ∧ "$ref" ∉ before ∧ value.LeadsTo path (.string target)

theorem not_occurs_nil {target : String} : ¬Occurs value [] target := by
  rintro ⟨before, hp, _⟩
  exact List.append_ne_nil_of_right_ne_nil before (List.cons_ne_nil _ _) hp.symm

theorem occurs_cons_iff {path : List String} {target : String} :
    Occurs value (key :: path) target ↔ ∃ inner, (key, inner) ∈ value.children ∧
      (key = "$ref" ∧ inner = .string target ∧ path = [] ∨
        key ≠ "$ref" ∧ Occurs inner path target) := by
  constructor
  · rintro ⟨before, hp, hclear, hl⟩
    obtain ⟨inner, hc, hinner⟩ := leadsTo_cons_iff.mp hl
    refine ⟨inner, hc, ?_⟩
    cases before with
    | nil =>
      obtain ⟨rfl, rfl⟩ := List.cons.inj hp
      cases hinner
      exact Or.inl ⟨rfl, rfl, rfl⟩
    | cons first before =>
      obtain ⟨rfl, rfl⟩ := List.cons.inj hp
      obtain ⟨hkey, hclear⟩ := List.ne_and_not_mem_of_not_mem_cons hclear
      exact Or.inr ⟨hkey.symm, before, rfl, hclear, hinner⟩
  · rintro ⟨inner, hc, ⟨rfl, rfl, rfl⟩ | ⟨hkey, before, rfl, hclear, hl⟩⟩
    · exact ⟨[], rfl, List.not_mem_nil, leadsTo_cons_iff.mpr ⟨_, hc, .here _⟩⟩
    · exact ⟨key :: before, rfl, List.not_mem_cons_of_ne_of_not_mem hkey.symm hclear,
        leadsTo_cons_iff.mpr ⟨inner, hc, hl⟩⟩

/-- The walk meets a text exactly where it occurs below the key of references. -/
theorem mem_referencesAt_iff (value : Json) : ∀ location found,
    found ∈ referencesAt location value ↔
      ∃ path, found.1 = path.foldl child location ∧ Occurs value path found.2 := by
  induction value using nesting_induction with
  | step value ih =>
    intro location found
    rw [referencesAt_eq, List.mem_flatMap, Prod.exists]
    constructor
    · rintro ⟨key, inner, hc, hf⟩
      rcases mem_referencesBelow.mp hf with ⟨hkey, hinner, hplace⟩ | ⟨hkey, hf⟩
      · exact ⟨[key], hplace, occurs_cons_iff.mpr ⟨inner, hc, Or.inl ⟨hkey, hinner, rfl⟩⟩⟩
      · obtain ⟨path, hplace, ho⟩ := (ih inner (nesting_lt_children hc) _ found).mp hf
        exact ⟨key :: path, hplace, occurs_cons_iff.mpr ⟨inner, hc, Or.inr ⟨hkey, ho⟩⟩⟩
    · rintro ⟨path, hplace, ho⟩
      cases path with
      | nil => exact absurd ho not_occurs_nil
      | cons key path =>
        obtain ⟨inner, hc, ⟨hkey, hinner, rfl⟩ | ⟨hkey, ho⟩⟩ := occurs_cons_iff.mp ho
        · exact ⟨key, inner, hc, mem_referencesBelow.mpr (Or.inl ⟨hkey, hinner, hplace⟩)⟩
        · have hf := (ih inner (nesting_lt_children hc) _ found).mpr ⟨path, hplace, ho⟩
          exact ⟨key, inner, hc, mem_referencesBelow.mpr (Or.inr ⟨hkey, hf⟩)⟩

theorem mem_references_iff {document : Json} : found ∈ references document ↔
    ∃ path, found.1 = ofPath path ∧ Occurs document path found.2 :=
  mem_referencesAt_iff document "" found

/-- Along a path without the key of references, what occurs at its end occurs in the whole. -/
theorem Occurs.of_leadsTo {path rest : List String} {target : String}
    (ho : Occurs inner rest target) (hl : value.LeadsTo path inner) (hp : "$ref" ∉ path) :
    Occurs value (path ++ rest) target := by
  obtain ⟨before, rfl, hclear, hrest⟩ := ho
  refine ⟨path ++ before, (List.append_assoc _ _ _).symm, ?_, hl.trans hrest⟩
  exact fun hm => (List.mem_append.mp hm).elim hp hclear

/-- What is met below a child has a pointer that goes through the child. -/
theorem exists_path_below (hf : found ∈ referencesBelow location (key, inner)) :
    ∃ path, found.1 = (key :: path).foldl child location := by
  rcases mem_referencesBelow.mp hf with ⟨_, _, hplace⟩ | ⟨_, hf⟩
  · exact ⟨[], hplace⟩
  · obtain ⟨path, hplace, _⟩ := (mem_referencesAt_iff inner _ found).mp hf
    exact ⟨path, hplace⟩

/-- Of two references that the walk meets, the first stands before the second. -/
theorem pairwise_referencesAt (value : Json) : ∀ location,
    (referencesAt location value).Pairwise fun first second => ∃ path rest,
      first.1 = path.foldl child location ∧ second.1 = rest.foldl child location ∧
        value.Precedes path rest := by
  induction value using nesting_induction with
  | step value ih =>
    intro location
    rw [referencesAt_eq, List.pairwise_flatMap]
    constructor
    · rintro ⟨key, inner⟩ hc
      unfold referencesBelow
      split
      · cases inner.asString? with
        | none => exact List.Pairwise.nil
        | some target => exact List.pairwise_singleton _ _
      · refine (ih inner (nesting_lt_children hc) _).imp ?_
        rintro first second ⟨path, rest, hf, hs, hp⟩
        exact ⟨key :: path, key :: rest, hf, hs, hp.below hc⟩
    · rw [List.pairwise_iff_forall_sublist]
      rintro ⟨key, inner⟩ ⟨other, later⟩ hsub first hf second hs
      obtain ⟨path, hf⟩ := exists_path_below hf
      obtain ⟨rest, hs⟩ := exists_path_below hs
      exact ⟨key :: path, other :: rest, hf, hs, .of_children (hsub.map Prod.fst)⟩

/-- The references of a document stand in document order at different pointers. Each pointer leads
to the text that goes with it, and every text below the key of references is met unless such a key
stands above it. -/
theorem references_located {document : Json} (hd : document.distinct = true) :
    ((references document).map Prod.fst).Nodup ∧
    ((references document).Pairwise fun first second => ∃ path rest, read? first.1 = some path ∧
      read? second.1 = some rest ∧ document.Precedes path rest) ∧
    (∀ found ∈ references document, ∃ path, read? found.1 = some path ∧
      follow path document = some (.string found.2)) ∧
    ∀ path target, "$ref" ∉ path → document.LeadsTo (path ++ ["$ref"]) (.string target) →
      (ofPath (path ++ ["$ref"]), target) ∈ references document := by
  have hpairs : (references document).Pairwise fun first second => ∃ path rest,
      read? first.1 = some path ∧ read? second.1 = some rest ∧ document.Precedes path rest := by
    refine (pairwise_referencesAt document "").imp ?_
    rintro ⟨_, _⟩ ⟨_, _⟩ ⟨path, rest, rfl, rfl, hp⟩
    exact ⟨path, rest, read?_ofPath path, read?_ofPath rest, hp⟩
  refine ⟨?_, hpairs, ?_, ?_⟩
  · refine List.pairwise_map.mpr (hpairs.imp ?_)
    rintro first second ⟨path, rest, hf, hs, hp⟩ hsame
    rw [hsame, hs] at hf
    exact hp.ne hd (Option.some.inj hf).symm
  · rintro ⟨location, target⟩ hf
    obtain ⟨path, rfl, _, _, _, hl⟩ := mem_references_iff.mp hf
    exact ⟨path, read?_ofPath path, Json.follow_of_leadsTo hd hl⟩
  · intro path target hclear hl
    exact mem_references_iff.mpr ⟨_, rfl, path, rfl, hclear, hl⟩

/-- Keys with slashes, tildes and digits, an empty one, and a reference below the key of another. -/
def catalog : Json := .object [
  ("a/b", .object [
    ("~1", .array [.object [("$ref", .string "first")],
      .object [("", .object [("$ref", .string "second")])]]),
    ("0", .object [("$ref", .string "third")])]),
  ("~", .object [("$ref", .object [("$ref", .string "hidden")]),
    ("x", .object [("$ref", .string "fourth")])])]

theorem references_located_catalog :
    references catalog = [("/a~1b/~01/0/$ref", "first"), ("/a~1b/~01/1//$ref", "second"),
      ("/a~1b/0/$ref", "third"), ("/~0/x/$ref", "fourth")] ∧
    ((references catalog).map Prod.fst).Nodup ∧
    ((references catalog).Pairwise fun first second => ∃ path rest, read? first.1 = some path ∧
      read? second.1 = some rest ∧ catalog.Precedes path rest) ∧
    (∃ path, read? "/a~1b/~01/1//$ref" = some path ∧
      follow path catalog = some (.string "second")) ∧
    ("/~0/x/$ref", "fourth") ∈ references catalog := by
  have hlisted : references catalog = [("/a~1b/~01/0/$ref", "first"),
      ("/a~1b/~01/1//$ref", "second"), ("/a~1b/0/$ref", "third"),
      ("/~0/x/$ref", "fourth")] := by decide +kernel
  have hdistinct : catalog.distinct = true := by decide
  obtain ⟨hnodup, horder, hleads, hmet⟩ := references_located hdistinct
  have hsecond : ("/a~1b/~01/1//$ref", "second") ∈ references catalog := by simp [hlisted]
  have hfourth : catalog.LeadsTo ["~", "x", "$ref"] (.string "fourth") := by
    refine .member (List.mem_cons_of_mem _ List.mem_cons_self) ?_
    exact .member (List.mem_cons_of_mem _ List.mem_cons_self) (.member List.mem_cons_self (.here _))
  exact ⟨hlisted, hnodup, horder, hleads _ hsecond, hmet ["~", "x"] "fourth" (by decide) hfourth⟩

end RouteDoc.Check
