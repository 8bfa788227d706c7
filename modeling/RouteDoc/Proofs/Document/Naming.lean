import RouteDoc.Proofs.Document.Definitions

namespace RouteDoc

open Component
open Operation (Method)

namespace Component

/-- An ASCII letter, an ASCII digit or the underscore. -/
def IsWordChar (c : Char) : Prop :=
  ('A' ≤ c ∧ c ≤ 'Z') ∨ ('a' ≤ c ∧ c ≤ 'z') ∨ ('0' ≤ c ∧ c ≤ '9') ∨ c = '_'

instance (c : Char) : Decidable (IsWordChar c) :=
  inferInstanceAs (Decidable (_ ∨ _ ∨ _ ∨ _))

/-- The word characters of a path, in their order. -/
def wordChars (path : String) : List Char := path.toList.filter IsWordChar

theorem isNameChar_eq (c : Char) : isNameChar c = decide (IsWordChar c) := by
  have hchar : isNameChar c = (decide ('A' ≤ c ∧ c ≤ 'Z') || ('a' ≤ c && c ≤ 'z') ||
      ('0' ≤ c && c ≤ '9') || c = '_') := rfl
  rw [hchar, Bool.eq_iff_iff, decide_eq_true_iff, IsWordChar]
  simp only [Bool.or_eq_true, Bool.and_eq_true, decide_eq_true_eq, or_assoc]

theorem toList_pathName (path : String) : (pathName path).toList = wordChars path := by
  rw [pathName, String.toList_ofList, wordChars]
  congr 1
  funext c
  exact isNameChar_eq c

/-- The first dot of an operation's name stands between its path and its method. -/
theorem operationName_eq_iff {path other name different : String} :
    operationName path name = operationName other different ↔
      wordChars path = wordChars other ∧ Text.lower name = Text.lower different := by
  simp only [← toList_pathName, String.toList_inj]
  constructor
  · intro h
    have hchars := congrArg String.toList h
    simp only [operationName, join, String.toList_append, List.append_assoc] at hchars
    obtain ⟨hpath, hmethod⟩ :=
      append_dot_inj (dot_not_mem_pathName path) (dot_not_mem_pathName other) hchars
    exact ⟨String.toList_inj.mp hpath, String.toList_inj.mp hmethod⟩
  · rintro ⟨hpath, hmethod⟩
    rw [operationName, operationName, hpath, hmethod]

end Component

namespace Document

/-- Registering the operation changes what some registry has under this name. -/
def Registers (path name : String) (method : Method) (place : Section) (label : String) : Prop :=
  ∃ registry : Registry,
    ((registerOperation path name method).run.run registry).2.get? place label ≠
      registry.get? place label

theorem run_registerOperation (path name : String) (method : Method) (registry : Registry) :
    ((registerOperation path name method).run.run registry).2 =
      (Registry.addAll (registrations path name method) registry).2 := by
  rw [registerOperation_eq, run_bind, run_registerAll]
  rcases Registry.addAll (registrations path name method) registry with ⟨result, after⟩
  cases result <;> rfl

/-- An operation registers the names of the object nodes of its body, of the object nodes of its
responses, and of the responses themselves. -/
theorem registers_iff {path name : String} {method : Method} {place : Section} {label : String} :
    Registers path name method place label ↔ (place, label) ∈ methodKeys path (name, method) := by
  rw [← keys_registrations]
  constructor
  · rintro ⟨registry, hne⟩
    by_contra hm
    apply hne
    rw [run_registerOperation]
    exact Registry.get?_addAll_of_not_mem hm registry
  · intro hm
    obtain ⟨after, ha⟩ : ∃ after,
        Registry.addAll (registrations path name method) {} = (.ok (), after) :=
      Registry.addAll_overwrite rfl
    refine ⟨{}, ?_⟩
    have hnone : Registry.get? {} place label = none := by cases place <;> rfl
    rw [run_registerOperation, ha, Registry.get?_addAll ha, hnone, Option.or_none]
    exact Option.isSome_iff_ne_none.mp (latest_isSome hm)

theorem Registers.under {path name : String} {method : Method} {place : Section} {label : String}
    (h : Registers path name method place label) : Under (operationName path name) label := by
  have hkeys : ∀ key ∈ methodKeys path (name, method), Under (operationName path name) key.2 :=
    under_methodKeys
  exact hkeys (place, label) (registers_iff.mp h)

/-- Operations have one name exactly if their paths have the same word characters and their methods
agree in lower case. Operations of different names whose methods have no dots never register
components of one name, whatever their bodies and responses are. -/
theorem componentNames_apart (path other name different : String) :
    (operationName path name = operationName other different ↔
      wordChars path = wordChars other ∧ Text.lower name = Text.lower different) ∧
    ('.' ∉ (Text.lower name).toList → '.' ∉ (Text.lower different).toList →
      operationName path name ≠ operationName other different →
      ∀ (method second : Method) (place next : Section) (label another : String),
        Registers path name method place label → Registers other different second next another →
        label ≠ another) := by
  refine ⟨operationName_eq_iff, ?_⟩
  intro hname hdifferent hne method second place next label another hfirst hsecond heq
  subst heq
  exact hne (operationName_eq_of_under hname hdifferent hfirst.under hsecond.under)

/-- A property and a status that spell parts of the names of another operation. -/
def mimicMethod : Method where
  schema := bodyWith "items.post"
  notes := some { responses := some [("post.body", {})] }

theorem componentNames_apart_items :
    operationName "/items" "GET" = operationName "/\x7bitems\x7d" "get" ∧
    operationName "/items" "GET" ≠ operationName "/items/" "Post" ∧
    Registers "/items" "GET" mimicMethod .schemas "items.get.body.items.post" ∧
    Registers "/items" "GET" mimicMethod .responses "items.get.post.body" ∧
    Registers "/items/" "Post" { schema := bodyWith "get" } .schemas "items.post.body" ∧
    "items.get.post.body" ≠ "items.post.body" := by
  have hwords : wordChars "/items" = wordChars "/\x7bitems\x7d" ∧
      Text.lower "GET" = Text.lower "get" := by
    decide +kernel
  have hne : operationName "/items" "GET" ≠ operationName "/items/" "Post" := by decide +kernel
  have hnode : Registers "/items" "GET" mimicMethod .schemas "items.get.body.items.post" :=
    registers_iff.mpr (by decide +kernel)
  have hstatus : Registers "/items" "GET" mimicMethod .responses "items.get.post.body" :=
    registers_iff.mpr (by decide +kernel)
  have hbody : Registers "/items/" "Post" { schema := bodyWith "get" } .schemas
      "items.post.body" := registers_iff.mpr (by decide +kernel)
  obtain ⟨hsame, _⟩ := componentNames_apart "/items" "/\x7bitems\x7d" "GET" "get"
  obtain ⟨_, hapart⟩ := componentNames_apart "/items" "/items/" "GET" "Post"
  have hdots : '.' ∉ (Text.lower "GET").toList ∧ '.' ∉ (Text.lower "Post").toList := by
    decide +kernel
  exact ⟨hsame.mpr hwords, hne, hnode, hstatus, hbody,
    hapart hdots.1 hdots.2 hne _ _ _ _ _ _ hstatus hbody⟩

/-- A dot in a method would let names meet. -/
example : (Section.schemas, "items.get.body.body") ∈
      methodKeys "/items" ("get", { schema := bodyWith "body" }) ∧
    (Section.schemas, "items.get.body.body") ∈
      methodKeys "/items" ("get.body", { schema := bodyWith "item" }) := by
  decide +kernel

end Document

end RouteDoc
