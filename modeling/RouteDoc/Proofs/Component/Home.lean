import RouteDoc.Proofs.Component.Target
import RouteDoc.Proofs.Document.Building

namespace RouteDoc

open Component

namespace Component

/-- The name begins with this home and a dot. -/
def Under (home name : String) : Prop := ∃ label, name = home ++ "." ++ label

theorem Under.of_join {home label name : String} (h : Under (join home label) name) :
    Under home name := by
  obtain ⟨rest, rfl⟩ := h
  exact ⟨label ++ "." ++ rest, by simp [join, String.append_assoc]⟩

theorem under_cut {schema : Json} {home label : String} :
    ∀ entry ∈ cut schema home label, Under home entry.name := by
  intro entry hm
  obtain ⟨spot, _, rfl⟩ := List.mem_map.mp hm
  exact ⟨spot.label, rfl⟩

/-- What stands before the first dot, and what after it, can be told from the whole. -/
theorem append_dot_inj {first second rest others : List Char} (hf : '.' ∉ first)
    (hs : '.' ∉ second) (h : first ++ '.' :: rest = second ++ '.' :: others) :
    first = second ∧ rest = others := by
  induction first generalizing second with
  | nil =>
    cases second with
    | nil => exact ⟨rfl, List.tail_eq_of_cons_eq h⟩
    | cons c second => exact absurd (List.head_eq_of_cons_eq h) (List.ne_of_not_mem_cons hs)
  | cons c first ih =>
    cases second with
    | nil => exact absurd (List.head_eq_of_cons_eq h).symm (List.ne_of_not_mem_cons hf)
    | cons d second =>
      obtain ⟨rfl, htail⟩ := List.cons_eq_cons.mp h
      obtain ⟨rfl, hrest⟩ :=
        ih (List.not_mem_of_not_mem_cons hf) (List.not_mem_of_not_mem_cons hs) htail
      exact ⟨rfl, hrest⟩

theorem dot_not_mem_pathName (path : String) : '.' ∉ (pathName path).toList := by
  simp [pathName, isNameChar]

/-- A name is under the name of one operation at most. -/
theorem operationName_eq_of_under {path other method different name : String}
    (hm : '.' ∉ (Text.lower method).toList) (hd : '.' ∉ (Text.lower different).toList)
    (h : Under (operationName path method) name)
    (ho : Under (operationName other different) name) :
    operationName path method = operationName other different := by
  obtain ⟨rest, rfl⟩ := h
  obtain ⟨others, he⟩ := ho
  have hchars := congrArg String.toList he
  simp only [operationName, join, String.toList_append, List.append_assoc] at hchars
  obtain ⟨hpath, htail⟩ :=
    append_dot_inj (dot_not_mem_pathName path) (dot_not_mem_pathName other) hchars
  obtain ⟨hmethod, _⟩ := append_dot_inj hm hd htail
  rw [operationName, operationName, String.toList_inj.mp hpath, String.toList_inj.mp hmethod]

end Component

theorem Operation.under_responseRegistrations {home : String}
    {response : String × DeclaredResponse} :
    ∀ entry ∈ responseRegistrations home response, Under home entry.name := by
  intro entry hm
  rcases List.mem_append.mp hm with hm | hm
  · cases hs : response.2.schema with
    | none => simp [hs] at hm
    | some schema =>
      rw [hs] at hm
      exact (under_cut entry hm).of_join
  · rw [List.mem_singleton.mp hm]
    exact ⟨response.1, rfl⟩

/-- All components of an operation are under its name. -/
theorem Document.under_registrations {path name : String} {method : Operation.Method} :
    ∀ entry ∈ registrations path name method, Under (operationName path name) entry.name := by
  intro entry hm
  rcases List.mem_append.mp hm with hm | hm
  · cases hb : method.bucket? bodyKey with
    | none => simp [hb] at hm
    | some body =>
      rw [hb] at hm
      exact under_cut entry hm
  · cases hr : method.responses? with
    | none => simp [hr] at hm
    | some declared =>
      rw [hr] at hm
      obtain ⟨response, _, hm⟩ := List.mem_flatMap.mp hm
      exact Operation.under_responseRegistrations entry hm

end RouteDoc
