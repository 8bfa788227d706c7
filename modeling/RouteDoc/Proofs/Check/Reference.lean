import Mathlib.Data.List.TakeDrop
import RouteDoc.Check.Reference
import RouteDoc.Check.Structure
import RouteDoc.Component.Name
import RouteDoc.Proofs.Json.Pointer
import RouteDoc.Proofs.Text.Percent

namespace RouteDoc.Check

open Component (Section reference)
open Json.Pointer (encode)
open Text.Percent (HasByte)

theorem decodeSegment_encode {name : String} (h : ¬HasByte name.toList) :
    decodeSegment (encode name) = name := by
  rw [decodeSegment, Json.Pointer.decode_encode, Text.Percent.decode,
    Text.Percent.decodeFrom_of_not_hasByte h, String.ofList_toList]

/-- A text without slashes ends before the first slash behind it. -/
theorem span_slash {first : List Char} (h : '/' ∉ first) (rest : List Char) :
    (first ++ '/' :: rest).span (· ≠ '/') = (first, '/' :: rest) := by
  have hall : ∀ c ∈ first, decide (c ≠ '/') = true := by
    intro c hc
    exact decide_eq_true fun he => h (he ▸ hc)
  rw [List.span_eq_takeWhile_dropWhile, List.takeWhile_append_of_pos hall,
    List.dropWhile_append_of_pos hall]
  simp

/-- A reference into a section leads to it, and to its name as a segment is read. -/
theorem componentOf?_append {place : String} (h : '/' ∉ place.toList) (segment : String) :
    componentOf? ("#/components/" ++ place ++ "/" ++ segment) =
      if decodeSegment segment = "" then none else some (place, decodeSegment segment) := by
  have hchars : ("#/components/" ++ place ++ "/" ++ segment).toList =
      '#' :: '/' :: ("components".toList ++ '/' :: (place.toList ++ '/' :: segment.toList)) := by
    simp [String.toList_append]
  rw [componentOf?, hchars]
  simp only [span_slash (show '/' ∉ "components".toList by decide), List.drop_one, List.tail_cons,
    span_slash h, String.ofList_toList, ne_eq, not_true_eq_false, if_false]

/-- A name that is escaped in its reference comes back, whatever tildes and slashes stand in it, and
so does its section. -/
theorem componentOf?_encode {place name : String} (hplace : '/' ∉ place.toList) (hne : name ≠ "")
    (hplain : ¬HasByte name.toList) :
    componentOf? ("#/components/" ++ place ++ "/" ++ encode name) = some (place, name) ∧
      decodeSegment (encode name) = name := by
  have hsegment : decodeSegment (encode name) = name := decodeSegment_encode hplain
  refine ⟨?_, hsegment⟩
  rw [componentOf?_append hplace, hsegment, if_neg hne]

/-- Escapes of escapes, and percent signs that begin no encoded byte. -/
theorem componentOf?_encode_escapes :
    encode "~1/~~01//%2/%zz~" = "~01~1~0~001~1~1%2~1%zz~0" ∧
    componentOf? "#/components/links/~01~1~0~001~1~1%2~1%zz~0" =
      some ("links", "~1/~~01//%2/%zz~") ∧
    decodeSegment "~01~1~0~001~1~1%2~1%zz~0" = "~1/~~01//%2/%zz~" := by
  have hwritten : encode "~1/~~01//%2/%zz~" = "~01~1~0~001~1~1%2~1%zz~0" := by decide +kernel
  have hread : componentOf? ("#/components/" ++ "links" ++ "/" ++ encode "~1/~~01//%2/%zz~") =
      some ("links", "~1/~~01//%2/%zz~") ∧
      decodeSegment (encode "~1/~~01//%2/%zz~") = "~1/~~01//%2/%zz~" :=
    componentOf?_encode (by decide) (by decide) (by decide +kernel)
  rw [hwritten] at hread
  exact ⟨hwritten, hread⟩

theorem componentOf?_reference (place : Section) (name : String) :
    componentOf? (reference place name) =
      if decodeSegment name = "" then none else some (place.key, decodeSegment name) := by
  have hslash : '/' ∉ place.key.toList := by cases place <;> decide
  exact componentOf?_append hslash name

theorem plain_of_isKeyChar {c : Char} (h : isKeyChar c) : (c ≠ '~' ∧ c ≠ '/') ∧ c ≠ '%' := by
  refine ⟨⟨fun he => ?_, fun he => ?_⟩, fun he => ?_⟩ <;> subst he <;> exact absurd h (by decide)

/-- A component whose name is a component key is found under its reference. -/
theorem componentOf?_of_isComponentKey (place : Section) {name : String}
    (h : isComponentKey name) : componentOf? (reference place name) = some (place.key, name) := by
  simp only [isComponentKey, Bool.and_eq_true, decide_eq_true_eq, List.all_eq_true] at h
  obtain ⟨hne, hall⟩ := h
  have hwritten : encode name = name := by
    rw [encode, Json.Pointer.encodeChars_of_plain fun c hc => (plain_of_isKeyChar (hall c hc)).1,
      String.ofList_toList]
  have hplain : ¬HasByte name.toList := by
    rintro ⟨high, low, _, _, hbyte⟩
    exact (plain_of_isKeyChar (hall '%' (hbyte.subset List.mem_cons_self))).2 rfl
  have hsegment : decodeSegment name = name := by
    rw [← hwritten, decodeSegment_encode hplain, hwritten]
  rw [componentOf?_reference, hsegment, if_neg hne]

end RouteDoc.Check
