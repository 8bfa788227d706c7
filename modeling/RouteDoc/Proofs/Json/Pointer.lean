import RouteDoc.Proofs.Entries
import RouteDoc.Proofs.Json.Distinct
import RouteDoc.Proofs.Json.Path

namespace RouteDoc.Json

namespace Pointer

/-- Every tilde of a segment begins an escape. -/
def isEscaped : List Char → Bool
  | '~' :: '0' :: rest | '~' :: '1' :: rest => isEscaped rest
  | '~' :: _ => false
  | _ :: rest => isEscaped rest
  | [] => true

/-- The path that a pointer spells: each segment stands behind a slash. Other texts are no
pointers. -/
def read? (pointer : String) : Option (List String) :=
  match pointer.toList.splitOn '/' with
  | [] :: segments =>
    if segments.all isEscaped then
      some (segments.map fun segment => String.ofList (decodeChars segment))
    else none
  | _ => none

theorem slash_not_mem_encodeChars (text : List Char) : '/' ∉ encodeChars text := by
  fun_induction encodeChars text with
  | case1 => simp
  | case2 rest ih => simp [ih]
  | case3 rest ih => simp [ih]
  | case4 c rest htilde hslash ih =>
    intro hm
    rcases List.mem_cons.mp hm with he | hm
    · exact hslash he.symm
    · exact ih hm

theorem isEscaped_cons_of_ne {c : Char} (rest : List Char) (h : c ≠ '~') :
    isEscaped (c :: rest) = isEscaped rest := by
  rw [isEscaped.eq_4]
  · intro _ he
    exact absurd he h
  · intro _ he
    exact absurd he h
  · exact h

theorem isEscaped_encodeChars (text : List Char) : isEscaped (encodeChars text) = true := by
  fun_induction encodeChars text with
  | case1 => rfl
  | case2 rest ih => simpa [isEscaped] using ih
  | case3 rest ih => simpa [isEscaped] using ih
  | case4 c rest htilde hslash ih =>
    rw [isEscaped_cons_of_ne _ htilde]
    exact ih

theorem unescape_cons_of_ne {c : Char} (digit plain : Char) (rest : List Char) (h : c ≠ '~') :
    unescape digit plain (c :: rest) = c :: unescape digit plain rest := by
  rw [unescape.eq_2]
  intro d tail he
  exact absurd he h

/-- After slashes have been read, only the escapes of tildes are left. -/
theorem unescape_encodeChars (text : List Char) : unescape '1' '/' (encodeChars text) =
    text.flatMap fun c => if c = '~' then ['~', '0'] else [c] := by
  fun_induction encodeChars text with
  | case1 => rfl
  | case2 rest ih =>
    have hzero : unescape '1' '/' ('0' :: encodeChars rest) =
        '0' :: unescape '1' '/' (encodeChars rest) := unescape_cons_of_ne _ _ _ (by decide)
    simp [unescape, hzero, ih]
  | case3 rest ih => simp [unescape, ih]
  | case4 c rest htilde hslash ih =>
    have hc : c ≠ '~' := htilde
    simp [unescape_cons_of_ne _ _ _ hc, hc, ih]

/-- A segment is read as the key that it was written for. -/
theorem decodeChars_encodeChars (text : List Char) : decodeChars (encodeChars text) = text := by
  rw [decodeChars, unescape_encodeChars]
  induction text with
  | nil => rfl
  | cons c rest ih =>
    by_cases hc : c = '~'
    · subst hc
      simp [unescape, ih]
    · simp [hc, unescape_cons_of_ne _ _ _ hc, ih]

theorem decode_encode (key : String) : decode (encode key) = key := by
  rw [decode, encode, String.toList_ofList, decodeChars_encodeChars, String.ofList_toList]

/-- The pointer of a path in its characters. -/
theorem toList_ofPath (path : List String) : (ofPath path).toList =
    ['/'].intercalate ([] :: path.map fun key => encodeChars key.toList) := by
  have hfold : ∀ location : String, (path.foldl child location).toList =
      location.toList ++ path.flatMap fun key => '/' :: encodeChars key.toList := by
    induction path with
    | nil => simp
    | cons key rest ih =>
      intro location
      simp [ih, child, encode, String.toList_append]
  have hjoin : ∀ segments : List (List Char), ['/'].intercalate ([] :: segments) =
      segments.flatMap fun segment => '/' :: segment := by
    intro segments
    induction segments with
    | nil => rfl
    | cons segment rest ih =>
      cases rest with
      | nil => simp [List.intercalate]
      | cons next rest =>
        rw [List.intercalate_cons_cons] at ih ⊢
        rw [List.intercalate_cons_cons, List.flatMap_cons, ← ih]
        simp
  rw [ofPath, hfold, hjoin, List.flatMap_map]
  rfl

/-- Each step of a path is one segment of its pointer. -/
theorem read?_ofPath (path : List String) : read? (ofPath path) = some path := by
  have hslash : ∀ segment ∈ [] :: path.map fun key => encodeChars key.toList, '/' ∉ segment := by
    intro segment hm
    rcases List.mem_cons.mp hm with rfl | hm
    · exact List.not_mem_nil
    · obtain ⟨key, _, rfl⟩ := List.mem_map.mp hm
      exact slash_not_mem_encodeChars key.toList
  have hescaped : (path.map fun key => encodeChars key.toList).all isEscaped = true := by
    rw [List.all_map, List.all_eq_true]
    intro key _
    exact isEscaped_encodeChars key.toList
  rw [read?, toList_ofPath, List.splitOn_intercalate '/' hslash (List.cons_ne_nil _ _)]
  simp [hescaped, decodeChars_encodeChars, Function.comp_def]

end Pointer

/-- The index that a segment spells in decimal digits, without leading zeros. -/
def index? (segment : String) : Option Nat :=
  let index := Text.natOfDigits segment.toList
  if toString index = segment then some index else none

/-- The value at the end of a path, if every step leads somewhere. -/
def follow : List String → Json → Option Json
  | [], value => some value
  | key :: path, .object members => (Entries.get? key members).bind (follow path)
  | segment :: path, .array items =>
    ((index? segment).bind fun index => items[index]?).bind (follow path)
  | _ :: _, _ => none

theorem index?_toString (index : Nat) : index? (toString index) = some index := by
  simp only [index?, Text.natOfDigits_toString, if_true]

/-- Where no key stands twice, a path leads to one value at most. -/
theorem follow_of_leadsTo {value inner : Json} {path : List String} (hd : value.distinct = true)
    (h : value.LeadsTo path inner) : follow path value = some inner := by
  induction h with
  | here value => rfl
  | @member members key value inner path hm _ ih =>
    obtain ⟨hkeys, hvalues⟩ := distinct_object.mp hd
    have hget : Entries.get? key members = some value := (Entries.get?_eq_some_iff hkeys).mpr hm
    rw [follow, hget, Option.bind_some]
    exact ih (hvalues (key, value) hm)
  | @item items index value inner path hi _ ih =>
    have hmem : value ∈ items := List.mem_of_getElem? hi
    rw [follow, index?_toString, Option.bind_some, hi, Option.bind_some]
    exact ih (distinct_array.mp hd value hmem)

end RouteDoc.Json
