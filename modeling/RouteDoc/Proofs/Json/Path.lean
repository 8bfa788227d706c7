import RouteDoc.Json.Pointer
import RouteDoc.Proofs.Entries
import RouteDoc.Proofs.Text.Ascii

namespace RouteDoc.Json

namespace Pointer

/-- The pointer that spells a path step by step. -/
def ofPath (path : List String) : String := path.foldl child ""

theorem ofPath_concat (path : List String) (key : String) :
    ofPath (path ++ [key]) = child (ofPath path) key := by
  rw [ofPath, List.foldl_append]
  rfl

/-- A segment without tildes and slashes is written as it is. -/
theorem encodeChars_of_plain {text : List Char} (h : ∀ c ∈ text, c ≠ '~' ∧ c ≠ '/') :
    encodeChars text = text := by
  induction text with
  | nil => rfl
  | cons c rest ih =>
    obtain ⟨htilde, hslash⟩ := h c List.mem_cons_self
    rw [encodeChars.eq_4 _ _ htilde hslash, ih fun d hd => h d (List.mem_cons_of_mem _ hd)]

/-- An index is written in digits, which no pointer escapes. -/
theorem encode_toString (index : Nat) : encode (toString index) = toString index := by
  have hplain : ∀ c ∈ (toString index).toList, c ≠ '~' ∧ c ≠ '/' := by
    intro c hc
    have hdigit := Text.isDigit_of_mem_toString hc
    refine ⟨?_, ?_⟩ <;> rintro rfl <;> exact absurd hdigit (by decide)
  rw [encode, encodeChars_of_plain hplain, String.ofList_toList]

/-- A suffix that spells one plain key is a step to it. -/
theorem append_eq_child (location : String) {suffix key : String}
    (h : suffix = "/" ++ encode key) : location ++ suffix = child location key := by
  rw [h, child, String.append_assoc]

theorem append_index (location : String) (index : Nat) :
    location ++ "/" ++ toString index = child location (toString index) := by
  rw [child, encode_toString]

/-- Steps from a place are those from the root, behind the pointer to the place. -/
theorem foldl_child (location : String) (path : List String) :
    path.foldl child location = location ++ ofPath path := by
  have hfrom : ∀ start : String, path.foldl child (location ++ start) =
      location ++ path.foldl child start := by
    induction path with
    | nil => simp
    | cons key rest ih =>
      intro start
      have hstep : child (location ++ start) key = location ++ child start key := by
        simp only [child, String.append_assoc]
      rw [List.foldl_cons, List.foldl_cons, hstep, ih]
  have hstart := hfrom ""
  rwa [String.append_empty] at hstart

theorem ofPath_append (path rest : List String) :
    ofPath (path ++ rest) = ofPath path ++ ofPath rest := by
  rw [ofPath, List.foldl_append, foldl_child]
  rfl

end Pointer

/-- The entries under a key are the members of the object that stands there. -/
theorem mem_entriesAt_iff {owner : Json} {key : String} {entry : String × Json} :
    entry ∈ owner.entriesAt key ↔
      ∃ members, owner.get? key = some (.object members) ∧ entry ∈ members := by
  unfold entriesAt
  cases hg : owner.get? key with
  | none => simp
  | some value => cases value <;> simp [asObject?]

/-- The path leads from a value to one that stands in it: by key into an object, by index into an
array. -/
inductive LeadsTo : Json → List String → Json → Prop
  | here (value : Json) : LeadsTo value [] value
  | member {members : List (String × Json)} {key : String} {value inner : Json}
      {path : List String} : (key, value) ∈ members → LeadsTo value path inner →
      LeadsTo (.object members) (key :: path) inner
  | item {items : List Json} {index : Nat} {value inner : Json} {path : List String} :
      items[index]? = some value → LeadsTo value path inner →
      LeadsTo (.array items) (toString index :: path) inner

theorem LeadsTo.trans {value middle inner : Json} {path rest : List String}
    (h : LeadsTo value path middle) (hr : LeadsTo middle rest inner) :
    LeadsTo value (path ++ rest) inner := by
  induction h with
  | here value => exact hr
  | member hm _ ih => exact .member hm (ih hr)
  | item hi _ ih => exact .item hi (ih hr)

/-- The pointer leads from the document to the value. -/
def Locates (document : Json) (pointer : String) (value : Json) : Prop :=
  ∃ path, pointer = Pointer.ofPath path ∧ document.LeadsTo path value

namespace Locates

variable {document owner value inner : Json} {pointer key name : String}

theorem root (document : Json) : Locates document "" document := ⟨[], rfl, .here document⟩

/-- A path from the value goes on where the pointer to it ends. -/
theorem append {path : List String} (h : Locates document pointer value)
    (hp : value.LeadsTo path inner) : Locates document (pointer ++ Pointer.ofPath path) inner := by
  obtain ⟨before, rfl, hb⟩ := h
  exact ⟨before ++ path, (Pointer.ofPath_append before path).symm, hb.trans hp⟩

theorem step (h : Locates document pointer value) (hp : value.LeadsTo [key] inner) :
    Locates document (Pointer.child pointer key) inner := by
  have hone := Pointer.foldl_child pointer [key]
  rw [List.foldl_cons, List.foldl_nil] at hone
  rw [hone]
  exact h.append hp

theorem member {members : List (String × Json)} (h : Locates document pointer (.object members))
    (hm : (key, inner) ∈ members) : Locates document (Pointer.child pointer key) inner :=
  h.step (.member hm (.here inner))

theorem get? (h : Locates document pointer owner) (hg : owner.get? key = some inner)
    {whole : String} (hp : whole = Pointer.child pointer key) : Locates document whole inner := by
  rw [hp]
  cases owner with
  | object members => exact h.member (Entries.mem_of_get? hg)
  | _ => cases hg

/-- Members of a member. -/
theorem entry (h : Locates document pointer owner) (hm : (name, inner) ∈ owner.entriesAt key)
    {whole : String} (hp : whole = Pointer.child pointer key) :
    Locates document (Pointer.child whole name) inner := by
  obtain ⟨members, hg, hm⟩ := mem_entriesAt_iff.mp hm
  exact (h.get? hg hp).member hm

theorem item {items : List Json} {index : Nat} (h : Locates document pointer (.array items))
    (hm : (inner, index) ∈ items.zipIdx) :
    Locates document (pointer ++ "/" ++ toString index) inner := by
  have hi : items[index]? = some inner := List.mem_zipIdx_iff_getElem?.mp hm
  rw [Pointer.append_index]
  exact h.step (.item hi (.here inner))

end Locates

end RouteDoc.Json
