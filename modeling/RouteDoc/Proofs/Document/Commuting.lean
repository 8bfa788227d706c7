import RouteDoc.Proofs.Document.Alike

namespace RouteDoc

open Component Entries

namespace Piece

open Document (Alike)

/-- The place of a document that a piece takes. -/
inductive Slot where
  | component (place : Section) (name : String)
  | operation (path key : String)

def slot : Piece → Slot
  | component entry => .component entry.place entry.name
  | operation path key _ => .operation path key

/-- The piece is not refused: it is an operation, or its name is new as far as that matters. -/
def Free (document : Document) : Piece → Prop
  | component entry => document.components.policy = .fail →
      document.components.get? entry.place entry.name = none
  | operation _ _ _ => True

/-- The document with the piece in its place. -/
def placed (document : Document) : Piece → Document
  | component entry =>
    { document with components := document.components.put entry.place entry.name entry.value }
  | operation path key value =>
    { document with paths :=
        document.paths.insert path (((document.paths.get? path).getD []).insert key value) }

variable {piece other : Piece} {first second document : Document}

theorem entries_put (registry : Registry) (place wanted : Section) (name : String) (value : Json) :
    (registry.put place name value).entries wanted =
      if place = wanted then (registry.entries wanted).insert name value
      else registry.entries wanted := by
  cases place <;> cases wanted <;> rfl

/-- A piece is put in its place if it is free, and refused if not. -/
theorem write_cases (piece : Piece) (document : Document) :
    (piece.Free document ∧
      ∃ next, piece.write document = .ok next ∧ Alike (piece.placed document) next) ∨
    (¬piece.Free document ∧ ∃ fault, piece.write document = .error fault) := by
  cases piece with
  | operation path key value => exact Or.inl ⟨trivial, _, rfl, .refl _⟩
  | component entry =>
    rw [write]
    cases ha : document.components.add entry.place entry.name entry.value with
    | ok components =>
      obtain ⟨hfree, noted, rfl⟩ := Registry.add_ok ha
      refine Or.inl ⟨hfree, _, rfl, ⟨rfl, rfl, rfl, rfl, rfl⟩, rfl, fun place => ?_, ?_⟩
      · exact .refl (fun _ => rfl) _
      · exact .refl (.refl fun _ => rfl) _
    | error duplicate =>
      obtain ⟨hp, hg, -⟩ := Registry.add_error ha
      refine Or.inr ⟨fun hfree => ?_, _, rfl⟩
      rw [hfree hp] at hg
      cases hg

theorem free_congr (h : Alike first second) : piece.Free first ↔ piece.Free second := by
  cases piece with
  | operation => exact Iff.rfl
  | component entry => rw [Free, Free, h.policy, h.get?]

theorem placed_congr (h : Alike first second) :
    Alike (piece.placed first) (piece.placed second) := by
  cases piece with
  | operation path key value =>
    have hitem : AlikeBy Eq ((first.paths.get? path).getD []) ((second.paths.get? path).getD []) :=
      h.paths.getD path (.refl (fun _ => rfl) [])
    refine ⟨⟨h.frame.openapi, h.frame.info, h.frame.servers, h.frame.extensions, h.frame.extra⟩,
      h.policy, h.components, ?_⟩
    exact h.paths.insert path (hitem.insert key rfl)
  | component entry =>
    refine ⟨⟨h.frame.openapi, h.frame.info, h.frame.servers, h.frame.extensions, ?_⟩, ?_,
      fun place => ?_, h.paths⟩
    · simpa [placed] using h.frame.extra
    · simpa [placed] using h.policy
    · simp only [placed, entries_put]
      split
      · exact (h.components place).insert entry.name rfl
      · exact h.components place

/-- A piece in another place does not make a piece more or less free. -/
theorem free_placed (hs : piece.slot ≠ other.slot) :
    other.Free (piece.placed document) ↔ other.Free document := by
  cases other with
  | operation => exact Iff.rfl
  | component entry =>
    cases piece with
    | operation path key value => exact Iff.rfl
    | component first =>
      have hne : ¬(first.place = entry.place ∧ first.name = entry.name) :=
        fun he => hs (by rw [slot, slot, he.1, he.2])
      simp [Free, placed, hne]

/-- Pieces in different places may be placed in any order. -/
theorem placed_comm (hs : piece.slot ≠ other.slot) :
    Alike (other.placed (piece.placed document)) (piece.placed (other.placed document)) := by
  have hsame : ∀ item : PathItem, AlikeBy Eq item item := .refl fun _ => rfl
  cases piece with
  | component first =>
    cases other with
    | component second =>
      refine ⟨⟨rfl, rfl, rfl, rfl, by simp [placed]⟩, by simp [placed], fun place => ?_,
        .refl hsame _⟩
      simp only [placed, entries_put]
      split
      · split
        · rename_i hsecond hfirst
          refine .insert_comm (fun _ => rfl) (fun he => hs ?_) _ _ _
          rw [slot, slot, hfirst, hsecond, he]
        · exact .refl (fun _ => rfl) _
      · exact .refl (fun _ => rfl) _
    | operation path key value => exact .refl _
  | operation path key value =>
    cases other with
    | component entry => exact .refl _
    | operation next name new =>
      refine ⟨⟨rfl, rfl, rfl, rfl, rfl⟩, rfl, fun place => .refl (fun _ => rfl) _, ?_⟩
      by_cases hp : path = next
      · subst hp
        have hkey : key ≠ name := fun he => hs (by rw [slot, slot, he])
        simp only [placed, get?_insert_self, Option.getD_some, insert_insert_self]
        refine AlikeBy.insert (.refl hsame _) path ?_
        exact .insert_comm (fun _ => rfl) hkey _ _ _
      · simp only [placed, get?_insert_of_ne _ _ hp, get?_insert_of_ne _ _ (Ne.symm hp)]
        exact .insert_comm hsame hp _ _ _

/-- Both runs fail, or both succeed and leave alike documents. -/
inductive Agree : Except Fault Unit × Document → Except Fault Unit × Document → Prop
  | ok {first second : Document} : Alike first second → Agree (.ok (), first) (.ok (), second)
  | error {cause reason : Fault} {first second : Document} :
      Agree (.error cause, first) (.error reason, second)

namespace Agree

variable {left middle right : Except Fault Unit × Document} {list others rest : List Piece}

theorem symm (h : Agree left right) : Agree right left := by
  cases h with
  | ok h => exact .ok h.symm
  | error => exact .error

theorem eq_error {fault : Fault} (h : Agree left (.error fault, document)) :
    ∃ cause after, left = (.error cause, after) := by
  cases h
  exact ⟨_, _, rfl⟩

theorem trans (hl : Agree left middle) (hr : Agree middle right) : Agree left right := by
  cases hl with
  | ok hl => cases hr with
    | ok hr => exact .ok (hl.trans hr)
  | error => cases hr with
    | error => exact .error

/-- Alike documents take the same pieces and stay alike. -/
theorem of_alike (list : List Piece) (h : Alike first second) :
    Agree (writeAll list first) (writeAll list second) := by
  induction list generalizing first second with
  | nil => exact .ok h
  | cons piece rest ih =>
    rw [writeAll, writeAll]
    rcases write_cases piece first with ⟨hfirst, next, hn, ha⟩ | ⟨hfirst, fault, hn⟩
    all_goals rcases write_cases piece second with ⟨hsecond, other, ho, hb⟩ | ⟨hsecond, cause, ho⟩
    all_goals rw [hn, ho]
    · exact ih (ha.symm.trans ((placed_congr h).trans hb))
    · exact absurd ((free_congr h).mp hfirst) hsecond
    · exact absurd ((free_congr h).mpr hsecond) hfirst
    · exact .error

theorem refl (list : List Piece) (document : Document) :
    Agree (writeAll list document) (writeAll list document) := of_alike list (.refl document)

/-- Runs that agree still do when the same pieces follow. -/
theorem append (h : Agree (writeAll list first) (writeAll others second)) :
    Agree (writeAll (list ++ rest) first) (writeAll (others ++ rest) second) := by
  rw [writeAll_append, writeAll_append]
  cases hf : writeAll list first
  cases hs : writeAll others second
  rw [hf, hs] at h
  cases h with
  | ok h => exact of_alike rest h
  | error => exact .error

/-- Runs that agree in every document still do when the same pieces precede. -/
theorem prepend (before : List Piece)
    (h : ∀ document, Agree (writeAll list document) (writeAll others document)) :
    Agree (writeAll (before ++ list) document) (writeAll (before ++ others) document) := by
  rw [writeAll_append, writeAll_append]
  rcases writeAll before document with ⟨result, after⟩
  cases result with
  | ok => exact h after
  | error fault => exact .error

/-- A free piece is written first, up to the order of keys. -/
theorem cons_of_free (hf : piece.Free document) :
    Agree (writeAll (piece :: rest) document) (writeAll rest (piece.placed document)) := by
  rcases write_cases piece document with ⟨_, next, hn, ha⟩ | ⟨hno, _⟩
  · rw [writeAll, hn]
    exact of_alike rest ha.symm
  · exact absurd hf hno

theorem cons_of_not_free (rest : List Piece) (hf : ¬piece.Free document) :
    ∃ fault after, writeAll (piece :: rest) document = (.error fault, after) := by
  rcases write_cases piece document with ⟨hfree, _⟩ | ⟨_, fault, hn⟩
  · exact absurd hfree hf
  · exact ⟨fault, document, by rw [writeAll, hn]⟩

/-- A piece that is refused is refused after any piece in another place, too. -/
theorem pair_of_not_free (hs : piece.slot ≠ other.slot) (hf : ¬other.Free document) :
    ∃ fault after, writeAll [piece, other] document = (.error fault, after) := by
  by_cases hp : piece.Free document
  · have hrefused : ¬other.Free (piece.placed document) := fun h => hf ((free_placed hs).mp h)
    obtain ⟨fault, after, hlast⟩ := cons_of_not_free [] hrefused
    exact (hlast ▸ cons_of_free hp).eq_error
  · exact cons_of_not_free [other] hp

theorem pair_of_free (hs : piece.slot ≠ other.slot) (hp : piece.Free document)
    (ho : other.Free document) : Agree (writeAll [piece, other] document)
      (.ok (), other.placed (piece.placed document)) :=
  (cons_of_free hp).trans (cons_of_free ((free_placed hs).mpr ho))

/-- Two pieces in different places may be written in any order. -/
theorem swap (hs : piece.slot ≠ other.slot) :
    Agree (writeAll [piece, other] document) (writeAll [other, piece] document) := by
  by_cases hp : piece.Free document
  · by_cases ho : other.Free document
    · have hcomm : Agree (.ok (), other.placed (piece.placed document))
          (.ok (), piece.placed (other.placed document)) := .ok (placed_comm hs)
      exact ((pair_of_free hs hp ho).trans hcomm).trans (pair_of_free hs.symm ho hp).symm
    · obtain ⟨fault, after, hl⟩ := pair_of_not_free hs ho
      obtain ⟨cause, last, hr⟩ := cons_of_not_free [piece] ho
      rw [hl, hr]
      exact .error
  · obtain ⟨fault, after, hl⟩ := cons_of_not_free [other] hp
    obtain ⟨cause, last, hr⟩ := pair_of_not_free hs.symm hp
    rw [hl, hr]
    exact .error

/-- A piece may be written before or after pieces in other places. -/
theorem move (h : ∀ other ∈ list, piece.slot ≠ other.slot) :
    Agree (writeAll (piece :: list) document) (writeAll (list ++ [piece]) document) := by
  induction list generalizing document with
  | nil => exact refl [piece] document
  | cons other rest ih =>
    have hfirst : Agree (writeAll ([piece, other] ++ rest) document)
        (writeAll ([other, piece] ++ rest) document) := append (swap (h other List.mem_cons_self))
    have hrest : Agree (writeAll ([other] ++ piece :: rest) document)
        (writeAll ([other] ++ (rest ++ [piece])) document) :=
      prepend [other] fun next => ih fun last hl => h last (List.mem_cons_of_mem _ hl)
    exact hfirst.trans hrest

/-- Lists of pieces that have no place in common may be written in any order. -/
theorem exchange (h : ∀ piece ∈ list, ∀ other ∈ others, piece.slot ≠ other.slot) :
    Agree (writeAll (list ++ others) document) (writeAll (others ++ list) document) := by
  induction list generalizing document with
  | nil =>
    rw [List.append_nil]
    exact refl others document
  | cons piece rest ih =>
    have hrest : Agree (writeAll ([piece] ++ (rest ++ others)) document)
        (writeAll ([piece] ++ (others ++ rest)) document) :=
      prepend [piece] fun next => ih fun first hf => h first (List.mem_cons_of_mem _ hf)
    have hmove : Agree (writeAll (piece :: others ++ rest) document)
        (writeAll (others ++ [piece] ++ rest) document) :=
      append (move (h piece List.mem_cons_self))
    rw [List.append_assoc] at hmove
    exact hrest.trans hmove

end Agree

end Piece

end RouteDoc
