import RouteDoc.Proofs.Document.Piece
import RouteDoc.Proofs.Json.Alike

namespace RouteDoc

open Component Entries

/-- Documents that differ in the order of keys, and in what their registries took note of. -/
structure Document.Alike (first second : Document) : Prop where
  frame : SameFrame first second
  policy : second.components.policy = first.components.policy
  components : ∀ place,
    AlikeBy Eq (first.components.entries place) (second.components.entries place)
  paths : AlikeBy (AlikeBy Eq) first.paths second.paths

namespace Document.Alike

variable {first second third : Document}

theorem refl (document : Document) : Alike document document :=
  ⟨.refl document, rfl, fun _ => .refl (fun _ => rfl) _, .refl (.refl fun _ => rfl) _⟩

theorem symm (h : Alike first second) : Alike second first :=
  ⟨h.frame.symm, h.policy.symm, fun place => (h.components place).symm Eq.symm,
    h.paths.symm fun hi => hi.symm Eq.symm⟩

theorem trans (hf : Alike first second) (hs : Alike second third) : Alike first third :=
  ⟨hf.frame.trans hs.frame, hs.policy.trans hf.policy,
    fun place => (hf.components place).trans Eq.trans (hs.components place),
    hf.paths.trans (fun ha hb => ha.trans Eq.trans hb) hs.paths⟩

theorem get? (h : Alike first second) (place : Section) (name : String) :
    first.components.get? place name = second.components.get? place name :=
  (h.components place).get? name

/-- Alike documents are the same JSON up to the order of keys. -/
theorem toJson (h : Alike first second) : Json.Alike first.toJson second.toJson := by
  have hplain : ∀ place, Json.Alike (.object (first.components.entries place))
      (.object (second.components.entries place)) := by
    refine fun place => .object fun key => (h.components place key).imp ?_
    rintro value _ rfl
    exact .refl value
  have hpaths : Json.Alike (Json.ofEntries PathItem.toJson first.paths)
      (Json.ofEntries PathItem.toJson second.paths) := by
    refine .ofEntries h.paths fun item other hi => .ofEntries hi ?_
    rintro operation _ rfl
    exact .refl operation.toJson
  have hsame : ∀ members : Entries Json,
      List.Forall₂ (fun a b => a.1 = b.1 ∧ Json.Alike a.2 b.2) members members :=
    fun members => List.forall₂_same.mpr fun entry _ => ⟨rfl, .refl entry.2⟩
  have hcomponents : Json.Alike first.components.toJson second.components.toJson := by
    rw [Registry.toJson, Registry.toJson, h.frame.extra]
    exact .members (.cons ⟨rfl, hplain .schemas⟩ (.cons ⟨rfl, hplain .responses⟩ (hsame _)))
  rw [Document.toJson, Document.toJson, h.frame.openapi, h.frame.info, h.frame.servers,
    h.frame.extensions]
  exact .members (.cons ⟨rfl, .refl _⟩ (.cons ⟨rfl, .refl _⟩ (.cons ⟨rfl, .refl _⟩
    (.cons ⟨rfl, hpaths⟩ (.cons ⟨rfl, hcomponents⟩ (hsame _))))))

end Document.Alike

end RouteDoc
