import RouteDoc.Proofs.Check.ServerUrl
import RouteDoc.Proofs.Document.Sound

namespace RouteDoc

open Component
open Operation (Route Method Bucket)

namespace Document

open Piece (Clean)

theorem extra_base {environment : String} {server : Server}
    (h : Template.base.server? environment = some server) : server.extra = [] := by
  have hall : ∀ entry ∈ Template.base.servers, entry.2.extra = [] := by
    simp [Template.base]
  exact hall _ (Entries.mem_of_get? h)

theorem clean_base : ∀ piece ∈ Template.base.pieces, Clean piece := by
  intro piece hm
  rw [List.mem_singleton.mp hm]
  refine .response (by decide) (fun location => ?_) (.object (.single (by simp) (.string _)))
  exact fun _ hm => nomatch hm

/-- Admissible routes lead from the base template to sound documents, whichever calls fail. -/
theorem sound_afterAll {environment module : String} {metadata : Metadata} {policy : Policy}
    {first : Document} {calls : List Call}
    (hstart : start Template.base environment module metadata policy = .ok first)
    (htitle : metadata.title.isSome)
    (hmodule : ∀ c ∈ module.toList, Check.ServerUrl.isModuleChar c)
    (hroutes : ∀ call ∈ calls, ∀ route ∈ call.routes, route.Admissible) :
    (afterAll calls first).Sound := by
  have hold : ∀ piece ∈ (afterAll calls first).pieces,
      piece ∈ written calls first ∨ piece ∈ Template.base.pieces := by
    intro piece hm
    rw [← (start_ok hstart).1]
    exact mem_pieces_afterAll hm
  have hclean : ∀ piece ∈ (afterAll calls first).pieces, Clean piece := by
    refine fun piece hm => (hold piece hm).elim (fun hw => ?_) (clean_base piece)
    obtain ⟨call, hc, route, hr, hp⟩ := mem_written hw
    exact Piece.clean_routePieces (hroutes call hc route hr) piece hp
  have hframe : SameFrame first (afterAll calls first) :=
    preserved_afterAll (fun pieces document hd => hd.trans (sameFrame_writeAll pieces document))
      calls (.refl first)
  have hresolve := (allResolve_afterAll (by decide) hstart calls).1
  have hbase : ∀ piece ∈ Template.base.pieces, piece.targets = [] := by
    intro piece hm
    rw [List.mem_singleton.mp hm]
    rfl
  rw [start] at hstart
  split at hstart
  · cases hstart
  · rename_i server hserver
    cases hstart
    refine ⟨hframe.openapi, ?_, ?_, ?_, hclean, fun piece hm target ht => ?_, ?_, ?_⟩
    · rw [hframe.info]
      exact htitle
    · rw [hframe.info]
      rfl
    · intro other hm
      rw [hframe.servers] at hm
      rw [List.mem_singleton.mp hm]
      have hextra : server.extra = [] := extra_base hserver
      exact ⟨Check.ServerUrl.isValid_base hserver hmodule, hextra⟩
    · refine (hold piece hm).elim (fun hw => hresolve piece hw target ht) fun hb => ?_
      rw [hbase piece hb] at ht
      cases ht
    · rw [hframe.extra]
      rfl
    · rw [hframe.extensions]
      rfl

/-- Whatever admissible routes are added to the base template, with a title and a plain module name,
the structural check finds nothing in the document, as long as its components can be read. -/
theorem structural_afterAll {environment module : String} {metadata : Metadata}
    {policy : Policy} {first : Document} {calls : List Call}
    (hstart : start Template.base environment module metadata policy = .ok first)
    (htitle : metadata.title.isSome)
    (hmodule : ∀ c ∈ module.toList, Check.ServerUrl.isModuleChar c)
    (hroutes : ∀ call ∈ calls, ∀ route ∈ call.routes, route.Admissible)
    (hread : ∀ members, (afterAll calls first).components.toJson = .object members →
      Check.Components.problem? members = none) :
    Check.structural (afterAll calls first).toJson = [] :=
  (sound_afterAll hstart htitle hmodule hroutes).structural hread

def idParameter : Json := .object [("type", .string "String")]

def memberParams : Json := .object [("properties", .object [("id", idParameter)]),
  ("required", .array [.string "id"])]

def memberBody : Json := .object [("properties", .object [("id", idParameter)])]

/-- A method with a parameter in its path and a body. -/
def memberMethod : Method where
  schema := .object [("properties", .object [("params", memberParams), ("body", memberBody)])]

def memberRoute : Route := { path := "/members/\x7bid\x7d", methods := [("Put", memberMethod)] }

theorem hasPlainType_idParameter : HasPlainType idParameter := by
  intro text ht
  cases ht
  decide +kernel

theorem publishable_memberBody : Publishable memberBody := by
  have hkind : Component.nodeKind idParameter = .primitive (some "string") := rfl
  have hplain : PlainNode idParameter := by
    refine ⟨hasPlainType_idParameter, fun title ht => ?_, fun hk => ?_⟩
    · cases ht
    · rw [hkind] at hk
      cases hk
  refine ⟨⟨fun entry hm => ?_, Or.inl rfl⟩, fun property hp node hw => ?_⟩
  · rw [List.mem_singleton.mp hm]
    decide
  · rw [List.mem_singleton.mp hp] at hw
    rwa [hw.eq_of_below_nil rfl]

theorem declares_memberMethod {bucket : Bucket} {schema property : Json} {name : String}
    (h : memberMethod.Declares bucket schema name property) :
    bucket = .params ∧ schema = memberParams ∧ name = "id" ∧ property = idParameter := by
  obtain ⟨hb, hm, _⟩ := h
  cases bucket with
  | params =>
    cases hb
    cases List.mem_singleton.mp hm
    exact ⟨rfl, rfl, rfl, rfl⟩
  | _ => cases hb

theorem admissible_memberMethod : memberMethod.Admissible memberRoute.path where
  body body hb := by
    cases hb
    exact publishable_memberBody
  nonempty _ hr := nomatch hr
  responses _ hr := nomatch hr
  types bucket schema name property hd := by
    obtain ⟨_, _, _, rfl⟩ := declares_memberMethod hd
    exact hasPlainType_idParameter
  examples bucket schema name property hd value hv := by
    obtain ⟨_, _, _, rfl⟩ := declares_memberMethod hd
    cases hv
  required schema name property hd := by
    obtain ⟨_, rfl, rfl, _⟩ := declares_memberMethod hd
    decide
  named name hn := by
    have hnames : Check.templateParameters memberRoute.path = ["id"] := by decide
    rw [hnames] at hn
    rw [List.mem_singleton.mp hn]
    exact ⟨memberParams, idParameter, rfl, List.mem_singleton.mpr rfl, by decide⟩

theorem structural_afterAll_member : ∃ first,
    start Template.base "default" "v1" { title := some "Members" } .fail = .ok first ∧
      Check.structural (afterAll [.addRoute memberRoute] first).toJson = [] := by
  obtain ⟨first, hstart⟩ : ∃ first,
      start Template.base "default" "v1" { title := some "Members" } .fail = .ok first := ⟨_, rfl⟩
  have hadmissible : memberRoute.Admissible := by
    intro entry hm
    rw [List.mem_singleton.mp hm]
    exact ⟨by decide +kernel, admissible_memberMethod⟩
  have hmodule : ∀ c ∈ "v1".toList, Check.ServerUrl.isModuleChar c :=
    List.all_eq_true.mp (by decide)
  refine ⟨first, hstart, structural_afterAll hstart rfl hmodule (fun call hc route hr => ?_) ?_⟩
  · rw [List.mem_singleton.mp hc] at hr
    rw [List.mem_singleton.mp hr]
    exact hadmissible
  · cases hstart
    intro members hm
    cases hm
    decide +kernel

end Document
end RouteDoc
