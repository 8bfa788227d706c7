import RouteDoc.Proofs.Reading.Record
import RouteDoc.Reading.Document

namespace RouteDoc.Reading

open Fields (Gives named_given named_maybe named_field)
open Operation Document

theorem faithful_optionalText : Faithful (optional text) (orNull Json.string) :=
  faithful_optional faithful_text fun _ _ _ => nofun

theorem faithful_optionalFlag : Faithful (optional flag) (orNull Json.bool) :=
  faithful_optional faithful_flag fun _ _ _ => nofun

theorem faithful_optionalValue : Faithful (optional value) (orNull id) :=
  faithful_optional faithful_value fun _ _ hr he => (Except.ok.inj hr).trans he

section Routes

theorem faithful_declaredResponse : Faithful declaredResponse DeclaredResponse.toJson := by
  refine faithful_record (.field (.field (.of fun description hd schema hs => ⟨_, rfl, ?_⟩)
    (.maybe faithful_optionalText)) (.maybe faithful_optionalValue))
  exact named_field (named_field rfl (named_maybe (by simp) hd)) (named_maybe (by simp) hs)

theorem faithful_notes : Faithful notes Notes.toJson := by
  have hresponses : Faithful (optional (mapOf declaredResponse))
      (orNull (Json.ofEntries DeclaredResponse.toJson)) :=
    faithful_optional (faithful_mapOf faithful_declaredResponse) fun _ _ _ => nofun
  refine faithful_record (.field (.field (.field (.of fun summary hs description hd responses hr =>
    ⟨_, rfl, ?_⟩) (.maybe faithful_optionalText)) (.maybe faithful_optionalText))
    (.maybe hresponses))
  exact named_field (named_field (named_field rfl (named_maybe (by simp) hs))
    (named_maybe (by simp) hd)) (named_maybe (by simp) hr)

theorem faithful_method : Faithful method Method.toJson := by
  have hnotes : Faithful (optional notes) (orNull Notes.toJson) :=
    faithful_optional faithful_notes fun _ _ _ => nofun
  refine faithful_record (.field (.field (.of fun schema hs notes hn => ⟨_, rfl, ?_⟩)
    (.withDefault faithful_value rfl)) (.maybe hnotes))
  exact named_field (named_field rfl (named_given (by simp) hs)) (named_maybe (by simp) hn)

theorem faithful_route : Faithful route Route.toJson := by
  refine faithful_record (.field (.field (.of fun path hp methods hm => ⟨_, rfl, ?_⟩)
    (.required faithful_text)) (.withDefault (faithful_mapOf faithful_method) rfl))
  exact named_field (named_field rfl (named_given (by simp) hp)) (named_given (by simp) hm)

end Routes

section Operations

theorem faithful_location : Faithful location Location.toJson := by
  intro value outcome _
  cases outcome <;> rfl

theorem faithful_parameterSchema : Faithful parameterSchema ParameterSchema.toJson := by
  refine faithful_record (.field (.field (.field (.field (.of
    fun type ht example? he pattern hp description hd => ⟨_, rfl, ?_⟩)
    (.maybe faithful_optionalText)) (.maybe faithful_optionalValue))
    (.maybe faithful_optionalText)) (.maybe faithful_optionalText))
  exact named_field (named_field (named_field (named_field rfl (named_maybe (by simp) ht))
    (named_maybe (by simp) he)) (named_maybe (by simp) hp)) (named_maybe (by simp) hd)

theorem faithful_parameter : Faithful parameter Parameter.toJson := by
  refine faithful_record (.field (.field (.field (.field (.field (.of
    fun location hl name hn description hd required hr schema hs => ⟨_, rfl, ?_⟩)
    (.required faithful_location)) (.required faithful_text)) (.maybe faithful_optionalText))
    (.maybe faithful_optionalFlag)) (.required faithful_parameterSchema))
  exact named_field (named_field (named_field (named_field (named_field rfl
    (named_given (by simp) hl)) (named_given (by simp) hn)) (named_maybe (by simp) hd))
    (named_maybe (by simp) hr)) (named_given (by simp) hs)

theorem faithful_reference : Faithful reference Reference.toJson := by
  refine faithful_record (.field (.of fun target ht => ⟨_, rfl, ?_⟩) (.required faithful_text))
  exact named_field rfl (named_given (by simp) ht)

theorem faithful_media : Faithful media Media.toJson := by
  refine faithful_record (.field (.of fun schema hs => ⟨_, rfl, ?_⟩)
    (.required faithful_reference))
  exact named_field rfl (named_given (by simp) hs)

theorem faithful_requestBody : Faithful requestBody RequestBody.toJson := by
  have hcontent : Faithful (mapOf media) Content.toJson := faithful_mapOf faithful_media
  refine faithful_record (.field (.field (.of fun required hr content hc => ⟨_, rfl, ?_⟩)
    (.maybe faithful_optionalFlag)) (.required hcontent))
  exact named_field (named_field rfl (named_maybe (by simp) hr)) (named_given (by simp) hc)

theorem faithful_operation : Faithful operation Operation.toJson := by
  have hbody : Faithful (optional requestBody) (orNull RequestBody.toJson) :=
    faithful_optional faithful_requestBody fun _ _ _ => nofun
  refine faithful_record (.field (.field (.field (.field (.field (.of
    fun summary hs description hd parameters hp body hb responses hr => ⟨_, rfl, ?_⟩)
    (.maybe faithful_optionalText)) (.maybe faithful_optionalText))
    (.withDefault (faithful_listOf faithful_parameter) rfl)) (.maybe hbody))
    (.withDefault (faithful_mapOf faithful_reference) rfl))
  exact named_field (named_field (named_field (named_field (named_field rfl
    (named_maybe (by simp) hs)) (named_maybe (by simp) hd)) (named_given (by simp) hp))
    (named_maybe (by simp) hb)) (named_given (by simp) hr)

end Operations

section Documents

theorem faithful_info : Faithful info Info.toJson := by
  refine faithful_openRecord (.field (.field (.field (.field (.of
    fun title ht description hd version hv extra he => ⟨_, rfl, ?_⟩)
    (.maybe faithful_optionalText)) (.maybe faithful_optionalText))
    (.withDefault faithful_text rfl)) .others)
  have hextra : Unknown ["title", "description", "version"] extra := he
  exact named_field (named_field (named_field (named_field rfl
    (named_maybe (by simp [hextra.valuesAt]) ht)) (named_maybe (by simp [hextra.valuesAt]) hd))
    (named_given (by simp [hextra.valuesAt]) hv)) (named_unknown (by simp) he)

theorem faithful_server : Faithful server Server.toJson := by
  refine faithful_openRecord (.field (.field (.field (.of
    fun url hu description hd extra he => ⟨_, rfl, ?_⟩)
    (.required faithful_text)) (.maybe faithful_optionalText)) .others)
  have hextra : Unknown ["url", "description"] extra := he
  exact named_field (named_field (named_field rfl
    (named_given (by simp [hextra.valuesAt]) hu)) (named_maybe (by simp [hextra.valuesAt]) hd))
    (named_unknown (by simp) he)

theorem faithful_registry : Faithful registry Component.Registry.toJson := by
  refine faithful_openRecord (.field (.field (.field (.of
    fun schemas hs responses hr extra he => ⟨_, rfl, ?_⟩)
    (.withDefault faithful_mapOf_value rfl)) (.withDefault faithful_mapOf_value rfl)) .others)
  have hextra : Unknown ["schemas", "responses"] extra := he
  refine named_field (g := fun others =>
    ({ schemas, responses, extra := others } : Component.Registry))
    ?_ (named_unknown (by simp) he)
  refine named_field (g := fun second others =>
    ({ schemas, responses := second, extra := others } : Component.Registry))
    ?_ (named_given (by simp [hextra.valuesAt]) hr)
  exact named_field (g := fun first second others =>
    ({ schemas := first, responses := second, extra := others } : Component.Registry))
    rfl (named_given (by simp [hextra.valuesAt]) hs)

theorem faithful_pathItem : Faithful pathItem PathItem.toJson := faithful_mapOf faithful_operation

theorem faithful_template : Faithful template Template.toJson := by
  refine faithful_openRecord (.field (.field (.field (.field (.field (.field (.of
    fun openapi ho info hi servers hs paths hp components hc extensions he => ⟨_, rfl, ?_⟩)
    (.required faithful_text)) (.required faithful_info))
    (.withDefault (faithful_mapOf faithful_server) rfl))
    (.withDefault (faithful_mapOf faithful_pathItem) rfl))
    (.withDefault faithful_registry rfl)) .others)
  have hextra : Unknown ["openapi", "info", "servers", "paths", "components"] extensions := he
  exact named_field (named_field (named_field (named_field (named_field (named_field rfl
    (named_given (by simp [hextra.valuesAt]) ho)) (named_given (by simp [hextra.valuesAt]) hi))
    (named_given (by simp [hextra.valuesAt]) hs)) (named_given (by simp [hextra.valuesAt]) hp))
    (named_given (by simp [hextra.valuesAt]) hc)) (named_unknown (by simp) he)

theorem faithful_document : Faithful document RouteDoc.Document.toJson := by
  refine faithful_openRecord (.field (.field (.field (.field (.field (.field (.of
    fun openapi ho info hi servers hs paths hp components hc extensions he => ⟨_, rfl, ?_⟩)
    (.required faithful_text)) (.required faithful_info))
    (.required (faithful_listOf faithful_server)))
    (.required (faithful_mapOf faithful_pathItem))) (.required faithful_registry)) .others)
  have hextra : Unknown ["openapi", "info", "servers", "paths", "components"] extensions := he
  exact named_field (named_field (named_field (named_field (named_field (named_field rfl
    (named_given (by simp [hextra.valuesAt]) ho)) (named_given (by simp [hextra.valuesAt]) hi))
    (named_given (by simp [hextra.valuesAt]) hs)) (named_given (by simp [hextra.valuesAt]) hp))
    (named_given (by simp [hextra.valuesAt]) hc)) (named_unknown (by simp) he)

/-- An absent title is written as null here, and read as absent. -/
theorem faithful_metadata : Faithful metadata Metadata.toJson := by
  refine faithful_record (.field (.field (.of fun title ht description hd => ⟨_, rfl, ?_⟩)
    (.maybe faithful_optionalText)) (.maybe faithful_optionalText))
  exact named_field (named_field rfl (named_given (by simp; rfl) ht)) (named_given (by simp; rfl) hd)

theorem faithful_issue : Faithful issue Check.Issue.toJson := by
  refine faithful_record (.field (.field (.of fun path hp message hm => ⟨_, rfl, ?_⟩)
    (.required faithful_text)) (.required faithful_text))
  exact named_field (named_field rfl (named_given (by simp) hp)) (named_given (by simp) hm)

end Documents

/-- Whatever a model is read from, it is written so that the same model is read again, with all its
maps in the same order. -/
theorem read_of_written :
    Faithful route Route.toJson ∧ Faithful method Method.toJson ∧
    Faithful parameter Parameter.toJson ∧ Faithful requestBody RequestBody.toJson ∧
    Faithful operation Operation.toJson ∧ Faithful registry Component.Registry.toJson ∧
    Faithful template Template.toJson ∧ Faithful info Info.toJson ∧
    Faithful server Server.toJson ∧ Faithful document RouteDoc.Document.toJson ∧
    Faithful metadata Metadata.toJson ∧ Faithful issue Check.Issue.toJson :=
  ⟨faithful_route, faithful_method, faithful_parameter, faithful_requestBody, faithful_operation,
    faithful_registry, faithful_template, faithful_info, faithful_server, faithful_document,
    faithful_metadata, faithful_issue⟩

/-- A route in the form of a list, whose method has a null where nothing is said. -/
theorem read_of_written_listed :
    Restored route Route.toJson ⟨"/users", [("get", ⟨.null, none⟩)]⟩ :=
  read_of_written.1
    (.array [.string "/users", .object [("get", .object [("swagger", .null)])]]) _ (by rfl)

end RouteDoc.Reading
