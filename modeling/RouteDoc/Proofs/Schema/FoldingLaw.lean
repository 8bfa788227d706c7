import RouteDoc.Proofs.Schema.Position

namespace RouteDoc.Schema

/-- The first pattern of a member for patterns, with its schema. -/
def firstPattern : Json → Option (String × Json)
  | .object (first :: _) => some first
  | _ => none

/-- The first pattern that an object declares. -/
def patternOf (members : Entries Json) : Option (String × Json) :=
  (members.get? patternKey).bind firstPattern

/-- Keys with a part in folding. -/
def foldingKeys : List String := [additionalKey, patternKey, patternNote]

/-- The members under all other keys. -/
def ordinary (members : Entries Json) : Entries Json :=
  members.filter fun member => member.1 ∉ foldingKeys

/-- The schema that a member offers for additional properties. -/
def offerOf (member : String × Json) : Option Json :=
  if member.1 = additionalKey then some member.2
  else if member.1 = patternKey then (firstPattern member.2).map Prod.snd
  else none

/-- The note that a member leaves. -/
def noteOf (member : String × Json) : Option Json :=
  if member.1 = patternNote then some (foldPatterns member.2)
  else if member.1 = patternKey then (firstPattern member.2).map fun first => .string first.1
  else none

/-- The first schema other than `false`; `false` if there are only such. -/
def chosen (schemas : List Json) : Option Json :=
  (schemas.find? settles).or (schemas.head?.map fun _ => .bool false)

/-- The members folded so far, and one more. -/
def foldMember (folded : Entries Json) (member : String × Json) : Entries Json :=
  if member.1 = additionalKey then offer folded (foldPatterns member.2)
  else if member.1 = patternKey then
    match firstPattern member.2 with
    | some (pattern, schema) =>
      (offer folded (foldPatterns schema)).insert patternNote (.string pattern)
    | none => folded
  else folded.insert member.1 (foldPatterns member.2)

theorem foldMembers_eq_foldl (folded rest : Entries Json) :
    foldMembers folded rest = rest.foldl foldMember folded := by
  induction rest generalizing folded with
  | nil => rfl
  | cons member rest ih =>
    obtain ⟨key, value⟩ := member
    rw [List.foldl_cons, ← ih]
    by_cases ha : key = additionalKey
    · subst ha
      exact foldMembers_additional
    · by_cases hp : key = patternKey
      · subst hp
        rcases value with _ | _ | _ | _ | _ | (_ | ⟨⟨pattern, schema⟩, others⟩) <;> rfl
      · rw [foldMembers_plain ha hp, foldMember, if_neg ha, if_neg hp]

section Chosen

variable {schema value : Json} {schemas others : List Json}

theorem eq_of_settles_eq_false (h : settles schema = false) : schema = .bool false := by
  unfold settles at h
  split at h
  · rfl
  · cases h

theorem settles_foldPatterns : settles (foldPatterns schema) = settles schema := by
  cases schema <;> rfl

theorem settled_eq (folded : Entries Json) :
    settled folded = (folded.get? additionalKey).any settles := by
  unfold settled
  split
  · rename_i h
    rw [h]
    rfl
  · rename_i h
    rw [h]
    rfl
  · rename_i found hfound h
    rw [h, Option.any_some]
    cases hs : settles found with
    | true => rfl
    | false => exact absurd (eq_of_settles_eq_false hs) hfound

theorem chosen_singleton (schema : Json) : chosen [schema] = some schema := by
  cases hs : settles schema with
  | true => simp [chosen, hs]
  | false => simp [chosen, eq_of_settles_eq_false hs, settles]

theorem chosen_toList (schema : Option Json) : chosen schema.toList = schema := by
  cases schema with
  | none => rfl
  | some schema => exact chosen_singleton schema

/-- A choice may be made in parts. -/
theorem chosen_append (schemas others : List Json) :
    chosen ((chosen schemas).toList ++ others) = chosen (schemas ++ others) := by
  cases hf : schemas.find? settles with
  | some found =>
    have hs : settles found = true := List.find?_some hf
    simp [chosen, hs, hf, List.find?_append]
  | none =>
    cases schemas with
    | nil => rfl
    | cons schema rest =>
      have hone : chosen (schema :: rest) = some (.bool false) := by
        rw [chosen, hf]
        rfl
      have hparts : (schema :: rest ++ others).find? settles = others.find? settles := by
        rw [List.find?_append, hf, Option.none_or]
      rw [hone, chosen, chosen, hparts]
      rfl

/-- Folding does not touch the choice. -/
theorem chosen_map_fold (schemas : List Json) :
    chosen (schemas.map foldPatterns) = (chosen schemas).map foldPatterns := by
  have hsettles : settles ∘ foldPatterns = settles := funext fun _ => settles_foldPatterns
  rw [chosen, chosen, List.find?_map, hsettles, List.head?_map, Option.map_or]
  cases schemas.head? <;> rfl

theorem chosen_isSome : (chosen schemas).isSome ↔ schemas ≠ [] := by
  cases schemas <;> simp [chosen]

end Chosen

section Steps

variable {key : String} {value : Json} {folded members rest : Entries Json}
  {member : String × Json}

/-- An offer is chosen if nothing but `false` stands. -/
theorem get?_offer_additional : (offer folded value).get? additionalKey =
    chosen ((folded.get? additionalKey).toList ++ [value]) := by
  rw [offer, settled_eq]
  cases hg : folded.get? additionalKey with
  | none =>
    rw [Option.any_none, if_neg Bool.false_ne_true, Entries.get?_insert_self]
    exact (chosen_singleton value).symm
  | some found =>
    cases hs : settles found with
    | true => simp [hs, hg, chosen]
    | false =>
      rw [Option.any_some, hs, if_neg Bool.false_ne_true, Entries.get?_insert_self,
        ← chosen_singleton value]
      simp [chosen, hs]

theorem get?_foldMember_additional : (foldMember folded member).get? additionalKey =
    chosen ((folded.get? additionalKey).toList ++ ((offerOf member).map foldPatterns).toList) := by
  obtain ⟨key, value⟩ := member
  by_cases ha : key = additionalKey
  · rw [foldMember, if_pos ha, get?_offer_additional, offerOf, if_pos ha]
    rfl
  rw [foldMember, if_neg ha, offerOf, if_neg ha]
  by_cases hp : key = patternKey
  · rw [if_pos hp, if_pos hp]
    cases hf : firstPattern value with
    | none => exact ((chosen_toList _).symm.trans (by simp))
    | some first =>
      dsimp only
      rw [Entries.get?_insert_of_ne _ _ (by decide), get?_offer_additional]
      rfl
  · rw [if_neg hp, if_neg hp, Entries.get?_insert_of_ne _ _ ha]
    exact ((chosen_toList _).symm.trans (by simp))

theorem get?_foldMember_note : (foldMember folded member).get? patternNote =
    (noteOf member).or (folded.get? patternNote) := by
  obtain ⟨key, value⟩ := member
  have hoffer (schema : Json) : (offer folded schema).get? patternNote = folded.get? patternNote :=
    get?_offer (by decide)
  by_cases ha : key = additionalKey
  · subst ha
    exact hoffer _
  rw [foldMember, if_neg ha, noteOf]
  by_cases hp : key = patternKey
  · subst hp
    have hne : patternKey ≠ patternNote := by decide
    rw [if_pos rfl, if_neg hne, if_pos rfl]
    cases hf : firstPattern value with
    | none => rfl
    | some first => exact Entries.get?_insert_self _ _ _
  · rw [if_neg hp, if_neg hp]
    by_cases hx : key = patternNote
    · subst hx
      rw [if_pos rfl]
      exact Entries.get?_insert_self _ _ _
    · rw [if_neg hx, Entries.get?_insert_of_ne _ _ hx]
      rfl

/-- Among all schemas offered, in the order of the members, the choice is made. -/
theorem get?_fold_additional (folded rest : Entries Json) :
    (rest.foldl foldMember folded).get? additionalKey =
      chosen ((folded.get? additionalKey).toList ++ (rest.filterMap offerOf).map foldPatterns) := by
  induction rest generalizing folded with
  | nil => simp [chosen_toList]
  | cons member rest ih =>
    rw [List.foldl_cons, ih, get?_foldMember_additional, chosen_append, List.append_assoc]
    cases hoffer : offerOf member <;> simp [hoffer]

/-- The last note stands. -/
theorem get?_fold_note (folded rest : Entries Json) :
    (rest.foldl foldMember folded).get? patternNote =
      (rest.filterMap noteOf).getLast?.or (folded.get? patternNote) := by
  induction rest generalizing folded with
  | nil => rfl
  | cons member rest ih =>
    rw [List.foldl_cons, ih, get?_foldMember_note]
    cases hnote : noteOf member with
    | none => simp [hnote]
    | some note =>
      rw [List.filterMap_cons_some hnote, List.getLast?_cons]
      cases (rest.filterMap noteOf).getLast? <;> rfl

theorem ordinary_insert (key : String) (value : Json) (folded : Entries Json) :
    ordinary (folded.insert key value) =
      if key ∈ foldingKeys then ordinary folded else (ordinary folded).insert key value := by
  rw [ordinary, Entries.filter_insert fun key => key ∉ foldingKeys]
  by_cases hk : key ∈ foldingKeys <;> simp [hk, ordinary]

theorem ordinary_offer (folded : Entries Json) (schema : Json) :
    ordinary (offer folded schema) = ordinary folded := by
  unfold offer
  split
  · rfl
  · rw [ordinary_insert, if_pos (by decide)]

theorem ordinary_foldMember : ordinary (foldMember folded member) =
    if member.1 ∈ foldingKeys then ordinary folded
    else (ordinary folded).insert member.1 (foldPatterns member.2) := by
  obtain ⟨key, value⟩ := member
  by_cases ha : key = additionalKey
  · subst ha
    exact ordinary_offer folded _
  rw [foldMember, if_neg ha]
  by_cases hp : key = patternKey
  · subst hp
    have hfolding : patternKey ∈ foldingKeys := by decide
    rw [if_pos rfl, if_pos hfolding]
    cases hf : firstPattern value with
    | none => rfl
    | some first =>
      dsimp only
      rw [ordinary_insert, if_pos (by decide), ordinary_offer]
  · rw [if_neg hp, ordinary_insert]

/-- The members under ordinary keys are folded one by one. -/
theorem ordinary_fold (folded rest : Entries Json) : ordinary (rest.foldl foldMember folded) =
    (ordinary folded).insertAll
      ((ordinary rest).map fun member => (member.1, foldPatterns member.2)) := by
  induction rest generalizing folded with
  | nil => rfl
  | cons member rest ih =>
    rw [List.foldl_cons, ih, ordinary_foldMember]
    by_cases hk : member.1 ∈ foldingKeys <;> simp [ordinary, Entries.insertAll, hk]

end Steps

section Law

variable {key : String} {pattern : String} {schema : Json} {members : Entries Json}

/-- A row in which one key alone counts is told by its value. -/
theorem filterMap_of_key {β : Type} {f : String × Json → Option β} (hn : members.keys.Nodup)
    (hf : ∀ member ∈ members, member.1 ≠ key → f member = none) :
    members.filterMap f = ((members.get? key).bind fun value => f (key, value)).toList := by
  induction members with
  | nil => rfl
  | cons member rest ih =>
    obtain ⟨k, v⟩ := member
    obtain ⟨hk, hrest⟩ := List.nodup_cons.mp hn
    have htail := ih hrest fun member hm => hf member (List.mem_cons_of_mem _ hm)
    by_cases he : k = key
    · subst he
      have hnone : Entries.get? k rest = none := Entries.get?_eq_none_iff.mpr hk
      rw [hnone] at htail
      cases hv : f (k, v) <;> simp_all [Entries.get?]
    · rw [List.filterMap_cons_none (hf _ List.mem_cons_self he), htail, Entries.get?, if_neg he]

/-- A key that stands nowhere before another comes after it or not at all. -/
theorem pair_sublist_iff {first second : String} {before after : List String}
    (h : first ∉ before) :
    [first, second].Sublist (before ++ first :: after) ↔ second ∈ after := by
  induction before with
  | nil => rw [List.nil_append, List.cons_sublist_cons, List.singleton_sublist]
  | cons other rest ih =>
    obtain ⟨hne, hrest⟩ := not_or.mp (mt List.mem_cons.mpr h)
    rw [List.cons_append, ← ih hrest, List.sublist_cons_iff]
    refine or_iff_left ?_
    rintro ⟨tail, he, _⟩
    exact hne (List.cons.inj he).1

theorem noteOf_of_ne {member : String × Json} (hp : member.1 ≠ patternKey)
    (hx : member.1 ≠ patternNote) : noteOf member = none := by
  rw [noteOf, if_neg hx, if_neg hp]

theorem noteOf_pattern (value : Json) :
    noteOf (patternKey, value) = (firstPattern value).map fun first => .string first.1 := by
  have hne : patternKey ≠ patternNote := by decide
  rw [noteOf, if_neg hne, if_pos rfl]

/-- Without a pattern a note of the object's own is the only one. -/
theorem notes_of_no_pattern (hn : members.keys.Nodup) (hp : patternOf members = none) :
    members.filterMap noteOf = ((members.get? patternNote).map foldPatterns).toList := by
  have hsilent : ∀ member ∈ members, member.1 ≠ patternNote → noteOf member = none := by
    rintro ⟨key, value⟩ hm hx
    by_cases hk : key = patternKey
    · subst hk
      have hfirst : firstPattern value = none := by
        rwa [patternOf, (Entries.get?_eq_some_iff hn).mpr hm] at hp
      rw [noteOf_pattern, hfirst]
      rfl
    · exact noteOf_of_ne hk hx
  rw [filterMap_of_key hn hsilent]
  cases members.get? patternNote <;> rfl

/-- A pattern notes its expression, unless a note of the object's own comes later. -/
theorem last_note (hn : members.keys.Nodup) (hp : patternOf members = some (pattern, schema)) :
    (members.filterMap noteOf).getLast? =
      if [patternKey, patternNote].Sublist members.keys
      then (members.get? patternNote).map foldPatterns else some (.string pattern) := by
  obtain ⟨value, hg, hfirst⟩ := Option.bind_eq_some_iff.mp hp
  obtain ⟨before, after, rfl⟩ := List.append_of_mem (Entries.mem_of_get? hg)
  have hkeys : Entries.keys (before ++ (patternKey, value) :: after) =
      Entries.keys before ++ patternKey :: Entries.keys after := by
    simp [Entries.keys]
  have hbefore : patternKey ∉ Entries.keys before := Entries.not_mem_of_nodup_append hn
  rw [hkeys] at hn
  obtain ⟨_, htail, hapart⟩ := List.nodup_append.mp hn
  obtain ⟨hafter, hrest⟩ := List.nodup_cons.mp htail
  have hnone : patternOf after = none := by
    rw [patternOf, Entries.get?_eq_none_iff.mpr hafter]
    rfl
  have hnote : noteOf (patternKey, value) = some (.string pattern) := by
    rw [noteOf_pattern, hfirst]
    rfl
  rw [List.filterMap_append, List.filterMap_cons_some hnote, notes_of_no_pattern hrest hnone,
    List.getLast?_append, List.getLast?_cons, Option.some_or, hkeys]
  by_cases hx : patternNote ∈ Entries.keys after
  · have hfront : Entries.get? patternNote before = none :=
      Entries.get?_eq_none_iff.mpr fun hm => hapart _ hm _ (List.mem_cons_of_mem _ hx) rfl
    have hown : Entries.get? patternNote (before ++ (patternKey, value) :: after) =
        Entries.get? patternNote after := by
      rw [Entries.get?_append, hfront, Option.none_or]
      exact if_neg (by decide)
    rw [if_pos ((pair_sublist_iff hbefore).mpr hx), hown]
    cases hfound : Entries.get? patternNote after with
    | none => exact absurd hx (Entries.get?_eq_none_iff.mp hfound)
    | some own => rfl
  · rw [if_neg (mt (pair_sublist_iff hbefore).mp hx), Entries.get?_eq_none_iff.mpr hx]
    rfl

theorem offerOf_isSome {member : String × Json} : (offerOf member).isSome ↔
    member.1 = additionalKey ∨ member.1 = patternKey ∧ (firstPattern member.2).isSome := by
  have hne : patternKey ≠ additionalKey := by decide
  unfold offerOf
  split
  · simp_all
  · split <;> simp_all

/-- A schema is offered exactly if the object has one for additional properties or a pattern. -/
theorem offers_ne_nil (hn : members.keys.Nodup) : members.filterMap offerOf ≠ [] ↔
    (members.get? additionalKey).isSome ∨ (patternOf members).isSome := by
  have hoffers : members.filterMap offerOf ≠ [] ↔ ∃ member ∈ members, (offerOf member).isSome := by
    rw [ne_eq, List.filterMap_eq_nil_iff]
    simp [Option.isSome_iff_ne_none]
  rw [hoffers]
  constructor
  · rintro ⟨⟨key, value⟩, hm, hoffer⟩
    have hg := (Entries.get?_eq_some_iff hn).mpr hm
    rcases offerOf_isSome.mp hoffer with rfl | ⟨rfl, hfirst⟩
    · exact .inl (by rw [hg]; rfl)
    · exact .inr (by rw [patternOf, hg]; exact hfirst)
  · rintro (ha | hp)
    · obtain ⟨value, hg⟩ := Option.isSome_iff_exists.mp ha
      exact ⟨_, Entries.mem_of_get? hg, offerOf_isSome.mpr (.inl rfl)⟩
    · obtain ⟨first, hfirst⟩ := Option.isSome_iff_exists.mp hp
      obtain ⟨value, hg, hf⟩ := Option.bind_eq_some_iff.mp hfirst
      exact ⟨_, Entries.mem_of_get? hg, offerOf_isSome.mpr (.inr ⟨rfl, by rw [hf]; rfl⟩)⟩

end Law

/-- The law of folding one object. Members under other keys are folded in their order. The first
schema that is not `false` stands for the additional properties, whether it was given for them or
for the first pattern, and the expression of that pattern is noted, unless a note of the object's
own comes later. -/
theorem fold_law {members : Entries Json} (hn : members.keys.Nodup) :
    ∃ after : Entries Json, foldPatterns (.object members) = .object after ∧
      after.get? patternKey = none ∧
      ordinary after = (ordinary members).map (fun member => (member.1, foldPatterns member.2)) ∧
      ((after.get? additionalKey).isSome ↔
        (members.get? additionalKey).isSome ∨ (patternOf members).isSome) ∧
      after.get? additionalKey = (chosen (members.filterMap offerOf)).map foldPatterns ∧
      after.get? patternNote = match patternOf members with
        | none => (members.get? patternNote).map foldPatterns
        | some (pattern, _) =>
          if [patternKey, patternNote].Sublist members.keys
          then (members.get? patternNote).map foldPatterns else some (.string pattern) := by
  have hfold : foldMembers [] members = members.foldl foldMember [] :=
    foldMembers_eq_foldl [] members
  have hchosen : (foldMembers [] members).get? additionalKey =
      (chosen (members.filterMap offerOf)).map foldPatterns := by
    rw [hfold, get?_fold_additional, ← chosen_map_fold]
    rfl
  refine ⟨foldMembers [] members, foldPatterns.eq_1 members, ?_, ?_, ?_, hchosen, ?_⟩
  · exact Entries.get?_eq_none_iff.mpr pattern_not_mem_fold
  · rw [hfold, ordinary_fold]
    have hkeys : Entries.keys ((ordinary members).map fun member =>
        (member.1, foldPatterns member.2)) = (ordinary members).keys :=
      Entries.keys_map (fun _ => foldPatterns) (ordinary members)
    apply Entries.ofList_of_nodup
    rw [hkeys]
    exact hn.sublist (List.filter_sublist.map Prod.fst)
  · rw [hchosen, Option.isSome_map, chosen_isSome]
    exact offers_ne_nil hn
  · rw [hfold, get?_fold_note]
    cases hp : patternOf members with
    | none =>
      rw [notes_of_no_pattern hn hp]
      cases members.get? patternNote <;> rfl
    | some first =>
      rw [last_note hn hp]
      exact Option.or_none

/-- All three keys stand, the note after the patterns, and patterns stand below each of them. -/
def ratesNode : Entries Json := [
  ("title", .string "rates"),
  ("additionalProperties", .bool false),
  ("patternProperties", .object [
    ("^[A-Z]+$", .object [("patternProperties", .object [("^x", .bool true)])]),
    ("^y", .object [])]),
  ("default", .object [("patternProperties", .object [])]),
  ("x-pattern", .array [.object [("patternProperties", .object [("^z", .null)])]])]

theorem fold_law_rates : ratesNode.keys.Nodup ∧
    ∃ after : Entries Json, foldPatterns (.object ratesNode) = .object after ∧
      after.get? "patternProperties" = none ∧
      ordinary after = [("title", .string "rates"), ("default", .object [])] ∧
      after.get? "additionalProperties" = some (.object [
        ("additionalProperties", .bool true), ("x-pattern", .string "^x")]) ∧
      after.get? "x-pattern" = some (.array [.object [
        ("additionalProperties", .null), ("x-pattern", .string "^z")]]) := by
  have hn : ratesNode.keys.Nodup := by decide
  obtain ⟨after, hfold, hnone, hordinary, _, hadditional, hnote⟩ := fold_law hn
  have hlater : [patternKey, patternNote].Sublist ratesNode.keys := by decide
  have hpattern : patternOf ratesNode = some ("^[A-Z]+$",
      .object [("patternProperties", .object [("^x", .bool true)])]) := rfl
  rw [hpattern] at hnote
  dsimp only at hnote
  rw [if_pos hlater] at hnote
  exact ⟨hn, after, hfold, hnone, hordinary, hadditional, hnote⟩

end RouteDoc.Schema
