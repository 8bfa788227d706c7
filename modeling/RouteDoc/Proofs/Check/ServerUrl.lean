import RouteDoc.Check.ServerUrl
import RouteDoc.Document.Template
import RouteDoc.Proofs.Entries
import RouteDoc.Proofs.Text.Ascii

namespace RouteDoc.Check

namespace Host

theorem isForbiddenAscii_eq (c : Char) : isForbiddenAscii c =
    (c.toNat < 33 || c.toNat = 127 || "%#/:<>?@[\\]^|".toList.contains c) := by
  simp [isForbiddenAscii]

/-- Small letters and points, of which domains are made. -/
def isDomainChar (c : Char) : Bool := c.isLower || c = '.'

theorem toNat_of_isDomainChar {c : Char} (h : isDomainChar c) :
    c.toNat = 46 ∨ 97 ≤ c.toNat ∧ c.toNat ≤ 122 := by
  rw [isDomainChar, Bool.or_eq_true, decide_eq_true_eq] at h
  rcases h with h | rfl
  · exact Or.inr (Text.toNat_of_isLower h)
  · exact Or.inl rfl

theorem mapChar_of_isDomainChar {c : Char} (h : isDomainChar c) : mapChar c = some [c] := by
  have hc := toNat_of_isDomainChar h
  have hlower : c.toLower = c := by
    unfold Char.toLower
    refine dif_neg fun hr => ?_
    have hfirst : 65 ≤ c.toNat := hr.1
    have hlast : c.toNat ≤ 90 := hr.2
    omega
  simp only [mapChar, hlower]
  exact if_pos (by omega)

theorem not_isForbiddenAscii {c : Char} (h : isDomainChar c) : isForbiddenAscii c = false := by
  have hc := toNat_of_isDomainChar h
  rw [isForbiddenAscii_eq]
  have hmarks : "%#/:<>?@[\\]^|".toList.contains c = false := by
    refine Bool.eq_false_iff.mpr fun hm => ?_
    have hall : ∀ mark ∈ "%#/:<>?@[\\]^|".toList,
        mark.toNat ≠ 46 ∧ ¬(97 ≤ mark.toNat ∧ mark.toNat ≤ 122) := by simp
    have hcode := hall c (List.contains_iff_mem.mp hm)
    exact hc.elim hcode.1 hcode.2
  have hlow : ¬c.toNat < 33 := by omega
  have hdelete : ¬c.toNat = 127 := by omega
  rw [hmarks, decide_eq_false hlow, decide_eq_false hdelete]
  rfl

/-- A text of such characters is a host if its labels are and it does not end in a number. -/
theorem isHost_of_isDomainChar {host : List Char} (h : ∀ c ∈ host, isDomainChar c)
    (hne : host ≠ []) (hl : (Text.splitAt '.' host).all isLabel)
    (hn : endsInNumber host = false) : isHost host := by
  have hbracket : host.head? ≠ some '[' := by
    intro he
    have hc := h '[' (List.mem_of_head? he)
    exact absurd hc (by decide)
  have hascii : ∀ c ∈ host, c.toNat < 128 ∧ c ≠ '%' := by
    intro c hm
    refine ⟨?_, ?_⟩
    · have hc := toNat_of_isDomainChar (h c hm)
      omega
    · rintro rfl
      exact absurd (h '%' hm) (by decide)
  have hmap : host.mapM mapChar = some (host.map fun c => [c]) := by
    clear hne hl hn hbracket hascii
    induction host with
    | nil => rfl
    | cons c rest ih =>
      rw [List.mapM_cons, mapChar_of_isDomainChar (h c List.mem_cons_self),
        ih fun d hd => h d (List.mem_cons_of_mem _ hd)]
      rfl
  have hflat : (host.map fun c => [c]).flatten = host := List.flatMap_singleton' host
  have hforbidden : host.any isForbiddenAscii = false :=
    List.any_eq_false.mpr fun c hm => by simp [not_isForbiddenAscii (h c hm)]
  rw [isHost, if_neg hbracket, Text.Percent.bytesFrom_of_ascii hascii, isDomain,
    Text.Utf8.decode?_of_ascii fun c hm => (hascii c hm).1]
  simp [hmap, hflat, hforbidden, hne, hl, hn]

end Host

namespace ServerUrl

/-- The authority consists of a host and perhaps a port, without a user. -/
structure PlainAuthority (host port : List Char) : Prop where
  plain : ∀ c ∈ host ++ port, (!endsAuthority .special c) = true
  user : afterUser (host ++ port) = (host ++ port, false)
  span : hostSpan false (host ++ port) = (host, port)
  nonempty : host ≠ []
  host : Host.isHost host
  port : port = [] ∨ isPort (port.drop 1)

theorem PlainAuthority.isAuthority {host port : List Char} (h : PlainAuthority host port)
    (rest : List Char) : isAuthority .special (host ++ port ++ '/' :: rest) := by
  have hslash : ('/' :: rest).takeWhile (!endsAuthority .special ·) = [] := rfl
  have htake : (host ++ port ++ '/' :: rest).takeWhile (!endsAuthority .special ·) =
      host ++ port := by
    rw [List.takeWhile_append_of_pos h.plain, hslash, List.append_nil]
  unfold ServerUrl.isAuthority
  simp only [htake, h.user, h.span]
  rw [if_neg h.nonempty]
  simpa [h.host] using h.port

theorem trimControls_of_plain {text : List Char} (h : ∀ c ∈ text, 32 < c.toNat) :
    trimControls text = text := by
  have hdrop : ∀ {chars : List Char}, (∀ c ∈ chars, 32 < c.toNat) →
      (chars.dropWhile fun c => c.toNat ≤ 32) = chars := by
    intro chars hc
    cases chars with
    | nil => rfl
    | cons c rest =>
      have hfirst : ¬c.toNat ≤ 32 := Nat.not_le.mpr (hc c List.mem_cons_self)
      simp [hfirst]
  have hreverse : ∀ c ∈ text.reverse, 32 < c.toNat := fun c hm => h c (List.mem_reverse.mp hm)
  simp only [trimControls, hdrop h, hdrop hreverse, List.reverse_reverse]

/-- A URL of printable ASCII characters is valid if what follows its scheme is. -/
theorem isValid_of_scheme {url name : String} {rest : List Char}
    (hascii : ∀ c ∈ url.toList, 32 < c.toNat ∧ c.toNat < 128)
    (hscheme : scheme? url.toList = some (name, rest)) (hrest : isSchemeRest name rest) :
    isValid url := by
  have hne : ¬(url = "" ∨ (url.toList.any Text.isBlank) = true) := by
    rintro (rfl | hblank)
    · cases hscheme
    · obtain ⟨c, hm, hb⟩ := List.any_eq_true.mp hblank
      have hc := hascii c hm
      simp only [Text.isBlank, Bool.or_eq_true, decide_eq_true_eq, Bool.decide_or,
        Bool.decide_and, Bool.and_eq_true] at hb
      omega
  rw [isValid, if_neg hne]
  simp only [trimControls_of_plain fun c hm => (hascii c hm).1, hscheme]
  exact hrest

/-- The characters of a module name: ASCII letters, digits, hyphens and underscores. -/
def isModuleChar (c : Char) : Bool := c.isAlphanum || c = '-' || c = '_'

theorem ascii_of_isModuleChar {c : Char} (h : isModuleChar c) : 32 < c.toNat ∧ c.toNat < 128 := by
  rw [isModuleChar, Bool.or_eq_true, Bool.or_eq_true, decide_eq_true_eq, decide_eq_true_eq] at h
  rcases h with (h | rfl) | rfl
  · rcases (Bool.or_eq_true _ _).mp h with h | hdigit
    · rcases (Bool.or_eq_true _ _).mp h with hupper | hlower
      · have hrange := Text.toNat_of_isUpper hupper
        omega
      · have hrange := Text.toNat_of_isLower hlower
        omega
    · have hrange := Text.toNat_of_isDigit hdigit
      omega
  · decide
  · decide

/-- Two slashes lead to an authority. -/
theorem isSchemeRest_of_authority {name : String} {text : List Char}
    (hname : schemeOf name = .special) (hfirst : text.takeWhile (isSlash .special) = [])
    (h : isAuthority .special text) : isSchemeRest name ('/' :: '/' :: text) := by
  have hslash : isSlash .special '/' := by decide
  have hslashes : ('/' :: '/' :: text).takeWhile (isSlash .special) = ['/', '/'] := by
    rw [List.takeWhile_cons_of_pos hslash, List.takeWhile_cons_of_pos hslash, hfirst]
  unfold isSchemeRest
  simp only [hname, hslashes]
  exact Bool.or_eq_true_iff.mpr (Or.inr h)

/-- A server with the name of a module behind the slash after its authority. -/
theorem isValid_append {base module name : String} {host port : List Char}
    (hm : ∀ c ∈ module.toList, isModuleChar c)
    (hbase : ∀ c ∈ base.toList, 32 < c.toNat ∧ c.toNat < 128)
    (hauthority : PlainAuthority host port) (hname : schemeOf name = .special)
    (hscheme : scheme? (base.toList ++ module.toList) =
      some (name, '/' :: '/' :: (host ++ port ++ '/' :: module.toList)))
    (hfirst : (host ++ port ++ '/' :: module.toList).takeWhile (isSlash .special) = []) :
    isValid (base ++ module) := by
  rw [← String.toList_append] at hscheme
  refine isValid_of_scheme (fun c hc => ?_) hscheme ?_
  · rw [String.toList_append, List.mem_append] at hc
    exact hc.elim (hbase c) fun hc => ascii_of_isModuleChar (hm c hc)
  · exact isSchemeRest_of_authority hname hfirst (hauthority.isAuthority module.toList)

/-- Every server of the base template takes the name of a module. -/
theorem isValid_base {environment module : String} {server : Document.Server}
    (hs : Document.Template.base.server? environment = some server)
    (hm : ∀ c ∈ module.toList, isModuleChar c) : isValid (server.url ++ module) := by
  have hmem := Entries.mem_of_get? hs
  simp only [Document.Template.base, List.mem_cons, Prod.mk.injEq, List.not_mem_nil,
    or_false] at hmem
  have hhost : ∀ host ∈ ["localhost", "staging.api.example.com", "api.example.com"],
      Host.isHost host.toList := by
    simp only [List.forall_mem_cons, List.not_mem_nil, false_implies, implies_true, and_true]
    refine ⟨?_, ?_, ?_⟩ <;>
      exact Host.isHost_of_isDomainChar (List.all_eq_true.mp (by decide)) (by decide) (by decide)
        (by decide)
  have hlocal : PlainAuthority "localhost".toList ":3000".toList :=
    ⟨List.all_eq_true.mp (by decide), by decide, by decide, by decide, hhost _ (by decide),
      by decide⟩
  have hstaging : PlainAuthority "staging.api.example.com".toList [] :=
    ⟨List.all_eq_true.mp (by decide), by decide, by decide, by decide, hhost _ (by decide),
      by decide⟩
  have hproduction : PlainAuthority "api.example.com".toList [] :=
    ⟨List.all_eq_true.mp (by decide), by decide, by decide, by decide, hhost _ (by decide),
      by decide⟩
  rcases hmem with ⟨_, rfl⟩ | ⟨_, rfl⟩ | ⟨_, rfl⟩
  · exact isValid_append hm (by simp) hlocal (by decide) rfl rfl
  · exact isValid_append hm (by simp) hstaging (by decide) rfl rfl
  · exact isValid_append hm (by simp) hproduction (by decide) rfl rfl

end ServerUrl

end RouteDoc.Check
