namespace RouteDoc.Schema.Pattern.Property

/-- General categories, and three sets that are spoken of like one. -/
def categories : List String :=
  ["c", "other", "cc", "control", "cntrl", "cf", "format", "cn", "unassigned", "co",
    "privateuse", "l", "letter", "lc", "casedletter", "ll", "lowercaseletter", "lm",
    "modifierletter", "lo", "otherletter", "lt", "titlecaseletter", "lu", "uppercaseletter",
    "m", "mark", "combiningmark", "mc", "spacingmark", "me", "enclosingmark", "mn",
    "nonspacingmark", "n", "number", "nd", "decimalnumber", "digit", "nl", "letternumber", "no",
    "othernumber", "p", "punctuation", "punct", "pc", "connectorpunctuation", "pd",
    "dashpunctuation", "pe", "closepunctuation", "pf", "finalpunctuation", "pi",
    "initialpunctuation", "po", "otherpunctuation", "ps", "openpunctuation", "s", "symbol",
    "sc", "currencysymbol", "sk", "modifiersymbol", "sm", "mathsymbol", "so", "othersymbol",
    "z", "separator", "zl", "lineseparator", "zp", "paragraphseparator", "zs", "spaceseparator",
    "any", "assigned", "ascii"]

/-- Properties that a character has or lacks. -/
def binaries : List String :=
  ["asciihexdigit", "ahex", "alphabetic", "alpha", "bidicontrol", "bidic", "bidimirrored",
    "bidim", "caseignorable", "ci", "cased", "changeswhencasefolded", "cwcf",
    "changeswhencasemapped", "cwcm", "changeswhenlowercased", "cwl", "changeswhentitlecased",
    "cwt", "changeswhenuppercased", "cwu", "dash", "defaultignorablecodepoint", "di",
    "deprecated", "dep", "diacritic", "dia", "emoji", "emojicomponent", "ecomp",
    "emojimodifier", "emod", "emojimodifierbase", "ebase", "emojipresentation", "epres",
    "extendedpictographic", "extpict", "extender", "ext", "graphemebase", "grbase",
    "graphemeextend", "grext", "graphemelink", "grlink", "hexdigit", "hex", "hyphen",
    "idsbinaryoperator", "idsb", "idstrinaryoperator", "idst", "idsunaryoperator", "idsu",
    "idcompatmathcontinue", "idcompatmathstart", "idcontinue", "idc", "idstart", "ids",
    "ideographic", "ideo", "joincontrol", "joinc", "logicalorderexception", "loe", "lowercase",
    "lower", "math", "modifiercombiningmark", "mcm", "noncharactercodepoint", "nchar",
    "otheralphabetic", "oalpha", "otherdefaultignorablecodepoint", "odi", "othergraphemeextend",
    "ogrext", "otheridcontinue", "oidc", "otheridstart", "oids", "otherlowercase", "olower",
    "othermath", "omath", "otheruppercase", "oupper", "patternsyntax", "patsyn",
    "patternwhitespace", "patws", "prependedconcatenationmark", "pcm", "quotationmark", "qmark",
    "radical", "regionalindicator", "ri", "sentenceterminal", "sterm", "softdotted", "sd",
    "terminalpunctuation", "term", "unifiedideograph", "uideo", "uppercase", "upper",
    "variationselector", "vs", "whitespace", "wspace", "space", "xidcontinue", "xidc",
    "xidstart", "xids"]

/-- Scripts by their names and their codes. -/
def scripts : List String :=
  ["adlam", "adlm", "ahom", "anatolianhieroglyphs", "hluw", "arabic", "arab", "armenian",
    "armn", "avestan", "avst", "balinese", "bali", "bamum", "bamu", "bassavah", "bass", "batak",
    "batk", "bengali", "beng", "bhaiksuki", "bhks", "bopomofo", "bopo", "brahmi", "brah",
    "braille", "brai", "buginese", "bugi", "buhid", "buhd", "canadianaboriginal", "cans",
    "carian", "cari", "caucasianalbanian", "aghb", "chakma", "cakm", "cham", "cherokee", "cher",
    "chorasmian", "chrs", "common", "zyyy", "coptic", "copt", "qaac", "cuneiform", "xsux",
    "cypriot", "cprt", "cyprominoan", "cpmn", "cyrillic", "cyrl", "deseret", "dsrt",
    "devanagari", "deva", "divesakuru", "diak", "dogra", "dogr", "duployan", "dupl",
    "egyptianhieroglyphs", "egyp", "elbasan", "elba", "elymaic", "elym", "ethiopic", "ethi",
    "garay", "gara", "georgian", "geor", "glagolitic", "glag", "gothic", "goth", "grantha",
    "gran", "greek", "grek", "gujarati", "gujr", "gunjalagondi", "gong", "gurmukhi", "guru",
    "gurungkhema", "gukh", "han", "hani", "hangul", "hang", "hanifirohingya", "rohg", "hanunoo",
    "hano", "hatran", "hatr", "hebrew", "hebr", "hiragana", "hira", "imperialaramaic", "armi",
    "inherited", "zinh", "qaai", "inscriptionalpahlavi", "phli", "inscriptionalparthian",
    "prti", "javanese", "java", "kaithi", "kthi", "kannada", "knda", "katakana", "kana", "kawi",
    "kayahli", "kali", "kharoshthi", "khar", "khitansmallscript", "kits", "khmer", "khmr",
    "khojki", "khoj", "khudawadi", "sind", "kiratrai", "krai", "lao", "laoo", "latin", "latn",
    "lepcha", "lepc", "limbu", "limb", "lineara", "lina", "linearb", "linb", "lisu", "lycian",
    "lyci", "lydian", "lydi", "mahajani", "mahj", "makasar", "maka", "malayalam", "mlym",
    "mandaic", "mand", "manichaean", "mani", "marchen", "marc", "masaramgondi", "gonm",
    "medefaidrin", "medf", "meeteimayek", "mtei", "mendekikakui", "mend", "meroiticcursive",
    "merc", "meroitichieroglyphs", "mero", "miao", "plrd", "modi", "mongolian", "mong", "mro",
    "mroo", "multani", "mult", "myanmar", "mymr", "nabataean", "nbat", "nagmundari", "nagm",
    "nandinagari", "nand", "newtailue", "talu", "newa", "nko", "nkoo", "nushu", "nshu",
    "nyiakengpuachuehmong", "hmnp", "ogham", "ogam", "olchiki", "olck", "olonal", "onao",
    "oldhungarian", "hung", "olditalic", "ital", "oldnortharabian", "narb", "oldpermic", "perm",
    "oldpersian", "xpeo", "oldsogdian", "sogo", "oldsoutharabian", "sarb", "oldturkic", "orkh",
    "olduyghur", "ougr", "oriya", "orya", "osage", "osge", "osmanya", "osma", "pahawhhmong",
    "hmng", "palmyrene", "palm", "paucinhau", "pauc", "phagspa", "phag", "phoenician", "phnx",
    "psalterpahlavi", "phlp", "rejang", "rjng", "runic", "runr", "samaritan", "samr",
    "saurashtra", "saur", "sharada", "shrd", "shavian", "shaw", "siddham", "sidd",
    "signwriting", "sgnw", "sinhala", "sinh", "sogdian", "sogd", "sorasompeng", "sora",
    "soyombo", "soyo", "sundanese", "sund", "sunuwar", "sunu", "sylotinagri", "sylo", "syriac",
    "syrc", "tagalog", "tglg", "tagbanwa", "tagb", "taile", "tale", "taitham", "lana",
    "taiviet", "tavt", "takri", "takr", "tamil", "taml", "tangsa", "tnsa", "tangut", "tang",
    "telugu", "telu", "thaana", "thaa", "thai", "tibetan", "tibt", "tifinagh", "tfng",
    "tirhuta", "tirh", "todhri", "todr", "toto", "tulutigalari", "tutg", "ugaritic", "ugar",
    "vai", "vaii", "vithkuqi", "vith", "wancho", "wcho", "warangciti", "wara", "yezidi", "yezi",
    "yi", "yiii", "zanabazarsquare", "zanb"]

/-- Versions of the standard that brought characters. -/
def ages : List String :=
  ["1.1", "2.0", "2.1", "3.0", "3.1", "3.2", "4.0", "4.1", "5.0", "5.1", "5.2", "6.0", "6.1",
    "6.2", "6.3", "7.0", "8.0", "9.0", "10.0", "11.0", "12.0", "12.1", "13.0", "14.0", "15.0",
    "15.1", "16.0", "v11", "v20", "v21", "v30", "v31", "v32", "v40", "v41", "v50", "v51", "v52",
    "v60", "v61", "v62", "v63", "v70", "v80", "v90", "v100", "v110", "v120", "v121", "v130",
    "v140", "v150", "v151", "v160"]

/-- Roles of a character at the ends of a grapheme. -/
def graphemeBreaks : List String :=
  ["cn", "control", "cr", "ex", "extend", "l", "lf", "lv", "lvt", "pp", "prepend", "ri",
    "regionalindicator", "sm", "spacingmark", "t", "v", "zwj"]

/-- Roles of a character at the ends of a word. -/
def wordBreaks : List String :=
  ["cr", "dq", "doublequote", "ex", "extendnumlet", "extend", "fo", "format", "hl",
    "hebrewletter", "ka", "katakana", "le", "aletter", "lf", "mb", "midnumlet", "ml",
    "midletter", "mn", "midnum", "nl", "newline", "nu", "numeric", "ri", "regionalindicator",
    "sq", "singlequote", "wsegspace", "zwj"]

/-- Roles of a character at the ends of a sentence. -/
def sentenceBreaks : List String :=
  ["at", "aterm", "cl", "close", "cr", "ex", "extend", "fo", "format", "le", "oletter", "lf",
    "lo", "lower", "nu", "numeric", "sc", "scontinue", "se", "sep", "sp", "st", "sterm", "up",
    "upper"]

def isIgnored (c : Char) : Bool := c = ' ' || c = '_' || c = '-' || 128 ≤ c.toNat

/-- Names are compared without case, without blanks, underscores and hyphens, and without a leading
`is`; only `isc` keeps it, which would be another name otherwise. -/
def bareName (name : List Char) : String :=
  let letters (text : List Char) := (text.filter (!isIgnored ·)).map Char.toLower
  match name with
  | i :: s :: rest =>
    if i.toLower = 'i' ∧ s.toLower = 's' then
      if letters rest = ['c'] then "isc" else String.ofList (letters rest)
    else String.ofList (letters name)
  | _ => String.ofList (letters name)

/-- The values of a property that has several. -/
def values (property : String) : List String :=
  if ["gc", "generalcategory"].contains property then categories
  else if ["sc", "script", "scx", "scriptextensions"].contains property then scripts
  else if property = "age" then ages
  else if ["gcb", "graphemeclusterbreak"].contains property then graphemeBreaks
  else if ["wb", "wordbreak"].contains property then wordBreaks
  else if ["sb", "sentencebreak"].contains property then sentenceBreaks
  else []

/-- The texts before and behind the first unequal sign, else the first colon, else the first equals
sign. -/
def parts? (name : List Char) : Option (List Char × List Char) :=
  let cut (stop : List Char → Bool) (width : Nat) : Option (List Char × List Char) :=
    (List.range name.length).findSome? fun i =>
      if stop (name.drop i) then some (name.take i, name.drop (i + width)) else none
  cut ['!', '='].isPrefixOf 2 <|> cut [':'].isPrefixOf 1 <|> cut ['='].isPrefixOf 1

/-- A name of a property, or a property and one of its values. -/
def isKnown (name : List Char) : Bool :=
  match parts? name with
  | some (property, value) => (values (bareName property)).contains (bareName value)
  | none =>
    let name := bareName name
    binaries.contains name || categories.contains name || scripts.contains name

end RouteDoc.Schema.Pattern.Property
