/-!
# Character properties in patterns

A pattern may name a Unicode property: a binary property, a general category, a script, or a value
of one of seven enumerated properties.  Names are compared loosely: case, blanks, hyphens,
underscores and a leading `is` do not count.

Each property comes with the memory that its character class takes in a compiled pattern, for an
automaton that reads forward and for one that reads backward (see `Pattern.Size`).
-/

namespace SchemaTables.Pattern

/-- The names of a property and the bytes its class takes in either direction. -/
structure Property where
  names : List String
  forward : Nat
  backward : Nat
  deriving Inhabited

/-- Properties that a character has or has not. -/
def binaryProperties : List Property := [
  ⟨["ahex", "asciihexdigit"], 88, 88⟩, ⟨["alpha", "alphabetic"], 18656, 45404⟩,
  ⟨["bidic", "bidicontrol"], 240, 336⟩, ⟨["bidim", "bidimirrored"], 2432, 5560⟩,
  ⟨["ci", "caseignorable"], 11544, 23728⟩, ⟨["cased"], 4448, 10200⟩,
  ⟨["cwcf", "changeswhencasefolded"], 6632, 24888⟩,
  ⟨["cwcm", "changeswhencasemapped"], 3688, 8296⟩, ⟨["cwl", "changeswhenlowercased"], 6384, 24292⟩,
  ⟨["cwt", "changeswhentitlecased"], 6760, 25104⟩, ⟨["cwu", "changeswhenuppercased"], 6808, 25172⟩,
  ⟨["dash"], 1000, 1564⟩, ⟨["di", "defaultignorablecodepoint"], 1040, 1476⟩,
  ⟨["dep", "deprecated"], 528, 736⟩, ⟨["dia", "diacritic"], 6256, 12404⟩, ⟨["emoji"], 3264, 7660⟩,
  ⟨["ecomp", "emojicomponent"], 624, 908⟩, ⟨["emod", "emojimodifier"], 160, 196⟩,
  ⟨["ebase", "emojimodifierbase"], 1136, 2144⟩, ⟨["epres", "emojipresentation"], 2336, 4856⟩,
  ⟨["extpict", "extendedpictographic"], 2392, 5072⟩, ⟨["ext", "extender"], 1576, 2500⟩,
  ⟨["grbase", "graphemebase"], 21696, 53956⟩, ⟨["grext", "graphemeextend"], 9400, 19532⟩,
  ⟨["hex", "hexdigit"], 224, 376⟩, ⟨["hyphen"], 576, 840⟩,
  ⟨["idsb", "idsbinaryoperator"], 144, 200⟩, ⟨["idst", "idstrinaryoperator"], 128, 164⟩,
  ⟨["idc", "idcontinue"], 19288, 47760⟩, ⟨["ids", "idstart"], 17296, 41488⟩,
  ⟨["ideo", "ideographic"], 1648, 3744⟩, ⟨["joinc", "joincontrol"], 128, 164⟩,
  ⟨["loe", "logicalorderexception"], 336, 540⟩, ⟨["lower", "lowercase"], 8032, 27952⟩,
  ⟨["math"], 2968, 7068⟩, ⟨["nchar", "noncharactercodepoint"], 408, 1992⟩,
  ⟨["patsyn", "patternsyntax"], 856, 1792⟩, ⟨["patws", "patternwhitespace"], 208, 340⟩,
  ⟨["pcm", "prependedconcatenationmark"], 456, 636⟩, ⟨["qmark", "quotationmark"], 536, 852⟩,
  ⟨["radical"], 272, 404⟩, ⟨["ri", "regionalindicator"], 160, 196⟩,
  ⟨["sterm", "sentenceterminal"], 3088, 5348⟩, ⟨["sd", "softdotted"], 1384, 2248⟩,
  ⟨["term", "terminalpunctuation"], 3872, 6900⟩, ⟨["uideo", "unifiedideograph"], 1080, 2604⟩,
  ⟨["upper", "uppercase"], 7528, 26764⟩, ⟨["vs", "variationselector"], 376, 500⟩,
  ⟨["wspace", "whitespace", "space"], 392, 680⟩, ⟨["xidc", "xidcontinue"], 19400, 48148⟩,
  ⟨["xids", "xidstart"], 17448, 41876⟩, ⟨["graphemelink", "grlink"], 500, 1000⟩,
  ⟨["idsunaryoperator", "idsu"], 500, 1000⟩, ⟨["idcompatmathcontinue"], 500, 1000⟩,
  ⟨["idcompatmathstart"], 500, 1000⟩, ⟨["modifiercombiningmark", "mcm"], 500, 1000⟩,
  ⟨["otheralphabetic", "oalpha"], 500, 1000⟩,
  ⟨["otherdefaultignorablecodepoint", "odi"], 500, 1000⟩,
  ⟨["othergraphemeextend", "ogrext"], 500, 1000⟩, ⟨["otheridcontinue", "oidc"], 500, 1000⟩,
  ⟨["otheridstart", "oids"], 500, 1000⟩, ⟨["otherlowercase", "olower"], 500, 1000⟩,
  ⟨["othermath", "omath"], 500, 1000⟩, ⟨["otheruppercase", "oupper"], 500, 1000⟩]

/-- General categories.  Surrogates are no characters and have no class. -/
def generalCategories : List Property := [
  ⟨["c", "other"], 17872, 41780⟩, ⟨["cc", "control", "cntrl"], 120, 204⟩,
  ⟨["cf", "format"], 1248, 1784⟩, ⟨["cn", "unassigned"], 17608, 41128⟩,
  ⟨["co", "privateuse"], 368, 864⟩, ⟨["l", "letter"], 17344, 41352⟩,
  ⟨["lc", "casedletter"], 4128, 9404⟩, ⟨["ll", "lowercaseletter"], 7808, 27324⟩,
  ⟨["lm", "modifierletter"], 2696, 4776⟩, ⟨["lo", "otherletter"], 14024, 32764⟩,
  ⟨["lt", "titlecaseletter"], 304, 552⟩, ⟨["lu", "uppercaseletter"], 7280, 26284⟩,
  ⟨["m", "mark", "combiningmark"], 8872, 18140⟩, ⟨["mc", "spacingmark"], 4632, 9924⟩,
  ⟨["me", "enclosingmark"], 336, 468⟩, ⟨["mn", "nonspacingmark"], 9152, 18756⟩,
  ⟨["n", "number"], 4296, 9272⟩, ⟨["nd", "decimalnumber", "digit"], 1320, 4640⟩,
  ⟨["nl", "letternumber"], 776, 1112⟩, ⟨["no", "othernumber"], 3176, 5100⟩,
  ⟨["p", "punctuation", "punct"], 5992, 11472⟩, ⟨["pc", "connectorpunctuation"], 336, 540⟩,
  ⟨["pd", "dashpunctuation"], 864, 1324⟩, ⟨["pe", "closepunctuation"], 1504, 3504⟩,
  ⟨["pf", "finalpunctuation"], 296, 552⟩, ⟨["pi", "initialpunctuation"], 304, 588⟩,
  ⟨["po", "otherpunctuation"], 5592, 10868⟩, ⟨["ps", "openpunctuation"], 1568, 3644⟩,
  ⟨["s", "symbol"], 7368, 15384⟩, ⟨["sc", "currencysymbol"], 1128, 1720⟩,
  ⟨["sk", "modifiersymbol"], 1168, 2020⟩, ⟨["sm", "mathsymbol"], 2048, 3860⟩,
  ⟨["so", "othersymbol"], 6184, 12748⟩, ⟨["z", "separator"], 368, 608⟩,
  ⟨["zl", "lineseparator"], 128, 164⟩, ⟨["zp", "paragraphseparator"], 128, 164⟩,
  ⟨["zs", "spaceseparator"], 360, 572⟩]

def scripts : List Property := [
  ⟨["adlm", "adlam"], 232, 336⟩, ⟨["aghb", "caucasianalbanian"], 224, 300⟩, ⟨["ahom"], 232, 336⟩,
  ⟨["arab", "arabic"], 1560, 3544⟩, ⟨["armi", "imperialaramaic"], 176, 232⟩,
  ⟨["armn", "armenian"], 288, 440⟩, ⟨["avst", "avestan"], 176, 232⟩,
  ⟨["bali", "balinese"], 192, 268⟩, ⟨["bamu", "bamum"], 336, 432⟩,
  ⟨["bass", "bassavah"], 176, 232⟩, ⟨["batk", "batak"], 144, 200⟩, ⟨["beng", "bengali"], 296, 700⟩,
  ⟨["bhks", "bhaiksuki"], 248, 372⟩, ⟨["bopo", "bopomofo"], 224, 300⟩,
  ⟨["brah", "brahmi"], 232, 336⟩, ⟨["brai", "braille"], 128, 164⟩,
  ⟨["bugi", "buginese"], 144, 200⟩, ⟨["buhd", "buhid"], 128, 164⟩, ⟨["cakm", "chakma"], 224, 300⟩,
  ⟨["cans", "canadianaboriginal"], 296, 432⟩, ⟨["cari", "carian"], 208, 264⟩, ⟨["cham"], 200, 304⟩,
  ⟨["cher", "cherokee"], 320, 436⟩, ⟨["chrs", "chorasmian"], 208, 264⟩,
  ⟨["copt", "coptic", "qaac"], 240, 336⟩, ⟨["cpmn", "cyprominoan"], 208, 264⟩,
  ⟨["cprt", "cypriot"], 208, 376⟩, ⟨["cyrl", "cyrillic"], 792, 1244⟩,
  ⟨["deva", "devanagari"], 384, 536⟩, ⟨["diak", "divesakuru"], 280, 516⟩,
  ⟨["dogr", "dogra"], 160, 196⟩, ⟨["dsrt", "deseret"], 208, 264⟩, ⟨["dupl", "duployan"], 288, 440⟩,
  ⟨["egyp", "egyptianhieroglyphs"], 208, 264⟩, ⟨["elba", "elbasan"], 160, 196⟩,
  ⟨["elym", "elymaic"], 160, 196⟩, ⟨["ethi", "ethiopic"], 984, 2016⟩,
  ⟨["geor", "georgian"], 376, 652⟩, ⟨["glag", "glagolitic"], 328, 508⟩,
  ⟨["gong", "gunjalagondi"], 264, 444⟩, ⟨["gonm", "masaramgondi"], 272, 480⟩,
  ⟨["goth", "gothic"], 208, 264⟩, ⟨["gran", "grantha"], 336, 768⟩, ⟨["grek", "greek"], 1168, 2244⟩,
  ⟨["gujr", "gujarati"], 296, 700⟩, ⟨["guru", "gurmukhi"], 312, 772⟩,
  ⟨["hang", "hangul"], 792, 1456⟩, ⟨["hani", "han"], 1544, 3448⟩, ⟨["hano", "hanunoo"], 128, 164⟩,
  ⟨["hatr", "hatran"], 184, 268⟩, ⟨["hebr", "hebrew"], 336, 584⟩, ⟨["hira", "hiragana"], 496, 740⟩,
  ⟨["hluw", "anatolianhieroglyphs"], 208, 264⟩, ⟨["hmng", "pahawhhmong"], 288, 476⟩,
  ⟨["hmnp", "nyiakengpuachuehmong"], 240, 336⟩, ⟨["hung", "oldhungarian"], 224, 300⟩,
  ⟨["ital", "olditalic"], 176, 232⟩, ⟨["java", "javanese"], 200, 304⟩,
  ⟨["kali", "kayahli"], 144, 200⟩, ⟨["kana", "katakana"], 808, 1220⟩, ⟨["kawi"], 232, 336⟩,
  ⟨["khar", "kharoshthi"], 280, 516⟩, ⟨["khmr", "khmer"], 240, 372⟩,
  ⟨["khoj", "khojki"], 224, 300⟩, ⟨["kits", "khitansmallscript"], 288, 364⟩,
  ⟨["knda", "kannada"], 288, 664⟩, ⟨["kthi", "kaithi"], 224, 300⟩, ⟨["lana", "taitham"], 264, 444⟩,
  ⟨["laoo", "lao"], 264, 556⟩, ⟨["latn", "latin"], 1576, 2848⟩, ⟨["lepc", "lepcha"], 208, 304⟩,
  ⟨["limb", "limbu"], 216, 340⟩, ⟨["lina", "lineara"], 264, 368⟩, ⟨["linb", "linearb"], 344, 580⟩,
  ⟨["lisu"], 240, 296⟩, ⟨["lyci", "lycian"], 160, 196⟩, ⟨["lydi", "lydian"], 176, 232⟩,
  ⟨["mahj", "mahajani"], 160, 196⟩, ⟨["maka", "makasar"], 160, 196⟩,
  ⟨["mand", "mandaic"], 144, 200⟩, ⟨["mani", "manichaean"], 176, 232⟩,
  ⟨["marc", "marchen"], 232, 336⟩, ⟨["medf", "medefaidrin"], 208, 264⟩,
  ⟨["mend", "mendekikakui"], 224, 300⟩, ⟨["merc", "meroiticcursive"], 240, 336⟩,
  ⟨["mero", "meroitichieroglyphs"], 160, 196⟩, ⟨["mlym", "malayalam"], 240, 448⟩,
  ⟨["modi"], 224, 300⟩, ⟨["mong", "mongolian"], 360, 540⟩, ⟨["mroo", "mro"], 184, 268⟩,
  ⟨["mtei", "meeteimayek"], 192, 268⟩, ⟨["mult", "multani"], 200, 340⟩,
  ⟨["mymr", "myanmar"], 304, 400⟩, ⟨["nagm", "nagmundari"], 160, 196⟩,
  ⟨["nand", "nandinagari"], 240, 336⟩, ⟨["narb", "oldnortharabian"], 160, 196⟩,
  ⟨["nbat", "nabataean"], 176, 232⟩, ⟨["newa"], 224, 300⟩, ⟨["nkoo", "nko"], 112, 168⟩,
  ⟨["nshu", "nushu"], 328, 432⟩, ⟨["ogam", "ogham"], 128, 164⟩, ⟨["olck", "olchiki"], 128, 164⟩,
  ⟨["orkh", "oldturkic"], 208, 264⟩, ⟨["orya", "oriya"], 296, 700⟩, ⟨["osge", "osage"], 224, 300⟩,
  ⟨["osma", "osmanya"], 176, 232⟩, ⟨["ougr", "olduyghur"], 208, 264⟩,
  ⟨["palm", "palmyrene"], 160, 196⟩, ⟨["pauc", "paucinhau"], 160, 196⟩,
  ⟨["perm", "oldpermic"], 160, 196⟩, ⟨["phag", "phagspa"], 128, 164⟩,
  ⟨["phli", "inscriptionalpahlavi"], 176, 232⟩, ⟨["phlp", "psalterpahlavi"], 184, 268⟩,
  ⟨["phnx", "phoenician"], 176, 232⟩, ⟨["plrd", "miao"], 280, 404⟩,
  ⟨["prti", "inscriptionalparthian"], 176, 232⟩, ⟨["rjng", "rejang"], 192, 268⟩,
  ⟨["rohg", "hanifirohingya"], 176, 232⟩, ⟨["runr", "runic"], 192, 268⟩,
  ⟨["samr", "samaritan"], 144, 200⟩, ⟨["sarb", "oldsoutharabian"], 160, 196⟩,
  ⟨["saur", "saurashtra"], 192, 268⟩, ⟨["sgnw", "signwriting"], 232, 336⟩,
  ⟨["shaw", "shavian"], 160, 196⟩, ⟨["shrd", "sharada"], 208, 264⟩,
  ⟨["sidd", "siddham"], 224, 300⟩, ⟨["sind", "khudawadi"], 224, 300⟩,
  ⟨["sinh", "sinhala"], 384, 724⟩, ⟨["sogd", "sogdian"], 208, 264⟩,
  ⟨["sogo", "oldsogdian"], 160, 196⟩, ⟨["sora", "sorasompeng"], 176, 232⟩,
  ⟨["soyo", "soyombo"], 208, 264⟩, ⟨["sund", "sundanese"], 176, 232⟩,
  ⟨["sylo", "sylotinagri"], 128, 164⟩, ⟨["syrc", "syriac"], 248, 372⟩,
  ⟨["tagb", "tagbanwa"], 152, 236⟩, ⟨["takr", "takri"], 208, 264⟩, ⟨["tale", "taile"], 144, 200⟩,
  ⟨["talu", "newtailue"], 216, 340⟩, ⟨["taml", "tamil"], 440, 940⟩, ⟨["tang", "tangut"], 376, 600⟩,
  ⟨["tavt", "taiviet"], 192, 268⟩, ⟨["telu", "telugu"], 288, 664⟩,
  ⟨["tfng", "tifinagh"], 200, 304⟩, ⟨["tglg", "tagalog"], 144, 200⟩, ⟨["thaa", "thaana"], 96, 132⟩,
  ⟨["thai"], 176, 232⟩, ⟨["tibt", "tibetan"], 328, 584⟩, ⟨["tirh", "tirhuta"], 224, 300⟩,
  ⟨["tnsa", "tangsa"], 248, 332⟩, ⟨["toto"], 160, 196⟩, ⟨["ugar", "ugaritic"], 176, 232⟩,
  ⟨["vaii", "vai"], 176, 232⟩, ⟨["vith", "vithkuqi"], 280, 516⟩,
  ⟨["wara", "warangciti"], 224, 300⟩, ⟨["wcho", "wancho"], 176, 232⟩,
  ⟨["xpeo", "oldpersian"], 224, 300⟩, ⟨["xsux", "cuneiform"], 320, 572⟩,
  ⟨["yezi", "yezidi"], 184, 268⟩, ⟨["yiii", "yi"], 232, 336⟩,
  ⟨["zanb", "zanabazarsquare"], 208, 264⟩, ⟨["zinh", "inherited", "qaai"], 1472, 2408⟩,
  ⟨["zyyy", "common"], 5920, 12304⟩, ⟨["gara", "garay"], 300, 400⟩,
  ⟨["gukh", "gurungkhema"], 300, 400⟩, ⟨["krai", "kiratrai"], 300, 400⟩,
  ⟨["onao", "olonal"], 300, 400⟩, ⟨["sunu", "sunuwar"], 300, 400⟩, ⟨["todr", "todhri"], 300, 400⟩,
  ⟨["tutg", "tulutigalari"], 300, 400⟩]

/-- Ages from the first one on, as version numbers. -/
def ages : List (Nat × Nat) := [
  (1, 1), (2, 0), (2, 1), (3, 0), (3, 1), (3, 2), (4, 0), (4, 1), (5, 0), (5, 1), (5, 2), (6, 0),
  (6, 1), (6, 2), (6, 3), (7, 0), (8, 0), (9, 0), (10, 0), (11, 0), (12, 0), (12, 1), (13, 0),
  (14, 0), (15, 0), (15, 1), (16, 0)]

/-- The two spellings of an age. -/
def ageNames : List String :=
  ages.flatMap fun (major, minor) =>
    [toString major ++ "." ++ toString minor, "v" ++ toString major ++ toString minor]

/-- Values of the grapheme cluster break that some character has. -/
def graphemeBreaks : List String := [
  "cn", "control", "cr", "ex", "extend", "l", "lf", "lv", "lvt", "pp", "prepend", "ri",
  "regionalindicator", "sm", "spacingmark", "t", "v", "zwj"]

/-- Values of the word break that some character has. -/
def wordBreaks : List String := [
  "le", "aletter", "cr", "dq", "doublequote", "extend", "ex", "extendnumlet", "fo", "format", "hl",
  "hebrewletter", "ka", "katakana", "lf", "ml", "midletter", "mn", "midnum", "mb", "midnumlet",
  "nl", "newline", "nu", "numeric", "ri", "regionalindicator", "sq", "singlequote", "wsegspace",
  "zwj"]

/-- Values of the sentence break that some character has. -/
def sentenceBreaks : List String := [
  "at", "aterm", "cr", "cl", "close", "ex", "extend", "fo", "format", "lf", "lo", "lower", "nu",
  "numeric", "le", "oletter", "sc", "scontinue", "st", "sterm", "se", "sep", "sp", "up", "upper"]

/-- A name in its loose form.  What is left of `isc` is not the category of `c`. -/
def looseName (name : String) : String :=
  let chars := name.toList
  let (marked, chars) :=
    match chars with
    | i :: s :: rest =>
      if i.toLower = 'i' ∧ s.toLower = 's' then (true, rest) else (false, chars)
    | _ => (false, chars)
  let kept := (chars.filter fun c => c.toNat < 0x80 && c != ' ' && c != '_' && c != '-').map
    Char.toLower
  if marked ∧ kept = ['c'] then "isc" else String.ofList kept

/-- The property of a loose name. -/
def lookUp (table : List Property) (name : String) : Option Property :=
  table.find? fun property => property.names.contains name

/-- General categories and the three sets that are named like them. -/
def category? (name : String) : Option Property :=
  if name = "any" then some ⟨["any"], 400, 1000⟩
  else if name = "assigned" then some ⟨["assigned"], 17872, 41780⟩
  else if name = "ascii" then some ⟨["ascii"], 64, 64⟩
  else lookUp generalCategories name

/-- The short names of three categories also abbreviate properties without a class. -/
def categoryFirst (name : String) : Bool := name == "cf" || name == "sc" || name == "lc"

/-- The property that a single name stands for: binary, else a category, else a script. -/
def named? (name : String) : Option Property :=
  let name := looseName name
  let binary? := if categoryFirst name then none else lookUp binaryProperties name
  binary?.or ((category? name).or (lookUp scripts name))

/-- A class of unknown, moderate size. -/
def someValue (values : List String) (value : String) : Option Property :=
  if values.contains value then some ⟨[value], 2000, 4000⟩ else none

/-- The property that a value of an enumerated property stands for. -/
def valued? (name value : String) : Option Property :=
  let name := looseName name
  let value := looseName value
  if name = "gc" ∨ name = "generalcategory" then category? value
  else if name = "sc" ∨ name = "script" then lookUp scripts value
  else if name = "scx" ∨ name = "scriptextensions" then lookUp scripts value
  else if name = "age" then someValue ageNames value
  else if name = "gcb" ∨ name = "graphemeclusterbreak" then someValue graphemeBreaks value
  else if name = "wb" ∨ name = "wordbreak" then someValue wordBreaks value
  else if name = "sb" ∨ name = "sentencebreak" then someValue sentenceBreaks value
  else none

end SchemaTables.Pattern
