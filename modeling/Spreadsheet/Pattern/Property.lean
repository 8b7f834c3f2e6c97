import Spreadsheet.Pattern.Flags
import Spreadsheet.Text.Category

/-! # Character properties

The sets of characters with a property, found by the names of the property. The sets of general
categories are complete. The other sets are complete as far as ASCII goes, and beyond it as far as
they go with general categories.
-/

namespace Spreadsheet.Pattern

open Text (CharSet Category)

/-- Things that have several names. -/
abbrev Named (α : Type) := List (List String × α)

def Named.find? {α : Type} (table : Named α) (name : String) : Option α :=
  (List.find? (fun (names, _) => names.contains name) table).map (·.2)

def properties : Named CharSet :=
  [(["asciihexdigit", "ahex", "hexdigit", "hex"], ⟨[(0x30, 0x39), (0x41, 0x46), (0x61, 0x66)]⟩),
   (["alphabetic", "alpha", "cased", "changeswhencasemapped", "cwcm", "idstart", "ids", "xidstart",
     "xids"], Text.letterSet),
   (["uppercase", "upper", "changeswhencasefolded", "cwcf", "changeswhenlowercased",
     "cwl"], Category.set .uppercaseLetter),
   (["lowercase", "lower", "changeswhentitlecased", "cwt", "changeswhenuppercased",
     "cwu"], Category.set .lowercaseLetter),
   (["idcontinue", "idc", "xidcontinue", "xidc"], Text.wordSet),
   (["whitespace", "wspace", "space"], ⟨Text.blankRanges⟩),
   (["patternwhitespace", "patws"], ⟨[(0x09, 0x0D), (0x20, 0x20)]⟩),
   (["bidimirrored", "bidim"],
     ⟨[(0x28, 0x29), (0x3C, 0x3C), (0x3E, 0x3E), (0x5B, 0x5B), (0x5D, 0x5D), (0x7B, 0x7B),
       (0x7D, 0x7D)]⟩),
   (["caseignorable",
     "ci"], ⟨[(0x27, 0x27), (0x2E, 0x2E), (0x3A, 0x3A), (0x5E, 0x5E), (0x60, 0x60)]⟩),
   (["dash", "hyphen"], ⟨[(0x2D, 0x2D)]⟩),
   (["diacritic", "dia"], ⟨[(0x5E, 0x5E), (0x60, 0x60)]⟩),
   (["emoji", "emojicomponent", "ecomp"], ⟨[(0x23, 0x23), (0x2A, 0x2A), (0x30, 0x39)]⟩),
   (["graphemebase", "grbase"], ⟨[(0x20, 0x7E)]⟩),
   (["math"], ⟨[(0x2B, 0x2B), (0x3C, 0x3E), (0x5E, 0x5E), (0x7C, 0x7C), (0x7E, 0x7E)]⟩),
   (["othermath", "omath"], ⟨[(0x5E, 0x5E)]⟩),
   (["patternsyntax",
     "patsyn"], ⟨[(0x21, 0x2F), (0x3A, 0x40), (0x5B, 0x5E), (0x60, 0x60), (0x7B, 0x7E)]⟩),
   (["quotationmark", "qmark"], ⟨[(0x22, 0x22), (0x27, 0x27)]⟩),
   (["sentenceterminal", "sterm"], ⟨[(0x21, 0x21), (0x2E, 0x2E), (0x3F, 0x3F)]⟩),
   (["softdotted", "sd"], ⟨[(0x69, 0x6A)]⟩),
   (["terminalpunctuation",
     "term"], ⟨[(0x21, 0x21), (0x2C, 0x2C), (0x2E, 0x2E), (0x3A, 0x3B), (0x3F, 0x3F)]⟩),
   (["bidicontrol", "bidic", "defaultignorablecodepoint", "di", "deprecated", "dep",
     "emojimodifier", "emod", "emojimodifierbase", "ebase", "emojipresentation", "epres",
     "extendedpictographic", "extpict", "extender", "ext", "graphemeextend", "grext",
     "graphemelink", "grlink", "idcompatmathcontinue", "idcompatmathstart", "idsbinaryoperator",
     "idsb", "idstrinaryoperator", "idst", "idsunaryoperator", "idsu", "ideographic", "ideo",
     "joincontrol", "joinc", "logicalorderexception", "loe", "modifiercombiningmark", "mcm",
     "noncharactercodepoint", "nchar", "otheralphabetic", "oalpha",
     "otherdefaultignorablecodepoint", "odi", "othergraphemeextend", "ogrext", "otheridcontinue",
     "oidc", "otheridstart", "oids", "otherlowercase", "olower", "otheruppercase", "oupper",
     "prependedconcatenationmark", "pcm", "radical", "regionalindicator", "ri", "unifiedideograph",
     "uideo", "variationselector", "vs"], .empty)]

def categories : Named (List Category) :=
  [(["c", "other"], [.control, .format, .privateUse, .unassigned]),
   (["cc", "control", "cntrl"], [.control]),
   (["cf", "format"], [.format]),
   (["cn", "unassigned"], [.unassigned]),
   (["co", "privateuse"], [.privateUse]),
   (["l", "letter"], Category.letters),
   (["lc", "casedletter"], [.uppercaseLetter, .lowercaseLetter, .titlecaseLetter]),
   (["ll", "lowercaseletter"], [.lowercaseLetter]),
   (["lm", "modifierletter"], [.modifierLetter]),
   (["lo", "otherletter"], [.otherLetter]),
   (["lt", "titlecaseletter"], [.titlecaseLetter]),
   (["lu", "uppercaseletter"], [.uppercaseLetter]),
   (["m", "mark", "combiningmark"], Category.marks),
   (["mc", "spacingmark"], [.spacingMark]),
   (["me", "enclosingmark"], [.enclosingMark]),
   (["mn", "nonspacingmark"], [.nonspacingMark]),
   (["n", "number"], Category.numbers),
   (["nd", "decimalnumber", "digit"], [.decimalNumber]),
   (["nl", "letternumber"], [.letterNumber]),
   (["no", "othernumber"], [.otherNumber]),
   (["p", "punctuation", "punct"], Category.punctuation),
   (["pc", "connectorpunctuation"], [.connectorPunctuation]),
   (["pd", "dashpunctuation"], [.dashPunctuation]),
   (["pe", "closepunctuation"], [.closePunctuation]),
   (["pf", "finalpunctuation"], [.finalPunctuation]),
   (["pi", "initialpunctuation"], [.initialPunctuation]),
   (["po", "otherpunctuation"], [.otherPunctuation]),
   (["ps", "openpunctuation"], [.openPunctuation]),
   (["s", "symbol"], Category.symbols),
   (["sc", "currencysymbol"], [.currencySymbol]),
   (["sk", "modifiersymbol"], [.modifierSymbol]),
   (["sm", "mathsymbol"], [.mathSymbol]),
   (["so", "othersymbol"], [.otherSymbol]),
   (["z", "separator"], Category.separators),
   (["zl", "lineseparator"], [.lineSeparator]),
   (["zp", "paragraphseparator"], [.paragraphSeparator]),
   (["zs", "spaceseparator"], [.spaceSeparator])]

/-- The scripts that no ASCII character belongs to. -/
def otherScripts : List String :=
  ["adlam", "adlm", "aghb", "ahom", "anatolianhieroglyphs", "arab", "arabic", "armenian", "armi",
   "armn", "avestan", "avst", "bali", "balinese", "bamu", "bamum", "bass", "bassavah", "batak",
   "batk", "beng", "bengali", "bhaiksuki", "bhks", "bopo", "bopomofo", "brah", "brahmi", "brai",
   "braille", "bugi", "buginese", "buhd", "buhid", "cakm", "canadianaboriginal", "cans", "cari",
   "carian", "caucasianalbanian", "chakma", "cham", "cher", "cherokee", "chorasmian", "chrs",
   "copt", "coptic", "cpmn", "cprt", "cuneiform", "cypriot", "cyprominoan", "cyrillic", "cyrl",
   "deseret", "deva", "devanagari", "diak", "divesakuru", "dogr", "dogra", "dsrt", "dupl",
   "duployan", "egyp", "egyptianhieroglyphs", "elba", "elbasan", "elym", "elymaic", "ethi",
   "ethiopic", "gara", "garay", "geor", "georgian", "glag", "glagolitic", "gong", "gonm", "goth",
   "gothic", "gran", "grantha", "greek", "grek", "gujarati", "gujr", "gukh", "gunjalagondi",
   "gurmukhi", "guru", "gurungkhema", "han", "hang", "hangul", "hani", "hanifirohingya", "hano",
   "hanunoo", "hatr", "hatran", "hebr", "hebrew", "hira", "hiragana", "hluw", "hmng", "hmnp",
   "hung", "imperialaramaic", "inherited", "inscriptionalpahlavi", "inscriptionalparthian", "ital",
   "java", "javanese", "kaithi", "kali", "kana", "kannada", "katakana", "kawi", "kayahli", "khar",
   "kharoshthi", "khitansmallscript", "khmer", "khmr", "khoj", "khojki", "khudawadi", "kiratrai",
   "kits", "knda", "krai", "kthi", "lana", "lao", "laoo", "lepc", "lepcha", "limb", "limbu", "lina",
   "linb", "lineara", "linearb", "lisu", "lyci", "lycian", "lydi", "lydian", "mahajani", "mahj",
   "maka", "makasar", "malayalam", "mand", "mandaic", "mani", "manichaean", "marc", "marchen",
   "masaramgondi", "medefaidrin", "medf", "meeteimayek", "mend", "mendekikakui", "merc", "mero",
   "meroiticcursive", "meroitichieroglyphs", "miao", "mlym", "modi", "mong", "mongolian", "mro",
   "mroo", "mtei", "mult", "multani", "myanmar", "mymr", "nabataean", "nagm", "nagmundari", "nand",
   "nandinagari", "narb", "nbat", "newa", "newtailue", "nko", "nkoo", "nshu", "nushu",
   "nyiakengpuachuehmong", "ogam", "ogham", "olchiki", "olck", "oldhungarian", "olditalic",
   "oldnortharabian", "oldpermic", "oldpersian", "oldsogdian", "oldsoutharabian", "oldturkic",
   "olduyghur", "olonal", "onao", "oriya", "orkh", "orya", "osage", "osge", "osma", "osmanya",
   "ougr", "pahawhhmong", "palm", "palmyrene", "pauc", "paucinhau", "perm", "phag", "phagspa",
   "phli", "phlp", "phnx", "phoenician", "plrd", "prti", "psalterpahlavi", "qaac", "qaai", "rejang",
   "rjng", "rohg", "runic", "runr", "samaritan", "samr", "sarb", "saur", "saurashtra", "sgnw",
   "sharada", "shavian", "shaw", "shrd", "sidd", "siddham", "signwriting", "sind", "sinh",
   "sinhala", "sogd", "sogdian", "sogo", "sora", "sorasompeng", "soyo", "soyombo", "sund",
   "sundanese", "sunu", "sunuwar", "sylo", "sylotinagri", "syrc", "syriac", "tagalog", "tagb",
   "tagbanwa", "taile", "taitham", "taiviet", "takr", "takri", "tale", "talu", "tamil", "taml",
   "tang", "tangsa", "tangut", "tavt", "telu", "telugu", "tfng", "tglg", "thaa", "thaana", "thai",
   "tibetan", "tibt", "tifinagh", "tirh", "tirhuta", "tnsa", "todhri", "todr", "toto",
   "tulutigalari", "tutg", "ugar", "ugaritic", "vai", "vaii", "vith", "vithkuqi", "wancho", "wara",
   "warangciti", "wcho", "xpeo", "xsux", "yezi", "yezidi", "yi", "yiii", "zanabazarsquare", "zanb",
   "zinh"]

/-- The versions of the standard in which characters were added. -/
def ages : List String :=
  ["1.1", "v11", "2.0", "v20", "2.1", "v21", "3.0", "v30", "3.1", "v31", "3.2", "v32", "4.0", "v40",
   "4.1", "v41", "5.0", "v50", "5.1", "v51", "5.2", "v52", "6.0", "v60", "6.1", "v61", "6.2", "v62",
   "6.3", "v63", "7.0", "v70", "8.0", "v80", "9.0", "v90", "10.0", "v100", "11.0", "v110", "12.0",
   "v120", "12.1", "v121", "13.0", "v130", "14.0", "v140", "15.0", "v150", "15.1", "v151", "16.0",
   "v160"]

/-- The kinds of characters between which clusters of them are told apart, … -/
def clusterBreaks : Named CharSet :=
  [(["control", "cn"], ⟨[(0x00, 0x09), (0x0B, 0x0C), (0x0E, 0x1F), (0x7F, 0x7F)]⟩),
   (["cr"], ⟨[(0x0D, 0x0D)]⟩),
   (["lf"], ⟨[(0x0A, 0x0A)]⟩),
   (["extend", "ex", "l", "lv", "lvt", "prepend", "pp", "regionalindicator", "ri", "spacingmark",
     "sm", "t", "v", "zwj"], .empty)]

/-- … words, … -/
def wordBreaks : Named CharSet :=
  [(["aletter", "le"], Text.letterSet),
   (["cr"], ⟨[(0x0D, 0x0D)]⟩),
   (["lf"], ⟨[(0x0A, 0x0A)]⟩),
   (["doublequote", "dq"], ⟨[(0x22, 0x22)]⟩),
   (["extendnumlet", "ex"], ⟨[(0x5F, 0x5F)]⟩),
   (["midletter", "ml"], ⟨[(0x3A, 0x3A)]⟩),
   (["midnum", "mn"], ⟨[(0x2C, 0x2C), (0x3B, 0x3B)]⟩),
   (["midnumlet", "mb"], ⟨[(0x2E, 0x2E)]⟩),
   (["newline", "nl"], ⟨[(0x0B, 0x0C)]⟩),
   (["numeric", "nu"], .asciiDigit),
   (["singlequote", "sq"], ⟨[(0x27, 0x27)]⟩),
   (["wsegspace"], ⟨[(0x20, 0x20)]⟩),
   (["extend", "format", "fo", "hebrewletter", "hl", "katakana", "ka", "regionalindicator", "ri",
     "zwj"], .empty)]

/-- … and sentences. -/
def sentenceBreaks : Named CharSet :=
  [(["aterm", "at"], ⟨[(0x2E, 0x2E)]⟩),
   (["close", "cl"],
     ⟨[(0x22, 0x22), (0x27, 0x29), (0x5B, 0x5B), (0x5D, 0x5D), (0x7B, 0x7B), (0x7D, 0x7D)]⟩),
   (["cr"], ⟨[(0x0D, 0x0D)]⟩),
   (["lf"], ⟨[(0x0A, 0x0A)]⟩),
   (["lower", "lo"], Category.set .lowercaseLetter),
   (["numeric", "nu"], .asciiDigit),
   (["scontinue", "sc"], ⟨[(0x2C, 0x2D), (0x3A, 0x3B)]⟩),
   (["sp"], ⟨[(0x09, 0x09), (0x0B, 0x0C), (0x20, 0x20)]⟩),
   (["sterm", "st"], ⟨[(0x21, 0x21), (0x3F, 0x3F)]⟩),
   (["upper", "up"], Category.set .uppercaseLetter),
   (["extend", "ex", "format", "fo", "oletter", "le", "sep", "se"], .empty)]

/-! ## Finding a property -/

/-- What counts of a name: ASCII characters without blanks, hyphens and underscores, in lower case,
and without `is` at its front, unless only the letter that names another category is left. -/
def plainName (cs : List Char) : String :=
  let plain (cs : List Char) :=
    (cs.filter fun c => decide (c.toNat < 128) && c != ' ' && c != '_' && c != '-').map Char.toLower
  match cs with
  | a :: b :: rest =>
    if a.toLower = 'i' ∧ b.toLower = 's' then
      String.ofList (if plain rest = ['c'] then ['i', 's', 'c'] else plain rest)
    else String.ofList (plain cs)
  | cs => String.ofList (plain cs)

def categorySet? (name : String) : Option CharSet :=
  match name with
  | "any" => some CharSet.empty.compl
  | "ascii" => some ⟨[(0x00, 0x7F)]⟩
  | "assigned" => some (Category.set .unassigned).compl
  | name => (categories.find? name).map fun cs => .unions (cs.map Category.set)

def scriptSet? (name : String) : Option CharSet :=
  if name = "latn" ∨ name = "latin" then some Text.asciiLetters
  else if name = "zyyy" ∨ name = "common" then
    some (CharSet.diff ⟨[(0x00, 0x7F)]⟩ Text.asciiLetters)
  else if otherScripts.contains name then some .empty
  else none

def namedSet? (name : List Char) : Option CharSet :=
  let name := plainName name
  properties.find? name <|> categorySet? name <|> scriptSet? name

def valuedSet? (property value : List Char) : Option CharSet :=
  let value := plainName value
  match plainName property with
  | "gc" | "generalcategory" => categorySet? value
  | "sc" | "script" | "scx" | "scriptextensions" => scriptSet? value
  | "age" => if ages.contains value then some Category.assigned else none
  | "gcb" | "graphemeclusterbreak" => clusterBreaks.find? value
  | "wb" | "wordbreak" => wordBreaks.find? value
  | "sb" | "sentencebreak" => sentenceBreaks.find? value
  | _ => none

def cutAt? (mark : List Char) : List Char → Option (List Char × List Char)
  | [] => none
  | c :: cs =>
    if mark.isPrefixOf (c :: cs) then some ([], (c :: cs).drop mark.length)
    else do
      let (before, behind) ← cutAt? mark cs
      pure (c :: before, behind)

/-- The set that a text between braces stands for, and whether its complement is meant. -/
def propertySet? (text : List Char) : Option (Bool × CharSet) :=
  match cutAt? ['!', '='] text with
  | some (property, value) => do pure (true, ← valuedSet? property value)
  | none => match cutAt? [':'] text <|> cutAt? ['='] text with
    | some (property, value) => do pure (false, ← valuedSet? property value)
    | none => do pure (false, ← namedSet? text)

end Spreadsheet.Pattern
