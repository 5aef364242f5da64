import FlowNet.Text.Category
import FlowNet.Text.Fold
import FlowNet.Text.Letter
import FlowNet.Pattern.Expr

/-!
# Named sets of characters

Sets are named by a general category, a script, or a property that characters have or lack. Case, spaces,
hyphens and underscores in a name do not matter, nor does a leading `is`.
-/

namespace FlowNet.Pattern

open FlowNet.Text (category script isBlank isAlphabetic words wordsOf inRanges sameFold)

def between (low high : Char) : CharSet := fun c => low ≤ c && c ≤ high

def isAscii : CharSet := fun c => c.toNat < 128

def isDigit : CharSet := fun c => category c = "Nd"

/-- Letters, marks, digits, connectors and the two joiners. -/
def isWordPart : CharSet := fun c =>
  isAlphabetic c || ["Mn", "Mc", "Me", "Nd", "Pc"].contains (category c) || c.toNat = 0x200C || c.toNat = 0x200D

def isAsciiWordPart : CharSet := fun c => c.isAlphanum || c = '_'

def isAsciiBlank : CharSet := fun c => c = ' ' || 9 ≤ c.toNat && c.toNat ≤ 13

/-- The characters that differ at most in case from one of the set. -/
def folded (set : CharSet) : CharSet := fun c => (sameFold c.toNat).any fun n => set (Char.ofNat n)

def asciiFolded (set : CharSet) : CharSet := fun c => set c || set c.toLower || set c.toUpper

/-- The classes written between colons. They hold ASCII characters only. -/
def asciiClass : String → Option CharSet
  | "alnum" => some Char.isAlphanum
  | "alpha" => some Char.isAlpha
  | "ascii" => some isAscii
  | "blank" => some fun c => c = ' ' || c = '\t'
  | "cntrl" => some fun c => c.toNat < 32 || c.toNat = 127
  | "digit" => some Char.isDigit
  | "graph" => some (between '!' '~')
  | "lower" => some (between 'a' 'z')
  | "print" => some (between ' ' '~')
  | "punct" => some fun c => between '!' '~' c && !c.isAlphanum
  | "space" => some isAsciiBlank
  | "upper" => some (between 'A' 'Z')
  | "word" => some isAsciiWordPart
  | "xdigit" => some fun c => c.isDigit || between 'a' 'f' c || between 'A' 'F' c
  | _ => none

/-! ## Names -/

def isNamePart (c : Char) : Bool := isAscii c && !([' ', '_', '-'].contains c)

def normalized (name : List Char) : String :=
  let plain (cs : List Char) := (cs.filter isNamePart).map Char.toLower
  match name with
  | a :: b :: r =>
    if [a, b].map Char.toLower = ['i', 's'] then
      let rest := plain r
      String.ofList (if rest = ['c'] then ['i', 's', 'c'] else rest)
    else String.ofList (plain name)
  | _ => String.ofList (plain name)

/-- The short name of a general category, or of a group of them, by any of its names. -/
def categoryNames : List (String × List String) :=
  [("C", ["other"]), ("Cc", ["control", "cntrl"]), ("Cf", ["format"]), ("Cn", ["unassigned"]),
   ("Co", ["privateuse"]), ("Cs", ["surrogate"]), ("L", ["letter"]), ("LC", ["casedletter"]),
   ("Ll", ["lowercaseletter"]), ("Lm", ["modifierletter"]), ("Lo", ["otherletter"]), ("Lt", ["titlecaseletter"]),
   ("Lu", ["uppercaseletter"]), ("M", ["mark", "combiningmark"]), ("Mc", ["spacingmark"]), ("Me", ["enclosingmark"]),
   ("Mn", ["nonspacingmark"]), ("N", ["number"]), ("Nd", ["decimalnumber", "digit"]), ("Nl", ["letternumber"]),
   ("No", ["othernumber"]), ("P", ["punctuation", "punct"]), ("Pc", ["connectorpunctuation"]),
   ("Pd", ["dashpunctuation"]), ("Pe", ["closepunctuation"]), ("Pf", ["finalpunctuation"]),
   ("Pi", ["initialpunctuation"]), ("Po", ["otherpunctuation"]), ("Ps", ["openpunctuation"]), ("S", ["symbol"]),
   ("Sc", ["currencysymbol"]), ("Sk", ["modifiersymbol"]), ("Sm", ["mathsymbol"]), ("So", ["othersymbol"]),
   ("Z", ["separator"]), ("Zl", ["lineseparator"]), ("Zp", ["paragraphseparator"]), ("Zs", ["spaceseparator"])]

def categorySet (code : String) : CharSet :=
  if code = "LC" then fun c => ["Lu", "Ll", "Lt"].contains (category c)
  else if code.length = 1 then fun c => (category c).startsWith code
  else fun c => category c = code

def categoryNamed (name : String) : Option CharSet :=
  match name with
  | "any" => some fun _ => true
  | "assigned" => some fun c => category c ≠ "Cn"
  | "ascii" => some isAscii
  | name =>
    (categoryNames.find? fun e => normalized e.1.toList = name || e.2.contains name).map fun e => categorySet e.1

def scriptNames : List (String × String) := (wordsOf
  ["Adlm=Adlam Ahom=Ahom Hluw=Anatolian_Hieroglyphs Arab=Arabic Armn=Armenian Avst=Avestan Bali=Balinese Bamu=Bamum",
   "Bass=Bassa_Vah Batk=Batak Beng=Bengali Bhks=Bhaiksuki Bopo=Bopomofo Brah=Brahmi Brai=Braille Bugi=Buginese",
   "Buhd=Buhid Cans=Canadian_Aboriginal Cari=Carian Aghb=Caucasian_Albanian Cakm=Chakma Cham=Cham Cher=Cherokee",
   "Chrs=Chorasmian Zyyy=Common Copt=Coptic Qaac=Coptic Xsux=Cuneiform Cprt=Cypriot Cpmn=Cypro_Minoan Cyrl=Cyrillic",
   "Dsrt=Deseret Deva=Devanagari Diak=Dives_Akuru Dogr=Dogra Dupl=Duployan Egyp=Egyptian_Hieroglyphs Elba=Elbasan",
   "Elym=Elymaic Ethi=Ethiopic Gara=Garay Geor=Georgian Glag=Glagolitic Goth=Gothic Gran=Grantha Grek=Greek",
   "Gujr=Gujarati Gong=Gunjala_Gondi Guru=Gurmukhi Gukh=Gurung_Khema Hani=Han Hang=Hangul Rohg=Hanifi_Rohingya",
   "Hano=Hanunoo Hatr=Hatran Hebr=Hebrew Hira=Hiragana Armi=Imperial_Aramaic Zinh=Inherited Qaai=Inherited",
   "Phli=Inscriptional_Pahlavi Prti=Inscriptional_Parthian Java=Javanese Kthi=Kaithi Knda=Kannada Kana=Katakana",
   "Hrkt=Katakana_Or_Hiragana Kawi=Kawi Kali=Kayah_Li Khar=Kharoshthi Kits=Khitan_Small_Script Khmr=Khmer",
   "Khoj=Khojki Sind=Khudawadi Krai=Kirat_Rai Laoo=Lao Latn=Latin Lepc=Lepcha Limb=Limbu Lina=Linear_A Linb=Linear_B",
   "Lisu=Lisu Lyci=Lycian Lydi=Lydian Mahj=Mahajani Maka=Makasar Mlym=Malayalam Mand=Mandaic Mani=Manichaean",
   "Marc=Marchen Gonm=Masaram_Gondi Medf=Medefaidrin Mtei=Meetei_Mayek Mend=Mende_Kikakui Merc=Meroitic_Cursive",
   "Mero=Meroitic_Hieroglyphs Plrd=Miao Modi=Modi Mong=Mongolian Mroo=Mro Mult=Multani Mymr=Myanmar Nbat=Nabataean",
   "Nagm=Nag_Mundari Nand=Nandinagari Talu=New_Tai_Lue Newa=Newa Nkoo=Nko Nshu=Nushu Hmnp=Nyiakeng_Puachue_Hmong",
   "Ogam=Ogham Olck=Ol_Chiki Onao=Ol_Onal Hung=Old_Hungarian Ital=Old_Italic Narb=Old_North_Arabian Perm=Old_Permic",
   "Xpeo=Old_Persian Sogo=Old_Sogdian Sarb=Old_South_Arabian Orkh=Old_Turkic Ougr=Old_Uyghur Orya=Oriya Osge=Osage",
   "Osma=Osmanya Hmng=Pahawh_Hmong Palm=Palmyrene Pauc=Pau_Cin_Hau Phag=Phags_Pa Phnx=Phoenician",
   "Phlp=Psalter_Pahlavi Rjng=Rejang Runr=Runic Samr=Samaritan Saur=Saurashtra Shrd=Sharada Shaw=Shavian",
   "Sidd=Siddham Sgnw=SignWriting Sinh=Sinhala Sogd=Sogdian Sora=Sora_Sompeng Soyo=Soyombo Sund=Sundanese",
   "Sunu=Sunuwar Sylo=Syloti_Nagri Syrc=Syriac Tglg=Tagalog Tagb=Tagbanwa Tale=Tai_Le Lana=Tai_Tham Tavt=Tai_Viet",
   "Takr=Takri Taml=Tamil Tnsa=Tangsa Tang=Tangut Telu=Telugu Thaa=Thaana Thai=Thai Tibt=Tibetan Tfng=Tifinagh",
   "Tirh=Tirhuta Todr=Todhri Toto=Toto Tutg=Tulu_Tigalari Ugar=Ugaritic Zzzz=Unknown Vaii=Vai Vith=Vithkuqi",
   "Wcho=Wancho Wara=Warang_Citi Yezi=Yezidi Yiii=Yi Zanb=Zanabazar_Square"]).map fun w =>
    (String.ofList (w.takeWhile (· ≠ '=')), String.ofList ((w.dropWhile (· ≠ '=')).drop 1))

def scriptNamed (name : String) : Option CharSet :=
  (scriptNames.find? fun e => normalized e.1.toList = name || normalized e.2.toList = name).map fun e =>
    fun c => script c = e.2

/-- Small letters that are letters of no case by category, or no letters. -/
def otherLowercase : List (Nat × Nat) :=
  [(0xaa, 0xaa), (0xba, 0xba), (0x2b0, 0x2b8), (0x2c0, 0x2c1), (0x2e0, 0x2e4), (0x345, 0x345), (0x37a, 0x37a),
   (0x10fc, 0x10fc), (0x1d2c, 0x1d6a), (0x1d78, 0x1d78), (0x1d9b, 0x1dbf), (0x2071, 0x2071), (0x207f, 0x207f),
   (0x2090, 0x209c), (0x2170, 0x217f), (0x24d0, 0x24e9), (0x2c7c, 0x2c7d), (0xa69c, 0xa69d), (0xa770, 0xa770),
   (0xa7f2, 0xa7f4), (0xa7f8, 0xa7f9), (0xab5c, 0xab5f), (0xab69, 0xab69), (0x10780, 0x10780), (0x10783, 0x10785),
   (0x10787, 0x107b0), (0x107b2, 0x107ba), (0x1e030, 0x1e06d)]

def otherUppercase : List (Nat × Nat) :=
  [(0x2160, 0x216f), (0x24b6, 0x24cf), (0x1f130, 0x1f149), (0x1f150, 0x1f169), (0x1f170, 0x1f189)]

def isLowercase : CharSet := fun c => category c = "Ll" || inRanges c.toNat otherLowercase

def isUppercase : CharSet := fun c => category c = "Lu" || inRanges c.toNat otherUppercase

def propertyNamed : String → Option CharSet
  | "alphabetic" | "alpha" => some isAlphabetic
  | "whitespace" | "wspace" | "space" => some isBlank
  | "lowercase" | "lower" => some isLowercase
  | "uppercase" | "upper" => some isUppercase
  | "cased" => some fun c => isLowercase c || isUppercase c || category c = "Lt"
  | "joincontrol" | "joinc" => some fun c => c.toNat = 0x200C || c.toNat = 0x200D
  | "asciihexdigit" | "ahex" => some fun c => c.isDigit || between 'a' 'f' c || between 'A' 'F' c
  | "hexdigit" | "hex" => some fun c =>
    c.isDigit || between 'a' 'f' c || between 'A' 'F' c || between '０' '９' c || between 'ａ' 'ｆ' c || between 'Ａ' 'Ｆ' c
  | _ => none

def setNamed (name : List Char) : Option CharSet :=
  let name := normalized name
  (propertyNamed name).or ((categoryNamed name).or (scriptNamed name))

def setOfValue (property value : List Char) : Option CharSet :=
  match normalized property with
  | "gc" | "generalcategory" => categoryNamed (normalized value)
  | "sc" | "script" | "scx" | "scriptextensions" => scriptNamed (normalized value)
  | _ => none

end FlowNet.Pattern
