import Storygraph.Text.Basic
import Storygraph.Unicode.Table.Script

/-!
# Scripts

The writing systems that characters belong to, by their names in loose form.
-/

namespace Storygraph.Unicode

/-- A script: its names in loose form, and the code points that belong to it alone. -/
structure Script where
  names : List String
  runs : List Run

namespace Script

def all : List Script := [
  ⟨["adlm", "adlam"], Table.adlamScript⟩,
  ⟨["aghb", "caucasianalbanian"], Table.caucasianAlbanianScript⟩,
  ⟨["ahom"], Table.ahomScript⟩,
  ⟨["arab", "arabic"], Table.arabicScript⟩,
  ⟨["armi", "imperialaramaic"], Table.imperialAramaicScript⟩,
  ⟨["armn", "armenian"], Table.armenianScript⟩,
  ⟨["avst", "avestan"], Table.avestanScript⟩,
  ⟨["bali", "balinese"], Table.balineseScript⟩,
  ⟨["bamu", "bamum"], Table.bamumScript⟩,
  ⟨["bass", "bassavah"], Table.bassaVahScript⟩,
  ⟨["batk", "batak"], Table.batakScript⟩,
  ⟨["beng", "bengali"], Table.bengaliScript⟩,
  ⟨["bhks", "bhaiksuki"], Table.bhaiksukiScript⟩,
  ⟨["bopo", "bopomofo"], Table.bopomofoScript⟩,
  ⟨["brah", "brahmi"], Table.brahmiScript⟩,
  ⟨["brai", "braille"], Table.brailleScript⟩,
  ⟨["bugi", "buginese"], Table.bugineseScript⟩,
  ⟨["buhd", "buhid"], Table.buhidScript⟩,
  ⟨["cakm", "chakma"], Table.chakmaScript⟩,
  ⟨["cans", "canadianaboriginal"], Table.canadianAboriginalScript⟩,
  ⟨["cari", "carian"], Table.carianScript⟩,
  ⟨["cham"], Table.chamScript⟩,
  ⟨["cher", "cherokee"], Table.cherokeeScript⟩,
  ⟨["chrs", "chorasmian"], Table.chorasmianScript⟩,
  ⟨["copt", "coptic", "qaac"], Table.copticScript⟩,
  ⟨["cpmn", "cyprominoan"], Table.cyproMinoanScript⟩,
  ⟨["cprt", "cypriot"], Table.cypriotScript⟩,
  ⟨["cyrl", "cyrillic"], Table.cyrillicScript⟩,
  ⟨["deva", "devanagari"], Table.devanagariScript⟩,
  ⟨["diak", "divesakuru"], Table.divesAkuruScript⟩,
  ⟨["dogr", "dogra"], Table.dograScript⟩,
  ⟨["dsrt", "deseret"], Table.deseretScript⟩,
  ⟨["dupl", "duployan"], Table.duployanScript⟩,
  ⟨["egyp", "egyptianhieroglyphs"], Table.egyptianHieroglyphsScript⟩,
  ⟨["elba", "elbasan"], Table.elbasanScript⟩,
  ⟨["elym", "elymaic"], Table.elymaicScript⟩,
  ⟨["ethi", "ethiopic"], Table.ethiopicScript⟩,
  ⟨["gara", "garay"], Table.garayScript⟩,
  ⟨["geor", "georgian"], Table.georgianScript⟩,
  ⟨["glag", "glagolitic"], Table.glagoliticScript⟩,
  ⟨["gong", "gunjalagondi"], Table.gunjalaGondiScript⟩,
  ⟨["gonm", "masaramgondi"], Table.masaramGondiScript⟩,
  ⟨["goth", "gothic"], Table.gothicScript⟩,
  ⟨["gran", "grantha"], Table.granthaScript⟩,
  ⟨["grek", "greek"], Table.greekScript⟩,
  ⟨["gujr", "gujarati"], Table.gujaratiScript⟩,
  ⟨["gukh", "gurungkhema"], Table.gurungKhemaScript⟩,
  ⟨["guru", "gurmukhi"], Table.gurmukhiScript⟩,
  ⟨["hang", "hangul"], Table.hangulScript⟩,
  ⟨["hani", "han"], Table.hanScript⟩,
  ⟨["hano", "hanunoo"], Table.hanunooScript⟩,
  ⟨["hatr", "hatran"], Table.hatranScript⟩,
  ⟨["hebr", "hebrew"], Table.hebrewScript⟩,
  ⟨["hira", "hiragana"], Table.hiraganaScript⟩,
  ⟨["hluw", "anatolianhieroglyphs"], Table.anatolianHieroglyphsScript⟩,
  ⟨["hmng", "pahawhhmong"], Table.pahawhHmongScript⟩,
  ⟨["hmnp", "nyiakengpuachuehmong"], Table.nyiakengPuachueHmongScript⟩,
  ⟨["hung", "oldhungarian"], Table.oldHungarianScript⟩,
  ⟨["ital", "olditalic"], Table.oldItalicScript⟩,
  ⟨["java", "javanese"], Table.javaneseScript⟩,
  ⟨["kali", "kayahli"], Table.kayahLiScript⟩,
  ⟨["kana", "katakana"], Table.katakanaScript⟩,
  ⟨["kawi"], Table.kawiScript⟩,
  ⟨["khar", "kharoshthi"], Table.kharoshthiScript⟩,
  ⟨["khmr", "khmer"], Table.khmerScript⟩,
  ⟨["khoj", "khojki"], Table.khojkiScript⟩,
  ⟨["kits", "khitansmallscript"], Table.khitanSmallScriptScript⟩,
  ⟨["knda", "kannada"], Table.kannadaScript⟩,
  ⟨["krai", "kiratrai"], Table.kiratRaiScript⟩,
  ⟨["kthi", "kaithi"], Table.kaithiScript⟩,
  ⟨["lana", "taitham"], Table.taiThamScript⟩,
  ⟨["laoo", "lao"], Table.laoScript⟩,
  ⟨["latn", "latin"], Table.latinScript⟩,
  ⟨["lepc", "lepcha"], Table.lepchaScript⟩,
  ⟨["limb", "limbu"], Table.limbuScript⟩,
  ⟨["lina", "lineara"], Table.linearAScript⟩,
  ⟨["linb", "linearb"], Table.linearBScript⟩,
  ⟨["lisu"], Table.lisuScript⟩,
  ⟨["lyci", "lycian"], Table.lycianScript⟩,
  ⟨["lydi", "lydian"], Table.lydianScript⟩,
  ⟨["mahj", "mahajani"], Table.mahajaniScript⟩,
  ⟨["maka", "makasar"], Table.makasarScript⟩,
  ⟨["mand", "mandaic"], Table.mandaicScript⟩,
  ⟨["mani", "manichaean"], Table.manichaeanScript⟩,
  ⟨["marc", "marchen"], Table.marchenScript⟩,
  ⟨["medf", "medefaidrin"], Table.medefaidrinScript⟩,
  ⟨["mend", "mendekikakui"], Table.mendeKikakuiScript⟩,
  ⟨["merc", "meroiticcursive"], Table.meroiticCursiveScript⟩,
  ⟨["mero", "meroitichieroglyphs"], Table.meroiticHieroglyphsScript⟩,
  ⟨["mlym", "malayalam"], Table.malayalamScript⟩,
  ⟨["modi"], Table.modiScript⟩,
  ⟨["mong", "mongolian"], Table.mongolianScript⟩,
  ⟨["mroo", "mro"], Table.mroScript⟩,
  ⟨["mtei", "meeteimayek"], Table.meeteiMayekScript⟩,
  ⟨["mult", "multani"], Table.multaniScript⟩,
  ⟨["mymr", "myanmar"], Table.myanmarScript⟩,
  ⟨["nagm", "nagmundari"], Table.nagMundariScript⟩,
  ⟨["nand", "nandinagari"], Table.nandinagariScript⟩,
  ⟨["narb", "oldnortharabian"], Table.oldNorthArabianScript⟩,
  ⟨["nbat", "nabataean"], Table.nabataeanScript⟩,
  ⟨["newa"], Table.newaScript⟩,
  ⟨["nkoo", "nko"], Table.nkoScript⟩,
  ⟨["nshu", "nushu"], Table.nushuScript⟩,
  ⟨["ogam", "ogham"], Table.oghamScript⟩,
  ⟨["olck", "olchiki"], Table.olChikiScript⟩,
  ⟨["onao", "olonal"], Table.olOnalScript⟩,
  ⟨["orkh", "oldturkic"], Table.oldTurkicScript⟩,
  ⟨["orya", "oriya"], Table.oriyaScript⟩,
  ⟨["osge", "osage"], Table.osageScript⟩,
  ⟨["osma", "osmanya"], Table.osmanyaScript⟩,
  ⟨["ougr", "olduyghur"], Table.oldUyghurScript⟩,
  ⟨["palm", "palmyrene"], Table.palmyreneScript⟩,
  ⟨["pauc", "paucinhau"], Table.pauCinHauScript⟩,
  ⟨["perm", "oldpermic"], Table.oldPermicScript⟩,
  ⟨["phag", "phagspa"], Table.phagsPaScript⟩,
  ⟨["phli", "inscriptionalpahlavi"], Table.inscriptionalPahlaviScript⟩,
  ⟨["phlp", "psalterpahlavi"], Table.psalterPahlaviScript⟩,
  ⟨["phnx", "phoenician"], Table.phoenicianScript⟩,
  ⟨["plrd", "miao"], Table.miaoScript⟩,
  ⟨["prti", "inscriptionalparthian"], Table.inscriptionalParthianScript⟩,
  ⟨["rjng", "rejang"], Table.rejangScript⟩,
  ⟨["rohg", "hanifirohingya"], Table.hanifiRohingyaScript⟩,
  ⟨["runr", "runic"], Table.runicScript⟩,
  ⟨["samr", "samaritan"], Table.samaritanScript⟩,
  ⟨["sarb", "oldsoutharabian"], Table.oldSouthArabianScript⟩,
  ⟨["saur", "saurashtra"], Table.saurashtraScript⟩,
  ⟨["sgnw", "signwriting"], Table.signWritingScript⟩,
  ⟨["shaw", "shavian"], Table.shavianScript⟩,
  ⟨["shrd", "sharada"], Table.sharadaScript⟩,
  ⟨["sidd", "siddham"], Table.siddhamScript⟩,
  ⟨["sind", "khudawadi"], Table.khudawadiScript⟩,
  ⟨["sinh", "sinhala"], Table.sinhalaScript⟩,
  ⟨["sogd", "sogdian"], Table.sogdianScript⟩,
  ⟨["sogo", "oldsogdian"], Table.oldSogdianScript⟩,
  ⟨["sora", "sorasompeng"], Table.soraSompengScript⟩,
  ⟨["soyo", "soyombo"], Table.soyomboScript⟩,
  ⟨["sund", "sundanese"], Table.sundaneseScript⟩,
  ⟨["sunu", "sunuwar"], Table.sunuwarScript⟩,
  ⟨["sylo", "sylotinagri"], Table.sylotiNagriScript⟩,
  ⟨["syrc", "syriac"], Table.syriacScript⟩,
  ⟨["tagb", "tagbanwa"], Table.tagbanwaScript⟩,
  ⟨["takr", "takri"], Table.takriScript⟩,
  ⟨["tale", "taile"], Table.taiLeScript⟩,
  ⟨["talu", "newtailue"], Table.newTaiLueScript⟩,
  ⟨["taml", "tamil"], Table.tamilScript⟩,
  ⟨["tang", "tangut"], Table.tangutScript⟩,
  ⟨["tavt", "taiviet"], Table.taiVietScript⟩,
  ⟨["telu", "telugu"], Table.teluguScript⟩,
  ⟨["tfng", "tifinagh"], Table.tifinaghScript⟩,
  ⟨["tglg", "tagalog"], Table.tagalogScript⟩,
  ⟨["thaa", "thaana"], Table.thaanaScript⟩,
  ⟨["thai"], Table.thaiScript⟩,
  ⟨["tibt", "tibetan"], Table.tibetanScript⟩,
  ⟨["tirh", "tirhuta"], Table.tirhutaScript⟩,
  ⟨["tnsa", "tangsa"], Table.tangsaScript⟩,
  ⟨["todr", "todhri"], Table.todhriScript⟩,
  ⟨["toto"], Table.totoScript⟩,
  ⟨["tutg", "tulutigalari"], Table.tuluTigalariScript⟩,
  ⟨["ugar", "ugaritic"], Table.ugariticScript⟩,
  ⟨["vaii", "vai"], Table.vaiScript⟩,
  ⟨["vith", "vithkuqi"], Table.vithkuqiScript⟩,
  ⟨["wara", "warangciti"], Table.warangCitiScript⟩,
  ⟨["wcho", "wancho"], Table.wanchoScript⟩,
  ⟨["xpeo", "oldpersian"], Table.oldPersianScript⟩,
  ⟨["xsux", "cuneiform"], Table.cuneiformScript⟩,
  ⟨["yezi", "yezidi"], Table.yezidiScript⟩,
  ⟨["yiii", "yi"], Table.yiScript⟩,
  ⟨["zanb", "zanabazarsquare"], Table.zanabazarSquareScript⟩,
  ⟨["zinh", "inherited", "qaai"], Table.inheritedScript⟩,
  ⟨["zyyy", "common"], Table.commonScript⟩]

/-- Names of scripts without code points of their own. -/
def withoutCodePoints : List String := ["zzzz", "unknown", "hrkt", "katakanaorhiragana"]

def named? (name : Text) : Option Script :=
  all.find? fun script => script.names.any fun n => n.toList == name

def contains (script : Script) (c : Char) : Bool := onRuns script.runs c

end Script

end Storygraph.Unicode
