import StoreAdmin.Text.Marks

/-!
# Composed form

A letter with marks can be spelled in several ways. The composed form takes all characters apart,
sorts the marks behind each letter by their classes, and puts together what makes up one character.
-/

namespace StoreAdmin.Text

/-- For each mark the characters that it joins, and the characters that they become. -/
def compositions : List (Nat × String × String) :=
  [(0x300, "AEIOUaeiouÜüNnЕИеиĒēŌōWwÂâĂăÊêÔôƠơƯư", "ÀÈÌÒÙàèìòùǛǜǸǹЀЍѐѝḔḕṐṑẀẁẦầẰằỀềỒồỜờỪừ"),
   (0x300, "YyἀἁἈἉἐἑἘἙἠἡἨἩἰἱἸἹὀὁὈὉὐὑὙὠὡὨὩαεηιουω", "ỲỳἂἃἊἋἒἓἚἛἢἣἪἫἲἳἺἻὂὃὊὋὒὓὛὢὣὪὫὰὲὴὶὸὺὼ"),
   (0x300, "ΑΕΗ᾿ϊΙ῾ϋΥ¨ΟΩ", "ᾺῈῊ῍ῒῚ῝ῢῪ῭ῸῺ"),
   (0x301, "AEIOUYaeiouyCcLlNnRrSsZzÜüGgÅåÆæØø¨Α", "ÁÉÍÓÚÝáéíóúýĆćĹĺŃńŔŕŚśŹźǗǘǴǵǺǻǼǽǾǿ΅Ά"),
   (0x301, "ΕΗΙΟΥΩϊαεηιϋουωϒГКгкÇçĒēÏïKkMmÕõŌōPp", "ΈΉΊΌΎΏΐάέήίΰόύώϓЃЌѓќḈḉḖḗḮḯḰḱḾḿṌṍṒṓṔṕ"),
   (0x301, "ŨũWwÂâĂăÊêÔôƠơƯưἀἁἈἉἐἑἘἙἠἡἨἩἰἱἸἹὀὁὈὉ", "ṸṹẂẃẤấẮắẾếỐốỚớỨứἄἅἌἍἔἕἜἝἤἥἬἭἴἵἼἽὄὅὌὍ"),
   (0x301, "ὐὑὙὠὡὨὩ᾿῾", "ὔὕὝὤὥὬὭ῎῞"),
   (0x302, "AEIOUaeiouCcGgHhJjSsWwYyZzẠạẸẹỌọ", "ÂÊÎÔÛâêîôûĈĉĜĝĤĥĴĵŜŝŴŵŶŷẐẑẬậỆệỘộ"),
   (0x303, "ANOanoIiUuVvÂâĂăEeÊêÔôƠơƯưYy", "ÃÑÕãñõĨĩŨũṼṽẪẫẴẵẼẽỄễỖỗỠỡỮữỸỹ"),
   (0x304, "AaEeIiOoUuÜüÄäȦȧÆæǪǫÖöÕõȮȯYyИиУуGgḶḷ", "ĀāĒēĪīŌōŪūǕǖǞǟǠǡǢǣǬǭȪȫȬȭȰȱȲȳӢӣӮӯḠḡḸḹ"),
   (0x304, "ṚṛαΑιΙυΥ", "ṜṝᾱᾹῑῙῡῩ"),
   (0x306, "AaEeGgIiOoUuУИиуЖжАаЕеȨȩẠạαΑιΙυΥ", "ĂăĔĕĞğĬĭŎŏŬŭЎЙйўӁӂӐӑӖӗḜḝẶặᾰᾸῐῘῠῨ"),
   (0x307, "CcEeGgIZzAaOoBbDdFfHhMmNnPpRrSsŚśŠšṢ", "ĊċĖėĠġİŻżȦȧȮȯḂḃḊḋḞḟḢḣṀṁṄṅṖṗṘṙṠṡṤṥṦṧṨ"),
   (0x307, "ṣTtWwXxYyſ", "ṩṪṫẆẇẊẋẎẏẛ"),
   (0x308, "AEIOUaeiouyYΙΥιυϒЕІеіАаӘәЖжЗзИиОоӨөЭ", "ÄËÏÖÜäëïöüÿŸΪΫϊϋϔЁЇёїӒӓӚӛӜӝӞӟӤӥӦӧӪӫӬ"),
   (0x308, "эУуЧчЫыHhÕõŪūWwXxt", "ӭӰӱӴӵӸӹḦḧṎṏṺṻẄẅẌẍẗ"),
   (0x309, "AaÂâĂăEeÊêIiOoÔôƠơUuƯưYy", "ẢảẨẩẲẳẺẻỂểỈỉỎỏỔổỞởỦủỬửỶỷ"),
   (0x30A, "AaUuwy", "ÅåŮůẘẙ"),
   (0x30B, "OoUuУу", "ŐőŰűӲӳ"),
   (0x30C, "CcDdEeLlNnRrSsTtZzAaIiOoUuÜüGgKkƷʒjH", "ČčĎďĚěĽľŇňŘřŠšŤťŽžǍǎǏǐǑǒǓǔǙǚǦǧǨǩǮǯǰȞ"),
   (0x30C, "h", "ȟ"),
   (0x30F, "AaEeIiOoRrUuѴѵ", "ȀȁȄȅȈȉȌȍȐȑȔȕѶѷ"),
   (0x311, "AaEeIiOoRrUu", "ȂȃȆȇȊȋȎȏȒȓȖȗ"),
   (0x313, "αΑεΕηΗιΙοΟυωΩρ", "ἀἈἐἘἠἨἰἸὀὈὐὠὨῤ"),
   (0x314, "αΑεΕηΗιΙοΟυΥωΩρΡ", "ἁἉἑἙἡἩἱἹὁὉὑὙὡὩῥῬ"),
   (0x31B, "OoUu", "ƠơƯư"),
   (0x323, "BbDdHhKkLlMmNnRrSsTtVvWwZzAaEeIiOoƠơ", "ḄḅḌḍḤḥḲḳḶḷṂṃṆṇṚṛṢṣṬṭṾṿẈẉẒẓẠạẸẹỊịỌọỢợ"),
   (0x323, "UuƯưYy", "ỤụỰựỴỵ"),
   (0x324, "Uu", "Ṳṳ"),
   (0x325, "Aa", "Ḁḁ"),
   (0x326, "SsTt", "ȘșȚț"),
   (0x327, "CcGgKkLlNnRrSsTtEeDdHh", "ÇçĢģĶķĻļŅņŖŗŞşŢţȨȩḐḑḨḩ"),
   (0x328, "AaEeIiUuOo", "ĄąĘęĮįŲųǪǫ"),
   (0x32D, "DdEeLlNnTtUu", "ḒḓḘḙḼḽṊṋṰṱṶṷ"),
   (0x32E, "Hh", "Ḫḫ"),
   (0x330, "EeIiUu", "ḚḛḬḭṴṵ"),
   (0x331, "BbDdKkLlNnRrTtZzh", "ḆḇḎḏḴḵḺḻṈṉṞṟṮṯẔẕẖ"),
   (0x338, "←→↔⇐⇔⇒∃∈∋∣∥∼≃≅≈=≡≍<>≤≥≲≳≶≷≺≻⊂⊃⊆⊇⊢⊨⊩⊫", "↚↛↮⇍⇎⇏∄∉∌∤∦≁≄≇≉≠≢≭≮≯≰≱≴≵≸≹⊀⊁⊄⊅⊈⊉⊬⊭⊮⊯"),
   (0x338, "≼≽⊑⊒⊲⊳⊴⊵", "⋠⋡⋢⋣⋪⋫⋬⋭"),
   (0x342, "ἀἁἈἉἠἡἨἩἰἱἸἹὐὑὙὠὡὨὩα¨η᾿ιϊ῾υϋω", "ἆἇἎἏἦἧἮἯἶἷἾἿὖὗὟὦὧὮὯᾶ῁ῆ῏ῖῗ῟ῦῧῶ"),
   (0x345, "ἀἁἂἃἄἅἆἇἈἉἊἋἌἍἎἏἠἡἢἣἤἥἦἧἨἩἪἫἬἭἮἯὠὡὢὣ", "ᾀᾁᾂᾃᾄᾅᾆᾇᾈᾉᾊᾋᾌᾍᾎᾏᾐᾑᾒᾓᾔᾕᾖᾗᾘᾙᾚᾛᾜᾝᾞᾟᾠᾡᾢᾣ"),
   (0x345, "ὤὥὦὧὨὩὪὫὬὭὮὯὰαάᾶΑὴηήῆΗὼωώῶΩ", "ᾤᾥᾦᾧᾨᾩᾪᾫᾬᾭᾮᾯᾲᾳᾴᾷᾼῂῃῄῇῌῲῳῴῷῼ"),
   (0x653, "ا", "آ"),
   (0x654, "اويەہے", "أؤئۀۂۓ"),
   (0x655, "ا", "إ"),
   (0x93C, "नरळ", "ऩऱऴ"),
   (0x9BE, "ে", "ো"),
   (0x9D7, "ে", "ৌ"),
   (0xB3E, "େ", "ୋ"),
   (0xB56, "େ", "ୈ"),
   (0xB57, "େ", "ୌ"),
   (0xBBE, "ெே", "ொோ"),
   (0xBD7, "ஒெ", "ஔௌ"),
   (0xC56, "ె", "ై"),
   (0xCC2, "ೆ", "ೊ"),
   (0xCD5, "ಿೆೊ", "ೀೇೋ"),
   (0xCD6, "ೆ", "ೈ"),
   (0xD3E, "െേ", "ൊോ"),
   (0xD57, "െ", "ൌ"),
   (0xDCA, "ෙො", "ේෝ"),
   (0xDCF, "ෙ", "ො"),
   (0xDDF, "ෙ", "ෞ"),
   (0x102E, "ဥ", "ဦ"),
   (0x1B35, "ᬅᬇᬉᬋᬍᬑᬺᬼᬾᬿᭂ", "ᬆᬈᬊᬌᬎᬒᬻᬽᭀᭁᭃ"),
   (0x3099, "かきくけこさしすせそたちつてとはひふへほうゝカキクケコサシスセソタチツテ", "がぎぐげござじずぜぞだぢづでどばびぶべぼゔゞガギグゲゴザジズゼゾダヂヅデ"),
   (0x3099, "トハヒフヘホウワヰヱヲヽ", "ドバビブベボヴヷヸヹヺヾ"),
   (0x309A, "はひふへほハヒフヘホ", "ぱぴぷぺぽパピプペポ"),
   (0x110BA, "𑂙𑂛𑂥", "𑂚𑂜𑂫"),
   (0x11127, "𑄱𑄲", "𑄮𑄯"),
   (0x1133E, "𑍇", "𑍋"),
   (0x11357, "𑍇", "𑍌"),
   (0x114B0, "𑒹", "𑒼"),
   (0x114BA, "𑒹", "𑒻"),
   (0x114BD, "𑒹", "𑒾"),
   (0x115AF, "𑖸𑖹", "𑖺𑖻"),
   (0x11930, "𑤵", "𑤸")]

/-- The parts of a Hangul syllable. -/
def hangulParts? (c : Char) : Option (List Char) :=
  if 0xAC00 ≤ c.toNat ∧ c.toNat ≤ 0xD7A3 then
    let i := c.toNat - 0xAC00
    let tail := if i % 28 = 0 then [] else [Char.ofNat (0x11A7 + i % 28)]
    some (Char.ofNat (0x1100 + i / 588) :: Char.ofNat (0x1161 + i % 588 / 28) :: tail)
  else none

/-- The Hangul syllable that two parts make up. -/
def hangul? (first second : Nat) : Option Char :=
  if 0x1100 ≤ first ∧ first ≤ 0x1112 ∧ 0x1161 ≤ second ∧ second ≤ 0x1175 then
    some (Char.ofNat (0xAC00 + (first - 0x1100) * 588 + (second - 0x1161) * 28))
  else if 0xAC00 ≤ first ∧ first ≤ 0xD7A3 ∧ (first - 0xAC00) % 28 = 0 ∧ 0x11A8 ≤ second ∧
      second ≤ 0x11C2 then
    some (Char.ofNat (first + (second - 0x11A7)))
  else none

/-- The two characters that a character is made of. -/
def parts? (c : Char) : Option (Char × Char) :=
  compositions.findSome? fun row =>
    ((row.2.1.toList.zip row.2.2.toList).find? fun p => p.2 = c).map fun p =>
      (p.1, Char.ofNat row.1)

/-- The character that two characters make up. -/
def composed? (first second : Char) : Option Char :=
  match hangul? first.toNat second.toNat with
  | some c => some c
  | none =>
    (compositions.filter fun row => row.1 = second.toNat).findSome? fun row =>
      ((row.2.1.toList.zip row.2.2.toList).find? fun p => p.1 = first).map (·.2)

/-- Takes a character apart, `depth` times at most. -/
def takeApart : Nat → Char → List Char
  | 0, c => [c]
  | depth + 1, c =>
    if c.toNat < 0xC0 then [c]
    else
      match hangulParts? c with
      | some parts => parts
      | none =>
        match parts? c with
        | some (first, second) => takeApart depth first ++ [second]
        | none => [c]

/-- No character is made of more than four. -/
def maxParts : Nat := 4

/-- Adds a character to a text in reverse order. A mark goes in front of marks of higher classes. -/
def placeMark (c : Char) : List Char → List Char
  | [] => [c]
  | d :: rest =>
    if combiningClass c ≠ 0 ∧ combiningClass c < combiningClass d then d :: placeMark c rest
    else c :: d :: rest

/-- A text with its characters taken apart and its marks in order. -/
def decomposed (text : List Char) : List Char :=
  ((text.flatMap (takeApart maxParts)).foldl (fun done c => placeMark c done) []).reverse

/-- Whether a character is kept from joining a letter by the marks `held` between them. -/
def isBlocked (held : List Char) (c : Char) : Bool :=
  match held.getLast? with
  | some d => combiningClass c ≤ combiningClass d
  | none => false

/-- Joins the characters of a text to the letter in front of it, where `held` are the marks that did
not join it. -/
def joinTo (letter : Char) (held : List Char) : List Char → List Char
  | [] => letter :: held
  | c :: rest =>
    match if isBlocked held c then none else composed? letter c with
    | some d => joinTo d held rest
    | none =>
      if combiningClass c = 0 then letter :: held ++ joinTo c [] rest
      else joinTo letter (held ++ [c]) rest

/-- Joins the characters of a text to its letters. Marks in front of the first letter stay. -/
def joinAll : List Char → List Char
  | [] => []
  | c :: rest => if combiningClass c = 0 then joinTo c [] rest else c :: joinAll rest

/-- The composed form of a text. -/
def compose (text : List Char) : List Char :=
  joinAll (decomposed text)

end StoreAdmin.Text
