/-
  DropFlow/Text/Script.lean
  =========================
  The script of every code point of Unicode 15.
-/
import DropFlow.Text.Property

namespace DropFlow.Text

/-- The runs of the script. -/
def scriptTable : List String := [
  "65Common 26Latin 6Common 26Latin 47Common 1Latin 15Common 1Latin 5Common 23Latin 1Common",
  "31Latin 1Common 449Latin 39Common 5Latin 5Common 2Bopomofo 20Common 112Inherited 4Greek",
  "1Common 3Greek 2Unknown 4Greek 1Common 1Greek 4Unknown 1Greek 1Common 1Greek 1Common 3Greek",
  "1Unknown 1Greek 1Unknown 20Greek 1Unknown 63Greek 14Coptic 16Greek 133Cyrillic 2Inherited",
  "169Cyrillic 1Unknown 38Armenian 2Unknown 50Armenian 2Unknown 3Armenian 1Unknown 55Hebrew",
  "8Unknown 27Hebrew 4Unknown 6Hebrew 11Unknown 5Arabic 1Common 6Arabic 1Common 14Arabic",
  "1Common 3Arabic 1Common 32Arabic 1Common 10Arabic 11Inherited 26Arabic 1Inherited 108Arabic",
  "1Common 34Arabic 14Syriac 1Unknown 60Syriac 2Unknown 3Syriac 48Arabic 50Thaana 14Unknown",
  "59Nko 2Unknown 3Nko 46Samaritan 2Unknown 15Samaritan 1Unknown 28Mandaic 2Unknown 1Mandaic",
  "1Unknown 11Syriac 5Unknown 31Arabic 1Unknown 2Arabic 6Unknown 74Arabic 1Common 29Arabic",
  "81Devanagari 4Inherited 15Devanagari 2Common 26Devanagari 4Bengali 1Unknown 8Bengali",
  "2Unknown 2Bengali 2Unknown 22Bengali 1Unknown 7Bengali 1Unknown 1Bengali 3Unknown 4Bengali",
  "2Unknown 9Bengali 2Unknown 2Bengali 2Unknown 4Bengali 8Unknown 1Bengali 4Unknown 2Bengali",
  "1Unknown 5Bengali 2Unknown 25Bengali 2Unknown 3Gurmukhi 1Unknown 6Gurmukhi 4Unknown",
  "2Gurmukhi 2Unknown 22Gurmukhi 1Unknown 7Gurmukhi 1Unknown 2Gurmukhi 1Unknown 2Gurmukhi",
  "1Unknown 2Gurmukhi 2Unknown 1Gurmukhi 1Unknown 5Gurmukhi 4Unknown 2Gurmukhi 2Unknown",
  "3Gurmukhi 3Unknown 1Gurmukhi 7Unknown 4Gurmukhi 1Unknown 1Gurmukhi 7Unknown 17Gurmukhi",
  "10Unknown 3Gujarati 1Unknown 9Gujarati 1Unknown 3Gujarati 1Unknown 22Gujarati 1Unknown",
  "7Gujarati 1Unknown 2Gujarati 1Unknown 5Gujarati 2Unknown 10Gujarati 1Unknown 3Gujarati",
  "1Unknown 3Gujarati 2Unknown 1Gujarati 15Unknown 4Gujarati 2Unknown 12Gujarati 7Unknown",
  "7Gujarati 1Unknown 3Oriya 1Unknown 8Oriya 2Unknown 2Oriya 2Unknown 22Oriya 1Unknown 7Oriya",
  "1Unknown 2Oriya 1Unknown 5Oriya 2Unknown 9Oriya 2Unknown 2Oriya 2Unknown 3Oriya 7Unknown",
  "3Oriya 4Unknown 2Oriya 1Unknown 5Oriya 2Unknown 18Oriya 10Unknown 2Tamil 1Unknown 6Tamil",
  "3Unknown 3Tamil 1Unknown 4Tamil 3Unknown 2Tamil 1Unknown 1Tamil 1Unknown 2Tamil 3Unknown",
  "2Tamil 3Unknown 3Tamil 3Unknown 12Tamil 4Unknown 5Tamil 3Unknown 3Tamil 1Unknown 4Tamil",
  "2Unknown 1Tamil 6Unknown 1Tamil 14Unknown 21Tamil 5Unknown 13Telugu 1Unknown 3Telugu",
  "1Unknown 23Telugu 1Unknown 16Telugu 2Unknown 9Telugu 1Unknown 3Telugu 1Unknown 4Telugu",
  "7Unknown 2Telugu 1Unknown 3Telugu 2Unknown 1Telugu 2Unknown 4Telugu 2Unknown 10Telugu",
  "7Unknown 9Telugu 13Kannada 1Unknown 3Kannada 1Unknown 23Kannada 1Unknown 10Kannada 1Unknown",
  "5Kannada 2Unknown 9Kannada 1Unknown 3Kannada 1Unknown 4Kannada 7Unknown 2Kannada 6Unknown",
  "2Kannada 1Unknown 4Kannada 2Unknown 10Kannada 1Unknown 3Kannada 12Unknown 13Malayalam",
  "1Unknown 3Malayalam 1Unknown 51Malayalam 1Unknown 3Malayalam 1Unknown 6Malayalam 4Unknown",
  "16Malayalam 2Unknown 26Malayalam 1Unknown 3Sinhala 1Unknown 18Sinhala 3Unknown 24Sinhala",
  "1Unknown 9Sinhala 1Unknown 1Sinhala 2Unknown 7Sinhala 3Unknown 1Sinhala 4Unknown 6Sinhala",
  "1Unknown 1Sinhala 1Unknown 8Sinhala 6Unknown 10Sinhala 2Unknown 3Sinhala 12Unknown 58Thai",
  "4Unknown 1Common 28Thai 37Unknown 2Lao 1Unknown 1Lao 1Unknown 5Lao 1Unknown 24Lao 1Unknown",
  "1Lao 1Unknown 23Lao 2Unknown 5Lao 1Unknown 1Lao 1Unknown 7Lao 1Unknown 10Lao 2Unknown 4Lao",
  "32Unknown 72Tibetan 1Unknown 36Tibetan 4Unknown 39Tibetan 1Unknown 36Tibetan 1Unknown",
  "15Tibetan 1Unknown 7Tibetan 4Common 2Tibetan 37Unknown 160Myanmar 38Georgian 1Unknown",
  "1Georgian 5Unknown 1Georgian 2Unknown 43Georgian 1Common 4Georgian 256Hangul 73Ethiopic",
  "1Unknown 4Ethiopic 2Unknown 7Ethiopic 1Unknown 1Ethiopic 1Unknown 4Ethiopic 2Unknown",
  "41Ethiopic 1Unknown 4Ethiopic 2Unknown 33Ethiopic 1Unknown 4Ethiopic 2Unknown 7Ethiopic",
  "1Unknown 1Ethiopic 1Unknown 4Ethiopic 2Unknown 15Ethiopic 1Unknown 57Ethiopic 1Unknown",
  "4Ethiopic 2Unknown 67Ethiopic 2Unknown 32Ethiopic 3Unknown 26Ethiopic 6Unknown 86Cherokee",
  "2Unknown 6Cherokee 2Unknown 640Canadian_Aboriginal 29Ogham 3Unknown 75Runic 3Common 11Runic",
  "7Unknown 22Tagalog 9Unknown 1Tagalog 21Hanunoo 2Common 9Unknown 20Buhid 12Unknown 13Tagbanwa",
  "1Unknown 3Tagbanwa 1Unknown 2Tagbanwa 12Unknown 94Khmer 2Unknown 10Khmer 6Unknown 10Khmer",
  "6Unknown 2Mongolian 2Common 1Mongolian 1Common 20Mongolian 6Unknown 89Mongolian 7Unknown",
  "43Mongolian 5Unknown 70Canadian_Aboriginal 10Unknown 31Limbu 1Unknown 12Limbu 4Unknown",
  "12Limbu 4Unknown 1Limbu 3Unknown 12Limbu 30Tai_Le 2Unknown 5Tai_Le 11Unknown 44New_Tai_Lue",
  "4Unknown 26New_Tai_Lue 6Unknown 11New_Tai_Lue 3Unknown 2New_Tai_Lue 32Khmer 28Buginese",
  "2Unknown 2Buginese 63Tai_Tham 1Unknown 29Tai_Tham 2Unknown 11Tai_Tham 6Unknown 10Tai_Tham",
  "6Unknown 14Tai_Tham 2Unknown 31Inherited 49Unknown 77Balinese 3Unknown 47Balinese 1Unknown",
  "64Sundanese 52Batak 8Unknown 4Batak 56Lepcha 3Unknown 15Lepcha 3Unknown 3Lepcha 48Ol_Chiki",
  "9Cyrillic 7Unknown 43Georgian 2Unknown 3Georgian 8Sundanese 8Unknown 3Inherited 1Common",
  "13Inherited 1Common 7Inherited 4Common 1Inherited 6Common 1Inherited 3Common 2Inherited",
  "1Common 5Unknown 38Latin 5Greek 1Cyrillic 49Latin 5Greek 4Latin 5Greek 13Latin 1Cyrillic",
  "70Latin 1Greek 64Inherited 256Latin 22Greek 2Unknown 6Greek 2Unknown 38Greek 2Unknown 6Greek",
  "2Unknown 8Greek 1Unknown 1Greek 1Unknown 1Greek 1Unknown 1Greek 1Unknown 31Greek 2Unknown",
  "53Greek 1Unknown 15Greek 1Unknown 14Greek 2Unknown 6Greek 1Unknown 19Greek 2Unknown 3Greek",
  "1Unknown 9Greek 1Unknown 12Common 2Inherited 87Common 1Unknown 11Common 1Latin 2Unknown",
  "11Common 1Latin 15Common 1Unknown 13Latin 3Unknown 33Common 15Unknown 33Inherited 15Unknown",
  "38Common 1Greek 3Common 2Latin 6Common 1Latin 27Common 1Latin 17Common 41Latin 3Common",
  "4Unknown 663Common 25Unknown 11Common 21Unknown 928Common 256Braille 628Common 2Unknown",
  "32Common 1Unknown 105Common 96Glagolitic 32Latin 116Coptic 5Unknown 7Coptic 38Georgian",
  "1Unknown 1Georgian 5Unknown 1Georgian 2Unknown 56Tifinagh 7Unknown 2Tifinagh 14Unknown",
  "1Tifinagh 23Ethiopic 9Unknown 7Ethiopic 1Unknown 7Ethiopic 1Unknown 7Ethiopic 1Unknown",
  "7Ethiopic 1Unknown 7Ethiopic 1Unknown 7Ethiopic 1Unknown 7Ethiopic 1Unknown 7Ethiopic",
  "1Unknown 32Cyrillic 94Common 34Unknown 26Han 1Unknown 89Han 12Unknown 214Han 26Unknown",
  "12Common 4Unknown 5Common 1Han 1Common 1Han 25Common 9Han 4Inherited 2Hangul 8Common 4Han",
  "4Common 1Unknown 86Hiragana 2Unknown 2Inherited 2Common 3Hiragana 1Common 90Katakana 2Common",
  "3Katakana 5Unknown 43Bopomofo 1Unknown 94Hangul 1Unknown 16Common 32Bopomofo 36Common",
  "12Unknown 16Katakana 31Hangul 1Unknown 64Common 31Hangul 81Common 47Katakana 1Common",
  "88Katakana 168Common 6592Han 64Common 20992Han 1165Yi 3Unknown 55Yi 9Unknown 48Lisu 300Vai",
  "20Unknown 96Cyrillic 88Bamum 8Unknown 34Common 102Latin 3Common 64Latin 5Unknown 2Latin",
  "1Unknown 1Latin 1Unknown 5Latin 24Unknown 14Latin 45Syloti_Nagri 3Unknown 10Common 6Unknown",
  "56Phags_Pa 8Unknown 70Saurashtra 8Unknown 12Saurashtra 6Unknown 32Devanagari 46Kayah_Li",
  "1Common 1Kayah_Li 36Rejang 11Unknown 1Rejang 29Hangul 3Unknown 78Javanese 1Unknown 1Common",
  "10Javanese 4Unknown 2Javanese 31Myanmar 1Unknown 55Cham 9Unknown 14Cham 2Unknown 10Cham",
  "2Unknown 4Cham 32Myanmar 67Tai_Viet 24Unknown 5Tai_Viet 23Meetei_Mayek 10Unknown 6Ethiopic",
  "2Unknown 6Ethiopic 2Unknown 6Ethiopic 9Unknown 7Ethiopic 1Unknown 7Ethiopic 1Unknown 43Latin",
  "1Common 9Latin 1Greek 4Latin 2Common 4Unknown 80Cherokee 46Meetei_Mayek 2Unknown",
  "10Meetei_Mayek 6Unknown 11172Hangul 12Unknown 23Hangul 4Unknown 49Hangul 8452Unknown 366Han",
  "2Unknown 106Han 38Unknown 7Latin 12Unknown 5Armenian 5Unknown 26Hebrew 1Unknown 5Hebrew",
  "1Unknown 1Hebrew 1Unknown 2Hebrew 1Unknown 2Hebrew 1Unknown 10Hebrew 115Arabic 16Unknown",
  "363Arabic 2Common 80Arabic 2Unknown 54Arabic 7Unknown 1Arabic 32Unknown 16Arabic 16Inherited",
  "10Common 6Unknown 14Inherited 2Cyrillic 35Common 1Unknown 19Common 1Unknown 4Common 4Unknown",
  "5Arabic 1Unknown 135Arabic 2Unknown 1Common 1Unknown 32Common 26Latin 6Common 26Latin",
  "11Common 10Katakana 1Common 45Katakana 2Common 31Hangul 3Unknown 6Hangul 2Unknown 6Hangul",
  "2Unknown 6Hangul 2Unknown 3Hangul 3Unknown 7Common 1Unknown 7Common 10Unknown 5Common",
  "2Unknown 12Linear_B 1Unknown 26Linear_B 1Unknown 19Linear_B 1Unknown 2Linear_B 1Unknown",
  "15Linear_B 2Unknown 14Linear_B 34Unknown 123Linear_B 5Unknown 3Common 4Unknown 45Common",
  "3Unknown 9Common 79Greek 1Unknown 13Common 3Unknown 1Greek 47Unknown 45Common 1Inherited",
  "130Unknown 29Lycian 3Unknown 49Carian 15Unknown 1Inherited 27Common 4Unknown 36Old_Italic",
  "9Unknown 3Old_Italic 27Gothic 5Unknown 43Old_Permic 5Unknown 30Ugaritic 1Unknown 1Ugaritic",
  "36Old_Persian 4Unknown 14Old_Persian 42Unknown 80Deseret 48Shavian 30Osmanya 2Unknown",
  "10Osmanya 6Unknown 36Osage 4Unknown 36Osage 4Unknown 40Elbasan 8Unknown 52Caucasian_Albanian",
  "11Unknown 1Caucasian_Albanian 11Vithkuqi 1Unknown 15Vithkuqi 1Unknown 7Vithkuqi 1Unknown",
  "2Vithkuqi 1Unknown 11Vithkuqi 1Unknown 15Vithkuqi 1Unknown 7Vithkuqi 1Unknown 2Vithkuqi",
  "67Unknown 311Linear_A 9Unknown 22Linear_A 10Unknown 8Linear_A 24Unknown 6Latin 1Unknown",
  "42Latin 1Unknown 9Latin 69Unknown 6Cypriot 2Unknown 1Cypriot 1Unknown 44Cypriot 1Unknown",
  "2Cypriot 3Unknown 1Cypriot 2Unknown 1Cypriot 22Imperial_Aramaic 1Unknown 9Imperial_Aramaic",
  "32Palmyrene 31Nabataean 8Unknown 9Nabataean 48Unknown 19Hatran 1Unknown 2Hatran 5Unknown",
  "5Hatran 28Phoenician 3Unknown 1Phoenician 26Lydian 5Unknown 1Lydian 64Unknown",
  "32Meroitic_Hieroglyphs 24Meroitic_Cursive 4Unknown 20Meroitic_Cursive 2Unknown",
  "46Meroitic_Cursive 4Kharoshthi 1Unknown 2Kharoshthi 5Unknown 8Kharoshthi 1Unknown",
  "3Kharoshthi 1Unknown 29Kharoshthi 2Unknown 3Kharoshthi 4Unknown 10Kharoshthi 7Unknown",
  "9Kharoshthi 7Unknown 32Old_South_Arabian 32Old_North_Arabian 32Unknown 39Manichaean 4Unknown",
  "12Manichaean 9Unknown 54Avestan 3Unknown 7Avestan 22Inscriptional_Parthian 2Unknown",
  "8Inscriptional_Parthian 19Inscriptional_Pahlavi 5Unknown 8Inscriptional_Pahlavi",
  "18Psalter_Pahlavi 7Unknown 4Psalter_Pahlavi 12Unknown 7Psalter_Pahlavi 80Unknown",
  "73Old_Turkic 55Unknown 51Old_Hungarian 13Unknown 51Old_Hungarian 7Unknown 6Old_Hungarian",
  "40Hanifi_Rohingya 8Unknown 10Hanifi_Rohingya 294Unknown 31Arabic 1Unknown 42Yezidi 1Unknown",
  "3Yezidi 2Unknown 2Yezidi 75Unknown 3Arabic 40Old_Sogdian 8Unknown 42Sogdian 22Unknown",
  "26Old_Uyghur 38Unknown 28Chorasmian 20Unknown 23Elymaic 9Unknown 78Brahmi 4Unknown 36Brahmi",
  "9Unknown 1Brahmi 67Kaithi 10Unknown 1Kaithi 2Unknown 25Sora_Sompeng 7Unknown 10Sora_Sompeng",
  "6Unknown 53Chakma 1Unknown 18Chakma 8Unknown 39Mahajani 9Unknown 96Sharada 1Unknown",
  "20Sinhala 11Unknown 18Khojki 1Unknown 47Khojki 62Unknown 7Multani 1Unknown 1Multani 1Unknown",
  "4Multani 1Unknown 15Multani 1Unknown 11Multani 6Unknown 59Khudawadi 5Unknown 10Khudawadi",
  "6Unknown 4Grantha 1Unknown 8Grantha 2Unknown 2Grantha 2Unknown 22Grantha 1Unknown 7Grantha",
  "1Unknown 2Grantha 1Unknown 5Grantha 1Unknown 1Inherited 9Grantha 2Unknown 2Grantha 2Unknown",
  "3Grantha 2Unknown 1Grantha 6Unknown 1Grantha 5Unknown 7Grantha 2Unknown 7Grantha 3Unknown",
  "5Grantha 139Unknown 92Newa 1Unknown 5Newa 30Unknown 72Tirhuta 8Unknown 10Tirhuta 166Unknown",
  "54Siddham 2Unknown 38Siddham 34Unknown 69Modi 11Unknown 10Modi 6Unknown 13Mongolian",
  "19Unknown 58Takri 6Unknown 10Takri 54Unknown 27Ahom 2Unknown 15Ahom 4Unknown 23Ahom",
  "185Unknown 60Dogra 100Unknown 83Warang_Citi 12Unknown 1Warang_Citi 7Dives_Akuru 2Unknown",
  "1Dives_Akuru 2Unknown 8Dives_Akuru 1Unknown 2Dives_Akuru 1Unknown 30Dives_Akuru 1Unknown",
  "2Dives_Akuru 2Unknown 12Dives_Akuru 9Unknown 10Dives_Akuru 70Unknown 8Nandinagari 2Unknown",
  "46Nandinagari 2Unknown 11Nandinagari 27Unknown 72Zanabazar_Square 8Unknown 83Soyombo",
  "13Unknown 16Canadian_Aboriginal 57Pau_Cin_Hau 7Unknown 10Devanagari 246Unknown 9Bhaiksuki",
  "1Unknown 45Bhaiksuki 1Unknown 14Bhaiksuki 10Unknown 29Bhaiksuki 3Unknown 32Marchen 2Unknown",
  "22Marchen 1Unknown 14Marchen 73Unknown 7Masaram_Gondi 1Unknown 2Masaram_Gondi 1Unknown",
  "44Masaram_Gondi 3Unknown 1Masaram_Gondi 1Unknown 2Masaram_Gondi 1Unknown 9Masaram_Gondi",
  "8Unknown 10Masaram_Gondi 6Unknown 6Gunjala_Gondi 1Unknown 2Gunjala_Gondi 1Unknown",
  "37Gunjala_Gondi 1Unknown 2Gunjala_Gondi 1Unknown 6Gunjala_Gondi 7Unknown 10Gunjala_Gondi",
  "310Unknown 25Makasar 7Unknown 17Kawi 1Unknown 41Kawi 3Unknown 28Kawi 86Unknown 1Lisu",
  "15Unknown 50Tamil 13Unknown 1Tamil 922Cuneiform 102Unknown 111Cuneiform 1Unknown 5Cuneiform",
  "11Unknown 196Cuneiform 2636Unknown 99Cypro_Minoan 13Unknown 1110Egyptian_Hieroglyphs",
  "4010Unknown 583Anatolian_Hieroglyphs 8633Unknown 569Bamum 7Unknown 31Mro 1Unknown 10Mro",
  "4Unknown 2Mro 79Tangsa 1Unknown 10Tangsa 6Unknown 30Bassa_Vah 2Unknown 6Bassa_Vah 10Unknown",
  "70Pahawh_Hmong 10Unknown 10Pahawh_Hmong 1Unknown 7Pahawh_Hmong 1Unknown 21Pahawh_Hmong",
  "5Unknown 19Pahawh_Hmong 688Unknown 91Medefaidrin 101Unknown 75Miao 4Unknown 57Miao 7Unknown",
  "17Miao 64Unknown 1Tangut 1Nushu 2Han 1Khitan_Small_Script 11Unknown 2Han 14Unknown",
  "6136Tangut 8Unknown 768Tangut 470Khitan_Small_Script 42Unknown 9Tangut 8935Unknown 4Katakana",
  "1Unknown 7Katakana 1Unknown 2Katakana 1Unknown 1Katakana 287Hiragana 3Katakana 15Unknown",
  "1Hiragana 29Unknown 3Hiragana 2Unknown 1Katakana 14Unknown 4Katakana 8Unknown 396Nushu",
  "2308Unknown 107Duployan 5Unknown 13Duployan 3Unknown 9Duployan 7Unknown 10Duployan 2Unknown",
  "4Duployan 4Common 4700Unknown 46Inherited 2Unknown 23Inherited 9Unknown 116Common 60Unknown",
  "246Common 10Unknown 39Common 2Unknown 62Common 3Inherited 17Common 8Inherited 2Common",
  "7Inherited 30Common 4Inherited 61Common 21Unknown 70Greek 122Unknown 20Common 12Unknown",
  "20Common 12Unknown 87Common 9Unknown 25Common 135Unknown 85Common 1Unknown 71Common 1Unknown",
  "2Common 2Unknown 1Common 2Unknown 2Common 2Unknown 4Common 1Unknown 12Common 1Unknown",
  "1Common 1Unknown 7Common 1Unknown 65Common 1Unknown 4Common 2Unknown 8Common 1Unknown",
  "7Common 1Unknown 28Common 1Unknown 4Common 1Unknown 5Common 1Unknown 1Common 3Unknown",
  "7Common 1Unknown 340Common 2Unknown 292Common 2Unknown 50Common 652SignWriting 15Unknown",
  "5SignWriting 1Unknown 15SignWriting 1104Unknown 31Latin 6Unknown 6Latin 213Unknown",
  "7Glagolitic 1Unknown 17Glagolitic 2Unknown 7Glagolitic 1Unknown 2Glagolitic 1Unknown",
  "5Glagolitic 5Unknown 62Cyrillic 33Unknown 1Cyrillic 112Unknown 45Nyiakeng_Puachue_Hmong",
  "3Unknown 14Nyiakeng_Puachue_Hmong 2Unknown 10Nyiakeng_Puachue_Hmong 4Unknown",
  "2Nyiakeng_Puachue_Hmong 320Unknown 31Toto 17Unknown 58Wancho 5Unknown 1Wancho 464Unknown",
  "42Nag_Mundari 742Unknown 7Ethiopic 1Unknown 4Ethiopic 1Unknown 2Ethiopic 1Unknown 15Ethiopic",
  "1Unknown 197Mende_Kikakui 2Unknown 16Mende_Kikakui 41Unknown 76Adlam 4Unknown 10Adlam",
  "4Unknown 2Adlam 785Unknown 68Common 76Unknown 61Common 194Unknown 4Arabic 1Unknown 27Arabic",
  "1Unknown 2Arabic 1Unknown 1Arabic 2Unknown 1Arabic 1Unknown 10Arabic 1Unknown 4Arabic",
  "1Unknown 1Arabic 1Unknown 1Arabic 6Unknown 1Arabic 4Unknown 1Arabic 1Unknown 1Arabic",
  "1Unknown 1Arabic 1Unknown 3Arabic 1Unknown 2Arabic 1Unknown 1Arabic 2Unknown 1Arabic",
  "1Unknown 1Arabic 1Unknown 1Arabic 1Unknown 1Arabic 1Unknown 1Arabic 1Unknown 2Arabic",
  "1Unknown 1Arabic 2Unknown 4Arabic 1Unknown 7Arabic 1Unknown 4Arabic 1Unknown 4Arabic",
  "1Unknown 1Arabic 1Unknown 10Arabic 1Unknown 17Arabic 5Unknown 3Arabic 1Unknown 5Arabic",
  "1Unknown 17Arabic 52Unknown 2Arabic 270Unknown 44Common 4Unknown 100Common 12Unknown",
  "15Common 2Unknown 15Common 1Unknown 15Common 1Unknown 37Common 10Unknown 174Common 56Unknown",
  "26Common 1Hiragana 2Common 13Unknown 44Common 4Unknown 9Common 7Unknown 2Common 14Unknown",
  "6Common 154Unknown 984Common 4Unknown 17Common 3Unknown 13Common 3Unknown 119Common 4Unknown",
  "95Common 6Unknown 12Common 4Unknown 1Common 15Unknown 12Common 4Unknown 56Common 8Unknown",
  "10Common 6Unknown 40Common 8Unknown 30Common 2Unknown 2Common 78Unknown 340Common 12Unknown",
  "14Common 2Unknown 13Common 3Unknown 9Common 7Unknown 46Common 1Unknown 7Common 8Unknown",
  "14Common 4Unknown 9Common 7Unknown 9Common 7Unknown 147Common 1Unknown 55Common 37Unknown",
  "10Common 1030Unknown 42720Han 32Unknown 4154Han 6Unknown 222Han 2Unknown 5762Han 14Unknown",
  "7473Han 3103Unknown 542Han 1506Unknown 4939Han 5Unknown 4192Han 711761Unknown 1Common",
  "30Unknown 96Common 128Unknown 240Inherited 196112Unknown"]

/-- The code points of a script; the code points without one form no script. -/
def scriptRanges? (name : String) : Option (List (Nat × Nat)) :=
  match rangesOf scriptTable fun v => v ≠ "Unknown" && v = name with
  | [] => none
  | ranges => some ranges

end DropFlow.Text
