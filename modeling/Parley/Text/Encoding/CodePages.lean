import Parley.Text.Encoding.Decoder

/-! # Code pages

The characters of the encodings with one byte to a character, from the first byte on that is not
its own number.
-/

namespace Parley.Text.CodePage

def cyrillic866 : CodePage where
  last := String.join [
    "АБВГДЕЖЗИЙКЛМНОП",
    "РСТУФХЦЧШЩЪЫЬЭЮЯ",
    "абвгдежзийклмноп",
    "░▒▓│┤╡╢╖╕╣║╗╝╜╛┐",
    "└┴┬├─┼╞╟╚╔╩╦╠═╬╧",
    "╨╤╥╙╘╒╓╫╪┘┌█▄▌▐▀",
    "рстуфхцчшщъыьэюя",
    "ЁёЄєЇїЎў°∙·√№¤■\xA0"]

def iso8859Part2 : CodePage where
  last := String.join [
    "\xA0Ą˘Ł¤ĽŚ§¨ŠŞŤŹ\xADŽŻ",
    "°ą˛ł´ľśˇ¸šşťź˝žż",
    "ŔÁÂĂÄĹĆÇČÉĘËĚÍÎĎ",
    "ĐŃŇÓÔŐÖ×ŘŮÚŰÜÝŢß",
    "ŕáâăäĺćçčéęëěíîď",
    "đńňóôőö÷řůúűüýţ˙"]

def iso8859Part3 : CodePage where
  last := String.join [
    "\xA0Ħ˘£¤�Ĥ§¨İŞĞĴ\xAD�Ż",
    "°ħ²³´µĥ·¸ışğĵ½�ż",
    "ÀÁÂ�ÄĊĈÇÈÉÊËÌÍÎÏ",
    "�ÑÒÓÔĠÖ×ĜÙÚÛÜŬŜß",
    "àáâ�äċĉçèéêëìíîï",
    "�ñòóôġö÷ĝùúûüŭŝ˙"]

def iso8859Part4 : CodePage where
  last := String.join [
    "\xA0ĄĸŖ¤ĨĻ§¨ŠĒĢŦ\xADŽ¯",
    "°ą˛ŗ´ĩļˇ¸šēģŧŊžŋ",
    "ĀÁÂÃÄÅÆĮČÉĘËĖÍÎĪ",
    "ĐŅŌĶÔÕÖ×ØŲÚÛÜŨŪß",
    "āáâãäåæįčéęëėíîī",
    "đņōķôõö÷øųúûüũū˙"]

def iso8859Part5 : CodePage where
  last := String.join [
    "\xA0ЁЂЃЄЅІЇЈЉЊЋЌ\xADЎЏ",
    "АБВГДЕЖЗИЙКЛМНОП",
    "РСТУФХЦЧШЩЪЫЬЭЮЯ",
    "абвгдежзийклмноп",
    "рстуфхцчшщъыьэюя",
    "№ёђѓєѕіїјљњћќ§ўџ"]

def iso8859Part6 : CodePage where
  last := String.join [
    "\xA0���¤�������،\xAD��",
    "�����������\u061B���\u061F",
    "�\u0621\u0622\u0623\u0624\u0625\u0626\u0627\u0628\u0629\u062A\u062B\u062C\u062D\u062E\u062F",
    "\u0630\u0631\u0632\u0633\u0634\u0635\u0636\u0637\u0638\u0639\u063A�����",
    "\u0640\u0641\u0642\u0643\u0644\u0645\u0646\u0647\u0648\u0649\u064A\u064B\u064C\u064D\u064E\u064F",
    "\u0650\u0651\u0652�������������"]

def iso8859Part7 : CodePage where
  last := String.join [
    "\xA0‘’£€₯¦§¨©ͺ«¬\xAD�―",
    "°±²³΄΅Ά·ΈΉΊ»Ό½ΎΏ",
    "ΐΑΒΓΔΕΖΗΘΙΚΛΜΝΞΟ",
    "ΠΡ�ΣΤΥΦΧΨΩΪΫάέήί",
    "ΰαβγδεζηθικλμνξο",
    "πρςστυφχψωϊϋόύώ�"]

def iso8859Part8 : CodePage where
  last := String.join [
    "\xA0�¢£¤¥¦§¨©×«¬\xAD®¯",
    "°±²³´µ¶·¸¹÷»¼½¾�",
    "����������������",
    "���������������‗",
    "\u05D0\u05D1\u05D2\u05D3\u05D4\u05D5\u05D6\u05D7\u05D8\u05D9\u05DA\u05DB\u05DC\u05DD\u05DE\u05DF",
    "\u05E0\u05E1\u05E2\u05E3\u05E4\u05E5\u05E6\u05E7\u05E8\u05E9\u05EA��\u200E\u200F�"]

def iso8859Part10 : CodePage where
  last := String.join [
    "\xA0ĄĒĢĪĨĶ§ĻĐŠŦŽ\xADŪŊ",
    "°ąēģīĩķ·ļđšŧž―ūŋ",
    "ĀÁÂÃÄÅÆĮČÉĘËĖÍÎÏ",
    "ÐŅŌÓÔÕÖŨØŲÚÛÜÝÞß",
    "āáâãäåæįčéęëėíîï",
    "ðņōóôõöũøųúûüýþĸ"]

def iso8859Part13 : CodePage where
  last := String.join [
    "\xA0”¢£¤„¦§Ø©Ŗ«¬\xAD®Æ",
    "°±²³“µ¶·ø¹ŗ»¼½¾æ",
    "ĄĮĀĆÄÅĘĒČÉŹĖĢĶĪĻ",
    "ŠŃŅÓŌÕÖ×ŲŁŚŪÜŻŽß",
    "ąįāćäåęēčéźėģķīļ",
    "šńņóōõö÷ųłśūüżž’"]

def iso8859Part14 : CodePage where
  last := String.join [
    "\xA0Ḃḃ£ĊċḊ§Ẁ©ẂḋỲ\xAD®Ÿ",
    "ḞḟĠġṀṁ¶ṖẁṗẃṠỳẄẅṡ",
    "ÀÁÂÃÄÅÆÇÈÉÊËÌÍÎÏ",
    "ŴÑÒÓÔÕÖṪØÙÚÛÜÝŶß",
    "àáâãäåæçèéêëìíîï",
    "ŵñòóôõöṫøùúûüýŷÿ"]

def iso8859Part15 : CodePage where
  last := String.join [
    "\xA0¡¢£€¥Š§š©ª«¬\xAD®¯",
    "°±²³Žµ¶·ž¹º»ŒœŸ¿",
    "ÀÁÂÃÄÅÆÇÈÉÊËÌÍÎÏ",
    "ÐÑÒÓÔÕÖ×ØÙÚÛÜÝÞß",
    "àáâãäåæçèéêëìíîï",
    "ðñòóôõö÷øùúûüýþÿ"]

def iso8859Part16 : CodePage where
  last := String.join [
    "\xA0ĄąŁ€„Š§š©Ș«Ź\xADźŻ",
    "°±ČłŽ”¶·žčș»ŒœŸż",
    "ÀÁÂĂÄĆÆÇÈÉÊËÌÍÎÏ",
    "ĐŃÒÓÔŐÖŚŰÙÚÛÜĘȚß",
    "àáâăäćæçèéêëìíîï",
    "đńòóôőöśűùúûüęțÿ"]

def koi8R : CodePage where
  last := String.join [
    "─│┌┐└┘├┤┬┴┼▀▄█▌▐",
    "░▒▓⌠■∙√≈≤≥\xA0⌡°²·÷",
    "═║╒ё╓╔╕╖╗╘╙╚╛╜╝╞",
    "╟╠╡Ё╢╣╤╥╦╧╨╩╪╫╬©",
    "юабцдефгхийклмно",
    "пярстужвьызшэщчъ",
    "ЮАБЦДЕФГХИЙКЛМНО",
    "ПЯРСТУЖВЬЫЗШЭЩЧЪ"]

def koi8U : CodePage where
  last := String.join [
    "─│┌┐└┘├┤┬┴┼▀▄█▌▐",
    "░▒▓⌠■∙√≈≤≥\xA0⌡°²·÷",
    "═║╒ёє╔ії╗╘╙╚╛ґў╞",
    "╟╠╡ЁЄ╣ІЇ╦╧╨╩╪ҐЎ©",
    "юабцдефгхийклмно",
    "пярстужвьызшэщчъ",
    "ЮАБЦДЕФГХИЙКЛМНО",
    "ПЯРСТУЖВЬЫЗШЭЩЧЪ"]

def macintosh : CodePage where
  last := String.join [
    "ÄÅÇÉÑÖÜáàâäãåçéè",
    "êëíìîïñóòôöõúùûü",
    "†°¢£§•¶ß®©™´¨≠ÆØ",
    "∞±≤≥¥µ∂∑∏π∫ªºΩæø",
    "¿¡¬√ƒ≈∆«»…\xA0ÀÃÕŒœ",
    "–—“”‘’÷◊ÿŸ⁄€‹›ﬁﬂ",
    "‡·‚„‰ÂÊÁËÈÍÎÏÌÓÔ",
    "\uF8FFÒÚÛÙıˆ˜¯˘˙˚¸˝˛ˇ"]

def windows874 : CodePage where
  last := String.join [
    "€\x81\x82\x83\x84…\x86\x87\x88\x89\x8A\x8B\x8C\x8D\x8E\x8F",
    "\x90‘’“”•–—\x98\x99\x9A\x9B\x9C\x9D\x9E\x9F",
    "\xA0กขฃคฅฆงจฉชซฌญฎฏ",
    "ฐฑฒณดตถทธนบปผฝพฟ",
    "ภมยรฤลฦวศษสหฬอฮฯ",
    "ะ\u0E31าำ\u0E34\u0E35\u0E36\u0E37\u0E38\u0E39\u0E3A����฿",
    "เแโใไๅๆ\u0E47\u0E48\u0E49\u0E4A\u0E4B\u0E4C\u0E4D\u0E4E๏",
    "๐๑๒๓๔๕๖๗๘๙๚๛����"]

def windows1250 : CodePage where
  last := String.join [
    "€\x81‚\x83„…†‡\x88‰Š‹ŚŤŽŹ",
    "\x90‘’“”•–—\x98™š›śťžź",
    "\xA0ˇ˘Ł¤Ą¦§¨©Ş«¬\xAD®Ż",
    "°±˛ł´µ¶·¸ąş»Ľ˝ľż",
    "ŔÁÂĂÄĹĆÇČÉĘËĚÍÎĎ",
    "ĐŃŇÓÔŐÖ×ŘŮÚŰÜÝŢß",
    "ŕáâăäĺćçčéęëěíîď",
    "đńňóôőö÷řůúűüýţ˙"]

def windows1251 : CodePage where
  last := String.join [
    "ЂЃ‚ѓ„…†‡€‰Љ‹ЊЌЋЏ",
    "ђ‘’“”•–—\x98™љ›њќћџ",
    "\xA0ЎўЈ¤Ґ¦§Ё©Є«¬\xAD®Ї",
    "°±Ііґµ¶·ё№є»јЅѕї",
    "АБВГДЕЖЗИЙКЛМНОП",
    "РСТУФХЦЧШЩЪЫЬЭЮЯ",
    "абвгдежзийклмноп",
    "рстуфхцчшщъыьэюя"]

def windows1252 : CodePage where
  last := String.join [
    "€\x81‚ƒ„…†‡ˆ‰Š‹Œ\x8DŽ\x8F",
    "\x90‘’“”•–—˜™š›œ\x9DžŸ",
    "\xA0¡¢£¤¥¦§¨©ª«¬\xAD®¯",
    "°±²³´µ¶·¸¹º»¼½¾¿",
    "ÀÁÂÃÄÅÆÇÈÉÊËÌÍÎÏ",
    "ÐÑÒÓÔÕÖ×ØÙÚÛÜÝÞß",
    "àáâãäåæçèéêëìíîï",
    "ðñòóôõö÷øùúûüýþÿ"]

def windows1253 : CodePage where
  last := String.join [
    "€\x81‚ƒ„…†‡\x88‰\x8A‹\x8C\x8D\x8E\x8F",
    "\x90‘’“”•–—\x98™\x9A›\x9C\x9D\x9E\x9F",
    "\xA0΅Ά£¤¥¦§¨©�«¬\xAD®―",
    "°±²³΄µ¶·ΈΉΊ»Ό½ΎΏ",
    "ΐΑΒΓΔΕΖΗΘΙΚΛΜΝΞΟ",
    "ΠΡ�ΣΤΥΦΧΨΩΪΫάέήί",
    "ΰαβγδεζηθικλμνξο",
    "πρςστυφχψωϊϋόύώ�"]

def windows1254 : CodePage where
  last := String.join [
    "€\x81‚ƒ„…†‡ˆ‰Š‹Œ\x8D\x8E\x8F",
    "\x90‘’“”•–—˜™š›œ\x9D\x9EŸ",
    "\xA0¡¢£¤¥¦§¨©ª«¬\xAD®¯",
    "°±²³´µ¶·¸¹º»¼½¾¿",
    "ÀÁÂÃÄÅÆÇÈÉÊËÌÍÎÏ",
    "ĞÑÒÓÔÕÖ×ØÙÚÛÜİŞß",
    "àáâãäåæçèéêëìíîï",
    "ğñòóôõö÷øùúûüışÿ"]

def windows1255 : CodePage where
  last := String.join [
    "€\x81‚ƒ„…†‡ˆ‰\x8A‹\x8C\x8D\x8E\x8F",
    "\x90‘’“”•–—˜™\x9A›\x9C\x9D\x9E\x9F",
    "\xA0¡¢£₪¥¦§¨©×«¬\xAD®¯",
    "°±²³´µ¶·¸¹÷»¼½¾¿",
    "\u05B0\u05B1\u05B2\u05B3\u05B4\u05B5\u05B6\u05B7\u05B8\u05B9\u05BA\u05BB\u05BC\u05BD\u05BE\u05BF",
    "\u05C0\u05C1\u05C2\u05C3\u05F0\u05F1\u05F2\u05F3\u05F4�������",
    "\u05D0\u05D1\u05D2\u05D3\u05D4\u05D5\u05D6\u05D7\u05D8\u05D9\u05DA\u05DB\u05DC\u05DD\u05DE\u05DF",
    "\u05E0\u05E1\u05E2\u05E3\u05E4\u05E5\u05E6\u05E7\u05E8\u05E9\u05EA��\u200E\u200F�"]

def windows1256 : CodePage where
  last := String.join [
    "€\u067E‚ƒ„…†‡ˆ‰\u0679‹Œ\u0686\u0698\u0688",
    "\u06AF‘’“”•–—\u06A9™\u0691›œ\u200C\u200D\u06BA",
    "\xA0،¢£¤¥¦§¨©\u06BE«¬\xAD®¯",
    "°±²³´µ¶·¸¹\u061B»¼½¾\u061F",
    "\u06C1\u0621\u0622\u0623\u0624\u0625\u0626\u0627\u0628\u0629\u062A\u062B\u062C\u062D\u062E\u062F",
    "\u0630\u0631\u0632\u0633\u0634\u0635\u0636×\u0637\u0638\u0639\u063A\u0640\u0641\u0642\u0643",
    "à\u0644â\u0645\u0646\u0647\u0648çèéêë\u0649\u064Aîï",
    "\u064B\u064C\u064D\u064Eô\u064F\u0650÷\u0651ù\u0652ûü\u200E\u200F\u06D2"]

def windows1257 : CodePage where
  last := String.join [
    "€\x81‚\x83„…†‡\x88‰\x8A‹\x8C¨ˇ¸",
    "\x90‘’“”•–—\x98™\x9A›\x9C¯˛\x9F",
    "\xA0�¢£¤�¦§Ø©Ŗ«¬\xAD®Æ",
    "°±²³´µ¶·ø¹ŗ»¼½¾æ",
    "ĄĮĀĆÄÅĘĒČÉŹĖĢĶĪĻ",
    "ŠŃŅÓŌÕÖ×ŲŁŚŪÜŻŽß",
    "ąįāćäåęēčéźėģķīļ",
    "šńņóōõö÷ųłśūüżž˙"]

def windows1258 : CodePage where
  last := String.join [
    "€\x81‚ƒ„…†‡ˆ‰\x8A‹Œ\x8D\x8E\x8F",
    "\x90‘’“”•–—˜™\x9A›œ\x9D\x9EŸ",
    "\xA0¡¢£¤¥¦§¨©ª«¬\xAD®¯",
    "°±²³´µ¶·¸¹º»¼½¾¿",
    "ÀÁÂĂÄÅÆÇÈÉÊË\u0300ÍÎÏ",
    "ĐÑ\u0309ÓÔƠÖ×ØÙÚÛÜƯ\u0303ß",
    "àáâăäåæçèéêë\u0301íîï",
    "đñ\u0323óôơö÷øùúûüư₫ÿ"]

def macCyrillic : CodePage where
  last := String.join [
    "АБВГДЕЖЗИЙКЛМНОП",
    "РСТУФХЦЧШЩЪЫЬЭЮЯ",
    "†°Ґ£§•¶І®©™Ђђ≠Ѓѓ",
    "∞±≤≥іµґЈЄєЇїЉљЊњ",
    "јЅ¬√ƒ≈∆«»…\xA0ЋћЌќѕ",
    "–—“”‘’÷„ЎўЏџ№Ёёя",
    "абвгдежзийклмноп",
    "рстуфхцчшщъыьэю€"]

end Parley.Text.CodePage
