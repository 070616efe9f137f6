import DriverKit.Text.Encoding.CodePage

/-!
# Windows code pages

The code pages of Windows, one for each group of languages. The octets below 128 are the characters
below 128.
-/

namespace DriverKit.Text.Encoding

def windowsPages : List CodePage :=
  [{ names := ["cp1250", "1250", "windows_1250"]
     first := 128
     characters :=
      "€\uFFFD‚\uFFFD„…†‡\uFFFD‰Š‹ŚŤŽŹ\uFFFD‘’“”•–—\uFFFD™š›śťžź\xA0\u02C7\u02D8Ł¤Ą¦§\xA8©Ş«¬"
      ++ "\xAD®Ż°±\u02DBł\xB4µ¶·\xB8ąş»Ľ\u02DDľżŔÁÂĂÄĹĆÇČÉĘËĚÍÎĎĐŃŇÓÔŐÖ×ŘŮÚŰÜÝŢßŕáâăäĺćçčéęëěíîďđń"
      ++ "ňóôőö÷řůúűüýţ\u02D9" },
   { names := ["cp1251", "1251", "windows_1251"]
     first := 128
     characters :=
      "ЂЃ‚ѓ„…†‡€‰Љ‹ЊЌЋЏђ‘’“”•–—\uFFFD™љ›њќћџ\xA0ЎўЈ¤Ґ¦§Ё©Є«¬\xAD®Ї°±Ііґµ¶·ё№є»јЅѕїАБВГДЕЖЗИЙКЛМ"
      ++ "НОПРСТУФХЦЧШЩЪЫЬЭЮЯабвгдежзийклмнопрстуфхцчшщъыьэюя" },
   { names := ["cp1252", "1252", "windows_1252"]
     first := 128
     characters :=
      "€\uFFFD‚ƒ„…†‡\u02C6‰Š‹Œ\uFFFDŽ\uFFFD\uFFFD‘’“”•–—\u02DC™š›œ\uFFFDžŸ\xA0¡¢£¤¥¦§\xA8©ª«¬"
      ++ "\xAD®\xAF°±²³\xB4µ¶·\xB8¹º»¼½¾¿ÀÁÂÃÄÅÆÇÈÉÊËÌÍÎÏÐÑÒÓÔÕÖ×ØÙÚÛÜÝÞßàáâãäåæçèéêëìíîïðñòóôõö÷ø"
      ++ "ùúûüýþÿ" },
   { names := ["cp1253", "1253", "windows_1253"]
     first := 128
     characters :=
      "€\uFFFD‚ƒ„…†‡\uFFFD‰\uFFFD‹\uFFFD\uFFFD\uFFFD\uFFFD\uFFFD‘’“”•–—\uFFFD™\uFFFD›\uFFFD"
      ++ "\uFFFD\uFFFD\uFFFD\xA0\u0385Ά£¤¥¦§\xA8©\uFFFD«¬\xAD®―°±²³\u0384µ¶·ΈΉΊ»Ό½ΎΏΐΑΒΓΔΕΖΗΘΙΚΛΜΝ"
      ++ "ΞΟΠΡ\uFFFDΣΤΥΦΧΨΩΪΫάέήίΰαβγδεζηθικλμνξοπρςστυφχψωϊϋόύώ\uFFFD" },
   { names := ["cp1254", "1254", "windows_1254"]
     first := 128
     characters :=
      "€\uFFFD‚ƒ„…†‡\u02C6‰Š‹Œ\uFFFD\uFFFD\uFFFD\uFFFD‘’“”•–—\u02DC™š›œ\uFFFD\uFFFDŸ\xA0¡¢£¤¥¦§"
      ++ "\xA8©ª«¬\xAD®\xAF°±²³\xB4µ¶·\xB8¹º»¼½¾¿ÀÁÂÃÄÅÆÇÈÉÊËÌÍÎÏĞÑÒÓÔÕÖ×ØÙÚÛÜİŞßàáâãäåæçèéêëìíîïğ"
      ++ "ñòóôõö÷øùúûüışÿ" },
   { names := ["cp1255", "1255", "windows_1255"]
     first := 128
     characters :=
      "€\uFFFD‚ƒ„…†‡\u02C6‰\uFFFD‹\uFFFD\uFFFD\uFFFD\uFFFD\uFFFD‘’“”•–—\u02DC™\uFFFD›\uFFFD"
      ++ "\uFFFD\uFFFD\uFFFD\xA0¡¢£₪¥¦§\xA8©×«¬\xAD®\xAF°±²³\xB4µ¶·\xB8¹÷»¼½¾¿\u05B0\u05B1\u05B2"
      ++ "\u05B3\u05B4\u05B5\u05B6\u05B7\u05B8\u05B9\uFFFD\u05BB\u05BC\u05BD\u05BE\u05BF\u05C0"
      ++ "\u05C1\u05C2\u05C3\u05F0\u05F1\u05F2\u05F3\u05F4\uFFFD\uFFFD\uFFFD\uFFFD\uFFFD\uFFFD"
      ++ "\uFFFD\u05D0\u05D1\u05D2\u05D3\u05D4\u05D5\u05D6\u05D7\u05D8\u05D9\u05DA\u05DB\u05DC"
      ++ "\u05DD\u05DE\u05DF\u05E0\u05E1\u05E2\u05E3\u05E4\u05E5\u05E6\u05E7\u05E8\u05E9\u05EA"
      ++ "\uFFFD\uFFFD\u200E\u200F\uFFFD" },
   { names := ["cp1256", "1256", "windows_1256"]
     first := 128
     characters :=
      "€\u067E‚ƒ„…†‡\u02C6‰\u0679‹Œ\u0686\u0698\u0688\u06AF‘’“”•–—\u06A9™\u0691›œ\u200C\u200D"
      ++ "\u06BA\xA0،¢£¤¥¦§\xA8©\u06BE«¬\xAD®\xAF°±²³\xB4µ¶·\xB8¹\u061B»¼½¾\u061F\u06C1\u0621"
      ++ "\u0622\u0623\u0624\u0625\u0626\u0627\u0628\u0629\u062A\u062B\u062C\u062D\u062E\u062F"
      ++ "\u0630\u0631\u0632\u0633\u0634\u0635\u0636×\u0637\u0638\u0639\u063A\u0640\u0641\u0642"
      ++ "\u0643à\u0644â\u0645\u0646\u0647\u0648çèéêë\u0649\u064Aîï\u064B\u064C\u064D\u064Eô\u064F"
      ++ "\u0650÷\u0651ù\u0652ûü\u200E\u200F\u06D2" },
   { names := ["cp1257", "1257", "windows_1257"]
     first := 128
     characters :=
      "€\uFFFD‚\uFFFD„…†‡\uFFFD‰\uFFFD‹\uFFFD\xA8\u02C7\xB8\uFFFD‘’“”•–—\uFFFD™\uFFFD›\uFFFD"
      ++ "\xAF\u02DB\uFFFD\xA0\uFFFD¢£¤\uFFFD¦§Ø©Ŗ«¬\xAD®Æ°±²³\xB4µ¶·ø¹ŗ»¼½¾æĄĮĀĆÄÅĘĒČÉŹĖĢĶĪĻŠŃŅÓŌ"
      ++ "ÕÖ×ŲŁŚŪÜŻŽßąįāćäåęēčéźėģķīļšńņóōõö÷ųłśūüżž\u02D9" },
   { names := ["cp1258", "1258", "windows_1258"]
     first := 128
     characters :=
      "€\uFFFD‚ƒ„…†‡\u02C6‰\uFFFD‹Œ\uFFFD\uFFFD\uFFFD\uFFFD‘’“”•–—\u02DC™\uFFFD›œ\uFFFD\uFFFDŸ"
      ++ "\xA0¡¢£¤¥¦§\xA8©ª«¬\xAD®\xAF°±²³\xB4µ¶·\xB8¹º»¼½¾¿ÀÁÂĂÄÅÆÇÈÉÊË\u0300ÍÎÏĐÑ\u0309ÓÔƠÖ×ØÙÚÛ"
      ++ "ÜƯ\u0303ßàáâăäåæçèéêë\u0301íîïđñ\u0323óôơö÷øùúûüư₫ÿ" },
   { names := ["cp874"]
     first := 128
     characters :=
      "€\uFFFD\uFFFD\uFFFD\uFFFD…\uFFFD\uFFFD\uFFFD\uFFFD\uFFFD\uFFFD\uFFFD\uFFFD\uFFFD\uFFFD"
      ++ "\uFFFD‘’“”•–—\uFFFD\uFFFD\uFFFD\uFFFD\uFFFD\uFFFD\uFFFD\uFFFD\xA0กขฃคฅฆงจฉชซฌญฎฏฐฑฒณดตถท"
      ++ "ธนบปผฝพฟภมยรฤลฦวศษสหฬอฮฯะ\u0E31าำ\u0E34\u0E35\u0E36\u0E37\u0E38\u0E39\u0E3A\uFFFD\uFFFD"
      ++ "\uFFFD\uFFFD฿เแโใไๅ\u0E46\u0E47\u0E48\u0E49\u0E4A\u0E4B\u0E4C\u0E4D\u0E4E๏๐๑๒๓๔๕๖๗๘๙๚๛"
      ++ "\uFFFD\uFFFD\uFFFD\uFFFD" }]

end DriverKit.Text.Encoding
