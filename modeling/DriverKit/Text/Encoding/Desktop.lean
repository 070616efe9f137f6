import DriverKit.Text.Encoding.CodePage

/-!
# Desktop code pages

The code pages of desktop machines, one for each group of languages. The octets below 128 are the
characters below 128, but for the pages that write from right to left.
-/

namespace DriverKit.Text.Encoding

def desktopPages : List CodePage :=
  [{ names := ["mac_roman", "macintosh", "macroman"]
     first := 128
     characters :=
      "ÄÅÇÉÑÖÜáàâäãåçéèêëíìîïñóòôöõúùûü†°¢£§•¶ß®©™\xB4\xA8≠ÆØ∞±≤≥¥µ∂∑∏π∫ªºΩæø¿¡¬√ƒ≈∆«»…\xA0ÀÃÕŒ"
      ++ "œ–—“”‘’÷◊ÿŸ⁄€‹›\uFB01\uFB02‡·‚„‰ÂÊÁËÈÍÎÏÌÓÔ\uF8FFÒÚÛÙı\u02C6\u02DC\xAF\u02D8\u02D9\u02DA"
      ++ "\xB8\u02DD\u02DB\u02C7" },
   { names := ["mac_croatian"]
     first := 128
     characters :=
      "ÄÅÇÉÑÖÜáàâäãåçéèêëíìîïñóòôöõúùûü†°¢£§•¶ß®Š™\xB4\xA8≠ŽØ∞±≤≥∆µ∂∑∏š∫ªºΩžø¿¡¬√ƒ≈Ć«Č…\xA0ÀÃÕŒ"
      ++ "œĐ—“”‘’÷◊\uF8FF©⁄€‹›Æ»–·‚„‰ÂćÁčÈÍÎÏÌÓÔđÒÚÛÙı\u02C6\u02DC\xAFπË\u02DA\xB8Êæ\u02C7" },
   { names := ["mac_romanian"]
     first := 128
     characters :=
      "ÄÅÇÉÑÖÜáàâäãåçéèêëíìîïñóòôöõúùûü†°¢£§•¶ß®©™\xB4\xA8≠ĂȘ∞±≤≥¥µ∂∑∏π∫ªºΩăș¿¡¬√ƒ≈∆«»…\xA0ÀÃÕŒ"
      ++ "œ–—“”‘’÷◊ÿŸ⁄€‹›Țț‡·‚„‰ÂÊÁËÈÍÎÏÌÓÔ\uF8FFÒÚÛÙı\u02C6\u02DC\xAF\u02D8\u02D9\u02DA\xB8\u02DD"
      ++ "\u02DB\u02C7" },
   { names := ["mac_iceland", "maciceland"]
     first := 128
     characters :=
      "ÄÅÇÉÑÖÜáàâäãåçéèêëíìîïñóòôöõúùûüÝ°¢£§•¶ß®©™\xB4\xA8≠ÆØ∞±≤≥¥µ∂∑∏π∫ªºΩæø¿¡¬√ƒ≈∆«»…\xA0ÀÃÕŒ"
      ++ "œ–—“”‘’÷◊ÿŸ⁄€ÐðÞþý·‚„‰ÂÊÁËÈÍÎÏÌÓÔ\uF8FFÒÚÛÙı\u02C6\u02DC\xAF\u02D8\u02D9\u02DA\xB8\u02DD"
      ++ "\u02DB\u02C7" },
   { names := ["mac_turkish", "macturkish"]
     first := 128
     characters :=
      "ÄÅÇÉÑÖÜáàâäãåçéèêëíìîïñóòôöõúùûü†°¢£§•¶ß®©™\xB4\xA8≠ÆØ∞±≤≥¥µ∂∑∏π∫ªºΩæø¿¡¬√ƒ≈∆«»…\xA0ÀÃÕŒ"
      ++ "œ–—“”‘’÷◊ÿŸĞğİıŞş‡·‚„‰ÂÊÁËÈÍÎÏÌÓÔ\uF8FFÒÚÛÙ\uF8A0\u02C6\u02DC\xAF\u02D8\u02D9\u02DA\xB8"
      ++ "\u02DD\u02DB\u02C7" },
   { names := ["mac_latin2", "mac_centeuro", "maccentraleurope", "maclatin2"]
     first := 128
     characters :=
      "ÄĀāÉĄÖÜáąČäčĆćéŹźĎíďĒēĖóėôöõúĚěü†°Ę£§•¶ß®©™ę\xA8≠ģĮįĪ≤≥īĶ∂∑łĻļĽľĹĺŅņŃ¬√ńŇ∆«»…\xA0ňŐÕőŌ–—"
      ++ "“”‘’÷◊ōŔŕŘ‹›řŖŗŠ‚„šŚśÁŤťÍŽžŪÓÔūŮÚůŰűŲųÝýķŻŁżĢ\u02C7" },
   { names := ["mac_cyrillic", "maccyrillic"]
     first := 128
     characters :=
      "АБВГДЕЖЗИЙКЛМНОПРСТУФХЦЧШЩЪЫЬЭЮЯ†°Ґ£§•¶І®©™Ђђ≠Ѓѓ∞±≤≥іµґЈЄєЇїЉљЊњјЅ¬√ƒ≈∆«»…\xA0ЋћЌќѕ–—“”‘"
      ++ "’÷„ЎўЏџ№Ёёяабвгдежзийклмнопрстуфхцчшщъыьэю€" },
   { names := ["mac_greek", "macgreek"]
     first := 128
     characters :=
      "Ä¹²É³ÖÜ\u0385àâä\u0384\xA8çéèêë£™îï•½‰ôö¦€ùûü†ΓΔΘΛΞΠß®©ΣΪ§≠°·Α±≤≥¥ΒΕΖΗΙΚΜΦΫΨΩάΝ¬ΟΡ≈Τ«»…"
      ++ "\xA0ΥΧΆΈœ–―“”‘’÷ΉΊΌΎέήίόΏύαβψδεφγηιξκλμνοπώρστθωςχυζϊϋΐΰ\xAD" },
   { names := ["mac_arabic"]
     first := 0
     characters :=
      "\x00\x01\x02\x03\x04\x05\x06\x07\x08\t\n\x0B\x0C\r\x0E\x0F\x10\x11\x12\x13\x14\x15\x16"
      ++ "\x17\x18\x19\x1A\x1B\x1C\x1D\x1E\x1F\uFFFD\uFFFD\uFFFD\uFFFD\uFFFD%\uFFFD\uFFFD\uFFFD"
      ++ "\uFFFD\uFFFD\uFFFD,\uFFFD\uFFFD\uFFFD0123456789\uFFFD;\uFFFD\uFFFD\uFFFD?@ABCDEFGHIJKLMN"
      ++ "OPQRSTUVWXYZ\uFFFD\uFFFD\uFFFD\uFFFD\uFFFD\x60abcdefghijklmnopqrstuvwxyz\uFFFD\uFFFD"
      ++ "\uFFFD~\x7FÄ\xA0ÇÉÑÖÜáàâä\u06BA«çéèêëí…îïñó»ôö÷úùûü !\"#$٪&'()*+،-./\u0660\u0661\u0662"
      ++ "\u0663\u0664\u0665\u0666\u0667\u0668\u0669:\u061B<=>\u061F❊\u0621\u0622\u0623\u0624"
      ++ "\u0625\u0626\u0627\u0628\u0629\u062A\u062B\u062C\u062D\u062E\u062F\u0630\u0631\u0632"
      ++ "\u0633\u0634\u0635\u0636\u0637\u0638\u0639\u063A[\\]\x5E_\u0640\u0641\u0642\u0643\u0644"
      ++ "\u0645\u0646\u0647\u0648\u0649\u064A\u064B\u064C\u064D\u064E\u064F\u0650\u0651\u0652"
      ++ "\u067E\u0679\u0686\u06D5\u06A4\u06AF\u0688\u0691\x7b|\x7d\u0698\u06D2" },
   { names := ["mac_farsi"]
     first := 0
     characters :=
      "\x00\x01\x02\x03\x04\x05\x06\x07\x08\t\n\x0B\x0C\r\x0E\x0F\x10\x11\x12\x13\x14\x15\x16"
      ++ "\x17\x18\x19\x1A\x1B\x1C\x1D\x1E\x1F\uFFFD\uFFFD\uFFFD\uFFFD\uFFFD%\uFFFD\uFFFD\uFFFD"
      ++ "\uFFFD\uFFFD\uFFFD,\uFFFD\uFFFD\uFFFD0123456789\uFFFD;\uFFFD\uFFFD\uFFFD?@ABCDEFGHIJKLMN"
      ++ "OPQRSTUVWXYZ\uFFFD\uFFFD\uFFFD\uFFFD\uFFFD\x60abcdefghijklmnopqrstuvwxyz\uFFFD\uFFFD"
      ++ "\uFFFD~\x7FÄ\xA0ÇÉÑÖÜáàâä\u06BA«çéèêëí…îïñó»ôö÷úùûü !\"#$٪&'()*+،-./۰۱۲۳۴۵۶۷۸۹:\u061B<=>"
      ++ "\u061F❊\u0621\u0622\u0623\u0624\u0625\u0626\u0627\u0628\u0629\u062A\u062B\u062C\u062D"
      ++ "\u062E\u062F\u0630\u0631\u0632\u0633\u0634\u0635\u0636\u0637\u0638\u0639\u063A[\\]\x5E_"
      ++ "\u0640\u0641\u0642\u0643\u0644\u0645\u0646\u0647\u0648\u0649\u064A\u064B\u064C\u064D"
      ++ "\u064E\u064F\u0650\u0651\u0652\u067E\u0679\u0686\u06D5\u06A4\u06AF\u0688\u0691\x7b|\x7d"
      ++ "\u0698\u06D2" }]

end DriverKit.Text.Encoding
