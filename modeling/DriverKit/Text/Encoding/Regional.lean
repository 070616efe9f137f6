import DriverKit.Text.Encoding.CodePage

/-!
# Regional code pages

Code pages of single countries and makers. The octets below 128 are the characters below 128.
-/

namespace DriverKit.Text.Encoding

def regionalPages : List CodePage :=
  [{ names := ["koi8_r", "cskoi8r"]
     first := 128
     characters :=
      "─│┌┐└┘├┤┬┴┼▀▄█▌▐░▒▓⌠■∙√≈≤≥\xA0⌡°²·÷═║╒ё╓╔╕╖╗╘╙╚╛╜╝╞╟╠╡Ё╢╣╤╥╦╧╨╩╪╫╬©юабцдефгхийклмнопярст"
      ++ "ужвьызшэщчъЮАБЦДЕФГХИЙКЛМНОПЯРСТУЖВЬЫЗШЭЩЧЪ" },
   { names := ["koi8_t"]
     first := 128
     characters :=
      "қғ‚Ғ„…†‡\uFFFD‰ҳ‹ҲҷҶ\uFFFDҚ‘’“”•–—\uFFFD™\uFFFD›\uFFFD\uFFFD\uFFFD\uFFFD\uFFFDӯӮё¤ӣ¦§"
      ++ "\uFFFD\uFFFD\uFFFD«¬\xAD®\uFFFD°±²Ё\uFFFDӢ¶·\uFFFD№\uFFFD»\uFFFD\uFFFD\uFFFD©юабцдефгхий"
      ++ "клмнопярстужвьызшэщчъЮАБЦДЕФГХИЙКЛМНОПЯРСТУЖВЬЫЗШЭЩЧЪ" },
   { names := ["koi8_u"]
     first := 128
     characters :=
      "─│┌┐└┘├┤┬┴┼▀▄█▌▐░▒▓⌠■∙√≈≤≥\xA0⌡°²·÷═║╒ёє╔ії╗╘╙╚╛ґ╝╞╟╠╡ЁЄ╣ІЇ╦╧╨╩╪Ґ╬©юабцдефгхийклмнопярст"
      ++ "ужвьызшэщчъЮАБЦДЕФГХИЙКЛМНОПЯРСТУЖВЬЫЗШЭЩЧЪ" },
   { names := ["kz1048", "kz_1048", "rk1048", "strk1048_2002"]
     first := 128
     characters :=
      "ЂЃ‚ѓ„…†‡€‰Љ‹ЊҚҺЏђ‘’“”•–—\uFFFD™љ›њқһџ\xA0ҰұӘ¤Ө¦§Ё©Ғ«¬\xAD®Ү°±Ііөµ¶·ё№ғ»әҢңүАБВГДЕЖЗИЙКЛМ"
      ++ "НОПРСТУФХЦЧШЩЪЫЬЭЮЯабвгдежзийклмнопрстуфхцчшщъыьэюя" },
   { names := ["ptcp154", "cp154", "csptcp154", "cyrillic_asian", "pt154"]
     first := 128
     characters :=
      "ҖҒӮғ„…ҶҮҲүҠӢҢҚҺҸҗ‘’“”•–—ҳҷҡӣңқһҹ\xA0ЎўЈӨҘҰ§Ё©Ә«¬ӯ®Ҝ°ұІіҙө¶·ё№ә»јҪҫҝАБВГДЕЖЗИЙКЛМНОПРСТУФ"
      ++ "ХЦЧШЩЪЫЬЭЮЯабвгдежзийклмнопрстуфхцчшщъыьэюя" },
   { names := ["hp_roman8", "cp1051", "ibm1051", "r8", "roman8"]
     first := 128
     characters :=
      "\x80\x81\x82\x83\x84\x85\x86\x87\x88\x89\x8A\x8B\x8C\x8D\x8E\x8F\x90\x91\x92\x93\x94\x95"
      ++ "\x96\x97\x98\x99\x9A\x9B\x9C\x9D\x9E\x9F\xA0ÀÂÈÊËÎÏ\xB4\u02CB\u02C6\xA8\u02DCÙÛ₤\xAFÝý°Ç"
      ++ "çÑñ¡¿¤£¥§ƒ¢âêôûáéóúàèòùäëöüÅîØÆåíøæÄìÖÜÉïßÔÁÃãÐðÍÌÓÒÕõŠšÚŸÿÞþ·µ¶¾—¼½ªº«■»±\uFFFD" },
   { names := ["palmos"]
     first := 128
     characters :=
      "€\x81‚ƒ„…†‡\u02C6‰Š‹Œ♦♣♥♠‘’“”•–—\u02DC™š\x9Bœ\x9D\x9EŸ\xA0¡¢£¤¥¦§\xA8©ª«¬\xAD®\xAF°±²³"
      ++ "\xB4µ¶·\xB8¹º»¼½¾¿ÀÁÂÃÄÅÆÇÈÉÊËÌÍÎÏÐÑÒÓÔÕÖ×ØÙÚÛÜÝÞßàáâãäåæçèéêëìíîïðñòóôõö÷øùúûüýþÿ" }]

end DriverKit.Text.Encoding
